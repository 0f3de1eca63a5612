/-!
Text inside an HTML page.
-/

set_option autoImplicit false

namespace ApiCompiler.Text

def htmlChar (character : Char) : List Char :=
  match character with
  | '&' => "&amp;".toList
  | '<' => "&lt;".toList
  | '>' => "&gt;".toList
  | '"' => "&quot;".toList
  | '\'' => "&#x27;".toList
  | '/' => "&#x2F;".toList
  | _ => [character]

def escapeHtml (text : String) : String := String.ofList (text.toList.flatMap htmlChar)

end ApiCompiler.Text

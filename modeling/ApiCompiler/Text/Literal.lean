import ApiCompiler.Text.Letter
import ApiCompiler.Text.PrintTable

/-!
String literals of generated source. Characters that a listing would not show are escaped.
-/

set_option autoImplicit false

namespace ApiCompiler.Text

def isPrintable (character : Char) : Bool :=
  if isAscii character then decide (32 ≤ character.toNat) && character.toNat != 127
  else !inRuns unprintableRuns character.toNat

/-- Characters that attach to the one before them. -/
def isCombining (character : Char) : Bool :=
  !isAscii character && inRuns combiningRuns character.toNat

def codePointEscape (character : Char) : List Char :=
  ['\\', 'u', '{'] ++ Nat.toDigits 16 character.toNat ++ ['}']

def literalChar (character : Char) : List Char :=
  match character with
  | '"' => ['\\', '"']
  | '\\' => ['\\', '\\']
  | '\n' => ['\\', 'n']
  | '\r' => ['\\', 'r']
  | '\t' => ['\\', 't']
  | _ =>
      if character.toNat = 0 then ['\\', '0']
      else if isCombining character || !isPrintable character then codePointEscape character
      else [character]

def stringLiteral (text : String) : String :=
  "\"" ++ String.ofList (text.toList.flatMap literalChar) ++ "\""

end ApiCompiler.Text

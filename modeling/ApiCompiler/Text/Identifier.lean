/-!
Identifiers of generated source.
-/

set_option autoImplicit false

namespace ApiCompiler.Text

/-- The characters an identifier keeps: ASCII letters and digits, and the underscore. -/
def isIdentifierChar (character : Char) : Bool := character.isAlphanum || character = '_'

/-- Puts one underscore in place of each run of other characters. -/
def replaceRuns : (inRun : Bool) → List Char → List Char
  | _, [] => []
  | inRun, character :: rest =>
      if isIdentifierChar character then character :: replaceRuns false rest
      else if inRun then replaceRuns true rest
      else '_' :: replaceRuns true rest

def trimUnderscores (text : List Char) : List Char :=
  ((text.dropWhile (· = '_')).reverse.dropWhile (· = '_')).reverse

/-- Reduces a text to identifier characters. Where nothing is left the fallback stands in, and it
is put before a leading digit. -/
def sanitizeIdentifier (text fallback : String) : String :=
  match trimUnderscores (replaceRuns false text.toList) with
  | [] => fallback
  | first :: rest =>
      if first.isDigit then fallback ++ String.ofList (first :: rest)
      else String.ofList (first :: rest)

/-- Strict and reserved keywords that can be written as raw identifiers. -/
def rawKeywords : List String := [
  "abstract", "as", "async", "await", "become", "box", "break", "const", "continue", "do",
  "dyn", "else", "enum", "extern", "false", "final", "fn", "for", "gen", "if", "impl", "in",
  "let", "loop", "macro", "match", "mod", "move", "mut", "override", "priv", "pub", "ref",
  "return", "static", "struct", "trait", "true", "try", "type", "typeof", "unsafe", "unsized",
  "use", "virtual", "where", "while", "yield"]

/-- A field or function name in source: a keyword is written raw. -/
def sourceIdentifier (name : String) : String :=
  if rawKeywords.contains name then "r#" ++ name else name

end ApiCompiler.Text

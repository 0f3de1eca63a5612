import ApiCompiler.Text.Radix

/-!
TOML text. A text is written in the simplest quotes that need no escapes, and over several lines
where it has some.
-/

set_option autoImplicit false

namespace ApiCompiler.Toml

def longestRun (character : Char) : (current longest : Nat) → List Char → Nat
  | _, longest, [] => longest
  | current, longest, first :: rest =>
      if first = character then longestRun character (current + 1) (max longest (current + 1)) rest
      else longestRun character 0 longest rest

def runOf (character : Char) (text : List Char) : Nat := longestRun character 0 0 text

/-- Control characters that only an escape can write. -/
def isControl (character : Char) : Bool :=
  character.toNat = 0x7F
    || decide (character.toNat < 0x20) && character ≠ '\t' && character ≠ '\n'

inductive Quotes
  | basic
  | literal
  | longBasic
  | longLiteral
  deriving DecidableEq, Repr

def Quotes.mark : Quotes → String
  | basic => "\""
  | literal => "'"
  | longBasic => "\"\"\""
  | longLiteral => "'''"

def Quotes.isLong : Quotes → Bool
  | longBasic => true
  | longLiteral => true
  | _ => false

def Quotes.ofText (text : List Char) : Quotes :=
  let escaped := text.any isControl
  let broken := text.contains '\n'
  let backslash := text.contains '\\'
  if escaped then if broken then .longBasic else .basic
  else if !backslash && runOf '"' text = 0 && !broken then .basic
  else if runOf '\'' text = 0 && !broken then .literal
  else if !backslash && runOf '"' text ≤ 2 then .longBasic
  else if runOf '\'' text ≤ 2 then .longLiteral
  else if broken then .longBasic
  else .basic

def escapeChar (long : Bool) (character : Char) : List Char :=
  match character with
  | '\t' => ['\\', 't']
  | '\n' => if long then ['\n'] else ['\\', 'n']
  | '\r' => ['\\', 'r']
  | '\\' => ['\\', '\\']
  | _ =>
      if character.toNat = 8 then ['\\', 'b']
      else if character.toNat = 12 then ['\\', 'f']
      else if isControl character then ['\\', 'u'] ++ Text.upperHex 4 character.toNat
      else [character]

/-- Escapes a text. Of quotation marks in a row as many stay as are allowed. -/
def escapeFrom (long : Bool) : (quotes : Nat) → List Char → List Char
  | _, [] => []
  | quotes, character :: rest =>
      if character = '"' then
        if quotes < (if long then 2 else 0) then '"' :: escapeFrom long (quotes + 1) rest
        else '\\' :: '"' :: escapeFrom long 0 rest
      else escapeChar long character ++ escapeFrom long 0 rest

def Quotes.isEscaping : Quotes → Bool
  | basic => true
  | longBasic => true
  | _ => false

def textValue (text : String) : String :=
  let characters := text.toList
  let quotes := Quotes.ofText characters
  let start := if quotes.isLong && characters.contains '\n' then "\n" else ""
  let inner := if quotes.isEscaping then escapeFrom quotes.isLong 0 characters else characters
  quotes.mark ++ start ++ String.ofList inner ++ quotes.mark

def flagValue (flag : Bool) : String := if flag then "true" else "false"

/-- A list of more than one item has a line for each. -/
def listValue : List String → String
  | [] => "[]"
  | [item] => "[" ++ textValue item ++ "]"
  | items => "[\n" ++ String.join (items.map fun item => "    " ++ textValue item ++ ",\n") ++ "]"

def memberLine (key value : String) : String := key ++ " = " ++ value ++ "\n"

end ApiCompiler.Toml

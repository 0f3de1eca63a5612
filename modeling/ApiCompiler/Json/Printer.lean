import ApiCompiler.Json.Value

/-!
JSON text of a value: compact, or indented by two spaces.
-/

set_option autoImplicit false

namespace ApiCompiler.Json

def hexDigit (value : Nat) : Char :=
  if value < 10 then Char.ofNat ('0'.toNat + value) else Char.ofNat ('a'.toNat + (value - 10))

def escapeChar (character : Char) : List Char :=
  match character with
  | '"' => ['\\', '"']
  | '\\' => ['\\', '\\']
  | '\n' => ['\\', 'n']
  | '\r' => ['\\', 'r']
  | '\t' => ['\\', 't']
  | _ =>
      if character.toNat = 8 then ['\\', 'b']
      else if character.toNat = 12 then ['\\', 'f']
      else if character.toNat < 32 then
        ['\\', 'u', '0', '0', hexDigit (character.toNat / 16), hexDigit (character.toNat % 16)]
      else [character]

def quote (text : String) : String :=
  "\"" ++ String.ofList (text.toList.flatMap escapeChar) ++ "\""

def Number.text : Number → String
  | .natural value => toString value
  | .negative magnitude => "-" ++ toString magnitude
  | .real value => value.toJson .double .double
  | .single value => value.toJson .single .single

namespace Value

mutual

def compact : Value → String
  | .null => "null"
  | .bool flag => if flag then "true" else "false"
  | .number value => value.text
  | .string text => quote text
  | .array items => "[" ++ compactItems items ++ "]"
  | .object members => "\x7b" ++ compactMembers members ++ "\x7d"

def compactItems : List Value → String
  | [] => ""
  | [item] => compact item
  | item :: rest => compact item ++ "," ++ compactItems rest

def compactMembers : List (String × Value) → String
  | [] => ""
  | [(key, value)] => quote key ++ ":" ++ compact value
  | (key, value) :: rest => quote key ++ ":" ++ compact value ++ "," ++ compactMembers rest

end

def newline (depth : Nat) : String := "\n" ++ String.ofList (List.replicate (2 * depth) ' ')

mutual

/-- Indented text; an empty array or object stays on its line. -/
def pretty (depth : Nat) : Value → String
  | .null => "null"
  | .bool flag => if flag then "true" else "false"
  | .number value => value.text
  | .string text => quote text
  | .array [] => "[]"
  | .array (item :: rest) => "[" ++ prettyItems (depth + 1) (item :: rest) ++ newline depth ++ "]"
  | .object [] => "\x7b\x7d"
  | .object (member :: rest) =>
      "\x7b" ++ prettyMembers (depth + 1) (member :: rest) ++ newline depth ++ "\x7d"

def prettyItems (depth : Nat) : List Value → String
  | [] => ""
  | [item] => newline depth ++ pretty depth item
  | item :: rest => newline depth ++ pretty depth item ++ "," ++ prettyItems depth rest

def prettyMembers (depth : Nat) : List (String × Value) → String
  | [] => ""
  | [(key, value)] => newline depth ++ quote key ++ ": " ++ pretty depth value
  | (key, value) :: rest =>
      newline depth ++ quote key ++ ": " ++ pretty depth value ++ "," ++ prettyMembers depth rest

end

end Value

end ApiCompiler.Json

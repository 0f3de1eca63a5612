import ApiCompiler.Text.Literal

/-!
What can be wrong with JSON text, and what can be wrong with JSON data of the wrong form.
-/

set_option autoImplicit false

namespace ApiCompiler.Json

inductive SyntaxFault
  | endInList
  | endInObject
  | endInString
  | endInValue
  | expectedColon
  | expectedListSeparator
  | expectedObjectSeparator
  | expectedIdent
  | expectedValue
  | expectedQuote
  | expectedNumericKey
  | invalidEscape
  | invalidNumber
  | numberOutOfRange
  | controlCharacter
  | invalidCodePoint
  | keyNotString
  | loneSurrogate
  | unfinishedSurrogatePair
  | trailingComma
  | trailingCharacters
  | tooDeep
  deriving DecidableEq, Repr

def SyntaxFault.message : SyntaxFault → String
  | .endInList => "EOF while parsing a list"
  | .endInObject => "EOF while parsing an object"
  | .endInString => "EOF while parsing a string"
  | .endInValue => "EOF while parsing a value"
  | .expectedColon => "expected `:`"
  | .expectedListSeparator => "expected `,` or `]`"
  | .expectedObjectSeparator => "expected `,` or `\x7d`"
  | .expectedIdent => "expected ident"
  | .expectedValue => "expected value"
  | .expectedQuote => "expected `\"`"
  | .expectedNumericKey => "invalid value: expected key to be a number in quotes"
  | .invalidEscape => "invalid escape"
  | .invalidNumber => "invalid number"
  | .numberOutOfRange => "number out of range"
  | .controlCharacter => "control character (\\u0000-\\u001F) found while parsing a string"
  | .invalidCodePoint => "invalid unicode code point"
  | .keyNotString => "key must be a string"
  | .loneSurrogate => "lone leading surrogate in hex escape"
  | .unfinishedSurrogatePair => "unexpected end of hex escape"
  | .trailingComma => "trailing comma"
  | .trailingCharacters => "trailing characters"
  | .tooDeep => "recursion limit exceeded"

/-- What was found where something else was wanted. -/
inductive Found
  | null
  | bool (flag : Bool)
  | integer (text : String)
  | real (text : String)
  | string (text : String)
  | sequence
  | map
  deriving DecidableEq, Repr

def Found.describe : Found → String
  | .null => "null"
  | .bool flag => "boolean `" ++ (if flag then "true" else "false") ++ "`"
  | .integer text => "integer `" ++ text ++ "`"
  | .real text => "floating point `" ++ text ++ "`"
  | .string text => "string " ++ Text.stringLiteral text
  | .sequence => "sequence"
  | .map => "map"

inductive Fault
  | malformed (fault : SyntaxFault)
  | invalidType (found : Found) (expected : String)
  | invalidValue (found : Found) (expected : String)
  | invalidLength (length : Nat) (expected : String)
  | unknownVariant (name : String) (variants : List String)
  | missingField (name : String)
  | duplicateField (name : String)
  deriving DecidableEq, Repr

def ticked (name : String) : String := "`" ++ name ++ "`"

/-- The names to choose from, in words. -/
def oneOf : List String → String
  | [] => "there are no variants"
  | [only] => "expected " ++ ticked only
  | [first, second] => "expected " ++ ticked first ++ " or " ++ ticked second
  | names => "expected one of " ++ ", ".intercalate (names.map ticked)

/-- What is wrong. The line and the column that readers tell after it are left out. -/
def Fault.message : Fault → String
  | .malformed fault => fault.message
  | .invalidType found expected => "invalid type: " ++ found.describe ++ ", expected " ++ expected
  | .invalidValue found expected => "invalid value: " ++ found.describe ++ ", expected " ++ expected
  | .invalidLength length expected =>
      "invalid length " ++ toString length ++ ", expected " ++ expected
  | .unknownVariant name variants => "unknown variant " ++ ticked name ++ ", " ++ oneOf variants
  | .missingField name => "missing field " ++ ticked name
  | .duplicateField name => "duplicate field " ++ ticked name

end ApiCompiler.Json

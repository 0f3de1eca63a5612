import ApiCompiler.Kind
import ApiCompiler.Number.Parse
import ApiCompiler.Text.Literal

/-!
The values of parameters: what each kind holds, and how it is read from text.
-/

set_option autoImplicit false

namespace ApiCompiler

/-- What the values of a family are. -/
abbrev KindFamily.Value : KindFamily → Type
  | .text => String
  | .boolean => Bool
  | .integer => Int
  | .float => BinaryNumber

inductive ParseFault
  | boolean (text : String)
  | integer (fault : IntegerFault)
  | float (fault : FloatFault)
  deriving DecidableEq, Repr

def ParseFault.message : ParseFault → String
  | .boolean text => "expected true, false, 1 or 0, got " ++ Text.stringLiteral text
  | .integer fault => fault.message
  | .float fault => fault.message

namespace Kind

def parseBoolean (text : String) : Except ParseFault Bool :=
  if text = "true" ∨ text = "1" then .ok true
  else if text = "false" ∨ text = "0" then .ok false
  else .error (.boolean text)

def parseInteger (signed : Bool) (bits : Nat) (text : String) : Except ParseFault Int :=
  (IntegerWidth.parse ⟨signed, bits⟩ text).mapError .integer

def parseFloat (format : Binary.Format) (text : String) : Except ParseFault BinaryNumber :=
  (BinaryNumber.parse format text).mapError .float

/-- The parser of a kind; `int` and `uint` have 64 bits. -/
def parse : (kind : Kind) → String → Except ParseFault kind.family.Value
  | .string => .ok
  | .bool => parseBoolean
  | .int | .int64 => parseInteger true 64
  | .int8 => parseInteger true 8
  | .int16 => parseInteger true 16
  | .int32 => parseInteger true 32
  | .uint | .uint64 => parseInteger false 64
  | .uint8 => parseInteger false 8
  | .uint16 => parseInteger false 16
  | .uint32 => parseInteger false 32
  | .float32 => parseFloat .single
  | .float64 => parseFloat .double

end Kind

end ApiCompiler

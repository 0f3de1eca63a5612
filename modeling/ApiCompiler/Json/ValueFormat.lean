import ApiCompiler.Json.Reader

/-!
JSON data as a data format for records.
-/

set_option autoImplicit false

namespace ApiCompiler.Json

namespace Value

def found : Value → Found
  | .null => .null
  | .bool flag => .bool flag
  | .number value => value.found
  | .string text => .string text
  | .array _ => .sequence
  | .object _ => .map

def mismatch {α : Type} (value : Value) (expected : String) : Except Fault α :=
  .error (.invalidType value.found expected)

def readString : Value → Except Fault String
  | .string text => .ok text
  | value => mismatch value "a string"

def readBool : Value → Except Fault Bool
  | .bool flag => .ok flag
  | value => mismatch value "a boolean"

def readNatural (bits : Nat) : Value → Except Fault (Fin (Nat.pow 2 bits))
  | .number given => Node.naturalOf bits given
  | value => mismatch value (Node.naturalName bits)

def readOptional : Value → Except Fault (Option Value)
  | .null => .ok none
  | value => .ok (some value)

def memberListing (members : List (String × Value)) :
    Listing (Except Fault String × Value) Fault :=
  ⟨members.map fun member => (.ok member.1, member.2), none⟩

def readListing : Value → Except Fault (Listing Value Fault)
  | .array items => .ok ⟨items, none⟩
  | value => mismatch value "a sequence"

def readMembers : Value → Except Fault (Listing (Except Fault String × Value) Fault)
  | .object members => .ok (memberListing members)
  | value => mismatch value "a map"

/-- A variant is its name, or an object with the name as its only key and no value. -/
def readVariant : Value → Except Fault (String × Except Fault Unit)
  | .string text => .ok (text, .ok ())
  | .object [(name, .null)] => .ok (name, .ok ())
  | .object [(name, value)] => .ok (name, mismatch value "unit variant")
  | .object _ => .error (.invalidValue .map "map with a single key")
  | value => mismatch value "string or map"

def readRecord (title : String) (fields : Nat) :
    Value → Except Fault (RecordForm Value Fault)
  | .object members => .ok (.named (memberListing members))
  | .array items =>
      .ok (.positional ⟨items.take fields,
        if fields < items.length then
          some (.invalidLength items.length "fewer elements in array")
        else none⟩)
  | value => mismatch value (Node.recordTitle title)

end Value

def valueFormat : DataFormat Value Fault where
  text := Value.readString
  flag := Value.readBool
  natural := Value.readNatural
  optional := Value.readOptional
  list := Value.readListing
  map := Value.readMembers
  variant := Value.readVariant
  record := Value.readRecord
  skip := fun _ => .ok ()
  unknownVariant := .unknownVariant
  missing := .missingField
  duplicate := .duplicateField
  tooShort := textFormat.tooShort

end ApiCompiler.Json

import ApiCompiler.Number.Layout

/-!
JSON data. Objects keep their members in order.
-/

set_option autoImplicit false

namespace ApiCompiler.Json

inductive Number
  | natural (value : Nat)
  | negative (magnitude : Nat)
  | real (value : BinaryNumber)
  /-- A number of single precision, which is written with no more figures than that needs. -/
  | single (value : BinaryNumber)
  deriving DecidableEq, Repr, Inhabited

inductive Value
  | null
  | bool (flag : Bool)
  | number (value : Number)
  | string (text : String)
  | array (items : List Value)
  | object (members : List (String × Value))
  deriving Repr, Inhabited

namespace Value

/-- The first value stored under a key, among members. -/
def find (key : String) : List (String × Value) → Option Value
  | [] => none
  | (name, value) :: rest => if name = key then some value else find key rest

def get? (key : String) : Value → Option Value
  | object members => find key members
  | _ => none

def ofOption {α : Type} (write : α → Value) : Option α → Value
  | some item => write item
  | none => null

def ofNat (value : Nat) : Value := number (.natural value)

def ofInt (value : Int) : Value :=
  if 0 ≤ value then number (.natural value.toNat) else number (.negative (-value).toNat)

def strings (items : List String) : Value := array (items.map string)

end Value

end ApiCompiler.Json

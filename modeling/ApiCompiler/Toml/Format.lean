import ApiCompiler.Record.Reader
import ApiCompiler.Toml.Reader

/-!
TOML as a data format for records. What is wrong is not told.
-/

set_option autoImplicit false

namespace ApiCompiler.Toml

abbrev Result (α : Type) := Except Unit α

def wrong {α : Type} : Result α := .error ()

namespace Value

def readText : Value → Result String
  | .string text => .ok text
  | _ => wrong

def readFlag : Value → Result Bool
  | .bool flag => .ok flag
  | _ => wrong

def readNatural (bits : Nat) : Value → Result (Fin (Nat.pow 2 bits))
  | .integer (.ofNat value) =>
      if small : value < Nat.pow 2 bits then .ok ⟨value, small⟩ else wrong
  | _ => wrong

def memberListing (members : Members) : Listing (Result String × Value) Unit :=
  ⟨members.map fun (key, value) => (.ok key, value), none⟩

def readList : Value → Result (Listing Value Unit)
  | .list items => .ok ⟨items, none⟩
  | .tables items => .ok ⟨items.reverse.map (.table .header), none⟩
  | _ => wrong

def readMap : Value → Result (Listing (Result String × Value) Unit)
  | .table _ members => .ok (memberListing members)
  | _ => wrong

/-- A variant is its name, or a table with the name as its only key and an empty table. -/
def readVariant : Value → Result (String × Result Unit)
  | .string text => .ok (text, .ok ())
  | .table _ [(name, .table _ [])] => .ok (name, .ok ())
  | _ => wrong

end Value

def format : DataFormat Value Unit where
  text := Value.readText
  flag := Value.readFlag
  natural := Value.readNatural
  optional := fun value => .ok (some value)
  list := Value.readList
  map := Value.readMap
  variant := Value.readVariant
  record := fun _ _ value => (Value.readMap value).map .named
  skip := fun _ => .ok ()
  unknownVariant := fun _ _ => ()
  missing := fun _ => ()
  duplicate := fun _ => ()
  tooShort := fun _ _ _ => ()

def readText {α : Type} (read : Value → Result α) (text : String) : Result α :=
  match document? text with
  | none => wrong
  | some members => read (.table .header members)

end ApiCompiler.Toml

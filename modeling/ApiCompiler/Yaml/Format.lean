import ApiCompiler.Record.Reader
import ApiCompiler.Yaml.Reader

/-!
YAML as a data format for records. Any scalar is a text; a flag or a number is a plain scalar, or a
literal block whose tag says so. What is wrong is not told.
-/

set_option autoImplicit false

namespace ApiCompiler.Yaml

/-- A node and the numbered nodes of its document. -/
structure Place where
  node : Node
  anchored : List (Nat × Node)

abbrev Result (α : Type) := Except Unit α

def wrong {α : Type} : Result α := .error ()

def ofOption {α : Type} : Option α → Result α
  | some found => .ok found
  | none => wrong

def standardTag (name : String) : String := "tag:yaml.org,2002:" ++ name

/-! ### Plain scalars -/

def isNull (text : String) : Bool := ["null", "Null", "NULL", "~"].contains text

def bool? (text : String) : Option Bool :=
  if ["true", "True", "TRUE"].contains text then some true
  else if ["false", "False", "FALSE"].contains text then some false
  else none

def digitsValue? (radix : Nat) (digits : List Char) : Option Nat :=
  if digits.isEmpty then none
  else Text.numeral? radix digits

/-- Digits behind a needless zero are a text, with or without a sign. -/
def isZeroPadded (text : List Char) : Bool :=
  match text with
  | '0' :: digit :: digits => (digit :: digits).all Char.isDigit
  | _ => false

/-- A natural number: decimal, or with a mark for another radix; a plus may stand before it. -/
def natural? (text : String) : Option Nat :=
  let unsigned := match text.toList with
    | '+' :: rest => rest
    | characters => characters
  let marked := match unsigned with
    | '0' :: 'x' :: digits => digitsValue? 16 digits
    | '0' :: 'o' :: digits => digitsValue? 8 digits
    | '0' :: 'b' :: digits => digitsValue? 2 digits
    | _ => none
  match marked with
  | some value => some value
  | none => if isZeroPadded unsigned then none else digitsValue? 10 unsigned

namespace Place

/-- Replaces a reference by the node that has its number. The last one counts. -/
def target (place : Place) : Node :=
  match place.node with
  | .reference number =>
      ((place.anchored.reverse.find? fun entry => entry.1 == number).map (·.2)).getD .empty
  | node => node

def moved (place : Place) (node : Node) : Place := { place with node }

/-- Whether a scalar is read as a value of a standard type. -/
def isLiteral (style : ScalarStyle) (tag : Option String) (type : String) : Bool :=
  style == .plain || style == .literal && tag == some (standardTag type)

def text (place : Place) : Result String :=
  match place.target with
  | .scalar _ _ text => .ok text
  | _ => wrong

def flag (place : Place) : Result Bool :=
  match place.target with
  | .scalar properties style text =>
      if isLiteral style properties.tag "bool" then ofOption (bool? text) else wrong
  | _ => wrong

def naturalBelow (bits : Nat) (text : String) : Result (Fin (Nat.pow 2 bits)) :=
  match natural? text with
  | some value => if small : value < Nat.pow 2 bits then .ok ⟨value, small⟩ else wrong
  | none => wrong

def natural (bits : Nat) (place : Place) : Result (Fin (Nat.pow 2 bits)) :=
  match place.target with
  | .scalar properties style text =>
      if isLiteral style properties.tag "int" then naturalBelow bits text else wrong
  | _ => wrong

/-- Nothing is a plain scalar that is empty or null; a tag for null leaves no choice. -/
def optional (place : Place) : Result (Option Place) :=
  let target := place.target
  let held := some (place.moved target)
  match target with
  | .scalar properties .plain text =>
      match properties.tag with
      | some tag =>
          if tag = standardTag "null" then if isNull text then .ok none else wrong else .ok held
      | none => if text.isEmpty || isNull text then .ok none else .ok held
  | _ => .ok held

def tagName (tag : String) : String :=
  match tag.toList with
  | '!' :: rest => String.ofList rest
  | _ => tag

/-- A variant is its name, or nothing with the name as tag. -/
def variant (place : Place) : Result (String × Result Unit) :=
  match place.target with
  | .scalar properties style text =>
      match properties.tag with
      | some tag =>
          let isNothing := style == .plain && (text.isEmpty || isNull text)
          .ok (tagName tag, if isNothing then .ok () else wrong)
      | none => .ok (text, .ok ())
  | _ => wrong

/-- Whether a node is not there; an empty list or map may be written so. -/
def isAbsent : Node → Bool
  | .scalar _ .plain text => text.isEmpty
  | _ => false

def list (place : Place) : Result (Listing Place Unit) :=
  match place.target with
  | .sequence _ items => .ok ⟨items.map place.moved, none⟩
  | node => if isAbsent node then .ok ⟨[], none⟩ else wrong

def map (place : Place) : Result (Listing (Result String × Place) Unit) :=
  match place.target with
  | .mapping _ entries =>
      .ok ⟨entries.map fun (key, value) => ((place.moved key).text, place.moved value), none⟩
  | node => if isAbsent node then .ok ⟨[], none⟩ else wrong

end Place

def format : DataFormat Place Unit where
  text := Place.text
  flag := Place.flag
  natural := Place.natural
  optional := Place.optional
  list := Place.list
  map := Place.map
  variant := Place.variant
  record := fun _ _ place => (Place.map place).map .named
  skip := fun _ => .ok ()
  unknownVariant := fun _ _ => ()
  missing := fun _ => ()
  duplicate := fun _ => ()
  tooShort := fun _ _ _ => ()

def readText {α : Type} (read : Place → Result α) (text : String) : Result α :=
  match document? text with
  | none => wrong
  | some node => read ⟨node, node.anchored⟩

end ApiCompiler.Yaml

import ApiCompiler.SortedMap

/-!
Reading records from the nodes of some data format. A format says how a node answers as a text, a
number, a list or a record; what a record consists of is said once, for all formats. Faults come
up in the order of the document.
-/

set_option autoImplicit false

namespace ApiCompiler

/-- A row of things, up to where it ends or breaks off. -/
structure Listing (α fault : Type) where
  items : List α
  ending : Option fault

/-- How a record is written. -/
inductive RecordForm (node fault : Type)
  /-- Members with keys, in the order of the document. -/
  | named (members : Listing (Except fault String × node) fault)
  /-- The values alone, in the order of the fields. -/
  | positional (values : Listing node fault)

structure DataFormat (node fault : Type) where
  text : node → Except fault String
  flag : node → Except fault Bool
  /-- A natural number below `2 ^ bits`. -/
  natural : (bits : Nat) → node → Except fault (Fin (Nat.pow 2 bits))
  /-- Nothing, or a node that holds the value. -/
  optional : node → Except fault (Option node)
  /-- The name of a variant, and what is wrong with the node once the name is known. -/
  variant : node → Except fault (String × Except fault Unit)
  list : node → Except fault (Listing node fault)
  map : node → Except fault (Listing (Except fault String × node) fault)
  /-- A record with a title and a number of fields; no more than that many values are given. -/
  record : (title : String) → (fields : Nat) → node → Except fault (RecordForm node fault)
  /-- Passes over a node whose key means nothing. -/
  skip : node → Except fault Unit
  unknownVariant : (name : String) → (variants : List String) → fault
  missing : (field : String) → fault
  duplicate : (field : String) → fault
  tooShort : (length : Nat) → (title : String) → (fields : Nat) → fault

/-- One field of a record: its name, whether it must be given, and how its value is put into the
record read so far. -/
structure FieldRule (node fault α : Type) where
  name : String
  required : Bool
  read : node → α → Except fault α

variable {node fault α : Type}

def Listing.finish (listing : Listing α fault) : Except fault Unit :=
  match listing.ending with
  | some found => .error found
  | none => .ok ()

namespace DataFormat

/-- One of several values that are spelled by their names. -/
def named (format : DataFormat node fault) (all : List α) (nameOf : α → String) (value : node) :
    Except fault α := do
  let (name, rest) ← format.variant value
  match all.find? fun item => nameOf item == name with
  | some item =>
      rest
      return item
  | none => .error (format.unknownVariant name (all.map nameOf))

def readMembers (format : DataFormat node fault) (rules : List (FieldRule node fault α)) :
    (seen : List String) → List (Except fault String × node) → α → Except fault (List String × α)
  | seen, [], record => .ok (seen, record)
  | seen, (key, value) :: rest, record => do
      let name ← key
      match rules.find? fun rule => rule.name == name with
      | some rule =>
          if seen.contains name then .error (format.duplicate name)
          else
            let record ← rule.read value record
            format.readMembers rules (name :: seen) rest record
      | none =>
          format.skip value
          format.readMembers rules seen rest record

def readValues (format : DataFormat node fault) (title : String) (fields : Nat)
    (ending : Option fault) :
    (index : Nat) → List (FieldRule node fault α) → List node → α → Except fault α
  | _, [], _, record =>
      match ending with
      | some found => .error found
      | none => .ok record
  | index, rule :: rules, value :: values, record => do
      let record ← rule.read value record
      format.readValues title fields ending (index + 1) rules values record
  | index, rule :: rules, [], record =>
      match ending with
      | some found => .error found
      | none =>
          if rule.required then .error (format.tooShort index title fields)
          else format.readValues title fields ending (index + 1) rules [] record

/-- Reads a record, beginning with the values its fields have when they are not given. -/
def readRecord (format : DataFormat node fault) (title : String) (initial : α)
    (rules : List (FieldRule node fault α)) (value : node) : Except fault α := do
  match ← format.record title rules.length value with
  | .named members =>
      let (seen, record) ← format.readMembers rules [] members.items initial
      members.finish
      match rules.find? fun rule => rule.required && !seen.contains rule.name with
      | some rule => .error (format.missing rule.name)
      | none => .ok record
  | .positional values =>
      format.readValues title rules.length values.ending 0 rules values.items initial

def readList (format : DataFormat node fault) (read : node → Except fault α) (value : node) :
    Except fault (List α) := do
  let listing ← format.list value
  let items ← listing.items.mapM read
  listing.finish
  return items

def readOptional (format : DataFormat node fault) (read : node → Except fault α) (value : node) :
    Except fault (Option α) := do
  match ← format.optional value with
  | some held => return some (← read held)
  | none => return none

def readEntries (read : node → Except fault α) :
    List (Except fault String × node) → Except fault (List (String × α))
  | [] => .ok []
  | (key, value) :: rest => do
      let name ← key
      let item ← read value
      let entries ← readEntries read rest
      return (name, item) :: entries

/-- A map from names; the last entry of a name stays. -/
def readMap (format : DataFormat node fault) (read : node → Except fault α) (value : node) :
    Except fault (SortedMap String α) := do
  let listing ← format.map value
  let entries ← readEntries read listing.items
  listing.finish
  return .ofList entries

end DataFormat

end ApiCompiler

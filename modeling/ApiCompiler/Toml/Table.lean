import ApiCompiler.Toml.Value

/-!
Putting the statements of a document together. No value is given twice, and no table is defined
twice: one that a header or braces define is closed for dotted keys, and one that dotted keys define
is closed for headers.
-/

set_option autoImplicit false

namespace ApiCompiler.Toml

namespace Members

def get? (key : String) : Members → Option Value
  | [] => none
  | (name, value) :: rest => if name = key then some value else get? key rest

/-- Puts a value at the place of its key, or behind all others. -/
def put (key : String) (value : Value) : Members → Members
  | [] => [(key, value)]
  | (name, old) :: rest =>
      if name = key then (key, value) :: rest else (name, old) :: put key value rest

end Members

/-- Whether a table may be entered on the way to a longer key. -/
def canEnter (created : Origin) (origin : Origin) : Bool :=
  match origin with
  | .inline => false
  | .header => created == .implied
  | .implied => true
  | .dotted => true

/-- Changes the table that a path leads to, and says how it came to be. Missing tables are created;
on the way through tables under double brackets the last one counts. -/
def changeAt (created : Origin) (change : Origin → Members → Option Members) :
    List String → Origin → Members → Option Members
  | [], origin, members => change origin members
  | key :: path, _, members =>
      match Members.get? key members with
      | none => do
          let inner ← changeAt created change path created []
          return Members.put key (.table created inner) members
      | some (.table origin inner) =>
          if canEnter created origin then do
            let changed ← changeAt created change path origin inner
            return Members.put key (.table origin changed) members
          else none
      | some (.tables (last :: others)) => do
          let changed ← changeAt created change path .header last
          return Members.put key (.tables (changed :: others)) members
      | some _ => none

/-- Gives a key its value. A dotted key ends in a table that dotted keys define. -/
def assign (path : List String) (key : String) (value : Value) (members : Members) :
    Option Members :=
  changeAt .dotted (fun origin table =>
    if (path.isEmpty || origin == .dotted) && (Members.get? key table).isNone then
      some (Members.put key value table)
    else none) path .header members

def define (key : String) (members : Members) : Option Members :=
  match Members.get? key members with
  | none => some (Members.put key (.table .header []) members)
  | some (.table .implied inner) => some (Members.put key (.table .header inner) members)
  | some _ => none

/-- Adds a table to those under a header in double brackets. -/
def append (key : String) (members : Members) : Option Members :=
  match Members.get? key members with
  | none => some (Members.put key (.tables [[]]) members)
  | some (.tables items) => some (Members.put key (.tables ([] :: items)) members)
  | some _ => none

structure Document where
  root : Members := []
  current : List String := []

/-- Follows the last header to its table. -/
def Document.inCurrent (change : Members → Option Members) (document : Document) :
    Option Document := do
  let root ← changeAt .implied (fun _ table => change table) document.current .header document.root
  return { document with root }

def Document.add (document : Document) : Statement → Option Document
  | .assign path key value => document.inCurrent (assign path key value)
  | .header path key => do
      let root ← changeAt .implied (fun _ table => define key table) path .header document.root
      return ⟨root, path ++ [key]⟩
  | .listHeader path key => do
      let root ← changeAt .implied (fun _ table => append key table) path .header document.root
      return ⟨root, path ++ [key]⟩

def ofStatements (statements : List Statement) : Option Members :=
  (statements.foldlM Document.add {}).map (·.root)

def inlineTable (assignments : List (List String × String × Value)) : Option Value :=
  (assignments.foldlM (fun members (path, key, value) => assign path key value members) []).map
    (.table .inline)

end ApiCompiler.Toml

import ApiCompiler.Json.Source
import ApiCompiler.Record.Reader

/-!
JSON as a data format for records. A node is read with the number of lists and objects that may
still be opened around it; nodes that are skipped have no such limit.
-/

set_option autoImplicit false

namespace ApiCompiler.Json

structure Node where
  source : Source
  /-- How many more lists and objects may be opened, and one. -/
  depth : Nat

def depthLimit : Nat := 128

/-- What a complete value shows of itself. -/
def Number.found : Number → Found
  | .natural value => .integer (toString value)
  | .negative magnitude => .integer ("-" ++ toString magnitude)
  | .real value => .real (value.toJson .double .double)
  | .single value => .real (value.toJson .single .single)

/-- What stands in the place of something else, unless it is broken. -/
def Source.found : Source → Except Fault Found
  | .null => .ok .null
  | .bool flag => .ok (.bool flag)
  | .number value => .ok value.found
  | .string text => .ok (.string text)
  | .list .. => .ok .sequence
  | .object .. => .ok .map
  | .broken fault => .error (.malformed fault.reading)

/-- Complains about a node of the wrong type. -/
def mismatch {α : Type} (source : Source) (expected : String) : Except Fault α := do
  let found ← source.found
  .error (.invalidType found expected)

def Ending.fault : Ending → Option SyntaxFault
  | .closed => none
  | .broken fault => some fault.reading
  | .keyless none => some .endInObject
  | .keyless (some _) => some .keyNotString

/-- The fault of an ending for one who skips. -/
def Ending.skipFault : Ending → Option SyntaxFault
  | .closed => none
  | .broken fault => fault.skipping
  | .keyless none => some .endInObject
  | .keyless (some _) => some .keyNotString

mutual

/-- The first fault that stops one who skips a value. -/
def Source.skipFault : Source → Option SyntaxFault
  | .list items ending => (itemsSkipFault items).or ending.skipFault
  | .object members ending => (membersSkipFault members).or ending.skipFault
  | .broken fault => fault.skipping
  | _ => none

def itemsSkipFault : List Source → Option SyntaxFault
  | [] => none
  | item :: rest => item.skipFault.or (itemsSkipFault rest)

def membersSkipFault : List (Key × Source) → Option SyntaxFault
  | [] => none
  | (_, value) :: rest => value.skipFault.or (membersSkipFault rest)

end

namespace Node

/-- The depth inside a list or an object. -/
def enter (node : Node) : Except Fault Nat :=
  match node.depth with
  | 0 => .error (.malformed .tooDeep)
  | 1 => .error (.malformed .tooDeep)
  | depth + 1 => .ok depth

def listing (items : List Source) (ending : Ending) (depth : Nat) : Listing Node Fault :=
  ⟨items.map (Node.mk · depth), ending.fault.map .malformed⟩

def keyText (key : Key) : Except Fault String := key.text.mapError .malformed

def members (entries : List (Key × Source)) (ending : Ending) (depth : Nat) :
    Listing (Except Fault String × Node) Fault :=
  ⟨entries.map fun entry => (keyText entry.1, ⟨entry.2, depth⟩), ending.fault.map .malformed⟩

def text (node : Node) : Except Fault String :=
  match node.source with
  | .string text => .ok text
  | source => mismatch source "a string"

def flag (node : Node) : Except Fault Bool :=
  match node.source with
  | .bool flag => .ok flag
  | source => mismatch source "a boolean"

def naturalName (bits : Nat) : String := "u" ++ toString bits

def naturalOf (bits : Nat) (value : Number) : Except Fault (Fin (Nat.pow 2 bits)) :=
  match value with
  | .natural number =>
      if small : number < Nat.pow 2 bits then .ok ⟨number, small⟩
      else .error (.invalidValue value.found (naturalName bits))
  | .negative _ => .error (.invalidValue value.found (naturalName bits))
  | .real _ | .single _ => .error (.invalidType value.found (naturalName bits))

def natural (bits : Nat) (node : Node) : Except Fault (Fin (Nat.pow 2 bits)) :=
  match node.source with
  | .number value => naturalOf bits value
  | source => mismatch source (naturalName bits)

def optional (node : Node) : Except Fault (Option Node) :=
  match node.source with
  | .null => .ok none
  | _ => .ok (some node)

def list (node : Node) : Except Fault (Listing Node Fault) :=
  match node.source with
  | .list items ending => do return listing items ending (← node.enter)
  | source => mismatch source "a sequence"

def map (node : Node) : Except Fault (Listing (Except Fault String × Node) Fault) :=
  match node.source with
  | .object entries ending => do return members entries ending (← node.enter)
  | source => mismatch source "a map"

/-- What is wrong with a variant written as an object, behind its name. -/
def variantRest (value : Source) (others : List (Key × Source)) (ending : Ending) :
    Except Fault Unit :=
  match value with
  | .null =>
      match others, ending with
      | [], .closed => .ok ()
      | [], .broken fault =>
          if fault.reading = .endInObject then .error (.malformed .endInObject)
          else .error (.malformed .expectedValue)
      | _, _ => .error (.malformed .expectedValue)
  | source => mismatch source "unit"

def tokenFault (token : Token) : Fault :=
  match Source.ofToken token, token with
  | some source, _ =>
      match mismatch (α := Unit) source "variant identifier" with
      | .error fault => fault
      | .ok _ => .malformed .expectedValue
  | none, .openList => .invalidType .sequence "variant identifier"
  | none, .openObject => .invalidType .map "variant identifier"
  | none, _ => .malformed .expectedValue

/-- A variant is its name, or an object with the name as its only key and no value. -/
def variant (node : Node) : Except Fault (String × Except Fault Unit) :=
  match node.source with
  | .string text => .ok (text, .ok ())
  | .broken fault => .error (.malformed fault.naming)
  | .object ((key, value) :: others) ending => do
      let _ ← node.enter
      let name ← keyText key
      .ok (name, variantRest value others ending)
  | .object [] ending => do
      let _ ← node.enter
      match ending with
      | .closed => .error (.malformed .expectedValue)
      | .broken fault => .error (.malformed fault.reading)
      | .keyless none => .error (.malformed .endInValue)
      | .keyless (some token) => .error (tokenFault token)
  | _ => .error (.malformed .expectedValue)

/-- What is wrong behind the last value of a record that is written as a list. -/
def surplus (values : List Source) (ending : Ending) : Option Fault :=
  match values, ending with
  | [], .closed => none
  | [], .broken fault =>
      if fault.reading = .trailingComma ∨ fault.reading = .endInList then
        some (.malformed fault.reading)
      else some (.malformed .trailingCharacters)
  | _, _ => some (.malformed .trailingCharacters)

def recordTitle (title : String) : String := "struct " ++ title

/-- A record is an object, or a list of its fields' values. -/
def record (title : String) (fields : Nat) (node : Node) :
    Except Fault (RecordForm Node Fault) :=
  match node.source with
  | .object entries ending => do return .named (members entries ending (← node.enter))
  | .list items ending => do
      let depth ← node.enter
      if items.length < fields then return .positional (listing items ending depth)
      else
        return .positional ⟨(items.take fields).map (Node.mk · depth),
          surplus (items.drop fields) ending⟩
  | source => mismatch source (recordTitle title)

def skip (node : Node) : Except Fault Unit :=
  match node.source.skipFault with
  | some fault => .error (.malformed fault)
  | none => .ok ()

def elements (fields : Nat) : String :=
  toString fields ++ (if fields = 1 then " element" else " elements")

end Node

def textFormat : DataFormat Node Fault where
  text := Node.text
  flag := Node.flag
  natural := Node.natural
  optional := Node.optional
  list := Node.list
  map := Node.map
  variant := Node.variant
  record := Node.record
  skip := Node.skip
  unknownVariant := .unknownVariant
  missing := .missingField
  duplicate := .duplicateField
  tooShort := fun length title fields =>
    .invalidLength length (Node.recordTitle title ++ " with " ++ Node.elements fields)

def readText {α : Type} (read : Node → Except Fault α) (text : String) : Except Fault α := do
  let (source, followed) := Source.read text
  let result ← read ⟨source, depthLimit⟩
  if followed then .error (.malformed .trailingCharacters) else .ok result

end ApiCompiler.Json

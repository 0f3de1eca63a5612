import ApiCompiler.Json.Format
import ApiCompiler.Json.Member

/-!
Reading JSON text as data. Members are sorted by their keys, and the last one of a key stays.
-/

set_option autoImplicit false

namespace ApiCompiler.Json

def Ending.check (ending : Ending) : Except Fault Unit :=
  match ending.fault with
  | some fault => .error (.malformed fault)
  | none => .ok ()

/-- One level below a depth, where a list or an object may still be opened. -/
def below (depth : Nat) : Except Fault Nat := Node.enter ⟨.null, depth⟩

def Value.ofMembers (members : List (String × Value)) : Value :=
  .object (SortedMap.ofList members).entries

mutual

def Source.toValue (depth : Nat) : Source → Except Fault Value
  | .null => .ok .null
  | .bool flag => .ok (.bool flag)
  | .number value => .ok (.number value)
  | .string text => .ok (.string text)
  | .list items ending => do
      let values ← itemsToValues (← below depth) items
      ending.check
      return .array values
  | .object members ending => do
      let values ← membersToValues (← below depth) members
      ending.check
      return .ofMembers values
  | .broken fault => .error (.malformed fault.reading)

def itemsToValues (depth : Nat) : List Source → Except Fault (List Value)
  | [] => .ok []
  | item :: rest => do
      let value ← item.toValue depth
      let values ← itemsToValues depth rest
      return value :: values

def membersToValues (depth : Nat) : List (Key × Source) → Except Fault (List (String × Value))
  | [] => .ok []
  | (key, item) :: rest => do
      let name ← Node.keyText key
      let value ← item.toValue depth
      let values ← membersToValues depth rest
      return (name, value) :: values

end

def Value.ofText (text : String) : Except Fault Value :=
  readText (fun node => node.source.toValue node.depth) text

end ApiCompiler.Json

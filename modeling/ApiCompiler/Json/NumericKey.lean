import ApiCompiler.Json.Format

/-!
Objects whose keys are numbers in quotes.
-/

set_option autoImplicit false

namespace ApiCompiler.Json

/-- Reads a key as a number of 16 bits. The number is followed by the closing quote at once, and
is written without escapes. -/
def readNumericKey (key : Key) : Except Fault UInt16 :=
  match key.lexeme with
  | [] => .error (.malformed .expectedNumericKey)
  | first :: _ =>
      if first = '-' ∨ first.isDigit then
        let reading := readNumber (key.lexeme ++ ['"'])
        match reading.number with
        | .error fault => .error (.malformed fault)
        | .ok value => do
            let status ← Node.naturalOf 16 value
            match reading.rest, key.text with
            | ['"'], .ok _ => .ok (UInt16.ofFin status)
            | _, _ => .error (.malformed .expectedQuote)
      else .error (.malformed .expectedNumericKey)

def readNumberedMembers {α : Type} (read : Node → Except Fault α) (depth : Nat) :
    List (Key × Source) → Except Fault (List (UInt16 × α))
  | [] => .ok []
  | (key, value) :: rest => do
      let number ← readNumericKey key
      let item ← read ⟨value, depth⟩
      let entries ← readNumberedMembers read depth rest
      return (number, item) :: entries

/-- The members of an object whose keys are numbers, in the order of the text. -/
def readNumberedEntries {α : Type} (read : Node → Except Fault α) (node : Node) :
    Except Fault (List (UInt16 × α)) :=
  match node.source with
  | .object members ending => do
      let depth ← node.enter
      let entries ← readNumberedMembers read depth members
      match ending.fault with
      | some fault => .error (.malformed fault)
      | none => .ok entries
  | source => mismatch source "a map"

end ApiCompiler.Json

/-!
Punycode: text in ASCII letters, digits and hyphens. What stands before the last hyphen is kept; the
rest says, as numbers, which characters go where.
-/

set_option autoImplicit false

namespace ApiCompiler.Punycode

def digitValue? (character : Char) : Option Nat :=
  if character.isLower then some (character.toNat - 'a'.toNat)
  else if character.isUpper then some (character.toNat - 'A'.toNat)
  else if character.isDigit then some (character.toNat - '0'.toNat + 26)
  else none

/-- The digit from which on a number goes on, at the weight's position. -/
def threshold (position bias : Nat) : Nat := min 26 (max 1 (position - bias))

/-- How often a difference is divided until it is small, and what is left. -/
def shrink : (budget delta : Nat) → Nat × Nat
  | 0, delta => (0, delta)
  | budget + 1, delta =>
      if 455 < delta then
        let (count, rest) := shrink budget (delta / 35)
        (count + 1, rest)
      else (0, delta)

/-- The bias after a character was put in; the numbers have at most 32 bits, so they shrink fast. -/
def adapt (delta length : Nat) (isFirst : Bool) : Nat :=
  let halved := if isFirst then delta / 700 else delta / 2
  let (count, rest) := shrink 32 (halved + halved / length)
  36 * count + 36 * rest / (rest + 38)

def numberLimit : Nat := Nat.pow 2 32

structure State where
  output : List Char
  code : Nat
  index : Nat
  bias : Nat

structure Reading where
  start : Nat
  weight : Nat
  position : Nat

def putChar (output : List Char) (index code : Nat) : Option (List Char) :=
  if 0x80 ≤ code ∧ code.isValidChar then
    some (output.take index ++ Char.ofNat code :: output.drop index)
  else none

/-- The last digit of a number has been read: a character is put in. -/
def finish (state : State) (reading : Reading) : Option State := do
  let length := state.output.length + 1
  let code := state.code + state.index / length
  let index := state.index % length
  let output ← putChar state.output index code
  return ⟨output, code, index + 1, adapt (state.index - reading.start) length (reading.start == 0)⟩

def decodeDigits : State → Option Reading → List Char → Option (List Char)
  | state, none, [] => some state.output
  | _, some _, [] => none
  | state, reading, character :: rest => do
      let current := reading.getD ⟨state.index, 1, 36⟩
      let digit ← digitValue? character
      let state := { state with index := state.index + digit * current.weight }
      if numberLimit ≤ state.index then none
      else
        let limit := threshold current.position state.bias
        if digit < limit then
          let next ← finish state current
          decodeDigits next none rest
        else
          decodeDigits state
            (some ⟨current.start, current.weight * (36 - limit), current.position + 36⟩) rest

/-- The parts before and behind the last hyphen. -/
def splitLast (text : List Char) : List Char × List Char :=
  let reversed := text.reverse
  let behind := (reversed.takeWhile (· ≠ '-')).reverse
  let before := ((reversed.dropWhile (· ≠ '-')).drop 1).reverse
  (before, behind)

def decode (text : List Char) : Option (List Char) :=
  let (basic, digits) := splitLast text
  decodeDigits ⟨basic, 128, 0, 72⟩ none digits

end ApiCompiler.Punycode

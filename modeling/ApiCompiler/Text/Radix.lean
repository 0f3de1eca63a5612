/-!
Digits of numbers, in any radix up to sixteen.
-/

set_option autoImplicit false

namespace ApiCompiler.Text

def hexValue? (character : Char) : Option Nat :=
  if character.isDigit then some (character.toNat - '0'.toNat)
  else if 'a' ≤ character ∧ character ≤ 'f' then some (character.toNat - 'a'.toNat + 10)
  else if 'A' ≤ character ∧ character ≤ 'F' then some (character.toNat - 'A'.toNat + 10)
  else none

/-- The value of a digit that is less than the radix. -/
def digitOf? (radix : Nat) (character : Char) : Option Nat :=
  (hexValue? character).filter fun value => value < radix

/-- The number of digits, the first of which counts most; no digits at all are zero. -/
def numeral? (radix : Nat) (digits : List Char) : Option Nat :=
  (digits.mapM (digitOf? radix)).map fun values =>
    values.foldl (fun sum value => sum * radix + value) 0

def upperHexDigit (value : Nat) : Char :=
  if value < 10 then Char.ofNat ('0'.toNat + value) else Char.ofNat ('A'.toNat + (value - 10))

def upperHex : (width value : Nat) → List Char
  | 0, _ => []
  | width + 1, value => upperHex width (value / 16) ++ [upperHexDigit (value % 16)]

end ApiCompiler.Text

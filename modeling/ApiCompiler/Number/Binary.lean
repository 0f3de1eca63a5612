/-!
Binary floating-point magnitudes as exact dyadic values: a significand times a power of two, in a
format that bounds both. Rounding goes to the nearest magnitude of the format and sends a tie to
the even significand. Everything is computed in `Nat`, so a result can be reasoned about.
-/

set_option autoImplicit false

namespace ApiCompiler.Binary

structure Format where
  /-- Number of bits in a significand. -/
  precision : Nat
  /-- Exponent of the last bit of the smallest magnitudes. -/
  leastExponent : Int
  /-- Exponent of the last bit of the largest magnitudes. -/
  greatestExponent : Int

def Format.single : Format := ⟨24, -149, 104⟩

def Format.double : Format := ⟨53, -1074, 971⟩

/-- The value `significand * 2 ^ exponent`. -/
structure Magnitude where
  significand : Nat
  exponent : Int
  deriving DecidableEq, Repr, Inhabited

/-- `numerator / denominator`, shifted down by `2 ^ exponent`. -/
def shifted (numerator denominator : Nat) (exponent : Int) : Nat × Nat :=
  if 0 ≤ exponent then (numerator, denominator * Nat.pow 2 exponent.toNat)
  else (numerator * Nat.pow 2 (-exponent).toNat, denominator)

/-- The natural number nearest to a quotient; of two equally near ones, the even one. -/
def nearest (numerator denominator : Nat) : Nat :=
  let quotient := numerator / denominator
  let twice := 2 * (numerator % denominator)
  if twice < denominator then quotient
  else if denominator < twice then quotient + 1
  else quotient + quotient % 2

/-- The magnitude nearest to a quotient, or nothing when the format ends below it. -/
def round (format : Format) (numerator denominator : Nat) : Option Magnitude :=
  if numerator = 0 then some ⟨0, format.leastExponent⟩
  else
    let estimate : Int := (numerator.log2 : Int) - denominator.log2 - format.precision
    let low := max estimate format.leastExponent
    let (top, bottom) := shifted numerator denominator low
    let exponent := if Nat.pow 2 format.precision ≤ top / bottom then low + 1 else low
    let (top, bottom) := shifted numerator denominator exponent
    let significand := nearest top bottom
    let rounded : Magnitude :=
      if significand = Nat.pow 2 format.precision then
        ⟨Nat.pow 2 (format.precision - 1), exponent + 1⟩
      else ⟨significand, exponent⟩
    if format.greatestExponent < rounded.exponent then none else some rounded

namespace Magnitude

def ratio (magnitude : Magnitude) : Nat × Nat :=
  if 0 ≤ magnitude.exponent then (magnitude.significand * Nat.pow 2 magnitude.exponent.toNat, 1)
  else (magnitude.significand, Nat.pow 2 (-magnitude.exponent).toNat)

def isZero (magnitude : Magnitude) : Bool := magnitude.significand == 0

def times (format : Format) (left right : Magnitude) : Option Magnitude :=
  round format (left.ratio.1 * right.ratio.1) (left.ratio.2 * right.ratio.2)

def dividedBy (format : Format) (left right : Magnitude) : Option Magnitude :=
  round format (left.ratio.1 * right.ratio.2) (left.ratio.2 * right.ratio.1)

end Magnitude

def Format.zero (format : Format) : Magnitude := ⟨0, format.leastExponent⟩

end ApiCompiler.Binary

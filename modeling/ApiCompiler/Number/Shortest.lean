import ApiCompiler.Number.Binary

/-!
The shortest decimal that reads back as a given binary magnitude. Coarse decimal grids are tried
first: the first grid that has a point inside the interval of numbers rounding to the magnitude
gives the digits, and of two such points the nearer one is taken.
-/

set_option autoImplicit false

namespace ApiCompiler

/-- The value `digits * 10 ^ exponent`. -/
structure Decimal where
  digits : Nat
  exponent : Int
  deriving DecidableEq, Repr, Inhabited

namespace Binary

/-- The numbers that round to a magnitude, counted in quarters of its last bit. -/
structure Interval where
  lower : Nat
  value : Nat
  upper : Nat
  /-- Whether the two ends themselves round to the magnitude. -/
  closed : Bool

def Magnitude.interval (format : Format) (magnitude : Magnitude) : Interval :=
  let value := 4 * magnitude.significand
  let narrow := magnitude.significand == Nat.pow 2 (format.precision - 1)
    && decide (format.leastExponent < magnitude.exponent)
  ⟨if narrow then value - 1 else value - 2, value, value + 2, magnitude.significand % 2 == 0⟩

def Interval.contains (interval : Interval) (numerator denominator : Nat) : Bool :=
  if interval.closed then
    decide (interval.lower * denominator ≤ numerator)
      && decide (numerator ≤ interval.upper * denominator)
  else
    decide (interval.lower * denominator < numerator)
      && decide (numerator < interval.upper * denominator)

/-- The step `10 ^ grid` as a quotient, counted in quarters of the last bit `2 ^ exponent`. -/
def gridStep (grid exponent : Int) : Nat × Nat :=
  let ten := if 0 ≤ grid then (Nat.pow 10 grid.toNat, 1) else (1, Nat.pow 10 (-grid).toNat)
  shifted ten.1 ten.2 (exponent - 2)

/-- The point of a grid that lies in the interval and nearest to its value. -/
def Interval.pointOn (interval : Interval) (step : Nat × Nat) : Option Nat :=
  let below := interval.value * step.2 / step.1
  let fits := fun count => interval.contains (count * step.1) step.2
  match fits below, fits (below + 1) with
  | true, true =>
      let fromBelow := interval.value * step.2 - below * step.1
      let fromAbove := (below + 1) * step.1 - interval.value * step.2
      if fromBelow < fromAbove then some below
      else if fromAbove < fromBelow then some (below + 1)
      else some (below + below % 2)
  | true, false => some below
  | false, true => some (below + 1)
  | false, false => none

/-- Tries the grids `grid`, `grid - 1`, …, as many as `count`. -/
def Interval.firstPoint (interval : Interval) (exponent : Int) :
    (count : Nat) → (grid : Int) → Decimal
  | 0, grid => ⟨0, grid⟩
  | count + 1, grid =>
      match interval.pointOn (gridStep grid exponent) with
      | some digits => ⟨digits, grid⟩
      | none => interval.firstPoint exponent count (grid - 1)

/-- A grid coarser than the magnitude: a power of ten above it, from three decimal digits for
every ten bits. -/
def Magnitude.coarseGrid (magnitude : Magnitude) : Int :=
  let bits : Int := (magnitude.significand.log2 : Int) + 1 + magnitude.exponent
  if 0 ≤ bits then bits * 31 / 100 + 1 else bits * 30 / 100 + 1

/-- The shortest decimal for a magnitude other than zero. The finest grid tried holds the
magnitude itself, so the search ends with a point. -/
def Magnitude.shortest (format : Format) (magnitude : Magnitude) : Decimal :=
  let coarse := magnitude.coarseGrid
  let finest := min magnitude.exponent 0
  (magnitude.interval format).firstPoint magnitude.exponent ((coarse - finest).toNat + 1) coarse

end Binary

end ApiCompiler

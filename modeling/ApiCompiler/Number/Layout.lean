import ApiCompiler.Number.Shortest

/-!
How a decimal is written: positionally, or with a power of ten beyond stated bounds.
-/

set_option autoImplicit false

namespace ApiCompiler

namespace Decimal

def figures (decimal : Decimal) : String := toString decimal.digits

/-- Where the decimal point stands, counted from the first figure. -/
def point (decimal : Decimal) : Int := decimal.figures.length + decimal.exponent

def zeros (count : Nat) : String := String.ofList (List.replicate count '0')

/-- All figures written out. A whole number has no decimal point. -/
def positional (decimal : Decimal) : String :=
  let figures := decimal.figures
  if 0 ≤ decimal.exponent then figures ++ zeros decimal.exponent.toNat
  else if 0 < decimal.point then
    String.ofList (figures.toList.take decimal.point.toNat) ++ "."
      ++ String.ofList (figures.toList.drop decimal.point.toNat)
  else "0." ++ zeros (-decimal.point).toNat ++ figures

/-- One figure before the point and a signed power of ten. -/
def scientific (decimal : Decimal) : String :=
  let power := decimal.point - 1
  let fraction := decimal.figures.toList.drop 1
  String.ofList (decimal.figures.toList.take 1)
    ++ (if fraction.isEmpty then "" else "." ++ String.ofList fraction)
    ++ (if 0 ≤ power then "e+" else "e-") ++ toString power.natAbs

end Decimal

/-- Numbers whose point lies in `(low, high]` are written positionally and keep a `.0`. -/
structure NumberLayout where
  low : Int
  high : Int

namespace NumberLayout

def single : NumberLayout := ⟨-6, 13⟩

def double : NumberLayout := ⟨-5, 16⟩

def write (layout : NumberLayout) (decimal : Decimal) : String :=
  if decide (layout.low < decimal.point) && decide (decimal.point ≤ layout.high) then
    decimal.positional ++ (if 0 ≤ decimal.exponent then ".0" else "")
  else decimal.scientific

end NumberLayout

/-- A binary floating-point number of some format. -/
inductive BinaryNumber
  | finite (negative : Bool) (magnitude : Binary.Magnitude)
  | infinite (negative : Bool)
  | nan
  deriving DecidableEq, Repr, Inhabited

namespace BinaryNumber

/-- The JSON text of a number; JSON has no spelling for infinities and for not-a-number. -/
def toJson (format : Binary.Format) (layout : NumberLayout) : BinaryNumber → String
  | .finite negative magnitude =>
      let text := if magnitude.isZero then "0.0" else layout.write (magnitude.shortest format)
      if negative then "-" ++ text else text
  | .infinite _ => "null"
  | .nan => "null"

def toPositional (format : Binary.Format) : BinaryNumber → String
  | .finite negative magnitude =>
      let text := if magnitude.isZero then "0" else (magnitude.shortest format).positional
      if negative then "-" ++ text else text
  | .infinite negative => if negative then "-inf" else "inf"
  | .nan => "NaN"

end BinaryNumber

end ApiCompiler

import ApiCompiler.Number.Layout

/-!
Reading numbers from parameter text: integers of a fixed width, and decimal floating-point numbers.
-/

set_option autoImplicit false

namespace ApiCompiler

def digitValue? (character : Char) : Option Nat :=
  if character.isDigit then some (character.toNat - '0'.toNat) else none

structure IntegerWidth where
  signed : Bool
  bits : Nat
  deriving DecidableEq, Repr

namespace IntegerWidth

def greatest (width : IntegerWidth) : Nat :=
  if width.signed then Nat.pow 2 (width.bits - 1) - 1 else Nat.pow 2 width.bits - 1

/-- The distance of the least value from zero. -/
def depth (width : IntegerWidth) : Nat :=
  if width.signed then Nat.pow 2 (width.bits - 1) else 0

end IntegerWidth

inductive IntegerFault
  | empty
  | invalidDigit
  | tooLarge
  | tooSmall
  deriving DecidableEq, Repr

def IntegerFault.message : IntegerFault → String
  | .empty => "cannot parse integer from empty string"
  | .invalidDigit => "invalid digit found in string"
  | .tooLarge => "number too large to fit in target type"
  | .tooSmall => "number too small to fit in target type"

/-- Reads digits from the left, and stops at the first one that is no digit or leaves the limit. -/
def readDigits (limit : Nat) (beyond : IntegerFault) : Nat → List Char → Except IntegerFault Nat
  | value, [] => .ok value
  | value, character :: rest =>
      match digitValue? character with
      | none => .error .invalidDigit
      | some digit =>
          let next := value * 10 + digit
          if limit < next then .error beyond else readDigits limit beyond next rest

/-- An optional sign and at least one digit; `-` is a sign for signed widths only. -/
def IntegerWidth.parse (width : IntegerWidth) (text : String) : Except IntegerFault Int :=
  match text.toList with
  | [] => .error .empty
  | ['+'] => .error .invalidDigit
  | ['-'] => .error .invalidDigit
  | '+' :: digits => do
      let value ← readDigits width.greatest .tooLarge 0 digits
      return value
  | '-' :: digits =>
      if width.signed then do
        let value ← readDigits width.depth .tooSmall 0 digits
        return -(value : Int)
      else .error .invalidDigit
  | digits => do
      let value ← readDigits width.greatest .tooLarge 0 digits
      return value

inductive FloatFault
  | empty
  | invalid
  deriving DecidableEq, Repr

def FloatFault.message : FloatFault → String
  | .empty => "cannot parse float from empty string"
  | .invalid => "invalid float literal"

def digitsToNat (digits : List Char) : Nat :=
  digits.foldl (fun value digit => value * 10 + (digit.toNat - '0'.toNat)) 0

/-- A decimal numeral: figures before and after the point, and a power of ten. -/
structure Numeral where
  whole : List Char
  fraction : List Char
  negativePower : Bool
  power : List Char

/-- Reads a sign, and whether it was a minus. -/
def takeSign : List Char → Bool × List Char
  | '+' :: rest => (false, rest)
  | '-' :: rest => (true, rest)
  | rest => (false, rest)

/-- Splits a numeral without its sign: some figure before or after the point, and some figure in
the power if there is one. -/
def Numeral.read? (text : List Char) : Option Numeral := do
  let whole := text.takeWhile Char.isDigit
  let afterWhole := text.dropWhile Char.isDigit
  let (fraction, rest) := match afterWhole with
    | '.' :: tail => (tail.takeWhile Char.isDigit, tail.dropWhile Char.isDigit)
    | tail => ([], tail)
  if whole.isEmpty && fraction.isEmpty then none
  else
    match rest with
    | [] => some ⟨whole, fraction, false, []⟩
    | mark :: tail =>
        if mark = 'e' ∨ mark = 'E' then
          let (negative, power) := takeSign tail
          if power.isEmpty || !power.all Char.isDigit then none
          else some ⟨whole, fraction, negative, power⟩
        else none

/-- The number nearest to a numeral. Powers far outside of the format are settled by comparing
lengths, so that the exact quotient stays small. -/
def Numeral.nearest (format : Binary.Format) (numeral : Numeral) (negative : Bool) : BinaryNumber :=
  let significand := digitsToNat (numeral.whole ++ numeral.fraction)
  let written : Int := digitsToNat numeral.power
  let power : Int := (if numeral.negativePower then -written else written) - numeral.fraction.length
  let reach : Int := power + (toString significand).length
  if significand = 0 then .finite negative format.zero
  else if 400 < reach then .infinite negative
  else if reach < -400 then .finite negative format.zero
  else
    let rounded := if 0 ≤ power then Binary.round format (significand * Nat.pow 10 power.toNat) 1
      else Binary.round format significand (Nat.pow 10 (-power).toNat)
    match rounded with
    | some magnitude => .finite negative magnitude
    | none => .infinite negative

/-- Lower case of an ASCII letter, other characters unchanged. -/
def lowerAscii (text : List Char) : List Char := text.map Char.toLower

def BinaryNumber.parse (format : Binary.Format) (text : String) : Except FloatFault BinaryNumber :=
  match text.toList with
  | [] => .error .empty
  | characters =>
      let (negative, body) := takeSign characters
      let word := String.ofList (lowerAscii body)
      if word = "inf" ∨ word = "infinity" then .ok (.infinite negative)
      else if word = "nan" then .ok .nan
      else
        match Numeral.read? body with
        | some numeral => .ok (numeral.nearest format negative)
        | none => .error .invalid

end ApiCompiler

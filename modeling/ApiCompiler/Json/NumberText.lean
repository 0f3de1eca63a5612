import ApiCompiler.Json.Fault
import ApiCompiler.Json.Value
import ApiCompiler.Number.Parse

/-!
Numbers in JSON text. A whole number that fits in 64 bits is kept exactly. Any other numeral is
read in floating point: a significand of as many figures as 64 bits hold, scaled by one power of
ten.
-/

set_option autoImplicit false

namespace ApiCompiler.Json

def wordLimit : Nat := Nat.pow 2 64 - 1

/-- The greatest decimal exponent that is counted. -/
def exponentLimit : Nat := Nat.pow 2 31 - 1

/-- Appends digits to a significand while they fit. Also the number of digits appended, and the
digits left over. -/
def appendDigits : (significand count : Nat) → List Char → Nat × Nat × List Char
  | significand, count, [] => (significand, count, [])
  | significand, count, digit :: rest =>
      let next := significand * 10 + (digit.toNat - '0'.toNat)
      if wordLimit < next then (significand, count, digit :: rest)
      else appendDigits next (count + 1) rest

/-- The greatest power of ten that a double holds. -/
def greatestPower : Nat := 308

def powerOfTen (exponent : Nat) : Option Binary.Magnitude :=
  Binary.round .double (Nat.pow 10 exponent) 1

def overPower (magnitude : Binary.Magnitude) (exponent : Nat) :
    Option Binary.Magnitude :=
  (powerOfTen exponent).bind (magnitude.dividedBy .double)

/-- Divides by the greatest power of ten a number of times, then by what is left. -/
def scaleDown (rest : Nat) : (steps : Nat) → Binary.Magnitude → Option Binary.Magnitude
  | 0, magnitude => overPower magnitude rest
  | steps + 1, magnitude =>
      if magnitude.isZero then some magnitude
      else (overPower magnitude greatestPower).bind (scaleDown rest steps)

/-- `significand * 10 ^ exponent`, each of the two factors and then the result rounded. -/
def scale (significand : Nat) (exponent : Int) : Option Binary.Magnitude := do
  let magnitude ← Binary.round .double significand 1
  if 0 ≤ exponent then
    if greatestPower < exponent then
      if magnitude.isZero then some magnitude else none
    else
      let power ← powerOfTen exponent.toNat
      magnitude.times .double power
  else
    let depth := (-exponent).toNat
    let steps := (depth - 1) / greatestPower
    scaleDown (depth - steps * greatestPower) steps magnitude

/-- How a numeral ends. -/
structure NumberReading where
  /-- The number, when it is wanted. -/
  number : Except SyntaxFault Number
  shape : Option SyntaxFault
  rest : List Char

namespace NumberReading

def failed (fault : SyntaxFault) (rest : List Char) : NumberReading :=
  ⟨.error fault, some fault, rest⟩

/-- A numeral cut short: at the end of the text, one that is read says so. -/
def cutShort (rest : List Char) : NumberReading :=
  match rest with
  | [] => ⟨.error .endInValue, some .invalidNumber, []⟩
  | _ => failed .invalidNumber rest

end NumberReading

def realNumber (negative : Bool) (significand : Nat) (exponent : Int) : Except SyntaxFault Number :=
  match scale significand exponent with
  | some magnitude => .ok (.real (.finite negative magnitude))
  | none => .error .numberOutOfRange

def readPower (negative : Bool) (significand : Nat) (exponent : Int) (text : List Char) :
    NumberReading :=
  let (negativePower, afterSign) := takeSign text
  let digits := afterSign.takeWhile Char.isDigit
  let rest := afterSign.dropWhile Char.isDigit
  if digits.isEmpty then NumberReading.cutShort afterSign
  else
    let power := digitsToNat digits
    if exponentLimit < power then
      if significand ≠ 0 ∧ !negativePower then ⟨.error .numberOutOfRange, none, rest⟩
      else ⟨.ok (.real (.finite negative Binary.Format.double.zero)), none, rest⟩
    else
      let total : Int := if negativePower then exponent - power else exponent + power
      ⟨realNumber negative significand total, none, rest⟩

def isPowerMark (character : Char) : Bool := character = 'e' || character = 'E'

def readFraction (negative : Bool) (significand : Nat) (exponent : Int) (text : List Char) :
    NumberReading :=
  let digits := text.takeWhile Char.isDigit
  let rest := text.dropWhile Char.isDigit
  if digits.isEmpty then NumberReading.cutShort text
  else
    let (significand, count, _) := appendDigits significand 0 digits
    let exponent := exponent - count
    match rest with
    | mark :: tail =>
        if isPowerMark mark then readPower negative significand exponent tail
        else ⟨realNumber negative significand exponent, none, rest⟩
    | [] => ⟨realNumber negative significand exponent, none, []⟩

/-- A whole number of 64 bits; a negative one has at most 63, and `-0` is not a whole number. -/
def wholeNumber (negative : Bool) (significand : Nat) : Except SyntaxFault Number :=
  if !negative then .ok (.natural significand)
  else if 0 < significand ∧ significand ≤ Nat.pow 2 63 then .ok (.negative significand)
  else realNumber true significand 0

def readUnsigned (negative : Bool) (text : List Char) : NumberReading :=
  let digits := text.takeWhile Char.isDigit
  let rest := text.dropWhile Char.isDigit
  match digits with
  | [] => NumberReading.cutShort text
  | '0' :: _ :: _ => NumberReading.failed .invalidNumber (text.drop 1)
  | _ =>
      let (significand, _, dropped) := appendDigits 0 0 digits
      let exponent : Int := dropped.length
      let plain := if dropped.isEmpty then wholeNumber negative significand
        else realNumber negative significand exponent
      match rest with
      | [] => ⟨plain, none, []⟩
      | mark :: tail =>
          if mark = '.' then readFraction negative significand exponent tail
          else if isPowerMark mark then readPower negative significand exponent tail
          else ⟨plain, none, rest⟩

def readNumber (text : List Char) : NumberReading :=
  match text with
  | '-' :: tail => readUnsigned true tail
  | _ => readUnsigned false text

end ApiCompiler.Json

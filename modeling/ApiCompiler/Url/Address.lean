import ApiCompiler.Number.Parse
import ApiCompiler.Text.Radix
import ApiCompiler.Url.Domain
import ApiCompiler.Url.Fault

/-!
Numeric addresses as hosts. An address of four bytes may have its last numbers written as one, and
each number in decimal, octal or hexadecimal; an address of eight pieces may leave out zeros once
and may end in four decimal bytes.
-/

set_option autoImplicit false

namespace ApiCompiler.Address

/-- A number: hexadecimal behind `0x`, octal behind another zero, else decimal. No digits behind a
mark are zero. -/
def number? : List Char → Option Nat
  | [] => none
  | '0' :: 'x' :: digits => Text.numeral? 16 digits
  | '0' :: 'X' :: digits => Text.numeral? 16 digits
  | '0' :: digit :: digits => Text.numeral? 8 (digit :: digits)
  | digits => Text.numeral? 10 digits

def significantLabels (name : List Char) : List (List Char) :=
  let parts := Domain.labels name
  if parts.getLast? = some [] then parts.dropLast else parts

/-- Whether the last label of a name makes it an address. -/
def endsInNumber (name : List Char) : Bool :=
  match (significantLabels name).getLast? with
  | none => false
  | some label =>
      !label.isEmpty && label.all Char.isDigit || (number? label).isSome

/-- Whether numbers make up an address of four bytes. The last one fills all the bytes that are
left. -/
def fitsIpv4 (numbers : List Nat) : Bool :=
  match numbers.getLast? with
  | none => false
  | some last =>
      let others := numbers.dropLast
      decide (others.length < 4) && others.all (fun number => decide (number < 256))
        && decide (last < Nat.pow 256 (4 - others.length))

def isIpv4 (name : List Char) : Bool :=
  match (significantLabels name).mapM number? with
  | none => false
  | some numbers => fitsIpv4 numbers

/-- A decimal byte without needless zeros, and what follows it. -/
def takeByte? (text : List Char) : Option (List Char) :=
  let digits := text.takeWhile Char.isDigit
  let value := digitsToNat digits
  if digits.isEmpty || decide (1 < digits.length) && digits.head? = some '0' || decide (255 < value)
  then none
  else some (text.dropWhile Char.isDigit)

def isDotted (text : List Char) : Bool :=
  match takeByte? text with
  | some ('.' :: second) =>
      match takeByte? second with
      | some ('.' :: third) =>
          match takeByte? third with
          | some ('.' :: fourth) => takeByte? fourth == some []
          | _ => false
      | _ => false
  | _ => false

def isHex (character : Char) : Bool := (Text.hexValue? character).isSome

def isPiece (text : List Char) : Bool :=
  !text.isEmpty && decide (text.length ≤ 4) && text.all isHex

/-- Whether there are eight pieces, unless zeros have been left out. -/
def isComplete (count : Nat) (shortened : Bool) : Bool := shortened || count == 8

/-- Reads what stands between colons. The count says how many pieces there are so far, and the mark
whether zeros have been left out. The last four bytes count as two pieces. -/
def isIpv6From : (count : Nat) → (shortened : Bool) → List (List Char) → Bool
  | _, _, [] => false
  | count, shortened, [[]] => isComplete count shortened
  | count, shortened, [last] =>
      isPiece last && decide (count < 8) && isComplete (count + 1) shortened
        || isDotted last && decide (count ≤ 6) && isComplete (count + 2) shortened
  | count, shortened, [] :: rest =>
      !shortened && decide (count < 8) && isIpv6From (count + 1) true rest
  | count, shortened, piece :: rest =>
      isPiece piece && decide (count < 8) && rest != [[]] && isIpv6From (count + 1) shortened rest

def isIpv6 (text : List Char) : Bool :=
  match Text.pieces (· = ':') text with
  | [] :: [] :: rest => isIpv6From 1 true rest
  | [] :: _ => false
  | pieces => decide (2 ≤ text.length) && isIpv6From 0 false pieces

end ApiCompiler.Address

import ApiCompiler.Proofs.BoundSlots
import ApiCompiler.Proofs.ModuleText

/-!
Parameters that are integers. The parser of each such kind reads just the numerals of the kind's
width, and as the integers that they denote; of a numeral whose integer is out of range it tells on
which side.
-/

set_option autoImplicit false

namespace ApiCompiler

/-! ### Figures out of range -/

section

variable {limit value number : Nat} {beyond : IntegerFault} {digits : List Char}

/-- The limit is only left once: from then on more figures can but make the number greater. -/
theorem read_digits_eq (decimal : ∀ digit ∈ digits, digit.isDigit = true) (fits : value ≤ limit) :
    readDigits limit beyond value digits =
      if limit < appendFigures value digits then .error beyond
      else .ok (appendFigures value digits) := by
  induction digits generalizing value with
  | nil =>
      have within : ¬limit < appendFigures value [] := Nat.not_lt.mpr fits
      rw [if_neg within]
      rfl
  | cons digit rest induction =>
      obtain ⟨isDigit, others⟩ := List.forall_mem_cons.mp decimal
      have step : appendFigures value (digit :: rest) =
          appendFigures (value * 10 + (digit.toNat - '0'.toNat)) rest := rfl
      have grows := append_figures_le (value * 10 + (digit.toNat - '0'.toNat)) rest
      rw [readDigits, digitValue?, if_pos isDigit, step]
      dsimp only
      by_cases left : limit < value * 10 + (digit.toNat - '0'.toNat)
      · rw [if_pos left, if_pos (Nat.lt_of_lt_of_le left grows)]
      · rw [if_neg left, induction others (Nat.le_of_not_lt left)]

theorem read_figures_eq (figures : Figures digits number) :
    readDigits limit beyond 0 digits =
      if limit < number then .error beyond else .ok number := by
  have same : appendFigures 0 digits = number := figures.value
  rw [read_digits_eq figures.decimal (Nat.zero_le limit), same]

end

namespace IntegerWidth

variable {width : IntegerWidth} {text : String} {value : Int}

/-- The least integer of a width. -/
def least (width : IntegerWidth) : Int := if width.signed then -2 ^ (width.bits - 1) else 0

/-- The least integer above those of a width. -/
def bound (width : IntegerWidth) : Int :=
  if width.signed then 2 ^ (width.bits - 1) else 2 ^ width.bits

theorem depth_eq (width : IntegerWidth) : -(width.depth : Int) = width.least := by
  unfold depth least
  split_ifs <;> simp

theorem greatest_eq (width : IntegerWidth) : (width.greatest : Int) + 1 = width.bound := by
  have positive : ∀ bits : Nat, 1 ≤ 2 ^ bits := fun bits => Nat.one_le_two_pow
  unfold greatest bound
  split_ifs <;> simp [positive]

theorem holds_iff : width.Holds value ↔ width.least ≤ value ∧ value < width.bound := by
  rw [Holds, ← depth_eq, ← greatest_eq]
  omega

/-- What is to be read of a numeral: its integer, or on which side of the width that is. -/
def verdict (width : IntegerWidth) (value : Int) : Except IntegerFault Int :=
  if value < width.least then .error .tooSmall
  else if value < width.bound then .ok value
  else .error .tooLarge

theorem read_natural {digits : List Char} {number : Nat} (figures : Figures digits number) :
    (do
      let value ← readDigits width.greatest .tooLarge 0 digits
      return (value : Int)) = width.verdict number := by
  have lower := width.depth_eq
  have upper := width.greatest_eq
  have natural : ¬(number : Int) < width.least := by omega
  rw [read_figures_eq figures, verdict, if_neg natural]
  by_cases above : width.greatest < number
  · rw [if_pos above, if_neg (by omega)]
    rfl
  · rw [if_neg above, if_pos (by omega)]
    rfl

theorem read_negative {digits : List Char} {number : Nat} (figures : Figures digits number) :
    (do
      let value ← readDigits width.depth .tooSmall 0 digits
      return -(value : Int)) = width.verdict (-number) := by
  have lower := width.depth_eq
  have upper := width.greatest_eq
  rw [read_figures_eq figures, verdict]
  by_cases below : width.depth < number
  · rw [if_pos below, if_pos (by omega)]
    rfl
  · rw [if_neg below, if_neg (by omega), if_pos (by omega)]
    rfl

theorem parse_of_figures (figures : SignedFigures width.signed text.toList value) :
    width.parse text = width.verdict value := by
  unfold parse
  generalize text.toList = letters at figures
  cases figures with
  | plain figures =>
      obtain ⟨first, rest, rfl⟩ := List.exists_cons_of_ne_nil figures.some
      have isDigit := figures.decimal first List.mem_cons_self
      rw [← read_natural figures]
      -- A digit is no sign.
      have unsigned : ∀ sign, sign = '+' ∨ sign = '-' → first ≠ sign := by
        rintro sign (rfl | rfl) rfl <;> exact absurd isDigit (by decide)
      split <;> simp_all
  | plus figures =>
      obtain ⟨first, rest, rfl⟩ := List.exists_cons_of_ne_nil figures.some
      exact read_natural figures
  | minus signed figures =>
      obtain ⟨first, rest, rfl⟩ := List.exists_cons_of_ne_nil figures.some
      simp only [if_pos signed]
      exact read_negative figures

/-- A parser reads the numerals of a width, and refuses those whose integers are out of range. -/
structure ReadExactly (width : IntegerWidth) (parse : String → Except ParseFault Int) : Prop where
  ok_iff : ∀ text value, parse text = .ok value ↔
    SignedFigures width.signed text.toList value ∧ width.least ≤ value ∧ value < width.bound
  too_small : ∀ text value, SignedFigures width.signed text.toList value → value < width.least →
    parse text = .error (.integer .tooSmall)
  too_large : ∀ text value, SignedFigures width.signed text.toList value → width.bound ≤ value →
    parse text = .error (.integer .tooLarge)

theorem least_le_bound (width : IntegerWidth) : width.least ≤ width.bound := by
  have lower := width.depth_eq
  have upper := width.greatest_eq
  omega

theorem read_exactly (width : IntegerWidth) :
    width.ReadExactly (Kind.parseInteger width.signed width.bits) := by
  have ordered := width.least_le_bound
  refine ⟨?_, ?_, ?_⟩
  · intro text value
    rw [Kind.parse_integer_ok_iff, Denotes, holds_iff]
  · intro text value figures below
    have refused := parse_of_figures figures
    rw [verdict, if_pos below] at refused
    rw [Kind.parseInteger, refused]
    rfl
  · intro text value figures above
    have refused := parse_of_figures figures
    rw [verdict, if_neg (by omega), if_neg (by omega)] at refused
    rw [Kind.parseInteger, refused]
    rfl

/-- The name of the built-in type with the integers of a width. -/
def typeName (width : IntegerWidth) : String :=
  (if width.signed then "i" else "u") ++ toString width.bits

/-- A function that reads its argument as a value of the built-in type. -/
def parserText (width : IntegerWidth) (name : String) : String :=
  String.join [
    "\n\nfn ", name, "(raw: &str) -> Result<", width.typeName, ", String> \x7b",
    "\n    raw.parse::<", width.typeName, ">().map_err(|err| err.to_string())", "\n\x7d"]

end IntegerWidth

namespace Kind

/-- The width of a kind of integers; `int` and `uint` have 64 bits. -/
def width? : Kind → Option IntegerWidth
  | int | int64 => some ⟨true, 64⟩
  | int8 => some ⟨true, 8⟩
  | int16 => some ⟨true, 16⟩
  | int32 => some ⟨true, 32⟩
  | uint | uint64 => some ⟨false, 64⟩
  | uint8 => some ⟨false, 8⟩
  | uint16 => some ⟨false, 16⟩
  | uint32 => some ⟨false, 32⟩
  | string | bool | float32 | float64 => none

/-- The parser of a kind of integers, as one that gives integers. -/
def parseWhole (kind : Kind) (integer : kind.family = .integer) (text : String) :
    Except ParseFault Int :=
  cast (congrArg (fun family => Except ParseFault family.Value) integer) (kind.parse text)

theorem width_of_integer {kind : Kind} (integer : kind.family = .integer) :
    ∃ width, kind.width? = some width ∧ width.bits ∈ [8, 16, 32, 64] ∧
      kind.rustType = width.typeName ∧
        kind.parseWhole integer = parseInteger width.signed width.bits := by
  cases kind with
  | string | bool | float32 | float64 => cases integer
  | int | int64 => exact ⟨⟨true, 64⟩, rfl, by decide, rfl, rfl⟩
  | int8 => exact ⟨⟨true, 8⟩, rfl, by decide, rfl, rfl⟩
  | int16 => exact ⟨⟨true, 16⟩, rfl, by decide, rfl, rfl⟩
  | int32 => exact ⟨⟨true, 32⟩, rfl, by decide, rfl, rfl⟩
  | uint | uint64 => exact ⟨⟨false, 64⟩, rfl, by decide, rfl, rfl⟩
  | uint8 => exact ⟨⟨false, 8⟩, rfl, by decide, rfl, rfl⟩
  | uint16 => exact ⟨⟨false, 16⟩, rfl, by decide, rfl, rfl⟩
  | uint32 => exact ⟨⟨false, 32⟩, rfl, by decide, rfl, rfl⟩

end Kind

/-- The parser that is written for a kind of integers reads as the built-in type of the kind's
width, and reads exactly the integers of that width. -/
theorem integer_parsers_exact {kind : Kind} (integer : kind.family = .integer) :
    ∃ width, kind.width? = some width ∧ width.bits ∈ [8, 16, 32, 64] ∧
      (∀ scope, Template.renderAll (("parser", RoutesModule.parserToJson kind) :: scope)
        Template.parserFunctions.body = .ok (width.parserText kind.parserName)) ∧
      width.ReadExactly (kind.parseWhole integer) := by
  obtain ⟨width, known, bits, typed, parses⟩ := Kind.width_of_integer integer
  refine ⟨width, known, bits, ?_, parses ▸ width.read_exactly⟩
  intro scope
  rw [RoutesModule.render_parser_function, RoutesModule.parserText, RoutesModule.parserBody,
    integer, typed]
  simp [IntegerWidth.parserText, String.join_cons, String.append_assoc]

/-- Numerals next to the ends of the signed bytes. -/
theorem signed_bytes_exact : Kind.int8.family = .integer ∧
    IntegerWidth.ReadExactly ⟨true, 8⟩ (Kind.int8.parseWhole rfl) ∧
    Kind.int8.parseWhole rfl "-000128" = .ok (-128) ∧
    Kind.int8.parseWhole rfl "-129" = .error (.integer .tooSmall) ∧
    Kind.int8.parseWhole rfl "+128" = .error (.integer .tooLarge) := by
  have integer : Kind.int8.family = .integer := rfl
  obtain ⟨width, known, _, _, exactly⟩ := integer_parsers_exact integer
  cases known
  have lower : Figures ['0', '0', '0', '1', '2', '8'] 128 := ⟨by decide, by simp, rfl⟩
  have below : Figures ['1', '2', '9'] 129 := ⟨by decide, by simp, rfl⟩
  have above : Figures ['1', '2', '8'] 128 := ⟨by decide, by simp, rfl⟩
  refine ⟨rfl, exactly, ?_, ?_, ?_⟩
  · exact (exactly.ok_iff _ _).mpr ⟨.minus rfl lower, by decide, by decide⟩
  · exact exactly.too_small _ _ (.minus rfl below) (by decide)
  · exact exactly.too_large _ _ (.plus above) (by decide)

end ApiCompiler

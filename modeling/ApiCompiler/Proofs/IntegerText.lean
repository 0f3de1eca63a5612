import ApiCompiler.Binding.Value
import ApiCompiler.Proofs.Checks
import Mathlib.Tactic.IntervalCases

/-!
Integers of a fixed width that are read from text. A text denotes an integer when it is a sign, if
there is one, with decimal figures behind it, and the integer is one of the width; then and only
then the integer is read.
-/

set_option autoImplicit false

namespace ApiCompiler

/-- Decimal figures, one at least, and the number that they stand for. -/
structure Figures (digits : List Char) (number : Nat) : Prop where
  some : digits ≠ []
  decimal : ∀ digit ∈ digits, digit.isDigit = true
  value : digitsToNat digits = number

/-- Figures with a sign in front of them, or without. A minus may not stand everywhere. -/
inductive SignedFigures (signed : Bool) : List Char → Int → Prop
  | plain {digits : List Char} {number : Nat} (figures : Figures digits number) :
      SignedFigures signed digits number
  | plus {digits : List Char} {number : Nat} (figures : Figures digits number) :
      SignedFigures signed ('+' :: digits) number
  | minus {digits : List Char} {number : Nat} (allowed : signed = true)
      (figures : Figures digits number) : SignedFigures signed ('-' :: digits) (-number)

namespace IntegerWidth

/-- The integers of a width. -/
def Holds (width : IntegerWidth) (value : Int) : Prop :=
  -(width.depth : Int) ≤ value ∧ value ≤ width.greatest

instance (width : IntegerWidth) (value : Int) : Decidable (width.Holds value) :=
  inferInstanceAs (Decidable (_ ∧ _))

def Denotes (width : IntegerWidth) (text : String) (value : Int) : Prop :=
  SignedFigures width.signed text.toList value ∧ width.Holds value

end IntegerWidth

/-! ### Figures -/

/-- What is read of more figures behind some value. -/
def appendFigures (value : Nat) (digits : List Char) : Nat :=
  digits.foldl (fun value digit => value * 10 + (digit.toNat - '0'.toNat)) value

theorem append_figures_le (value : Nat) (digits : List Char) :
    value ≤ appendFigures value digits := by
  induction digits generalizing value with
  | nil => exact Nat.le_refl value
  | cons digit rest induction =>
      have first : value ≤ value * 10 + (digit.toNat - '0'.toNat) := by omega
      exact first.trans (induction _)

/-- Figures are read when all of them are decimal and their number keeps the limit. -/
theorem read_digits_ok_iff {limit value number : Nat} {beyond : IntegerFault} {digits : List Char}
    (fits : value ≤ limit) : readDigits limit beyond value digits = .ok number ↔
      (∀ digit ∈ digits, digit.isDigit = true) ∧ appendFigures value digits = number ∧
        number ≤ limit := by
  induction digits generalizing value with
  | nil =>
      simp only [readDigits, appendFigures, List.foldl_nil, Except.ok.injEq]
      constructor
      · rintro rfl
        exact ⟨nofun, rfl, fits⟩
      · exact fun parts => parts.2.1
  | cons digit rest induction =>
      rw [List.forall_mem_cons, readDigits, digitValue?]
      by_cases isDigit : digit.isDigit = true
      · have step : appendFigures value (digit :: rest) =
            appendFigures (value * 10 + (digit.toNat - '0'.toNat)) rest := rfl
        have grows := append_figures_le (value * 10 + (digit.toNat - '0'.toNat)) rest
        simp only [isDigit, if_true, step, true_and]
        by_cases beyondLimit : limit < value * 10 + (digit.toNat - '0'.toNat)
        · rw [if_pos beyondLimit]
          constructor
          · intro read
            cases read
          · rintro ⟨_, rfl, small⟩
            omega
        · rw [if_neg beyondLimit]
          exact induction (Nat.le_of_not_lt beyondLimit)
      · simp [isDigit]

theorem read_figures_iff {limit number : Nat} {beyond : IntegerFault} {digits : List Char}
    (some : digits ≠ []) : readDigits limit beyond 0 digits = .ok number ↔
      Figures digits number ∧ number ≤ limit := by
  rw [read_digits_ok_iff (Nat.zero_le limit)]
  constructor
  · rintro ⟨decimal, value, small⟩
    exact ⟨⟨some, decimal, value⟩, small⟩
  · rintro ⟨figures, small⟩
    exact ⟨figures.decimal, figures.value, small⟩

theorem digit_char_value {digit : Nat} (small : digit < 10) :
    (Nat.digitChar digit).toNat - '0'.toNat = digit := by
  interval_cases digit <;> rfl

/-- The decimal figures of a number stand for it. -/
theorem figures_of_number (number : Nat) : Figures (Nat.toDigits 10 number) number := by
  refine ⟨Nat.toDigits_ne_nil, ?_, ?_⟩
  · intro digit listed
    exact Nat.isDigit_of_mem_toDigits (by decide) (by decide) listed
  · induction number using Nat.strong_induction_on with
    | _ number induction =>
        by_cases single : number < 10
        · rw [Nat.toDigits_of_lt_base single]
          simpa [digitsToNat] using digit_char_value single
        · have front := induction (number / 10) (by omega)
          have last := digit_char_value (Nat.mod_lt number (by decide : 0 < 10))
          unfold digitsToNat at front ⊢
          rw [Nat.toDigits_of_base_le (by decide) (by omega), List.foldl_append, front,
            List.foldl_cons, List.foldl_nil, last]
          omega

/-! ### Signs -/

variable {signed : Bool} {digits : List Char} {value : Int}

theorem signed_plus_iff : SignedFigures signed ('+' :: digits) value ↔
    ∃ number, Figures digits number ∧ value = number := by
  constructor
  · intro figures
    cases figures with
    | plain figures => simpa using figures.decimal '+' List.mem_cons_self
    | plus figures => exact ⟨_, figures, rfl⟩
  · rintro ⟨number, figures, rfl⟩
    exact .plus figures

theorem signed_minus_iff : SignedFigures signed ('-' :: digits) value ↔
    signed = true ∧ ∃ number, Figures digits number ∧ value = -number := by
  constructor
  · intro figures
    cases figures with
    | plain figures => simpa using figures.decimal '-' List.mem_cons_self
    | minus allowed figures => exact ⟨allowed, _, figures, rfl⟩
  · rintro ⟨allowed, number, figures, rfl⟩
    exact .minus allowed figures

theorem signed_plain_iff (noPlus : ∀ rest, digits ≠ '+' :: rest)
    (noMinus : ∀ rest, digits ≠ '-' :: rest) :
    SignedFigures signed digits value ↔ ∃ number, Figures digits number ∧ value = number := by
  constructor
  · intro figures
    cases figures with
    | plain figures => exact ⟨_, figures, rfl⟩
    | plus figures => exact absurd rfl (noPlus _)
    | minus allowed figures => exact absurd rfl (noMinus _)
  · rintro ⟨number, figures, rfl⟩
    exact .plain figures

theorem no_figures {number : Nat} : ¬Figures [] number := fun figures => figures.some rfl

/-! ### Integers -/

namespace IntegerWidth

variable {width : IntegerWidth}

theorem holds_natural {number : Nat} : width.Holds number ↔ number ≤ width.greatest := by
  unfold Holds
  omega

theorem holds_negative {number : Nat} : width.Holds (-number) ↔ number ≤ width.depth := by
  unfold Holds
  omega

/-- On either side of zero the figures are read up to the last number that the width holds. -/
theorem read_side_iff {limit : Nat} {beyond : IntegerFault} {f : Nat → Int} (some : digits ≠ [])
    (side : ∀ number, width.Holds (f number) ↔ number ≤ limit) :
    (do return f (← readDigits limit beyond 0 digits)) = Except.ok value ↔
      (∃ number, Figures digits number ∧ value = f number) ∧ width.Holds value := by
  simp only [bind_ok_iff, read_figures_iff some, pure, Except.pure, Except.ok.injEq]
  constructor
  · rintro ⟨number, ⟨figures, small⟩, rfl⟩
    exact ⟨⟨number, figures, rfl⟩, (side number).mpr small⟩
  · rintro ⟨⟨number, figures, rfl⟩, holds⟩
    exact ⟨number, ⟨figures, (side number).mp holds⟩, rfl⟩

/-- An integer is read from a text when the text denotes it, and from no other text. -/
theorem parse_ok_iff {text : String} : width.parse text = .ok value ↔ width.Denotes text value := by
  unfold parse Denotes
  generalize text.toList = letters
  split
  · rw [signed_plain_iff (by simp) (by simp)]
    simp [no_figures]
  · rw [signed_plus_iff]
    simp [no_figures]
  · rw [signed_minus_iff]
    simp [no_figures]
  · rename_i digits some
    rw [signed_plus_iff, read_side_iff some fun _ => holds_natural]
  · rename_i digits some
    rw [signed_minus_iff]
    by_cases signed : width.signed = true
    · rw [if_pos signed, read_side_iff some fun _ => holds_negative]
      simp [signed]
    · simp [signed]
  · rename_i digits some _ _ noPlus noMinus
    rw [signed_plain_iff noPlus noMinus, read_side_iff some fun _ => holds_natural]

theorem denotes_natural {number : Nat} (holds : width.Holds number) :
    width.Denotes (toString number) number := by
  refine ⟨?_, holds⟩
  rw [Nat.toString_eq_repr, Nat.toList_repr]
  exact .plain (figures_of_number number)

/-- The usual way of writing an integer denotes it. -/
theorem denotes_decimal (holds : width.Holds value) : width.Denotes (toString value) value := by
  cases value with
  | ofNat number => exact denotes_natural holds
  | negSucc number =>
      have figures :
          (toString (Int.negSucc number)).toList = '-' :: Nat.toDigits 10 (number + 1) := by
        rw [← Nat.toList_repr, toString, instToStringInt]
        simp [Int.repr]
      have signed : width.signed = true := by
        have least := holds.1
        unfold depth at least
        by_contra unsigned
        rw [if_neg unsigned] at least
        omega
      refine ⟨?_, holds⟩
      rw [figures]
      exact .minus signed (figures_of_number (number + 1))

end IntegerWidth

end ApiCompiler

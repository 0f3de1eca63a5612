import ApiCompiler.Text.Literal
import ApiCompiler.Text.Radix
import Mathlib.Data.Option.Basic
import Mathlib.Tactic.IntervalCases
import Mathlib.Tactic.Ring

/-!
Reading string literals back. A literal that was written for a text is read as that text, so no two
texts share a literal. Between its quotes every quote is escaped, and no line ends there: whoever
looks for the end of the literal finds the quote that was written last, whatever comes behind it.
-/

set_option autoImplicit false

namespace ApiCompiler.Text

/-- Where a reader of a string literal stands. -/
inductive LiteralPlace
  | outside
  | inside
  | behindBackslash
  /-- Behind the letter that announces a code point. -/
  | behindLetter
  /-- Behind some hexadecimal digits of a code point, with their number and value. -/
  | inCodePoint (count value : Nat)

/-- The character that a letter behind a backslash stands for. -/
def escapedChar? : Char → Option Char
  | '"' => some '"'
  | '\'' => some '\''
  | '\\' => some '\\'
  | 'n' => some '\n'
  | 'r' => some '\r'
  | 't' => some '\t'
  | '0' => some (Char.ofNat 0)
  | _ => none

/-- Reads a literal that stands on one line and has nothing behind it. A code point has one to six
digits. -/
def readFrom : LiteralPlace → List Char → Option (List Char)
  | _, [] => none
  | .outside, character :: rest => if character = '"' then readFrom .inside rest else none
  | .inside, character :: rest =>
      if character = '"' then if rest.isEmpty then some [] else none
      else if character = '\\' then readFrom .behindBackslash rest
      else if character = '\n' ∨ character = '\r' then none
      else (readFrom .inside rest).map (character :: ·)
  | .behindBackslash, character :: rest =>
      if character = 'u' then readFrom .behindLetter rest
      else (escapedChar? character).bind fun meant => (readFrom .inside rest).map (meant :: ·)
  | .behindLetter, character :: rest =>
      if character = '{' then readFrom (.inCodePoint 0 0) rest else none
  | .inCodePoint count value, character :: rest =>
      if character = '}' then
        if 1 ≤ count ∧ count ≤ 6 ∧ value.isValidChar then
          (readFrom .inside rest).map (Char.ofNat value :: ·)
        else none
      else (digitOf? 16 character).bind fun digit =>
        readFrom (.inCodePoint (count + 1) (value * 16 + digit)) rest

/-- The text that a string literal denotes. -/
def readLiteral (literal : String) : Option String :=
  (readFrom .outside literal.toList).map String.ofList

theorem read_hex_digit {digit : Nat} (small : digit < 16) (count value : Nat) (rest : List Char) :
    readFrom (.inCodePoint count value) (Nat.digitChar digit :: rest) =
      readFrom (.inCodePoint (count + 1) (value * 16 + digit)) rest := by
  have notClosing : Nat.digitChar digit ≠ '}' := by
    interval_cases digit <;> decide
  have read : digitOf? 16 (Nat.digitChar digit) = some digit := by
    interval_cases digit <;> decide
  rw [readFrom, if_neg notClosing, read]
  rfl

theorem mem_hex_digits {character : Char} {number : Nat}
    (listed : character ∈ Nat.toDigits 16 number) :
    ∃ digit < 16, character = Nat.digitChar digit := by
  induction number using Nat.strong_induction_on with
  | _ number induction =>
      by_cases single : number < 16
      · rw [Nat.toDigits_of_lt_base single, List.mem_singleton] at listed
        exact ⟨number, single, listed⟩
      · rw [Nat.toDigits_of_base_le (by decide) (by omega), List.mem_append, List.mem_singleton]
          at listed
        rcases listed with front | last
        · exact induction (number / 16) (by omega) front
        · exact ⟨number % 16, Nat.mod_lt number (by decide), last⟩

theorem read_hex_digits (number count value : Nat) (rest : List Char) :
    readFrom (.inCodePoint count value) (Nat.toDigits 16 number ++ rest) =
      readFrom (.inCodePoint (count + (Nat.toDigits 16 number).length)
        (value * 16 ^ (Nat.toDigits 16 number).length + number)) rest := by
  induction number using Nat.strong_induction_on generalizing rest with
  | _ number induction =>
      by_cases small : number < 16
      · rw [Nat.toDigits_of_lt_base small, List.singleton_append, read_hex_digit small]
        simp
      · have split : Nat.toDigits 16 number =
            Nat.toDigits 16 (number / 16) ++ [Nat.digitChar (number % 16)] :=
          Nat.toDigits_of_base_le (by decide) (by omega)
        have parts : number / 16 * 16 + number % 16 = number := Nat.div_add_mod' number 16
        rw [split, List.append_assoc, induction (number / 16) (by omega), List.singleton_append,
          read_hex_digit (Nat.mod_lt number (by decide)), List.length_append, List.length_singleton]
        congr 2
        rw [Nat.add_mul, Nat.add_assoc, parts, pow_succ, ← Nat.mul_assoc]

theorem read_code_point (character : Char) (rest : List Char) :
    readFrom .inside (codePointEscape character ++ rest) =
      (readFrom .inside rest).map (character :: ·) := by
  have short : (Nat.toDigits 16 character.toNat).length ≤ 6 := by
    rw [Nat.length_toDigits_le_iff (by decide) (by decide)]
    have valid : character.toNat < 0xD800 ∨ 0xDFFF < character.toNat ∧
        character.toNat < 0x110000 := character.valid
    omega
  have closing : readFrom (.inCodePoint (0 + (Nat.toDigits 16 character.toNat).length)
      (0 * 16 ^ (Nat.toDigits 16 character.toNat).length + character.toNat)) ('}' :: rest) =
        (readFrom .inside rest).map (character :: ·) := by
    rw [Nat.zero_add, Nat.zero_mul, Nat.zero_add, readFrom, if_pos rfl,
      if_pos ⟨Nat.length_toDigits_pos, short, character.valid⟩, Char.ofNat_toNat]
  rw [← closing, ← read_hex_digits]
  simp [codePointEscape, readFrom]

/-- Each character of a text is read back from its own piece of the literal. -/
theorem read_literal_char (character : Char) (rest : List Char) :
    readFrom .inside (literalChar character ++ rest) =
      (readFrom .inside rest).map (character :: ·) := by
  unfold literalChar
  split
  · simp [readFrom, escapedChar?]
  · simp [readFrom, escapedChar?]
  · simp [readFrom, escapedChar?]
  · simp [readFrom, escapedChar?]
  · simp [readFrom, escapedChar?]
  · rename_i noQuote noBackslash noFeed noReturn noTab
    split_ifs with zero hidden
    · have same : character = Char.ofNat 0 := by
        rw [← zero, Char.ofNat_toNat]
      simp [readFrom, escapedChar?, same]
    · exact read_code_point character rest
    · have oneLine : ¬(character = '\n' ∨ character = '\r') := not_or_intro noFeed noReturn
      rw [List.singleton_append, readFrom, if_neg noQuote, if_neg noBackslash, if_neg oneLine]

theorem read_literal_chars (text : List Char) :
    readFrom .inside (text.flatMap literalChar ++ ['"']) = some text := by
  induction text with
  | nil => rfl
  | cons character rest induction =>
      rw [List.flatMap_cons, List.append_assoc, read_literal_char, induction]
      rfl

theorem read_string_literal (text : String) : readLiteral (stringLiteral text) = some text := by
  have shape : (stringLiteral text).toList = '"' :: (text.toList.flatMap literalChar ++ ['"']) := by
    simp [stringLiteral]
  rw [readLiteral, shape, readFrom, if_pos rfl, read_literal_chars, Option.map_some,
    String.ofList_toList]

theorem string_literal_injective : Function.Injective stringLiteral := by
  intro left right same
  have read := congrArg readLiteral same
  rw [read_string_literal, read_string_literal] at read
  exact Option.some.inj read

/-! ### Where a literal ends -/

variable {letters front back : List Char} {character : Char}

/-- Whether what stands behind some characters of a literal is escaped: a backslash escapes what
follows, unless it is escaped itself. -/
def leavesEscaped (letters : List Char) : Bool :=
  letters.foldl (fun escaped letter => !escaped && letter = '\\') false

/-- Characters between the quotes of a literal: the first quote that is not escaped is the one
behind them. -/
structure LiteralBody (letters : List Char) : Prop where
  quotes_escaped : ∀ before after, letters = before ++ '"' :: after → leavesEscaped before = true
  closes : leavesEscaped letters = false

/-- The ends of a line that some reader of source knows. -/
def lineEnds : List Char :=
  ['\n', '\r', '\x0b', '\x0c', '\u0085', '\u2028', '\u2029']

/-! ### Bodies -/

theorem leaves_escaped_append (closed : leavesEscaped front = false) (back : List Char) :
    leavesEscaped (front ++ back) = leavesEscaped back := by
  unfold leavesEscaped at closed ⊢
  rw [List.foldl_append, closed]

theorem LiteralBody.append (left : LiteralBody front) (right : LiteralBody back) :
    LiteralBody (front ++ back) := by
  constructor
  · intro before after whole
    rcases List.append_eq_append_iff.mp whole with ⟨more, rfl, behind⟩ | ⟨more, rfl, behind⟩
    · rw [leaves_escaped_append left.closes]
      exact right.quotes_escaped more after behind
    · cases more with
      | nil => exact absurd (right.quotes_escaped [] after behind.symm) (by decide)
      | cons quote rest =>
          rw [List.cons_append, List.cons.injEq] at behind
          obtain ⟨rfl, _⟩ := behind
          exact left.quotes_escaped before rest rfl
  · rw [leaves_escaped_append left.closes]
    exact right.closes

theorem LiteralBody.plain (bare : ∀ letter ∈ letters, letter ≠ '"' ∧ letter ≠ '\\') :
    LiteralBody letters := by
  constructor
  · rintro before after rfl
    exact absurd rfl (bare '"' (by simp)).1
  · induction letters with
    | nil => rfl
    | cons letter rest induction =>
        obtain ⟨own, others⟩ := List.forall_mem_cons.mp bare
        have closed : leavesEscaped [letter] = false := by simp [leavesEscaped, own.2]
        rw [← List.singleton_append, leaves_escaped_append closed, induction others]

theorem LiteralBody.escape (letter : Char) : LiteralBody ['\\', letter] := by
  constructor
  · intro before after whole
    match before with
    | [] => simp at whole
    | [first] =>
        rw [List.singleton_append, List.cons.injEq] at whole
        rw [← whole.1]
        rfl
    | first :: second :: rest => simp at whole
  · rfl

theorem LiteralBody.flat_map {write : Char → List Char}
    (each : ∀ letter, LiteralBody (write letter)) (letters : List Char) : LiteralBody (letters.flatMap write) := by
  induction letters with
  | nil => exact .plain (by simp)
  | cons letter rest induction => exact (each letter).append induction

/-- A body cannot go on behind the quote that closes it. -/
theorem LiteralBody.not_longer (body : LiteralBody letters) (more : List Char) :
    ¬LiteralBody (letters ++ '"' :: more) := by
  intro longer
  have escaped := longer.quotes_escaped letters more rfl
  rw [body.closes] at escaped
  cases escaped

/-- The literal that some source begins with is determined by the source. -/
theorem LiteralBody.unique {rest rest' : List Char} (body : LiteralBody front)
    (other : LiteralBody back) (same : front ++ '"' :: rest = back ++ '"' :: rest') :
    front = back ∧ rest = rest' := by
  rcases List.append_eq_append_iff.mp same with ⟨more, rfl, behind⟩ | ⟨more, rfl, behind⟩
  · cases more with
    | nil => simpa using behind
    | cons quote more =>
        rw [List.cons_append, List.cons.injEq] at behind
        obtain ⟨rfl, _⟩ := behind
        exact absurd other (body.not_longer more)
  · cases more with
    | nil => simpa [eq_comm] using behind
    | cons quote more =>
        rw [List.cons_append, List.cons.injEq] at behind
        obtain ⟨rfl, _⟩ := behind
        exact absurd body (other.not_longer more)

/-! ### The pieces of a literal -/

theorem code_point_body (character : Char) : LiteralBody (codePointEscape character) := by
  have digits : ∀ digit < 16, Nat.digitChar digit ≠ '"' ∧ Nat.digitChar digit ≠ '\\' := by decide
  have bare : ∀ letter ∈ '\x7b' :: Nat.toDigits 16 character.toNat ++ ['\x7d'],
      letter ≠ '"' ∧ letter ≠ '\\' := by
    intro letter listed
    rcases List.mem_append.mp listed with front | last
    · rcases List.mem_cons.mp front with rfl | hex
      · decide
      · obtain ⟨digit, small, rfl⟩ := mem_hex_digits hex
        exact digits digit small
    · rw [List.mem_singleton.mp last]
      decide
  exact (LiteralBody.escape 'u').append (.plain bare)

theorem literal_char_body (character : Char) : LiteralBody (literalChar character) := by
  unfold literalChar
  split
  · exact .escape _
  · exact .escape _
  · exact .escape _
  · exact .escape _
  · exact .escape _
  · rename_i noQuote noBackslash _ _ _
    split_ifs
    · exact .escape _
    · exact code_point_body character
    · exact .plain (List.forall_mem_singleton.mpr ⟨noQuote, noBackslash⟩)

theorem code_point_same_line (character : Char) :
    ∀ letter ∈ codePointEscape character, letter ∉ lineEnds := by
  have digits : ∀ digit < 16, Nat.digitChar digit ∉ lineEnds := by decide
  refine List.forall_mem_append.mpr ⟨List.forall_mem_append.mpr ⟨?_, ?_⟩, ?_⟩
  · simp [lineEnds]
  · intro letter listed
    obtain ⟨digit, small, rfl⟩ := mem_hex_digits listed
    exact digits digit small
  · simp [lineEnds]

theorem literal_char_same_line (character : Char) :
    ∀ letter ∈ literalChar character, letter ∉ lineEnds := by
  have hidden : ∀ letter ∈ lineEnds,
      letter = '\n' ∨ letter = '\r' ∨ isPrintable letter = false := by
    have each : lineEnds.all (fun letter =>
        letter = '\n' || letter = '\r' || !isPrintable letter) = true := by decide +kernel
    simpa [or_assoc] using List.all_eq_true.mp each
  unfold literalChar
  split
  · simp [lineEnds]
  · simp [lineEnds]
  · simp [lineEnds]
  · simp [lineEnds]
  · simp [lineEnds]
  · rename_i _ _ notFeed notReturn _
    split_ifs with zero escaped
    · simp [lineEnds]
    · exact code_point_same_line character
    · refine List.forall_mem_singleton.mpr fun ends => ?_
      rcases hidden character ends with feed | turn | unseen
      · exact notFeed feed
      · exact notReturn turn
      · simp [unseen] at escaped

/-- The literal of a text is quoted, stands on one line, and ends at its last quote whatever comes
behind it. It is read as the text, so no other text has the same literal. -/
theorem string_literal_denotes (text : String) :
    ∃ body, (stringLiteral text).toList = '"' :: (body ++ ['"']) ∧
      LiteralBody body ∧
      (∀ letter ∈ (stringLiteral text).toList, letter ∉ lineEnds) ∧
      readLiteral (stringLiteral text) = some text ∧
      (∀ other, stringLiteral other = stringLiteral text → other = text) ∧
      ∀ source other rest, (stringLiteral text).toList ++ source = '"' :: (other ++ '"' :: rest) →
        LiteralBody other → other = body ∧ rest = source := by
  have bodied := LiteralBody.flat_map literal_char_body text.toList
  have shape : (stringLiteral text).toList = '"' :: (text.toList.flatMap literalChar ++ ['"']) := by
    simp [stringLiteral]
  refine ⟨text.toList.flatMap literalChar, shape, bodied, ?_, read_string_literal text, ?_, ?_⟩
  · have quote : '"' ∉ lineEnds := by decide
    rw [shape]
    refine List.forall_mem_cons.mpr ⟨quote, ?_⟩
    refine List.forall_mem_append.mpr ⟨?_, List.forall_mem_singleton.mpr quote⟩
    intro letter listed
    obtain ⟨character, _, written⟩ := List.mem_flatMap.mp listed
    exact literal_char_same_line character letter written
  · exact fun other same => string_literal_injective same
  · intro source other rest same closed
    rw [shape, List.cons_append, List.cons.injEq, List.append_assoc] at same
    obtain ⟨rfl, rfl⟩ := bodied.unique closed same.2
    exact ⟨rfl, rfl⟩

end ApiCompiler.Text

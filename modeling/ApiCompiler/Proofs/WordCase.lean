import ApiCompiler.Proofs.Spelling
import ApiCompiler.Proofs.TextPieces
import ApiCompiler.Text.Casing
import Mathlib

/-!
Snake case and camel case. A text in snake case has no capital of ASCII left, although letters of
other alphabets may have ASCII images; and a name that begins with a letter keeps doing so in either
case, with a small one.
-/

set_option autoImplicit false

namespace ApiCompiler.Text

variable {character letter image : Char}

/-! ### Case maps -/

theorem upper_code (upper : letter.isUpper = true) : 65 ≤ letter.toNat ∧ letter.toNat ≤ 90 := by
  simpa [Char.isUpper, UInt32.le_iff_toNat_le] using upper

theorem of_code_not_upper {code : Nat} (large : 90 < code) :
    (Char.ofNat code).isUpper = false := by
  by_contra upper
  have bounds := upper_code (by simpa using upper)
  rw [Char.toNat_ofNat] at bounds
  split_ifs at bounds <;> omega

theorem not_upper_of_not_ascii (other : isAscii letter = false) : letter.isUpper = false := by
  by_contra upper
  have bounds := upper_code (by simpa using upper)
  simp [isAscii] at other
  omega

/-- What a case map gives is in one of its tables, unless a character is its own image. -/
theorem case_image_of_tables {P : Char → Prop} {shifts : List Shift}
    {sequences : List (Nat × List Nat)}
    (inSequences : ∀ entry ∈ sequences, ∀ code ∈ entry.2, P (Char.ofNat code))
    (inShifts : ∀ shift ∈ shifts, ∀ code, shift.image ≤ code → P (Char.ofNat code))
    (own : P character) : ∀ image ∈ caseImage shifts sequences character, P image := by
  unfold caseImage
  split
  · rename_i codes found
    obtain ⟨before, after, shape, _⟩ := List.lookup_eq_some_iff.mp found
    have listed : (character.toNat, codes) ∈ sequences := by simp [shape]
    simpa using inSequences _ listed
  · split
    · rename_i code found
      obtain ⟨shift, listed, rfl⟩ := Option.map_eq_some_iff.mp found
      have moved : shift.image ≤ shift.apply character.toNat := Nat.le_add_left _ _
      simpa using inShifts shift (List.mem_of_find?_eq_some listed) _ moved
    · simpa using own

/-- Capitals of other alphabets may have images in ASCII, but not among its capitals. -/
theorem lowercase_not_upper (listed : image ∈ lowercase letter) : image.isUpper = false := by
  unfold lowercase at listed
  split_ifs at listed with ascii
  · rw [List.mem_singleton.mp listed]
    exact Char.isUpper_toLower_eq_false letter
  -- The sequences hold no such capital, and every shift leads beyond the last of them.
  · have sequences : ∀ entry ∈ lowerSequences, ∀ code ∈ entry.2,
        (Char.ofNat code).isUpper = false := by decide
    have beyond : ∀ shift ∈ lowerShifts, 90 < shift.image := by decide +kernel
    have shifts : ∀ shift ∈ lowerShifts, ∀ code, shift.image ≤ code →
        (Char.ofNat code).isUpper = false :=
      fun shift listed code moved => of_code_not_upper ((beyond shift listed).trans_le moved)
    have own : letter.isUpper = false := not_upper_of_not_ascii (by simpa using ascii)
    exact case_image_of_tables (P := fun image => image.isUpper = false) sequences shifts own image
      listed

theorem not_upper_of_not_uppercase (small : isUppercase letter = false) :
    letter.isUpper = false := by
  unfold isUppercase at small
  split_ifs at small with ascii
  · exact small
  · exact not_upper_of_not_ascii (by simpa using ascii)

/-! ### Words -/

variable {text : String} {letters rest : List Char}

/-- Marking the words of a text gives underscores, the images of capitals, and other letters and
digits as they are. -/
theorem mark_words_all {P : Char → Prop} (afterSmall : Bool) (underscore : P '_')
    (image : ∀ letter ∈ letters, isUppercase letter = true → ∀ image ∈ lowercase letter, P image)
    (own : ∀ letter ∈ letters, isUppercase letter = false → isAlphanumeric letter = true →
      P letter) :
    ∀ character ∈ markWords afterSmall letters, P character := by
  induction letters generalizing afterSmall with
  | nil => simp [markWords]
  | cons letter letters induction =>
      obtain ⟨imageFirst, imageRest⟩ := List.forall_mem_cons.mp image
      obtain ⟨ownFirst, ownRest⟩ := List.forall_mem_cons.mp own
      have rest := fun afterSmall => induction afterSmall imageRest ownRest
      rw [markWords]
      split_ifs with upper after known mark
      · rw [List.forall_mem_append, List.forall_mem_append]
        exact ⟨⟨List.forall_mem_singleton.mpr underscore, imageFirst upper⟩, rest false⟩
      · rw [List.forall_mem_append, List.forall_mem_append]
        exact ⟨⟨by simp, imageFirst upper⟩, rest false⟩
      · exact List.forall_mem_cons.mpr ⟨ownFirst (by simpa using upper) known, rest _⟩
      · exact List.forall_mem_cons.mpr ⟨underscore, rest false⟩
      · exact rest afterSmall

theorem mark_words_not_upper (afterSmall : Bool) (letters : List Char) :
    ∀ character ∈ markWords afterSmall letters, character.isUpper = false :=
  mark_words_all afterSmall rfl (fun _ _ _ _ => lowercase_not_upper)
    fun _ _ small _ => not_upper_of_not_uppercase small

theorem mem_of_word {word : List Char} (listed : word ∈ words text) (inside : character ∈ word) :
    character ∈ markWords false text.toList ∧ character ≠ '_' := by
  have whole := pieces_from _ word (List.mem_filter.mp listed).1 character inside
  exact ⟨whole.1, by simpa using whole.2⟩

theorem mem_join_words {parts : List (List Char)} (listed : character ∈ joinWords parts) :
    character = '_' ∨ ∃ word ∈ parts, character ∈ word := by
  induction parts using joinWords.induct with
  | case1 => cases listed
  | case2 word => exact .inr ⟨word, List.mem_singleton_self word, listed⟩
  | case3 word rest more induction =>
      rw [joinWords, List.mem_append, List.mem_cons] at listed
      · rcases listed with own | rfl | later
        · exact .inr ⟨word, List.mem_cons_self, own⟩
        · exact .inl rfl
        · obtain separator | ⟨other, member, inside⟩ := induction later
          · exact .inl separator
          · exact .inr ⟨other, List.mem_cons_of_mem _ member, inside⟩
      · exact more

theorem mem_snake_case (listed : character ∈ (toSnakeCase text).toList) :
    character = '_' ∨ character ∈ markWords false text.toList := by
  rw [toSnakeCase, String.toList_ofList] at listed
  exact (mem_join_words listed).imp_right fun ⟨_, member, inside⟩ => (mem_of_word member inside).1

theorem snake_case_not_upper (text : String) :
    ∀ character ∈ (toSnakeCase text).toList, character.isUpper = false := by
  intro character listed
  rcases mem_snake_case listed with rfl | marked
  · decide
  · exact mark_words_not_upper false _ character marked

/-! ### Names -/

theorem identifier_ascii (known : isIdentifierChar letter = true) : isAscii letter = true := by
  simp only [isIdentifierChar, Char.isAlphanum, Char.isAlpha, Char.isUpper, Char.isLower,
    Char.isDigit, Bool.or_eq_true, Bool.and_eq_true, decide_eq_true_eq, ge_iff_le,
    UInt32.le_iff_toNat_le] at known
  rcases known with ((upper | lower) | digit) | underscore
  · exact decide_eq_true (Nat.lt_of_le_of_lt upper.2 (by decide))
  · exact decide_eq_true (Nat.lt_of_le_of_lt lower.2 (by decide))
  · exact decide_eq_true (Nat.lt_of_le_of_lt digit.2 (by decide))
  · subst underscore
    rfl

theorem identifier_of_alphanum (known : letter.isAlphanum = true) :
    isIdentifierChar letter = true := by
  simp [isIdentifierChar, known]

theorem identifier_of_alpha (known : letter.isAlpha = true) : isIdentifierChar letter = true :=
  identifier_of_alphanum (by simp [Char.isAlphanum, known])

theorem snake_of_lower (small : letter.isLower = true) : isSnakeChar letter = true := by
  simp [isSnakeChar, small]

theorem snake_of_identifier (known : isIdentifierChar letter = true)
    (small : letter.isUpper = false) : isSnakeChar letter = true := by
  simpa [isIdentifierChar, isSnakeChar, Char.isAlphanum, Char.isAlpha, small] using known

theorem lower_or_digit_of_snake (known : isSnakeChar letter = true) (named : letter ≠ '_') :
    letter.isLower = true ∨ letter.isDigit = true := by
  simpa [isSnakeChar, named] using known

theorem alphanum_of_snake (known : isSnakeChar letter = true) (named : letter ≠ '_') :
    letter.isAlphanum = true := by
  rcases lower_or_digit_of_snake known named with small | digit
  · simp [Char.isAlphanum, Char.isAlpha, small]
  · simp [Char.isAlphanum, digit]

theorem mark_words_snake (afterSmall : Bool) {letters : List Char}
    (ascii : ∀ letter ∈ letters, isAscii letter = true) :
    ∀ character ∈ markWords afterSmall letters, isSnakeChar character = true := by
  refine mark_words_all (P := fun character => isSnakeChar character = true) afterSmall rfl ?_ ?_
  · intro letter listed upper image inside
    rw [isUppercase, if_pos (ascii letter listed)] at upper
    rw [lowercase, if_pos (ascii letter listed)] at inside
    rw [List.mem_singleton.mp inside]
    exact snake_of_lower ((Char.isLower_toLower_eq_isAlpha letter).trans
      (by simp [Char.isAlpha, upper]))
  · intro letter listed small known
    rw [isAlphanumeric, if_pos (ascii letter listed)] at known
    exact snake_of_identifier (identifier_of_alphanum known) (not_upper_of_not_uppercase small)

/-- A letter at the beginning stays there, in lower case. -/
theorem mark_words_begin (alpha : letter.isAlpha = true) (rest : List Char) :
    ∃ afterSmall, markWords false (letter :: rest) =
      letter.toLower :: markWords afterSmall rest := by
  have ascii := identifier_ascii (identifier_of_alpha alpha)
  have alphanumeric : isAlphanumeric letter = true := by
    simp [isAlphanumeric, ascii, Char.isAlphanum, alpha]
  cases upper : isUppercase letter with
  | true => exact ⟨false, by simp [markWords, upper, lowercase, ascii]⟩
  | false =>
      have small := not_upper_of_not_uppercase upper
      rw [Char.toLower_eq_of_not_isUpper (by simpa using small)]
      exact ⟨isLowercase letter || letter.isDigit, by simp [markWords, upper, alphanumeric]⟩

theorem words_begin (alpha : letter.isAlpha = true) (shape : text.toList = letter :: rest) :
    ∃ tail others, words text = (letter.toLower :: tail) :: others := by
  obtain ⟨afterSmall, marked⟩ := mark_words_begin alpha rest
  have small : letter.toLower.isLower = true :=
    (Char.isLower_toLower_eq_isAlpha letter).trans alpha
  have unbroken : letter.toLower ≠ '_' := by
    intro same
    rw [same] at small
    cases small
  have some : pieces (· = '_') (markWords afterSmall rest) ≠ [] := pieces_ne_nil _
  obtain ⟨piece, others, cut⟩ := List.exists_cons_of_ne_nil some
  refine ⟨piece, others.filter fun word => !word.isEmpty, ?_⟩
  simp [words, shape, marked, pieces, unbroken, cut]

theorem word_characters (known : ∀ letter ∈ text.toList, isIdentifierChar letter = true) :
    ∀ word ∈ words text, ∀ character ∈ word, character.isAlphanum = true := by
  intro word listed character inside
  obtain ⟨marked, named⟩ := mem_of_word listed inside
  have ascii := fun letter listed => identifier_ascii (known letter listed)
  exact alphanum_of_snake (mark_words_snake false ascii character marked) named

theorem IsPlainName.characters (plain : IsPlainName text) :
    ∀ letter ∈ text.toList, isIdentifierChar letter = true := by
  obtain ⟨head, tail, shape, alpha, others⟩ := plain
  rw [shape]
  exact List.forall_mem_cons.mpr ⟨identifier_of_alpha alpha, others⟩

theorem IsPlainName.snake_case (plain : IsPlainName text) : IsSnakeName (toSnakeCase text) := by
  have known : ∀ character ∈ (toSnakeCase text).toList, isSnakeChar character = true := by
    intro character listed
    rcases mem_snake_case listed with rfl | marked
    · rfl
    · have ascii := fun letter listed => identifier_ascii (plain.characters letter listed)
      exact mark_words_snake false ascii character marked
  obtain ⟨letter, rest, shape, alpha, _⟩ := plain
  obtain ⟨tail, others, begins⟩ := words_begin alpha shape
  obtain ⟨more, joined⟩ : ∃ more, (toSnakeCase text).toList = letter.toLower :: more := by
    rw [toSnakeCase, begins, String.toList_ofList]
    cases others with
    | nil => exact ⟨tail, rfl⟩
    | cons other others => exact ⟨_, rfl⟩
  rw [joined, List.forall_mem_cons] at known
  exact ⟨letter.toLower, more, joined, (Char.isLower_toLower_eq_isAlpha letter).trans alpha,
    known.2⟩

theorem uppercase_alphanum (known : letter.isAlphanum = true) :
    uppercase letter = [letter.toUpper] ∧ letter.toUpper.isAlphanum = true := by
  have ascii := identifier_ascii (identifier_of_alphanum known)
  refine ⟨by rw [uppercase, if_pos ascii], ?_⟩
  by_cases small : letter.isLower = true
  · simp [Char.isAlphanum, Char.isAlpha_toUpper_eq_isAlpha, lower_is_alpha small]
  · rwa [Char.toUpper_eq_of_not_isLower small]

theorem capitalize_alphanum {word : List Char}
    (known : ∀ character ∈ word, character.isAlphanum = true) :
    ∀ character ∈ capitalize word, character.isAlphanum = true := by
  cases word with
  | nil => exact known
  | cons letter rest =>
      obtain ⟨own, others⟩ := List.forall_mem_cons.mp known
      obtain ⟨image, upper⟩ := uppercase_alphanum own
      rw [capitalize, image, List.singleton_append]
      exact List.forall_mem_cons.mpr ⟨upper, others⟩

theorem IsPlainName.lower_camel_case (plain : IsPlainName text) :
    IsCamelName (toLowerCamelCase text) := by
  have known := word_characters plain.characters
  obtain ⟨letter, rest, shape, alpha, _⟩ := plain
  obtain ⟨tail, others, begins⟩ := words_begin alpha shape
  rw [begins, List.forall_mem_cons, List.forall_mem_cons] at known
  obtain ⟨⟨own, first⟩, later⟩ := known
  obtain ⟨image, upper⟩ := uppercase_alphanum own
  have ascii := identifier_ascii (identifier_of_alphanum upper)
  have camel : (toLowerCamelCase text).toList =
      letter.toLower :: (tail ++ others.flatMap capitalize) := by
    rw [toLowerCamelCase, String.toList_ofList, upperCamel, begins, List.flatMap_cons, capitalize,
      image, List.singleton_append, List.cons_append, uncapitalize, lowercase, if_pos ascii,
      Char.toLower_toUpper_eq_toLower, Char.toLower_toLower_eq_toLower, List.singleton_append]
  refine ⟨letter.toLower, _, camel, (Char.isLower_toLower_eq_isAlpha letter).trans alpha, ?_⟩
  rw [List.forall_mem_append]
  refine ⟨first, ?_⟩
  intro character listed
  obtain ⟨word, member, inside⟩ := List.mem_flatMap.mp listed
  exact capitalize_alphanum (later word member) character inside

end ApiCompiler.Text

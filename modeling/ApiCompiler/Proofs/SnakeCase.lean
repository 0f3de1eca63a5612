import ApiCompiler.Proofs.WordCase

/-!
Snake case as a normal form. What snake case makes of a text of ASCII characters is words of small
letters and digits with single underscores between them, or nothing; its letters and digits are
those of the text. A text of that form is its own snake case. It can be made in two passes over the
text as well, one that marks the ends of words and one that merges the marks.
-/

set_option autoImplicit false

namespace ApiCompiler.Text

/-- The words `[a-z0-9]+`. -/
def IsSnakeWord (word : List Char) : Prop :=
  word ≠ [] ∧ ∀ character ∈ word, character.isLower = true ∨ character.isDigit = true

/-- Words with single underscores between them. Without any words that is the empty text. -/
def IsSnakeText (text : String) : Prop :=
  ∃ parts, (∀ word ∈ parts, IsSnakeWord word) ∧ text.toList = ['_'].intercalate parts

variable {character letter : Char} {word letters : List Char} {parts : List (List Char)}
  {text : String}

/-! ### Words and marks -/

/-- What may stand between two underscores. -/
def IsWord (word : List Char) : Prop := word ≠ [] ∧ '_' ∉ word

/-- The words of a text in which they are marked. -/
def markedWords (marked : List Char) : List (List Char) :=
  (pieces (· = '_') marked).filter fun word => !word.isEmpty

theorem IsWord.pieces (isWord : IsWord word) : pieces (· = '_') word = [word] :=
  pieces_whole fun _ listed => decide_eq_false fun same => isWord.2 (same ▸ listed)

theorem marked_words_append (before after : List Char) :
    markedWords (before ++ '_' :: after) = markedWords before ++ markedWords after := by
  rw [markedWords, pieces_append_break (by rfl), List.filter_append]
  rfl

/-- Between underscores stand the words, each of them once. -/
theorem marked_words_join (each : ∀ word ∈ parts, IsWord word) :
    markedWords (joinWords parts) = parts := by
  have single : ∀ word, IsWord word → markedWords word = [word] := by
    intro word isWord
    rw [markedWords, isWord.pieces, List.filter_cons_of_pos (by simpa using isWord.1)]
    rfl
  induction parts using joinWords.induct with
  | case1 => rfl
  | case2 word => exact single word (each word List.mem_cons_self)
  | case3 word rest more induction =>
      obtain ⟨own, others⟩ := List.forall_mem_cons.mp each
      rw [joinWords, marked_words_append, single word own, induction others,
        List.singleton_append]
      exact more

theorem join_words_concat (some : parts ≠ []) (word : List Char) :
    joinWords (parts ++ [word]) = joinWords parts ++ '_' :: word := by
  induction parts using joinWords.induct with
  | case1 => exact absurd rfl some
  | case2 first => rfl
  | case3 first rest more induction =>
      rw [List.cons_append, joinWords, joinWords, induction more, List.append_assoc,
        List.cons_append]
      · exact more
      · simp

/-- A letter behind words makes the last of them longer. -/
theorem join_words_lengthen (word behind : List Char) :
    joinWords (parts ++ [word ++ behind]) = joinWords (parts ++ [word]) ++ behind := by
  rcases eq_or_ne parts [] with rfl | some
  · rfl
  · rw [join_words_concat some, join_words_concat some, List.append_assoc, List.cons_append]

theorem join_words_begin (each : ∀ word ∈ parts, IsWord word) (some : parts ≠ []) :
    ∃ first rest, joinWords parts = first :: rest ∧ first ≠ '_' := by
  obtain ⟨word, others, rfl⟩ := List.exists_cons_of_ne_nil some
  obtain ⟨nonempty, unbroken⟩ := each word List.mem_cons_self
  obtain ⟨first, rest, rfl⟩ := List.exists_cons_of_ne_nil nonempty
  have named : first ≠ '_' := fun same => unbroken (same ▸ List.mem_cons_self)
  cases others with
  | nil => exact ⟨first, rest, rfl, named⟩
  | cons other others => exact ⟨first, _, rfl, named⟩

theorem join_words_end (each : ∀ word ∈ parts, IsWord word) (some : parts ≠ []) :
    ∃ front last, joinWords parts = front ++ [last] ∧ last ≠ '_' := by
  obtain ⟨others, word, rfl⟩ := (List.eq_nil_or_concat' parts).resolve_left some
  obtain ⟨nonempty, unbroken⟩ := each word (by simp)
  obtain ⟨front, last, rfl⟩ := (List.eq_nil_or_concat' word).resolve_left nonempty
  exact ⟨_, last, join_words_lengthen front [last], fun same => unbroken (by simp [same])⟩

/-- Marks behind joined words are trimmed, and nothing else is. -/
theorem join_words_trimmed (some : parts ≠ []) (each : ∀ word ∈ parts, IsWord word)
    {behind : List Char} (marks : ∀ character ∈ behind, character = '_') :
    trimUnderscores (joinWords parts ++ behind) = joinWords parts := by
  obtain ⟨first, rest, begins, named⟩ := join_words_begin each some
  obtain ⟨front, last, ends, kept⟩ := join_words_end each some
  have whole : (joinWords parts ++ behind).dropWhile (· = '_') = joinWords parts ++ behind := by
    rw [begins, List.cons_append, List.dropWhile_cons_of_neg (by simpa using named)]
  have blank : behind.reverse.dropWhile (· = '_') = [] :=
    List.dropWhile_eq_nil_iff.mpr (by simpa using marks)
  rw [trimUnderscores, whole, List.reverse_append, List.dropWhile_append, blank,
    if_pos List.isEmpty_nil, ends, List.reverse_append, List.reverse_singleton,
    List.singleton_append, List.dropWhile_cons_of_neg (by simpa using kept), List.reverse_cons,
    List.reverse_reverse]

theorem join_words_eq (parts : List (List Char)) : joinWords parts = ['_'].intercalate parts := by
  induction parts using joinWords.induct with
  | case1 => rfl
  | case2 word => simp [joinWords]
  | case3 word rest more induction =>
      rw [joinWords, induction, List.intercalate_cons_of_ne_nil more, List.append_assoc,
        List.singleton_append]
      exact more

/-! ### Texts in snake case -/

theorem snake_of_lower_or_digit (known : letter.isLower = true ∨ letter.isDigit = true) :
    isSnakeChar letter = true := by
  rcases known with small | digit
  · exact snake_of_lower small
  · simp [isSnakeChar, digit]

theorem IsSnakeWord.isWord (snake : IsSnakeWord word) : IsWord word := by
  refine ⟨snake.1, fun listed => ?_⟩
  have small := snake.2 '_' listed
  revert small
  decide

theorem join_words_snake (snake : ∀ word ∈ parts, IsSnakeWord word) :
    ∀ letter ∈ joinWords parts, isSnakeChar letter = true := by
  intro letter listed
  rcases mem_join_words listed with rfl | ⟨word, member, inside⟩
  · rfl
  · exact snake_of_lower_or_digit ((snake word member).2 letter inside)

theorem not_upper_of_digit (digit : letter.isDigit = true) : letter.isUpper = false := by
  by_contra upper
  have bounds := upper_code (by simpa using upper)
  have code : letter.toNat ≤ 57 := by
    simp only [Char.isDigit, Bool.and_eq_true, decide_eq_true_eq, UInt32.le_iff_toNat_le] at digit
    exact digit.2
  omega

/-- Small letters, digits and underscores are marked by themselves. -/
theorem mark_words_of_snake (snake : ∀ letter ∈ letters, isSnakeChar letter = true)
    (afterSmall : Bool) : markWords afterSmall letters = letters := by
  induction letters generalizing afterSmall with
  | nil => rfl
  | cons letter rest induction =>
      obtain ⟨first, others⟩ := List.forall_mem_cons.mp snake
      rw [markWords]
      by_cases underscore : letter = '_'
      · subst underscore
        rw [if_neg (by decide), if_neg (by decide), if_pos (by decide), induction others]
      · have alphanum := alphanum_of_snake first underscore
        have ascii := identifier_ascii (identifier_of_alphanum alphanum)
        have small : letter.isUpper = false := by
          rcases lower_or_digit_of_snake first underscore with lower | digit
          · simpa using Char.not_isUpper_of_isLower lower
          · exact not_upper_of_digit digit
        rw [if_neg (by simp [isUppercase, ascii, small]),
          if_pos (by rw [isAlphanumeric, if_pos ascii, alphanum]), induction others]

theorem words_join_words (snake : ∀ word ∈ parts, IsSnakeWord word) :
    words (String.ofList (joinWords parts)) = parts := by
  rw [words, String.toList_ofList, mark_words_of_snake (join_words_snake snake)]
  exact marked_words_join fun word listed => (snake word listed).isWord

/-- A text in snake case is its own snake case. -/
theorem IsSnakeText.to_snake_case (snake : IsSnakeText text) : toSnakeCase text = text := by
  obtain ⟨parts, each, shape⟩ := snake
  rw [← join_words_eq] at shape
  have same : String.ofList (joinWords parts) = text := by rw [← shape, String.ofList_toList]
  rw [← same, toSnakeCase, words_join_words each]

/-! ### Snake case of ASCII -/

/-- An underscore ends a word, so no word holds one. -/
theorem words_snake (ascii : ∀ letter ∈ text.toList, isAscii letter = true) :
    ∀ word ∈ words text, IsSnakeWord word := by
  intro word listed
  refine ⟨by simpa using (List.mem_filter.mp listed).2, ?_⟩
  intro character inside
  obtain ⟨marked, named⟩ := mem_of_word listed inside
  exact lower_or_digit_of_snake (mark_words_snake false ascii character marked) named

theorem snake_case_is_snake (ascii : ∀ letter ∈ text.toList, isAscii letter = true) :
    IsSnakeText (toSnakeCase text) :=
  ⟨words text, words_snake ascii, by rw [toSnakeCase, String.toList_ofList, join_words_eq]⟩

theorem join_words_filter {keep : Char → Bool} (drops : keep '_' = false)
    (parts : List (List Char)) : (joinWords parts).filter keep = parts.flatten.filter keep := by
  induction parts using joinWords.induct with
  | case1 => rfl
  | case2 word => simp [joinWords]
  | case3 word rest more induction =>
      rw [joinWords, List.filter_append, List.filter_cons_of_neg (by simp [drops]), induction,
        List.flatten_cons, List.filter_append]
      exact more

/-- Marking the words keeps the letters and digits, each in lower case. -/
theorem mark_words_letters (ascii : ∀ letter ∈ letters, isAscii letter = true)
    (afterSmall : Bool) : (markWords afterSmall letters).filter Char.isAlphanum =
      (letters.filter Char.isAlphanum).map Char.toLower := by
  induction letters generalizing afterSmall with
  | nil => rfl
  | cons letter rest induction =>
      obtain ⟨first, others⟩ := List.forall_mem_cons.mp ascii
      rw [markWords, isUppercase, if_pos first, isAlphanumeric, if_pos first, lowercase,
        if_pos first]
      by_cases upper : letter.isUpper = true
      · have alpha : letter.isAlpha = true := by simp [Char.isAlpha, upper]
        have image : letter.toLower.isAlphanum = true := by
          simp [Char.isAlphanum, Char.isAlpha_toLower_eq_isAlpha, alpha]
        have own : letter.isAlphanum = true := by simp [Char.isAlphanum, alpha]
        have mark : (if afterSmall then ['_'] else []).filter Char.isAlphanum = [] := by
          split_ifs <;> rfl
        rw [if_pos upper, List.filter_append, List.filter_append, mark, induction others,
          List.filter_cons_of_pos own, List.map_cons, List.filter_cons_of_pos image]
        rfl
      · have same : letter.toLower = letter := Char.toLower_eq_of_not_isUpper upper
        rw [if_neg upper]
        by_cases known : letter.isAlphanum = true
        · rw [if_pos known, List.filter_cons_of_pos known, List.filter_cons_of_pos known,
            induction others, List.map_cons, same]
        · rw [if_neg known, List.filter_cons_of_neg known]
          split_ifs
          · rw [List.filter_cons_of_neg (by decide), induction others]
          · exact induction others afterSmall

theorem snake_case_letters (ascii : ∀ letter ∈ text.toList, isAscii letter = true) :
    (toSnakeCase text).toList.filter Char.isAlphanum =
      (text.toList.filter Char.isAlphanum).map Char.toLower := by
  have breaks : ∀ character, decide (character = '_') = true → character.isAlphanum = false := by
    intro character same
    rw [of_decide_eq_true same]
    rfl
  rw [toSnakeCase, String.toList_ofList, join_words_filter (by rfl), words,
    List.flatten_filter_not_isEmpty, pieces_flatten_filter breaks, mark_words_letters ascii]

/-! ### In two passes -/

/-- The text behind a result, with its words marked. A break is marked where there is a result that
does not end with a mark. -/
def markInto : (result : List Char) → (afterSmall : Bool) → List Char → List Char
  | result, _, [] => result
  | result, afterSmall, character :: rest =>
      if isUppercase character then
        markInto (result ++ (if afterSmall then ['_'] else []) ++ lowercase character) false rest
      else if isAlphanumeric character then
        markInto (result ++ [character]) (isLowercase character || character.isDigit) rest
      else if isWordBreak character then
        markInto (if result.isEmpty || result.getLast? = some '_' then result else result ++ ['_'])
          false rest
      else markInto result afterSmall rest

/-- The text behind a result, with one mark in place of many. -/
def mergeMarks : (result : List Char) → (afterMark : Bool) → List Char → List Char
  | result, _, [] => result
  | result, afterMark, character :: rest =>
      if character = '_' then
        mergeMarks (if afterMark || result.isEmpty then result else result ++ ['_']) true rest
      else mergeMarks (result ++ [character]) false rest

/-- A mark at the beginning or behind another one makes no difference to the words. -/
theorem marked_words_skip {result : List Char}
    (marked : (result.isEmpty || result.getLast? = some '_') = true) (rest : List Char) :
    markedWords (result ++ '_' :: rest) = markedWords (result ++ rest) := by
  rw [marked_words_append]
  rcases List.eq_nil_or_concat' result with rfl | ⟨front, last, rfl⟩
  · rfl
  · have same : last = '_' := by simpa using marked
    rw [same, List.append_assoc, List.singleton_append, marked_words_append, marked_words_append,
      List.append_assoc]
    rfl

theorem marked_words_mark_into (result : List Char) (afterSmall : Bool) (letters : List Char) :
    markedWords (markInto result afterSmall letters) =
      markedWords (result ++ markWords afterSmall letters) := by
  induction letters generalizing result afterSmall with
  | nil => rw [markInto, markWords, List.append_nil]
  | cons letter rest induction =>
      rw [markInto, markWords]
      split_ifs with upper after known breaks marked
      · rw [induction, List.append_assoc, List.append_assoc, List.append_assoc]
      · rw [induction, List.append_assoc, List.append_assoc, List.append_assoc]
      · rw [induction, List.append_assoc, List.singleton_append]
      · rw [induction, marked_words_skip marked]
      · rw [induction, List.append_assoc, List.singleton_append]
      · rw [induction]

/-- Words with single marks between them, and perhaps one behind the last. -/
inductive Merged : (result : List Char) → (afterMark : Bool) → List (List Char) → Prop
  | start (afterMark : Bool) : Merged [] afterMark []
  | words {parts : List (List Char)} (some : parts ≠ []) (each : ∀ word ∈ parts, IsWord word) :
      Merged (joinWords parts) false parts
  | mark {parts : List (List Char)} (some : parts ≠ []) (each : ∀ word ∈ parts, IsWord word) :
      Merged (joinWords parts ++ ['_']) true parts

namespace Merged

variable {result : List Char} {afterMark : Bool}

theorem marked_words (merged : Merged result afterMark parts) : markedWords result = parts := by
  cases merged with
  | start => rfl
  | words some each => exact marked_words_join each
  | mark some each =>
      rw [marked_words_append, marked_words_join each]
      exact List.append_nil parts

theorem step_mark (merged : Merged result afterMark parts) :
    Merged (if afterMark || result.isEmpty then result else result ++ ['_']) true parts := by
  cases merged with
  | start => simpa using Merged.start true
  | words some each =>
      obtain ⟨first, rest, shape, _⟩ := join_words_begin each some
      simpa [shape] using Merged.mark some each
  | mark some each => exact .mark some each

theorem marked_words_step (merged : Merged result afterMark parts) (rest : List Char) :
    markedWords ((if afterMark || result.isEmpty then result else result ++ ['_']) ++ rest) =
      markedWords (result ++ '_' :: rest) := by
  cases merged with
  | start afterMark => cases afterMark <;> exact (marked_words_skip rfl rest).symm
  | words some each =>
      obtain ⟨first, behind, shape, _⟩ := join_words_begin each some
      simp [shape]
  | mark some each => exact (marked_words_skip (by simp) rest).symm

theorem step_letter (merged : Merged result afterMark parts) (named : letter ≠ '_') :
    ∃ parts', Merged (result ++ [letter]) false parts' := by
  have single : IsWord [letter] := ⟨List.cons_ne_nil _ _, by simpa using Ne.symm named⟩
  cases merged with
  | start => exact ⟨[[letter]], .words (List.cons_ne_nil _ _) (List.forall_mem_singleton.mpr single)⟩
  | words some each =>
      obtain ⟨others, word, rfl⟩ := (List.eq_nil_or_concat' parts).resolve_left some
      obtain ⟨front, last⟩ := List.forall_mem_append.mp each
      have own : IsWord (word ++ [letter]) := by
        have unbroken := (List.forall_mem_singleton.mp last).2
        exact ⟨by simp, by simpa [Ne.symm named] using unbroken⟩
      refine ⟨others ++ [word ++ [letter]], ?_⟩
      rw [← join_words_lengthen]
      exact .words (by simp) (List.forall_mem_append.mpr ⟨front, by simpa using own⟩)
  | mark some each =>
      refine ⟨parts ++ [[letter]], ?_⟩
      rw [List.append_assoc, List.singleton_append, ← join_words_concat some]
      exact .words (by simp) (List.forall_mem_append.mpr ⟨each, by simpa using single⟩)

/-- Merging leaves the words as they are. -/
theorem run (merged : Merged result afterMark parts) (rest : List Char) :
    ∃ afterMark', Merged (mergeMarks result afterMark rest) afterMark'
      (markedWords (result ++ rest)) := by
  induction rest generalizing result afterMark parts with
  | nil =>
      rw [List.append_nil, merged.marked_words]
      exact ⟨afterMark, merged⟩
  | cons letter rest induction =>
      by_cases same : letter = '_'
      · rw [mergeMarks, if_pos same, same, ← merged.marked_words_step]
        exact induction merged.step_mark
      · obtain ⟨parts', next⟩ := merged.step_letter same
        rw [mergeMarks, if_neg same, List.append_cons result letter rest]
        exact induction next

theorem trimmed (merged : Merged result afterMark parts) :
    trimUnderscores result = joinWords parts := by
  cases merged with
  | start => rfl
  | words some each => simpa using join_words_trimmed some each (List.forall_mem_nil _)
  | mark some each => exact join_words_trimmed some each (by simp)

end Merged

/-- Snake case is what is left when the marks are merged and those at the ends are removed. -/
theorem snake_case_in_passes (text : String) :
    toSnakeCase text =
      String.ofList (trimUnderscores (mergeMarks [] false (markInto [] false text.toList))) := by
  obtain ⟨_, merged⟩ := (Merged.start false).run (markInto [] false text.toList)
  rw [merged.trimmed, List.nil_append, marked_words_mark_into]
  rfl

/-- The words of a text are what stands between the underscores of its snake case. -/
theorem marked_words_snake_case (text : String) :
    markedWords (toSnakeCase text).toList = words text := by
  rw [toSnakeCase, String.toList_ofList]
  apply marked_words_join
  intro word listed
  have some : word ≠ [] := by simpa using (List.mem_filter.mp listed).2
  exact ⟨some, fun inside => (mem_of_word listed inside).2 rfl⟩

/-! ### The normal form -/

/-- Snake case brings every text of ASCII characters into a normal form. All that is lost is the
case of letters and what stands between letters and digits. -/
theorem snake_case_normal (text : String) (ascii : ∀ letter ∈ text.toList, isAscii letter = true) :
    IsSnakeText (toSnakeCase text) ∧
      (toSnakeCase text).toList.filter Char.isAlphanum =
        (text.toList.filter Char.isAlphanum).map Char.toLower ∧
      toSnakeCase (toSnakeCase text) = toSnakeCase text :=
  ⟨snake_case_is_snake ascii, snake_case_letters ascii, (snake_case_is_snake ascii).to_snake_case⟩

theorem release_title_normal : (∀ letter ∈ "_HTTPServer2Go--v1.0 (Beta)!".toList,
      isAscii letter = true) ∧
    toSnakeCase "_HTTPServer2Go--v1.0 (Beta)!" = "httpserver2_go_v10_beta" ∧
      IsSnakeText "httpserver2_go_v10_beta" ∧
      "httpserver2_go_v10_beta".toList.filter Char.isAlphanum =
        ("_HTTPServer2Go--v1.0 (Beta)!".toList.filter Char.isAlphanum).map Char.toLower ∧
      toSnakeCase "httpserver2_go_v10_beta" = "httpserver2_go_v10_beta" := by
  have ascii : ∀ letter ∈ "_HTTPServer2Go--v1.0 (Beta)!".toList, isAscii letter = true :=
    List.all_eq_true.mp (by cbv)
  have cased : toSnakeCase "_HTTPServer2Go--v1.0 (Beta)!" = "httpserver2_go_v10_beta" := by cbv
  obtain ⟨snake, letters, again⟩ := snake_case_normal _ ascii
  rw [cased] at snake letters again
  exact ⟨ascii, cased, snake, letters, again⟩

end ApiCompiler.Text

import ApiCompiler.Proofs.TemplateGrammar

/-!
The two readers of path templates agree. A text has at most one decomposition by the grammar, which
the check accepts; the scan finds, in any text, the leftmost named parameters one behind the other,
and where there is a decomposition those are its names.
-/

set_option autoImplicit false

namespace ApiCompiler.PathTemplate

variable {text rest read name : List Char} {found other : List (List Char)}

/-! ### One decomposition -/

/-- A name goes as far as its characters do. -/
theorem name_before_brace (characters : ∀ character ∈ name, isNameChar character)
    (rest : List Char) : (name ++ '}' :: rest).takeWhile isNameChar = name := by
  rw [List.takeWhile_append_of_pos characters]
  simp [isNameChar]

/-- A piece is the only one that its text begins with. -/
theorem Piece.text_cancel {piece other : Piece} {rest' : List Char} (valid : piece.Valid)
    (valid' : other.Valid) (same : piece.text ++ rest = other.text ++ rest') :
    piece = other ∧ rest = rest' := by
  cases piece with
  | plain character =>
      cases other with
      | plain character' => simpa [text] using same
      | parameter name => exact absurd (List.cons.inj same).1 valid.1
  | parameter name =>
      cases other with
      | plain character => exact absurd (List.cons.inj same).1.symm valid'.1
      | parameter name' =>
          have inside : name ++ '}' :: rest = name' ++ '}' :: rest' := by simpa [text] using same
          have named := congrArg (List.takeWhile isNameChar) inside
          rw [name_before_brace valid.2, name_before_brace valid'.2] at named
          subst named
          simpa using inside

theorem Spells.unique {pieces other : List Piece} (first : Spells pieces text)
    (second : Spells other text) : pieces = other := by
  have nonempty : ∀ piece : Piece, piece.text ≠ [] := by
    intro piece
    cases piece <;> simp [Piece.text]
  induction pieces generalizing other text with
  | nil =>
      cases other with
      | nil => rfl
      | cons piece' pieces' =>
          have same := first.2.symm.trans second.2
          simp [nonempty piece'] at same
  | cons piece pieces induction =>
      cases other with
      | nil =>
          have same := first.2.symm.trans second.2
          simp [nonempty piece] at same
      | cons piece' pieces' =>
          obtain ⟨valid, others⟩ := List.forall_mem_cons.mp first.1
          obtain ⟨valid', others'⟩ := List.forall_mem_cons.mp second.1
          have same := first.2.symm.trans second.2
          rw [List.flatMap_cons, List.flatMap_cons] at same
          obtain ⟨rfl, behind⟩ := Piece.text_cancel valid valid' same
          rw [induction ⟨others, rfl⟩ ⟨others', behind⟩]

/-! ### The leftmost parameters -/

/-- A text begins with a named parameter. -/
def BeginsParameter (text : List Char) : Prop :=
  ∃ name rest, (Piece.parameter name).Valid ∧ text = (Piece.parameter name).text ++ rest

/-- The names of the parameters that a search from left to right meets: it goes on behind a
parameter that it has met, and otherwise at the next character. -/
inductive Finds : List Char → List (List Char) → Prop
  | done : Finds [] []
  | pass {character : Char} {rest : List Char} {found : List (List Char)}
      (absent : ¬BeginsParameter (character :: rest)) (onward : Finds rest found) :
      Finds (character :: rest) found
  | meet {name rest : List Char} {found : List (List Char)} (valid : (Piece.parameter name).Valid)
      (onward : Finds rest found) : Finds ((Piece.parameter name).text ++ rest) (name :: found)

theorem Finds.unique (first : Finds text found) (second : Finds text other) : found = other := by
  have begins : ∀ {name rest : List Char}, (Piece.parameter name).Valid →
      BeginsParameter ((Piece.parameter name).text ++ rest) :=
    fun valid => ⟨_, _, valid, rfl⟩
  induction first generalizing other with
  | done => cases second with | done => rfl
  | @pass character rest found absent onward induction =>
      generalize whole : character :: rest = text at second
      cases second with
      | done => cases whole
      | pass _ onward' =>
          cases whole
          exact induction onward'
      | meet valid => exact absurd (begins valid) (whole ▸ absent)
  | @meet name rest found valid onward induction =>
      generalize whole : (Piece.parameter name).text ++ rest = text at second
      cases second with
      | done => cases whole
      | pass absent => exact absurd (begins valid) (whole ▸ absent)
      | meet valid' onward' =>
          obtain ⟨same, behind⟩ := Piece.text_cancel valid valid' whole
          cases same
          subst behind
          rw [induction onward']

theorem not_begins_of_ne {character : Char} (other : character ≠ '{') (rest : List Char) :
    ¬BeginsParameter (character :: rest) := by
  rintro ⟨name, behind, _, same⟩
  exact other (List.cons.inj same).1

/-- What stands behind an opening brace is no parameter if the characters of a name end without the
closing brace, or if there are none. -/
theorem not_begins_of_open (characters : ∀ character ∈ read, isNameChar character)
    (ends : rest.takeWhile isNameChar = [])
    (unclosed : ∀ behind, rest = '}' :: behind → read = []) :
    ¬BeginsParameter ('{' :: (read ++ rest)) := by
  rintro ⟨name, behind, ⟨nonempty, named⟩, same⟩
  have inside : read ++ rest = name ++ '}' :: behind := by simpa [Piece.text] using same
  have read_eq := congrArg (List.takeWhile isNameChar) inside
  rw [List.takeWhile_append_of_pos characters, ends, List.append_nil,
    name_before_brace named] at read_eq
  subst read_eq
  exact nonempty (unclosed behind (List.append_cancel_left inside))

/-- The search passes over an opening brace that begins no parameter, and over the characters of a
name behind it. -/
theorem Finds.past_open (characters : ∀ character ∈ read, isNameChar character)
    (ends : rest.takeWhile isNameChar = [])
    (unclosed : ∀ behind, rest = '}' :: behind → read = []) (finds : Finds rest found) :
    Finds ('{' :: (read ++ rest)) found := by
  refine .pass (not_begins_of_open characters ends unclosed) ?_
  -- These are about the whole of what was read, of which the induction takes characters away.
  clear ends unclosed
  induction read with
  | nil => exact finds
  | cons character read induction =>
      obtain ⟨nameChar, others⟩ := List.forall_mem_cons.mp characters
      exact .pass (not_begins_of_ne (name_char_ne nameChar).1 _) (induction others)

/-- The scan finds the leftmost parameters. Behind an opening brace it has read the characters that
may become a name, and it is the text from that brace on in which it finds the rest. -/
theorem finds_parameter_names (text : List Char) :
    Finds text (parameterNames none text) ∧
      ∀ read, (∀ character ∈ read, isNameChar character) →
        Finds ('{' :: (read ++ text)) (parameterNames (some read) text) := by
  induction text with
  | nil =>
      refine ⟨.done, ?_⟩
      intro read characters
      exact .past_open characters rfl (fun behind same => by cases same) .done
  | cons character rest induction =>
      obtain ⟨outside, inside⟩ := induction
      have opened : Finds ('{' :: rest) (parameterNames (some []) rest) := by
        simpa using inside [] (by simp)
      constructor
      · rw [parameterNames]
        -- An opening brace begins a name of which nothing has been read.
        split_ifs with opening
        · rwa [opening]
        · exact .pass (not_begins_of_ne opening rest) outside
      · intro read characters
        rw [parameterNames]
        split_ifs with opening closing empty nameChar
        · subst opening
          exact .past_open characters (by simp [isNameChar]) (fun behind same => by cases same)
            opened
        · subst closing
          have none : read = [] := List.isEmpty_iff.mp empty
          exact .past_open characters (by simp [isNameChar]) (fun _ _ => none)
            (.pass (not_begins_of_ne opening rest) outside)
        · subst closing
          have valid : (Piece.parameter read).Valid := ⟨by simpa using empty, characters⟩
          simpa [Piece.text] using Finds.meet valid outside
        · have longer : ∀ other ∈ read ++ [character], isNameChar other :=
            List.forall_mem_append.mpr ⟨characters, by simpa using nameChar⟩
          simpa using inside (read ++ [character]) longer
        · exact .past_open characters (by simp [nameChar])
            (fun behind same => absurd (List.cons.inj same).1 closing)
            (.pass (not_begins_of_ne opening rest) outside)

theorem finds_iff : Finds text found ↔ parameterNames none text = found := by
  have finds := (finds_parameter_names text).1
  constructor
  · exact finds.unique
  · rintro rfl
    exact finds

/-- The check accepts a path if and only if the grammar takes it apart. It does so in at most one
way, and the parameters are then the names of that decomposition. In any path they are the leftmost
names in braces. -/
theorem check_and_scan_agree (path : String) :
    (check path = .ok () ↔ ∃ pieces, Spells pieces path.toList) ∧
    (∀ pieces, Spells pieces path.toList →
      (∀ other, Spells other path.toList → other = pieces) ∧
      parameters path = (names pieces).map String.ofList) ∧
    ∀ found, Finds path.toList found ↔ parameters path = found.map String.ofList := by
  refine ⟨check_ok_iff, ?_, ?_⟩
  · intro pieces spells
    exact ⟨fun other second => second.unique spells, parameters_of_spells spells⟩
  · intro found
    have texts : Function.Injective (List.map String.ofList) :=
      List.map_injective_iff.mpr fun _ _ => String.ofList_injective
    rw [finds_iff, parameters, texts.eq_iff]

/-- Parameters may follow each other without a character in between. -/
theorem adjacent_parameters_read :
    Spells [.plain '/', .parameter ['i', 'd'], .parameter ['v']] "/\x7bid\x7d\x7bv\x7d".toList ∧
    parameters "/\x7bid\x7d\x7bv\x7d" = ["id", "v"] := by
  have spells : Spells [.plain '/', .parameter ['i', 'd'], .parameter ['v']]
      "/\x7bid\x7d\x7bv\x7d".toList := by
    simp [Spells, Piece.Valid, Piece.text, isNameChar]
  exact ⟨spells, ((check_and_scan_agree "/\x7bid\x7d\x7bv\x7d").2.1 _ spells).2⟩

example : check "/\x7ba\x7bb\x7d/\x7b\x7d/\x7bc/d\x7d" ≠ .ok () ∧
    parameters "/\x7ba\x7bb\x7d/\x7b\x7d/\x7bc/d\x7d" = ["b"] := by decide

end ApiCompiler.PathTemplate

import ApiCompiler.Manifest.PathTemplate
import Mathlib.Data.List.Basic

/-!
The grammar of path templates: characters that are no braces, and names in braces. The check accepts
just the texts of the grammar, and on those the scan for parameters gives the names, although the
two read the text by different rules.
-/

set_option autoImplicit false

namespace ApiCompiler.PathTemplate

inductive Piece
  | plain (character : Char)
  | parameter (name : List Char)
  deriving DecidableEq, Repr

namespace Piece

def Valid : Piece → Prop
  | plain character => character ≠ '{' ∧ character ≠ '}'
  | parameter name => name ≠ [] ∧ ∀ character ∈ name, isNameChar character

def text : Piece → List Char
  | plain character => [character]
  | parameter name => '{' :: (name ++ ['}'])

def name? : Piece → Option (List Char)
  | plain _ => none
  | parameter name => some name

end Piece

theorem name_char_ne {character : Char} (nameChar : isNameChar character) :
    character ≠ '{' ∧ character ≠ '}' ∧ character ≠ '/' := by
  simpa [isNameChar, and_assoc] using nameChar

/-- A text is made of pieces of the grammar. -/
def Spells (pieces : List Piece) (text : List Char) : Prop :=
  (∀ piece ∈ pieces, piece.Valid) ∧ text = pieces.flatMap Piece.text

def names (pieces : List Piece) : List (List Char) := pieces.filterMap Piece.name?

theorem Spells.cons {piece : Piece} {pieces : List Piece} {text : List Char} (valid : piece.Valid)
    (spells : Spells pieces text) : Spells (piece :: pieces) (piece.text ++ text) := by
  refine ⟨List.forall_mem_cons.mpr ⟨valid, spells.1⟩, ?_⟩
  rw [List.flatMap_cons, ← spells.2]

/-- Behind an opening brace stand the rest of a name, its closing brace, and further pieces. -/
def SpellsInside (named : Bool) (text : List Char) : Prop :=
  ∃ name rest pieces, text = name ++ '}' :: rest ∧ (∀ character ∈ name, isNameChar character) ∧
    (named = true ∨ name ≠ []) ∧ Spells pieces rest

theorem spells_of_check {place : Place} {text : List Char}
    (checked : checkFrom place text = .ok ()) :
    match place with
    | .outside => ∃ pieces, Spells pieces text
    | .inside named => SpellsInside named text := by
  induction text generalizing place with
  | nil =>
      cases place with
      | outside => exact ⟨[], by simp, rfl⟩
      | inside named => cases checked
  | cons character rest induction =>
      cases place with
      | outside =>
          rw [checkFrom] at checked
          split_ifs at checked with opening closing
          · obtain ⟨name, later, pieces, rfl, characters, nonempty, spells⟩ := induction checked
            have valid : (Piece.parameter name).Valid := ⟨by simpa using nonempty, characters⟩
            exact ⟨.parameter name :: pieces,
              by simpa [Piece.text, opening] using spells.cons valid⟩
          · obtain ⟨pieces, spells⟩ := induction checked
            have valid : (Piece.plain character).Valid := ⟨opening, closing⟩
            exact ⟨.plain character :: pieces, spells.cons valid⟩
      | inside named =>
          rw [checkFrom] at checked
          split_ifs at checked with closing isNamed nameChar
          · obtain ⟨pieces, spells⟩ := induction checked
            exact ⟨[], rest, pieces, by rw [closing]; rfl, by simp, .inl isNamed, spells⟩
          · obtain ⟨name, later, pieces, rfl, characters, -, spells⟩ := induction checked
            exact ⟨character :: name, later, pieces, rfl,
              List.forall_mem_cons.mpr ⟨nameChar, characters⟩, .inr (by simp), spells⟩

theorem check_name {named : Bool} {name rest : List Char}
    (characters : ∀ character ∈ name, isNameChar character) (nonempty : named = true ∨ name ≠ []) :
    checkFrom (.inside named) (name ++ '}' :: rest) = checkFrom .outside rest := by
  induction name generalizing named with
  | nil =>
      have isNamed : named = true := by simpa using nonempty
      simp [checkFrom, isNamed]
  | cons character name induction =>
      obtain ⟨nameChar, others⟩ := List.forall_mem_cons.mp characters
      rw [List.cons_append, checkFrom, if_neg (name_char_ne nameChar).2.1, if_pos nameChar]
      exact induction others (.inl rfl)

theorem check_of_spells {pieces : List Piece} {text : List Char} (spells : Spells pieces text) :
    checkFrom .outside text = .ok () := by
  obtain ⟨valid, rfl⟩ := spells
  induction pieces with
  | nil => rfl
  | cons piece pieces induction =>
      obtain ⟨first, others⟩ := List.forall_mem_cons.mp valid
      rw [List.flatMap_cons]
      cases piece with
      | plain character =>
          rw [Piece.text, List.singleton_append, checkFrom, if_neg first.1, if_neg first.2]
          exact induction others
      | parameter name =>
          rw [Piece.text, List.cons_append, checkFrom, if_pos rfl, List.append_assoc,
            List.singleton_append, check_name first.2 (.inr first.1)]
          exact induction others

theorem check_ok_iff {path : String} :
    check path = .ok () ↔ ∃ pieces, Spells pieces path.toList := by
  unfold check
  constructor
  · intro checked
    split at checked
    · rename_i accepted
      exact spells_of_check accepted
    · cases checked
    · cases checked
  · intro parts
    rcases parts with ⟨pieces, spells⟩
    rw [check_of_spells spells]

theorem scan_name {read name rest : List Char}
    (characters : ∀ character ∈ name, isNameChar character) (nonempty : read ++ name ≠ []) :
    parameterNames (some read) (name ++ '}' :: rest) =
      (read ++ name) :: parameterNames none rest := by
  induction name generalizing read with
  | nil =>
      have begun : read ≠ [] := by simpa using nonempty
      simp [parameterNames, begun]
  | cons character name induction =>
      obtain ⟨nameChar, others⟩ := List.forall_mem_cons.mp characters
      obtain ⟨notOpening, notClosing, _⟩ := name_char_ne nameChar
      have begun : (read ++ [character]) ++ name ≠ [] := by simp
      have longer := induction others begun
      simp only [List.cons_append, parameterNames, if_neg notOpening, if_neg notClosing,
        if_pos nameChar]
      simpa using longer

theorem parameter_names_of_spells {pieces : List Piece} {text : List Char}
    (spells : Spells pieces text) : parameterNames none text = names pieces := by
  obtain ⟨valid, rfl⟩ := spells
  induction pieces with
  | nil => rfl
  | cons piece pieces induction =>
      obtain ⟨first, others⟩ := List.forall_mem_cons.mp valid
      rw [List.flatMap_cons]
      cases piece with
      | plain character =>
          rw [Piece.text, List.singleton_append, parameterNames, if_neg first.1]
          exact induction others
      | parameter name =>
          rw [Piece.text, List.cons_append, parameterNames, if_pos rfl, List.append_assoc,
            List.singleton_append, scan_name first.2 (by simpa using first.1), List.nil_append,
            induction others]
          rfl

theorem parameters_of_spells {pieces : List Piece} {path : String}
    (spells : Spells pieces path.toList) :
    parameters path = (names pieces).map String.ofList := by
  rw [parameters, parameter_names_of_spells spells]

end ApiCompiler.PathTemplate

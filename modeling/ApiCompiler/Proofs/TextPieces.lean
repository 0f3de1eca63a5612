import ApiCompiler.Text.Pieces
import Mathlib.Data.List.Basic

/-!
Text cut at some of its characters: the pieces are what stands between the breaks, and hold no
break themselves.
-/

set_option autoImplicit false

namespace ApiCompiler.Text

variable {isBreak : Char → Bool}

theorem pieces_ne_nil (text : List Char) : pieces isBreak text ≠ [] := by
  induction text with
  | nil => exact List.cons_ne_nil _ _
  | cons character rest induction =>
      rw [pieces]
      split_ifs
      · exact List.cons_ne_nil _ _
      · split <;> exact List.cons_ne_nil _ _

theorem pieces_append_break {mark : Char} (breaks : isBreak mark = true)
    (before after : List Char) :
    pieces isBreak (before ++ mark :: after) = pieces isBreak before ++ pieces isBreak after := by
  induction before with
  | nil => simp [pieces, breaks]
  | cons character rest induction =>
      rw [List.cons_append, pieces, pieces, induction]
      obtain ⟨piece, others, shape⟩ := List.exists_cons_of_ne_nil (pieces_ne_nil rest)
      rw [shape]
      split_ifs <;> rfl

theorem pieces_whole {text : List Char} (whole : ∀ character ∈ text, isBreak character = false) :
    pieces isBreak text = [text] := by
  induction text with
  | nil => rfl
  | cons character rest induction =>
      rw [List.forall_mem_cons] at whole
      rw [pieces, if_neg (by simp [whole.1]), induction whole.2]

theorem pieces_from (text : List Char) : ∀ piece ∈ pieces isBreak text, ∀ character ∈ piece,
    character ∈ text ∧ isBreak character = false := by
  induction text with
  | nil => simp [pieces]
  | cons first rest induction =>
      have wider : ∀ piece ∈ pieces isBreak rest, ∀ character ∈ piece,
          character ∈ first :: rest ∧ isBreak character = false :=
        fun piece listed character inside =>
          (induction piece listed character inside).imp_left (List.mem_cons_of_mem first)
      rw [pieces]
      obtain ⟨piece, others, shape⟩ := List.exists_cons_of_ne_nil (pieces_ne_nil rest)
      rw [shape] at wider ⊢
      split_ifs with breaks
      · rw [List.forall_mem_cons]
        exact ⟨by simp, wider⟩
      · rw [List.forall_mem_cons] at wider ⊢
        rw [List.forall_mem_cons]
        exact ⟨⟨⟨List.mem_cons_self, by simpa using breaks⟩, wider.1⟩, wider.2⟩

/-- Nothing but breaks is lost. -/
theorem pieces_flatten_filter {keep : Char → Bool}
    (drops : ∀ character, isBreak character = true → keep character = false) (text : List Char) :
    (pieces isBreak text).flatten.filter keep = text.filter keep := by
  induction text with
  | nil => rfl
  | cons first rest induction =>
      rw [pieces]
      obtain ⟨piece, others, shape⟩ := List.exists_cons_of_ne_nil (pieces_ne_nil rest)
      rw [shape] at induction ⊢
      split_ifs with breaks
      · rw [List.filter_cons_of_neg (by simp [drops first breaks]), ← induction]
        rfl
      · rw [List.flatten_cons, List.cons_append, List.filter_cons, List.filter_cons,
          ← List.flatten_cons, induction]

theorem pieces_unbroken (text : List Char) :
    ∀ piece ∈ pieces isBreak text, ∀ character ∈ piece, isBreak character = false :=
  fun piece listed character inside => (pieces_from text piece listed character inside).2

end ApiCompiler.Text

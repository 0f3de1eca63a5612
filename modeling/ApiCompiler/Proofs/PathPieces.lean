import ApiCompiler.Files.Path
import ApiCompiler.Proofs.TextPieces
import Mathlib.Data.List.DropRight
import Mathlib.Data.List.TakeWhile

/-!
Paths by their pieces. A path below a directory has the pieces of the directory and then its own,
and its parent is what is left without the last one.
-/

set_option autoImplicit false

namespace ApiCompiler.Path

theorem pieces_ne_nil (path : String) : pieces path ≠ [] := by
  rw [pieces, ne_eq, List.map_eq_nil_iff]
  exact Text.pieces_ne_nil _

theorem pieces_unbroken {path piece : String} (listed : piece ∈ pieces path) :
    '/' ∉ piece.toList := by
  obtain ⟨letters, member, rfl⟩ := List.mem_map.mp listed
  rw [String.toList_ofList]
  intro slash
  simpa using Text.pieces_unbroken _ letters member '/' slash

theorem pieces_whole {name : String} (whole : '/' ∉ name.toList) : pieces name = [name] := by
  rw [pieces, Text.pieces_whole, List.map_singleton, String.ofList_toList]
  intro character listed
  simpa using ne_of_mem_of_not_mem listed whole

theorem pieces_append (before after : String) :
    pieces (before ++ "/" ++ after) = pieces before ++ pieces after := by
  have letters : (before ++ "/" ++ after).toList = before.toList ++ '/' :: after.toList := by
    simp [String.toList_append]
  rw [pieces, letters, Text.pieces_append_break rfl, List.map_append]
  rfl

theorem pieces_intercalate {names : List String} (some : names ≠ [])
    (whole : ∀ name ∈ names, '/' ∉ name.toList) : pieces ("/".intercalate names) = names := by
  induction names with
  | nil => exact absurd rfl some
  | cons name rest induction =>
      rw [List.forall_mem_cons] at whole
      cases rest with
      | nil => rw [String.intercalate_singleton, pieces_whole whole.1]
      | cons next others =>
          rw [String.intercalate_cons_cons, pieces_append, pieces_whole whole.1,
            induction (List.cons_ne_nil _ _) whole.2, List.singleton_append]

theorem pieces_of_pieces {names : List String} (some : names ≠ []) (named : names ≠ [""])
    (whole : ∀ name ∈ names, '/' ∉ name.toList) : pieces (ofPieces names) = names := by
  rw [ofPieces, if_neg named, pieces_intercalate some whole]

/-- The pieces of a directory to which those of a path below it are added. -/
def base (directory : String) : List String :=
  if directory.isEmpty then []
  else if directory.toList.getLast? = some '/' then (pieces directory).dropLast
  else pieces directory

theorem ends_in_slash {path : String} (slash : path.toList.getLast? = some '/') :
    ∃ front, path = front ++ "/" ∧ pieces path = pieces front ++ [""] := by
  obtain ⟨letters, shape⟩ := List.getLast?_eq_some_iff.mp slash
  have text : path = String.ofList letters ++ "/" := by
    apply String.toList_injective
    rw [shape, String.toList_append, String.toList_ofList]
    rfl
  have whole := pieces_append (String.ofList letters) ""
  rw [String.append_empty] at whole
  exact ⟨String.ofList letters, text, text ▸ whole⟩

theorem pieces_join {path : String} (relative : isRooted path = false) (directory : String) :
    pieces (join directory path) = base directory ++ pieces path := by
  unfold join base
  rw [if_neg (by simp [relative])]
  by_cases none : directory.isEmpty
  · have empty : directory = "" := String.isEmpty_iff.mp none
    subst empty
    simp
  by_cases slash : directory.toList.getLast? = some '/'
  · obtain ⟨front, text, whole⟩ := ends_in_slash slash
    rw [if_pos (by simp [slash]), if_neg none, if_pos slash, whole, List.dropLast_concat, text,
      pieces_append]
  · rw [if_neg (by simp [none, slash]), if_neg none, if_neg slash, pieces_append]

/-- The pieces of a directory are its base, or they are its base and an empty one. -/
theorem base_cases {directory : String} (some : directory ≠ "") :
    base directory ≠ [] ∧
      (pieces directory = base directory ∨ pieces directory = base directory ++ [""]) := by
  unfold base
  rw [if_neg (by simpa [String.isEmpty_iff] using some)]
  split_ifs with slash
  · obtain ⟨front, _, whole⟩ := ends_in_slash slash
    rw [whole, List.dropLast_concat]
    exact ⟨pieces_ne_nil front, .inr rfl⟩
  · exact ⟨pieces_ne_nil directory, .inl rfl⟩

/-! ### Pieces at the end that mean nothing -/

variable {front : List String} {name : String}

/-- What is left out at the end means nothing. -/
theorem no_nul_of_void {piece : String} (void : isVoid piece = true) : holdsNul piece = false := by
  simp only [isVoid, Bool.or_eq_true, decide_eq_true_eq] at void
  rcases void with rfl | rfl <;> decide

theorem trimmed_append (front : List String) :
    ∃ voids, front = trimmed front ++ voids ∧ ∀ piece ∈ voids, isVoid piece = true := by
  cases front with
  | nil => exact ⟨[], rfl, by simp⟩
  | cons first rest =>
      refine ⟨(rest.reverse.takeWhile isVoid).reverse, ?_, ?_⟩
      · rw [trimmed, List.cons_append, ← List.reverse_append, List.takeWhile_append_dropWhile,
          List.reverse_reverse]
      · intro piece listed
        exact List.mem_takeWhile_imp (List.mem_reverse.mp listed)

theorem trimmed_subset (front : List String) : trimmed front ⊆ front := by
  obtain ⟨voids, whole, _⟩ := trimmed_append front
  conv => arg 2; rw [whole]
  exact List.subset_append_left _ _

theorem trimmed_ne_nil (some : front ≠ []) : trimmed front ≠ [] := by
  cases front with
  | nil => exact absurd rfl some
  | cons first rest => exact List.cons_ne_nil _ _

theorem trimmed_concat (named : isVoid name = false) (front : List String) :
    trimmed (front ++ [name]) = front ++ [name] := by
  cases front with
  | nil => rfl
  | cons first rest =>
      rw [List.cons_append, trimmed, List.reverse_append, List.reverse_singleton,
        List.singleton_append, List.dropWhile_cons_of_neg (by simp [named])]
      simp

theorem trimmed_append_void (some : front ≠ []) (void : isVoid name = true) :
    trimmed (front ++ [name]) = trimmed front := by
  cases front with
  | nil => exact absurd rfl some
  | cons first rest =>
      rw [List.cons_append, trimmed, List.reverse_append, List.reverse_singleton,
        List.singleton_append, List.dropWhile_cons_of_pos void]
      rfl

theorem trimmed_trimmed (front : List String) : trimmed (trimmed front) = trimmed front := by
  cases front with
  | nil => rfl
  | cons first rest =>
      rw [trimmed, trimmed, List.reverse_reverse, List.dropWhile_idempotent]

/-- The path of trimmed pieces has these pieces, but for the root. -/
theorem trimmed_of_pieces (some : front ≠ []) (whole : ∀ piece ∈ front, '/' ∉ piece.toList) :
    trimmed (pieces (ofPieces (trimmed front))) = trimmed front := by
  by_cases root : trimmed front = [""]
  · rw [root]
    decide
  · have whole' : ∀ piece ∈ trimmed front, '/' ∉ piece.toList :=
      fun piece listed => whole piece (trimmed_subset front listed)
    rw [pieces_of_pieces (trimmed_ne_nil some) root whole', trimmed_trimmed]

theorem of_pieces_ne_empty (some : front ≠ []) (whole : ∀ piece ∈ front, '/' ∉ piece.toList) :
    ofPieces front ≠ "" := by
  by_cases root : front = [""]
  · rw [root]
    decide
  · intro empty
    have named := pieces_of_pieces some root whole
    rw [empty] at named
    exact root named.symm

theorem parent_of_pieces {path : String} (whole : pieces path = front ++ [name])
    (named : isVoid name = false) :
    parent? path = some (if front = [] then "" else ofPieces (trimmed front)) := by
  rw [parent?, whole, trimmed_concat named]
  cases front with
  | nil =>
      have letters : name ≠ "" := by
        rintro rfl
        cases named
      simp [String.isEmpty_iff, letters]
  | cons first rest =>
      rw [if_neg (List.cons_ne_nil _ _), List.cons_append]
      split
      · rename_i shape
        cases shape
      · rename_i shape
        simp at shape
      · rw [← List.cons_append, List.dropLast_concat]

end ApiCompiler.Path

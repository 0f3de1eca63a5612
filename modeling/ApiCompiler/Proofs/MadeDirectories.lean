import ApiCompiler.Proofs.TreePlaces

/-!
Making directories along a path. Only the pieces count that the path has without those at its end
that mean nothing, so a path may be replaced by its trimmed form. A directory that is there already
is left as it is.
-/

set_option autoImplicit false

namespace ApiCompiler

theorem Text.pieces_length_le (isBreak : Char → Bool) (text : List Char) :
    (Text.pieces isBreak text).length ≤ text.length + 1 := by
  induction text with
  | nil => exact Nat.le_refl 1
  | cons character rest induction =>
      rw [Text.pieces]
      split_ifs
      · simpa using induction
      · obtain ⟨piece, others, shape⟩ := List.exists_cons_of_ne_nil (Text.pieces_ne_nil rest)
        rw [shape] at induction ⊢
        simp only [List.length_cons] at induction ⊢
        omega

namespace Path

/-- The pieces of a path that count. -/
def trail (path : String) : List String := trimmed (pieces path)

theorem trail_ne_nil (path : String) : trail path ≠ [] := trimmed_ne_nil (pieces_ne_nil path)

theorem trail_unbroken (path : String) : ∀ piece ∈ trail path, '/' ∉ piece.toList :=
  fun _ listed => pieces_unbroken (trimmed_subset _ listed)

theorem trimmed_length_le (front : List String) : (trimmed front).length ≤ front.length := by
  obtain ⟨voids, whole, _⟩ := trimmed_append front
  have count := congrArg List.length whole
  rw [List.length_append] at count
  omega

theorem trail_length_le (path : String) : (trail path).length ≤ path.length + 1 := by
  have most := Text.pieces_length_le (· = '/') path.toList
  rw [String.length_toList, ← List.length_map (f := String.ofList)] at most
  exact (trimmed_length_le _).trans most

theorem trimmed_base {directory : String} (some : directory ≠ "") :
    trimmed (base directory) = trail directory := by
  obtain ⟨front, same | longer⟩ := base_cases some
  · rw [trail, same]
  · rw [trail, longer, trimmed_append_void front rfl]

theorem trail_of_trimmed {front : List String} (some : front ≠ [])
    (whole : ∀ piece ∈ front, '/' ∉ piece.toList) :
    trail (ofPieces (trimmed front)) = trimmed front := trimmed_of_pieces some whole

theorem trail_of_trail (path : String) : trail (ofPieces (trail path)) = trail path :=
  trail_of_trimmed (pieces_ne_nil path) fun _ => pieces_unbroken

end Path

namespace FileTree

variable {tree : FileTree} {path path' : String} {place : List String}

theorem status_root_ne_missing (tree : FileTree) : tree.status [] ≠ .missing := by
  rw [ne_eq, status_missing_iff]
  exact fun parts => parts.2 (.inl rfl)

theorem create_directory_eq (tree : FileTree) (path : String) : tree.createDirectory path =
    tree.walk (Path.trail path) >>= fun place =>
      match tree.status place with
      | .missing => .ok (tree.withDirectory place)
      | _ => .error .alreadyExists := by
  rw [createDirectory, ← Path.trail,
    locate_of_pieces (Path.trail_ne_nil path) (Path.trail_unbroken path)]
  rfl

theorem is_directory_iff (some : path ≠ "") :
    tree.isDirectory path = true ↔ ∃ place, tree.Opens (Path.trail path) place := by
  have located : tree.locate path = tree.walk (Path.pieces path) := by
    rw [locate, if_neg (by simpa [String.isEmpty_iff] using some)]
  simp only [Path.trail, opens_trimmed_iff]
  rw [isDirectory, located]
  unfold Opens
  cases tree.walk (Path.pieces path) <;> simp

/-- A path of one piece leads no further than to the root, and the root is not missing. -/
theorem create_single_ne_missing {only : String} (single : Path.trail path = [only]) :
    tree.createDirectory path ≠ .error .notFound := by
  have reached : tree.walk [only] ≠ .error .notFound := by
    have root := tree.status_root_ne_missing
    simp only [walk, follow, checkDirectory, bind, Except.bind]
    cases status : tree.status [] with
    | missing => exact absurd status root
    | file contents => split_ifs <;> simp
    | directory => split_ifs <;> simp [throw, throwThe, MonadExceptOf.throw]
  rw [create_directory_eq, single]
  cases walked : tree.walk [only] with
  | error fault =>
      intro absent
      cases absent
      exact reached walked
  | ok place =>
      simp only [bind, Except.bind]
      cases tree.status place <;> simp

theorem is_directory_congr (some : path ≠ "") (some' : path' ≠ "")
    (same : Path.trail path = Path.trail path') :
    tree.isDirectory path = tree.isDirectory path' := by
  rw [Bool.eq_iff_iff, is_directory_iff some, is_directory_iff some', same]

theorem ensure_directory_congr (some : path ≠ "") (some' : path' ≠ "")
    (same : Path.trail path = Path.trail path') :
    tree.ensureDirectory path = tree.ensureDirectory path' := by
  rw [ensureDirectory, ensureDirectory, create_directory_eq, create_directory_eq, same,
    is_directory_congr some some' same]

theorem parent_shorter {parent : String} (above : Path.parent? path = some parent)
    (several : ∀ only, Path.trail path ≠ [only]) :
    parent ≠ "" ∧ (Path.trail parent).length < (Path.trail path).length := by
  rw [Path.parent?, ← Path.trail] at above
  have unbroken := Path.trail_unbroken path
  generalize Path.trail path = trail at *
  rcases trail with _ | ⟨first, _ | ⟨second, rest⟩⟩
  · cases above
  · exact absurd rfl (several first)
  · cases above
    have front : (first :: second :: rest).dropLast ≠ [] := List.cons_ne_nil _ _
    have unbroken' : ∀ piece ∈ (first :: second :: rest).dropLast, '/' ∉ piece.toList :=
      fun piece listed => unbroken piece (List.dropLast_subset _ listed)
    have trimmed : ∀ piece ∈ Path.trimmed (first :: second :: rest).dropLast,
        '/' ∉ piece.toList :=
      fun piece listed => unbroken' piece (Path.trimmed_subset _ listed)
    refine ⟨Path.of_pieces_ne_empty (Path.trimmed_ne_nil front) trimmed, ?_⟩
    rw [Path.trail_of_trimmed front unbroken']
    have fewer := Path.trimmed_length_le (first :: second :: rest).dropLast
    rw [List.length_dropLast] at fewer
    simp only [List.length_cons] at fewer ⊢
    omega

/-- How a path ends in pieces that mean nothing does not matter, and neither does how many levels
more are allowed than it has pieces. -/
theorem create_directories_from_congr (tree : FileTree) {levels levels' : Nat}
    (some : path ≠ "") (some' : path' ≠ "") (same : Path.trail path = Path.trail path')
    (enough : (Path.trail path).length ≤ levels) (enough' : (Path.trail path).length ≤ levels') :
    createDirectoriesFrom levels tree path = createDirectoriesFrom levels' tree path' := by
  induction levels generalizing levels' path path' with
  | zero => exact absurd (List.eq_nil_of_length_eq_zero (by omega)) (Path.trail_ne_nil path)
  | succ levels induction =>
      have positive := List.length_pos_iff.mpr (Path.trail_ne_nil path)
      obtain ⟨levels', rfl⟩ := Nat.exists_eq_succ_of_ne_zero (by omega : levels' ≠ 0)
      have parents : Path.parent? path = Path.parent? path' := by
        rw [Path.parent?, Path.parent?, ← Path.trail, ← Path.trail, same]
      have first : tree.createDirectory path = tree.createDirectory path' := by
        rw [create_directory_eq, create_directory_eq, same]
      rw [createDirectoriesFrom, createDirectoriesFrom,
        if_neg (by simpa [String.isEmpty_iff] using some),
        if_neg (by simpa [String.isEmpty_iff] using some'), ← first, ← parents,
        is_directory_congr some some' same]
      cases made : tree.createDirectory path with
      | ok after => rfl
      | error fault =>
          cases fault with
          | notFound =>
              cases above : Path.parent? path with
              | none => rfl
              | some parent =>
                  obtain ⟨letters, shorter⟩ := parent_shorter above
                    fun only single => create_single_ne_missing single made
                  have rest := induction letters letters rfl (by omega)
                    (by omega : (Path.trail parent).length ≤ levels')
                  simp only [rest]
                  congr 1
                  funext above
                  exact ensure_directory_congr some some' same
          | _ => rfl

theorem create_directories_trimmed (tree : FileTree) (some : path ≠ "") :
    tree.createDirectories (Path.ofPieces (Path.trail path)) = tree.createDirectories path := by
  have own := Path.trail_of_trail path
  have letters := Path.of_pieces_ne_empty (Path.trail_ne_nil path) (Path.trail_unbroken path)
  have enough := Path.trail_length_le path
  rw [← own] at enough
  exact create_directories_from_congr tree letters some own (Path.trail_length_le _) enough

theorem create_directories_of_opens (some : path ≠ "")
    (opens : tree.Opens (Path.trail path) place) : tree.createDirectories path = .ok tree := by
  have exists_ : tree.createDirectory path = .error .alreadyExists := by
    rw [create_directory_eq, opens.1]
    simp only [bind, Except.bind, opens.2]
  rw [createDirectories, createDirectoriesFrom, if_neg (by simpa [String.isEmpty_iff] using some),
    exists_]
  simp [(is_directory_iff some).mpr ⟨place, opens⟩]

theorem create_directories_of_missing (some : path ≠ "")
    (located : tree.walk (Path.trail path) = .ok place)
    (missing : tree.status place = .missing) :
    tree.createDirectories path = .ok (tree.withDirectory place) := by
  have made : tree.createDirectory path = .ok (tree.withDirectory place) := by
    rw [create_directory_eq, located]
    simp only [bind, Except.bind, missing]
  rw [createDirectories, createDirectoriesFrom, if_neg (by simpa [String.isEmpty_iff] using some),
    made]

/-! ### The files stay -/

theorem create_directory_files {after : FileTree} (made : tree.createDirectory path = .ok after) :
    after.files = tree.files := by
  rw [create_directory_eq, bind_ok_iff] at made
  obtain ⟨place, _, made⟩ := made
  cases status : tree.status place with
  | missing =>
      rw [status] at made
      cases made
      rfl
  | file contents =>
      rw [status] at made
      cases made
  | directory =>
      rw [status] at made
      cases made

theorem ensure_directory_files {after : FileTree} (made : tree.ensureDirectory path = .ok after) :
    after.files = tree.files := by
  rw [ensureDirectory] at made
  split at made
  · rename_i own
    cases made
    exact create_directory_files own
  · split_ifs at made
    cases made
    rfl

theorem create_directories_from_files {levels : Nat} {after : FileTree}
    (made : createDirectoriesFrom levels tree path = .ok after) : after.files = tree.files := by
  induction levels generalizing path after with
  | zero => cases made
  | succ levels induction =>
      rw [createDirectoriesFrom] at made
      by_cases none : path.isEmpty = true
      · rw [if_pos none] at made
        cases made
        rfl
      · rw [if_neg none] at made
        split at made
        · rename_i own
          cases made
          exact create_directory_files own
        · split at made
          · cases made
          · obtain ⟨above, upper, made⟩ := bind_ok_iff.mp made
            exact (ensure_directory_files made).trans (induction upper)
        · split_ifs at made
          cases made
          rfl

theorem create_directories_files {after : FileTree}
    (made : tree.createDirectories path = .ok after) : after.files = tree.files :=
  create_directories_from_files made

end FileTree

end ApiCompiler

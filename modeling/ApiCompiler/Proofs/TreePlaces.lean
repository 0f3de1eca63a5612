import ApiCompiler.Files.Tree
import ApiCompiler.Proofs.Checks
import ApiCompiler.Proofs.PathPieces

/-!
What stands at the places of a file tree, and what a change leaves as it is. A tree is known by the
status of its places: a new file is at its own place, what lies on the way to it is a directory, and
all else stays.
-/

set_option autoImplicit false

namespace ApiCompiler.FileTree

variable {tree tree' : FileTree} {place : List String}

/-! ### The status of places -/

/-- What makes a place a directory, unless a file stands there. -/
def Leads (tree : FileTree) (place : List String) : Prop :=
  place = [] ∨ place ∈ tree.directories ∨
    (∃ entry ∈ tree.files, isAbove place entry.1 = true) ∨
      ∃ directory ∈ tree.directories, isAbove place directory = true

theorem status_eq (tree : FileTree) (place : List String) [Decidable (tree.Leads place)] :
    tree.status place = match tree.files.lookup place with
      | some contents => .file contents
      | none => if tree.Leads place then .directory else .missing := by
  unfold status
  cases tree.files.lookup place with
  | some contents => rfl
  | none =>
      have leads : (place.isEmpty || tree.directories.contains place
          || tree.files.any (fun entry => isAbove place entry.1)
          || tree.directories.any (isAbove place)) = true ↔ tree.Leads place := by
        simp [Leads, or_assoc]
      simp only [leads]

theorem status_file_iff {contents : List UInt8} :
    tree.status place = .file contents ↔ tree.files.lookup place = some contents := by
  classical
  rw [status_eq]
  cases tree.files.lookup place with
  | some found => simp
  | none => by_cases leads : tree.Leads place <;> simp [leads]

theorem status_missing_iff :
    tree.status place = .missing ↔ tree.files.lookup place = none ∧ ¬tree.Leads place := by
  classical
  rw [status_eq]
  cases tree.files.lookup place with
  | some found => simp
  | none => by_cases leads : tree.Leads place <;> simp [leads]

theorem is_above_iff {other : List String} :
    isAbove place other = true ↔ place <+: other ∧ place ≠ other := by
  simp [isAbove]

theorem is_above_append (front above below : List String) :
    isAbove (front ++ above) (front ++ below) = isAbove above below := by
  rw [Bool.eq_iff_iff, is_above_iff, is_above_iff, List.prefix_append_right_inj]
  simp

/-! ### A new file -/

theorem lookup_put_file (tree : FileTree) (place other : List String) (contents : List UInt8) :
    (tree.putFile place contents).files.lookup other =
      if other = place then some contents else tree.files.lookup other := by
  rw [putFile, List.lookup_cons]
  by_cases same : other = place
  · simp [same]
  · have apart : (other == place) = false := by simpa using same
    simp only [if_neg same, apart]
    induction tree.files with
    | nil => rfl
    | cons entry rest induction =>
        obtain ⟨name, old⟩ := entry
        by_cases own : name = place
        · simp [own, induction, List.lookup_cons, apart]
        · simp [own, induction, List.lookup_cons]

theorem leads_put_file_iff {other : List String} {contents : List UInt8} :
    (tree.putFile place contents).Leads other ↔
      isAbove other place = true ∨ tree.Leads other := by
  have kept : (∃ entry ∈ (tree.putFile place contents).files, isAbove other entry.1 = true) ↔
      isAbove other place = true ∨ ∃ entry ∈ tree.files, isAbove other entry.1 = true := by
    simp only [putFile, List.exists_mem_cons_iff, List.mem_filter, bne_iff_ne]
    constructor
    · intro either
      rcases either with above | ⟨entry, listed, above⟩
      · exact .inl above
      · exact .inr ⟨entry, listed.1, above⟩
    · intro either
      rcases either with above | ⟨entry, listed, above⟩
      · exact .inl above
      · by_cases own : entry.1 = place
        · exact .inl (own ▸ above)
        · exact .inr ⟨entry, ⟨listed, own⟩, above⟩
  unfold Leads
  rw [kept]
  simp only [putFile]
  grind

theorem status_put_file (tree : FileTree) (place other : List String) (contents : List UInt8) :
    (tree.putFile place contents).status other =
      if other = place then .file contents
      else if isAbove other place = true ∧ tree.status other = .missing then .directory
      else tree.status other := by
  classical
  rw [status_eq, status_eq tree other, lookup_put_file]
  by_cases same : other = place
  · simp [same]
  · cases tree.files.lookup other with
    | some found => simp [same]
    | none =>
        by_cases above : isAbove other place = true <;> by_cases leads : tree.Leads other <;>
          simp [same, above, leads, leads_put_file_iff]

/-! ### A new directory -/

def withDirectory (tree : FileTree) (place : List String) : FileTree :=
  { tree with directories := place :: tree.directories }

theorem leads_with_directory_iff {other : List String} :
    (tree.withDirectory place).Leads other ↔
      other = place ∨ isAbove other place = true ∨ tree.Leads other := by
  simp only [Leads, withDirectory, List.mem_cons, or_and_right, exists_or, exists_eq_left]
  grind

theorem status_with_directory (tree : FileTree) (place other : List String) :
    (tree.withDirectory place).status other =
      if (other = place ∨ isAbove other place = true) ∧ tree.status other = .missing then
        .directory
      else tree.status other := by
  classical
  rw [status_eq, status_eq tree other]
  have kept : (tree.withDirectory place).files = tree.files := rfl
  rw [kept]
  cases tree.files.lookup other with
  | some found => simp
  | none =>
      by_cases new : other = place ∨ isAbove other place = true <;>
        by_cases leads : tree.Leads other <;>
          simp [new, leads, leads_with_directory_iff]

/-! ### Following a path -/

theorem check_directory_iff :
    tree.checkDirectory place = .ok () ↔ tree.status place = .directory := by
  unfold checkDirectory
  cases tree.status place <;> simp

theorem follow_append (tree : FileTree) (place front rest : List String) :
    tree.follow place (front ++ rest) =
      tree.follow place front >>= fun found => tree.follow found rest := by
  induction front generalizing place with
  | nil => rfl
  | cons piece others induction =>
      rw [List.cons_append, follow, follow, bind_assoc]
      congr 1
      funext _
      split_ifs
      exacts [induction _, induction _, rfl, induction _]

theorem follow_void {pieces : List String} (void : ∀ piece ∈ pieces, Path.isVoid piece = true)
    {found : List String} (followed : tree.follow place pieces = .ok found) : found = place := by
  induction pieces with
  | nil =>
      cases followed
      rfl
  | cons piece rest induction =>
      rw [List.forall_mem_cons] at void
      rw [follow, unit_bind_ok_iff, if_pos void.1] at followed
      exact induction void.2 followed.2

theorem follow_void_of_directory {pieces : List String}
    (void : ∀ piece ∈ pieces, Path.isVoid piece = true)
    (directory : tree.status place = .directory) : tree.follow place pieces = .ok place := by
  induction pieces with
  | nil => rfl
  | cons piece rest induction =>
      rw [List.forall_mem_cons] at void
      rw [follow, unit_bind_ok_iff, if_pos void.1]
      exact ⟨check_directory_iff.mpr directory, induction void.2⟩

/-- A name is followed from a directory, unless it is too long. -/
theorem follow_name_iff {name : String} {found : List String} (named : Path.isVoid name = false)
    (down : name ≠ "..") : tree.follow place [name] = .ok found ↔
      tree.status place = .directory ∧ Path.isLong name = false ∧ place ++ [name] = found := by
  rw [follow, unit_bind_ok_iff, check_directory_iff, if_neg (by simp [named]), if_neg down]
  apply and_congr_right
  intro directory
  by_cases long : Path.isLong name = true
  · simp [long, throw, throwThe, MonadExceptOf.throw]
  · simp [long, follow]

/-! ### From the root -/

theorem walk_ok_iff {pieces : List String} : tree.walk pieces = .ok place ↔
    (∀ piece ∈ pieces, Path.holdsNul piece = false) ∧ tree.follow [] pieces = .ok place := by
  rw [walk]
  split_ifs with nul
  · obtain ⟨piece, listed, held⟩ := List.any_eq_true.mp nul
    exact ⟨nofun, fun parts => absurd held (by simp [parts.1 piece listed])⟩
  · simp only [Bool.not_eq_true, List.any_eq_false] at nul
    exact (and_iff_right nul).symm

theorem walk_append_iff {front rest : List String} : tree.walk (front ++ rest) = .ok place ↔
    ∃ between, tree.walk front = .ok between ∧
      (∀ piece ∈ rest, Path.holdsNul piece = false) ∧ tree.follow between rest = .ok place := by
  simp only [walk_ok_iff, List.forall_mem_append, follow_append, bind_ok_iff]
  grind

/-- Some pieces lead from the root to a directory. -/
def Opens (tree : FileTree) (pieces place : List String) : Prop :=
  tree.walk pieces = .ok place ∧ tree.status place = .directory

theorem opens_append_void_iff {front voids : List String}
    (void : ∀ piece ∈ voids, Path.isVoid piece = true) :
    tree.Opens (front ++ voids) place ↔ tree.Opens front place := by
  apply and_congr_left
  intro directory
  rw [walk_append_iff]
  constructor
  · intro parts
    rcases parts with ⟨found, walked, _, onward⟩
    rwa [follow_void void onward]
  · intro walked
    exact ⟨place, walked, fun piece listed => Path.no_nul_of_void (void piece listed),
      follow_void_of_directory void directory⟩

theorem opens_trimmed_iff {front : List String} :
    tree.Opens (Path.trimmed front) place ↔ tree.Opens front place := by
  obtain ⟨voids, whole, void⟩ := Path.trimmed_append front
  conv_rhs => rw [whole]
  exact (opens_append_void_iff void).symm

theorem locate_of_pieces {front : List String} (some : front ≠ [])
    (whole : ∀ piece ∈ front, '/' ∉ piece.toList) :
    tree.locate (Path.ofPieces front) = tree.walk front := by
  have letters := Path.of_pieces_ne_empty some whole
  rw [locate, if_neg (by simpa [String.isEmpty_iff] using letters)]
  by_cases root : front = [""]
  · have twice : Path.pieces (Path.ofPieces front) = ["", ""] := by
      rw [root]
      decide
    rw [twice, root, walk, walk, if_neg (by decide), if_neg (by decide)]
    simp only [follow]
    cases tree.checkDirectory [] <;> rfl
  · rw [Path.pieces_of_pieces some root whole]

/-! ### What was a directory -/

/-- Every directory of one tree is one of another tree. -/
def Keeps (before after : FileTree) : Prop :=
  ∀ place, before.status place = .directory → after.status place = .directory

theorem Keeps.refl (tree : FileTree) : tree.Keeps tree := fun _ directory => directory

theorem Keeps.trans {before between after : FileTree} (first : before.Keeps between)
    (second : between.Keeps after) : before.Keeps after :=
  fun place directory => second place (first place directory)

theorem keeps_put_file (contents : List UInt8) (apart : tree.status place ≠ .directory) :
    tree.Keeps (tree.putFile place contents) := by
  intro other directory
  have different : other ≠ place := by
    rintro rfl
    exact apart directory
  rw [status_put_file, if_neg different, directory]
  simp

theorem keeps_with_directory (tree : FileTree) (place : List String) :
    tree.Keeps (tree.withDirectory place) := by
  intro other directory
  rw [status_with_directory, directory]
  simp

theorem Keeps.follow {before after : FileTree} (keeps : before.Keeps after)
    {pieces found : List String} (followed : before.follow place pieces = .ok found) :
    after.follow place pieces = .ok found := by
  induction pieces generalizing place with
  | nil => exact followed
  | cons piece rest induction =>
      rw [FileTree.follow, unit_bind_ok_iff, check_directory_iff] at followed ⊢
      refine ⟨keeps place followed.1, ?_⟩
      have onward := followed.2
      split_ifs at onward ⊢
      exacts [induction onward, induction onward, induction onward]

theorem Keeps.walk {before after : FileTree} (keeps : before.Keeps after) {pieces : List String}
    (walked : before.walk pieces = .ok place) : after.walk pieces = .ok place :=
  walk_ok_iff.mpr ((walk_ok_iff.mp walked).imp_right keeps.follow)

theorem Keeps.opens {before after : FileTree} (keeps : before.Keeps after) {pieces : List String}
    (opens : before.Opens pieces place) : after.Opens pieces place :=
  ⟨keeps.walk opens.1, keeps place opens.2⟩

end ApiCompiler.FileTree

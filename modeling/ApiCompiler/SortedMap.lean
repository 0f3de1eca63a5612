/-!
Finite maps as lists of entries in strictly ascending order of keys. Two maps with the same entries
are equal, and a map is walked in the order of its keys.
-/

set_option autoImplicit false

namespace ApiCompiler

variable {κ α : Type} [Ord κ]

structure SortedMap (κ α : Type) [Ord κ] where
  entries : List (κ × α)
  sorted : entries.Pairwise fun earlier later => compare earlier.1 later.1 = .lt

namespace SortedMap

@[ext]
theorem ext {left right : SortedMap κ α} (equal : left.entries = right.entries) : left = right := by
  cases left
  cases right
  simp only at equal
  subst equal
  rfl

def empty : SortedMap κ α := ⟨[], .nil⟩

instance : Inhabited (SortedMap κ α) := ⟨empty⟩

instance [DecidableEq κ] [DecidableEq α] : DecidableEq (SortedMap κ α) := fun left right =>
  if equal : left.entries = right.entries then isTrue (ext equal)
  else isFalse fun same => equal (congrArg entries same)

def isEmpty (map : SortedMap κ α) : Bool := map.entries.isEmpty

def keys (map : SortedMap κ α) : List κ := map.entries.map (·.1)

def find (key : κ) : List (κ × α) → Option α
  | [] => none
  | (name, value) :: rest => if compare key name = .eq then some value else find key rest

def get? (map : SortedMap κ α) (key : κ) : Option α := find key map.entries

def contains (map : SortedMap κ α) (key : κ) : Bool := (map.get? key).isSome

/-- Puts an entry at its place; an entry with the same key gives way. -/
def place (key : κ) (value : α) : List (κ × α) → List (κ × α)
  | [] => [(key, value)]
  | (name, old) :: rest =>
      match compare key name with
      | .lt => (key, value) :: (name, old) :: rest
      | .eq => (key, value) :: rest
      | .gt => (name, old) :: place key value rest

theorem mem_place {key : κ} {value : α} {entry : κ × α} {entries : List (κ × α)}
    (member : entry ∈ place key value entries) : entry = (key, value) ∨ entry ∈ entries := by
  induction entries with
  | nil => simpa [place] using member
  | cons head rest induction =>
    obtain ⟨name, old⟩ := head
    simp only [place] at member
    split at member
    · simpa using member
    · simp only [List.mem_cons] at member ⊢
      exact member.imp_right Or.inr
    · simp only [List.mem_cons] at member ⊢
      rcases member with same | later
      · exact .inr (.inl same)
      · exact (induction later).imp_right Or.inr

theorem sorted_place [Std.TransOrd κ] (key : κ) (value : α) {entries : List (κ × α)}
    (sorted : entries.Pairwise fun earlier later => compare earlier.1 later.1 = .lt) :
    (place key value entries).Pairwise fun earlier later => compare earlier.1 later.1 = .lt := by
  induction entries with
  | nil => simp [place]
  | cons head rest induction =>
    obtain ⟨name, old⟩ := head
    rw [List.pairwise_cons] at sorted
    simp only [place]
    split
    · rename_i before
      refine List.pairwise_cons.mpr ⟨?_, List.pairwise_cons.mpr sorted⟩
      intro entry member
      simp only [List.mem_cons] at member
      rcases member with same | later
      · subst same
        exact before
      · exact Std.TransCmp.lt_trans before (sorted.1 entry later)
    · rename_i same
      refine List.pairwise_cons.mpr ⟨?_, sorted.2⟩
      intro entry member
      exact Std.TransCmp.lt_of_eq_of_lt same (sorted.1 entry member)
    · rename_i after
      refine List.pairwise_cons.mpr ⟨?_, induction sorted.2⟩
      intro entry member
      rcases mem_place member with same | later
      · subst same
        exact Std.OrientedCmp.gt_iff_lt.mp after
      · exact sorted.1 entry later

def insert [Std.TransOrd κ] (map : SortedMap κ α) (key : κ) (value : α) : SortedMap κ α :=
  ⟨place key value map.entries, sorted_place key value map.sorted⟩

/-- Inserts entries one after the other, so the last entry of a key stays. -/
def ofList [Std.TransOrd κ] (entries : List (κ × α)) : SortedMap κ α :=
  entries.foldl (fun map entry => map.insert entry.1 entry.2) empty

def singleton (key : κ) (value : α) : SortedMap κ α := ⟨[(key, value)], List.pairwise_singleton _ _⟩

end SortedMap

end ApiCompiler

import ApiCompiler.SortedMap
import Mathlib.Data.List.Basic

/-!
Looking a key up in a sorted map: the entries are what the look-ups find, and an insertion changes
the look-up of its own key only.
-/

set_option autoImplicit false

namespace ApiCompiler.SortedMap

variable {κ α : Type} [Ord κ] [Std.LawfulEqOrd κ]

theorem find_mem {key : κ} {value : α} {entries : List (κ × α)}
    (found : find key entries = some value) : (key, value) ∈ entries := by
  induction entries with
  | nil => simp [find] at found
  | cons head rest induction =>
      obtain ⟨name, old⟩ := head
      simp only [find] at found
      split at found
      next same =>
        have names : key = name := Std.LawfulEqOrd.eq_of_compare same
        have values : old = value := Option.some.inj found
        subst names values
        exact List.mem_cons_self
      next => exact List.mem_cons_of_mem _ (induction found)

theorem mem_find {key : κ} {value : α} {entries : List (κ × α)}
    (sorted : entries.Pairwise fun earlier later => compare earlier.1 later.1 = .lt)
    (member : (key, value) ∈ entries) : find key entries = some value := by
  induction entries with
  | nil => simp at member
  | cons head rest induction =>
      obtain ⟨name, old⟩ := head
      rw [List.pairwise_cons] at sorted
      rcases List.mem_cons.mp member with same | later
      · obtain ⟨rfl, rfl⟩ := Prod.mk.inj same
        simp [find, Std.ReflOrd.compare_self]
      · have before : compare name key = .lt := sorted.1 _ later
        have different : compare key name ≠ .eq := by
          intro same
          have names : key = name := Std.LawfulEqOrd.eq_of_compare same
          rw [names, Std.ReflOrd.compare_self] at before
          cases before
        rw [find, if_neg different]
        exact induction sorted.2 later

theorem mem_entries_iff {map : SortedMap κ α} {key : κ} {value : α} :
    (key, value) ∈ map.entries ↔ map.get? key = some value :=
  ⟨mem_find map.sorted, find_mem⟩

theorem mem_keys_iff {map : SortedMap κ α} {key : κ} :
    key ∈ map.keys ↔ ∃ value, map.get? key = some value := by
  constructor
  · intro member
    obtain ⟨entry, listed, rfl⟩ := List.mem_map.mp member
    exact ⟨entry.2, mem_entries_iff.mp listed⟩
  · intro parts
    rcases parts with ⟨value, found⟩
    exact List.mem_map.mpr ⟨(key, value), mem_entries_iff.mpr found, rfl⟩

theorem find_place_self (key : κ) (value : α) (entries : List (κ × α)) :
    find key (place key value entries) = some value := by
  induction entries with
  | nil => simp [place, find, Std.ReflOrd.compare_self]
  | cons head rest induction =>
      obtain ⟨name, old⟩ := head
      simp only [place]
      split
      next => simp [find, Std.ReflOrd.compare_self]
      next => simp [find, Std.ReflOrd.compare_self]
      next after =>
        rw [find, if_neg (by rw [after]; decide)]
        exact induction

theorem find_place_other {key other : κ} (different : other ≠ key) (value : α)
    (entries : List (κ × α)) : find other (place key value entries) = find other entries := by
  have apart : compare other key ≠ .eq := fun same =>
    different (Std.LawfulEqOrd.eq_of_compare same)
  induction entries with
  | nil => simp [place, find, apart]
  | cons head rest induction =>
      obtain ⟨name, old⟩ := head
      simp only [place]
      split
      next => rw [find, if_neg apart]
      next same =>
        have names : key = name := Std.LawfulEqOrd.eq_of_compare same
        subst names
        simp only [find, if_neg apart]
      next => simp only [find, induction]

theorem get?_insert_self [Std.TransOrd κ] (map : SortedMap κ α) (key : κ) (value : α) :
    (map.insert key value).get? key = some value := find_place_self key value map.entries

theorem get?_insert_other [Std.TransOrd κ] (map : SortedMap κ α) {key other : κ}
    (different : other ≠ key) (value : α) :
    (map.insert key value).get? other = map.get? other :=
  find_place_other different value map.entries

theorem mem_keys_insert_iff [Std.TransOrd κ] {map : SortedMap κ α} {key other : κ} {value : α} :
    other ∈ (map.insert key value).keys ↔ other = key ∨ other ∈ map.keys := by
  rw [mem_keys_iff, mem_keys_iff]
  by_cases same : other = key
  · subst same
    simp [get?_insert_self]
  · simp [get?_insert_other map same, same]

theorem mem_keys_of_list_iff [Std.TransOrd κ] {entries : List (κ × α)} {key : κ} :
    key ∈ (ofList entries).keys ↔ ∃ entry ∈ entries, key = entry.1 := by
  have folded : ∀ map : SortedMap κ α,
      key ∈ (entries.foldl (fun map entry => map.insert entry.1 entry.2) map).keys ↔
        key ∈ map.keys ∨ ∃ entry ∈ entries, key = entry.1 := by
    induction entries with
    | nil => simp
    | cons entry rest induction =>
        intro map
        rw [List.foldl_cons, induction, mem_keys_insert_iff, List.exists_mem_cons_iff, or_assoc,
          or_left_comm]
  exact (folded empty).trans (by simp [keys, empty])

/-- Inserts entries one after the other. -/
def insertAll [Std.TransOrd κ] (map : SortedMap κ α) (entries : List (κ × α)) : SortedMap κ α :=
  entries.foldl (fun map entry => map.insert entry.1 entry.2) map

theorem get?_insert_all_other [Std.TransOrd κ] {map : SortedMap κ α} {entries : List (κ × α)}
    {key : κ} (different : ∀ entry ∈ entries, key ≠ entry.1) :
    (map.insertAll entries).get? key = map.get? key := by
  unfold insertAll
  induction entries generalizing map with
  | nil => rfl
  | cons entry rest induction =>
      rw [List.forall_mem_cons] at different
      rw [List.foldl_cons, induction different.2, get?_insert_other map different.1]

omit [Std.LawfulEqOrd κ] in
/-- An entry whose key comes after all others is put at the end. -/
theorem place_last {key : κ} {value : α} {entries : List (κ × α)}
    (last : ∀ entry ∈ entries, compare key entry.1 = .gt) :
    place key value entries = entries ++ [(key, value)] := by
  induction entries with
  | nil => rfl
  | cons head rest induction =>
      obtain ⟨name, old⟩ := head
      obtain ⟨behind, others⟩ := List.forall_mem_cons.mp last
      simp only [place, behind, induction others, List.cons_append]

omit [Std.LawfulEqOrd κ] in
/-- Putting the entries of a map in again, one after the other, makes the same map. -/
theorem of_list_entries [Std.TransOrd κ] (map : SortedMap κ α) : ofList map.entries = map := by
  have appended : ∀ before : SortedMap κ α, ∀ later : List (κ × α),
      (before.entries ++ later).Pairwise (fun first second => compare first.1 second.1 = .lt) →
        (before.insertAll later).entries = before.entries ++ later := by
    intro before later
    induction later generalizing before with
    | nil => simp [insertAll]
    | cons entry later induction =>
        intro ascending
        have last : ∀ other ∈ before.entries, compare entry.1 other.1 = .gt := by
          intro other listed
          exact Std.OrientedCmp.gt_iff_lt.mpr
            ((List.pairwise_append.mp ascending).2.2 other listed entry List.mem_cons_self)
        have placed : (before.insert entry.1 entry.2).entries = before.entries ++ [entry] :=
          place_last last
        have again := induction (before.insert entry.1 entry.2)
        rw [placed, List.append_assoc] at again
        exact again ascending
  apply SortedMap.ext
  exact appended empty map.entries map.sorted

end ApiCompiler.SortedMap

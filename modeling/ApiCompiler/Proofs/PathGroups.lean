import ApiCompiler.Proofs.EndpointOrder
import Mathlib.Data.String.Basic

/-!
Grouping endpoints by their paths loses none of them and keeps their order. In canonical order the
endpoints of one path stand together, so each path has one group and the groups come in the order of
their paths.
-/

set_option autoImplicit false

namespace ApiCompiler

variable {entries : List (Nat × Endpoint)}

/-- The first entry opens a group of its own or joins the group behind it, whose path it has. -/
theorem group_by_path_cons (entry : Nat × Endpoint) (rest : List (Nat × Endpoint)) :
    ((∀ group ∈ (groupByPath rest).head?, group.path ≠ entry.2.path) ∧
      groupByPath (entry :: rest) = ⟨entry.2.path, [entry]⟩ :: groupByPath rest) ∨
    ∃ group groups, groupByPath rest = group :: groups ∧ group.path = entry.2.path ∧
      groupByPath (entry :: rest) = ⟨entry.2.path, entry :: group.members⟩ :: groups := by
  obtain ⟨index, endpoint⟩ := entry
  rw [groupByPath]
  cases groupByPath rest with
  | nil => simp
  | cons group groups =>
      by_cases same : group.path = endpoint.path
      · exact .inr ⟨group, groups, rfl, same, by simp [same]⟩
      · exact .inl (by simp [same])

theorem group_by_path_members (entries : List (Nat × Endpoint)) :
    (groupByPath entries).flatMap (·.members) = entries := by
  induction entries with
  | nil => rfl
  | cons entry rest induction =>
      rcases group_by_path_cons entry rest with ⟨_, opened⟩ | ⟨group, groups, behind, _, joined⟩
      · rw [opened, List.flatMap_cons, induction]
        rfl
      · rw [behind, List.flatMap_cons] at induction
        rw [joined, List.flatMap_cons, List.cons_append, induction]

theorem group_by_path_paths (entries : List (Nat × Endpoint)) :
    ∀ group ∈ groupByPath entries,
      group.members ≠ [] ∧ ∀ member ∈ group.members, member.2.path = group.path := by
  induction entries with
  | nil => simp [groupByPath]
  | cons entry rest induction =>
      rcases group_by_path_cons entry rest with ⟨_, opened⟩ | ⟨group, groups, behind, same, joined⟩
      · rw [opened, List.forall_mem_cons]
        exact ⟨by simp, induction⟩
      · rw [behind, List.forall_mem_cons] at induction
        rw [joined, List.forall_mem_cons]
        refine ⟨⟨List.cons_ne_nil _ _, ?_⟩, induction.2⟩
        intro member listed
        rcases List.mem_cons.mp listed with rfl | later
        · rfl
        · exact (induction.1.2 member later).trans same

/-- The paths of the groups are the paths of the entries. -/
theorem mem_group_paths_iff {path : String} :
    path ∈ (groupByPath entries).map (·.path) ↔ ∃ entry ∈ entries, entry.2.path = path := by
  have paths := group_by_path_paths entries
  constructor
  · intro listed
    obtain ⟨group, member, rfl⟩ := List.mem_map.mp listed
    obtain ⟨entry, rest, shape⟩ := List.exists_cons_of_ne_nil (paths group member).1
    have inGroup : entry ∈ group.members := by simp [shape]
    refine ⟨entry, ?_, (paths group member).2 entry inGroup⟩
    rw [← group_by_path_members entries]
    exact List.mem_flatMap.mpr ⟨group, member, inGroup⟩
  · intro parts
    rcases parts with ⟨entry, listed, rfl⟩
    rw [← group_by_path_members entries] at listed
    obtain ⟨group, member, inGroup⟩ := List.mem_flatMap.mp listed
    exact List.mem_map.mpr ⟨group, member, ((paths group member).2 entry inGroup).symm⟩

/-- Groups of entries whose paths do not descend ascend strictly. -/
theorem group_paths_ascend
    (sorted : entries.Pairwise fun earlier later => earlier.2.path ≤ later.2.path) :
    ((groupByPath entries).map (·.path)).Pairwise (· < ·) := by
  induction entries with
  | nil => exact List.Pairwise.nil
  | cons entry rest induction =>
      obtain ⟨least, others⟩ := List.pairwise_cons.mp sorted
      have ascending := induction others
      rcases group_by_path_cons entry rest with
        ⟨apart, opened⟩ | ⟨group, groups, behind, same, joined⟩
      · rw [opened, List.map_cons, List.pairwise_cons]
        refine ⟨?_, ascending⟩
        have notAfter : ∀ path ∈ (groupByPath rest).map (·.path), entry.2.path ≤ path := by
          intro path listed
          obtain ⟨later, inRest, rfl⟩ := mem_group_paths_iff.mp listed
          exact least later inRest
        -- Only the first of the other groups could have the path of the entry, and it does not.
        cases behind : groupByPath rest with
        | nil => simp
        | cons group groups =>
            rw [behind] at apart notAfter ascending
            rw [List.map_cons, List.forall_mem_cons] at notAfter ⊢
            rw [List.map_cons, List.pairwise_cons] at ascending
            have first : entry.2.path < group.path :=
              lt_of_le_of_ne notAfter.1 (Ne.symm (apart group rfl))
            exact ⟨first, fun path listed => first.trans (ascending.1 path listed)⟩
      · rw [behind, List.map_cons] at ascending
        rw [joined, List.map_cons]
        simpa only [same] using ascending

theorem Endpoint.path_le_of_order {left right : Endpoint} (le : (left.order right).isLE = true) :
    left.path ≤ right.path := by
  have notGreater : compare left.path right.path ≠ .gt := by
    rw [Endpoint.order, Ordering.isLE_then_iff_or] at le
    rcases le with less | ⟨same, _⟩
    · rw [less]
      decide
    · rw [same]
      decide
  exact compare_le_iff_le.mp notGreater

theorem Manifest.indexed_paths_sorted (manifest : Manifest) :
    (indexed manifest.canonicalEndpoints).Pairwise
      fun earlier later => earlier.2.path ≤ later.2.path := by
  have sorted := manifest.canonical_endpoints_sorted
  rw [← indexed_endpoints manifest.canonicalEndpoints, List.pairwise_map] at sorted
  exact sorted.imp Endpoint.path_le_of_order

end ApiCompiler

import ApiCompiler.Names.Registry
import Mathlib.Data.List.Nodup
import Mathlib.Data.List.Perm.Subperm

/-!
What a name registry hands out: the base itself if that is free, and otherwise the base with the
least free number behind it. The name was not taken before and is taken from then on.
-/

set_option autoImplicit false

namespace ApiCompiler.NameRegistry

variable {registry : NameRegistry} {base name : String}

theorem numbered_injective (base : String) : Function.Injective (numbered base) := by
  intro left right same
  have digits := congrArg String.toList ((String.append_right_inj base).mp same)
  simp only [Nat.toString_eq_repr, Nat.toList_repr] at digits
  have read := congrArg (fun text => Nat.ofDigitChars 10 text 0) digits
  simpa using read

/-- The names with as many numbers as are taken, and one more, cannot all be taken. -/
theorem exists_free (taken : List String) (base : String) (number : Nat) :
    ∃ chosen, number ≤ chosen ∧ chosen ≤ number + taken.length ∧ numbered base chosen ∉ taken := by
  by_contra none
  push Not at none
  let names := (List.range' number (taken.length + 1)).map (numbered base)
  have distinct : names.Nodup := (List.nodup_range').map (numbered_injective base)
  have known : names ⊆ taken := by
    intro name listed
    obtain ⟨chosen, inRange, rfl⟩ := List.mem_map.mp listed
    rw [List.mem_range'_1] at inRange
    exact none chosen inRange.1 (by omega)
  have short := (distinct.subperm known).length_le
  rw [List.length_map, List.length_range'] at short
  omega

/-- The search stops at the first free number, or at the last one that its budget allows. -/
theorem first_free_eq (registry : NameRegistry) (base : String) (budget number : Nat) :
    ∃ chosen, registry.firstFree base budget number = numbered base chosen ∧ number ≤ chosen ∧
      (∀ earlier, number ≤ earlier → earlier < chosen → numbered base earlier ∈ registry.taken) ∧
      (numbered base chosen ∉ registry.taken ∨ chosen = number + budget) := by
  induction budget generalizing number with
  | zero => exact ⟨number, rfl, Nat.le_refl number, fun earlier least below => by omega, .inr rfl⟩
  | succ budget induction =>
      rw [firstFree]
      split_ifs with taken
      · obtain ⟨chosen, found, least, before, ends⟩ := induction (number + 1)
        refine ⟨chosen, found, by omega, ?_, ends.imp_right fun last => by omega⟩
        intro earlier atLeast below
        rcases Nat.eq_or_lt_of_le atLeast with rfl | later
        · simpa [isTaken] using taken
        · exact before earlier later below
      · exact ⟨number, rfl, Nat.le_refl number, fun earlier least below => by omega,
          .inl (by simpa [isTaken] using taken)⟩

/-- The name that a base gets is the base, or has the least number from two on that makes it
free. -/
theorem free_name_eq (registry : NameRegistry) (base : String) :
    base ∉ registry.taken ∧ registry.freeName base = base ∨
      base ∈ registry.taken ∧ ∃ chosen, registry.freeName base = numbered base chosen ∧
        2 ≤ chosen ∧ numbered base chosen ∉ registry.taken ∧
        ∀ earlier, 2 ≤ earlier → earlier < chosen → numbered base earlier ∈ registry.taken := by
  unfold freeName
  split_ifs with taken
  · right
    obtain ⟨chosen, found, least, before, ends⟩ :=
      registry.first_free_eq base registry.taken.length 2
    refine ⟨by simpa [isTaken] using taken, chosen, found, least, ?_, before⟩
    rcases ends with free | last
    · exact free
    · obtain ⟨other, atLeast, atMost, free⟩ := exists_free registry.taken base 2
      rcases Nat.eq_or_lt_of_le atMost with same | below
      · rwa [last, ← same]
      · exact absurd (before other atLeast (by omega)) free
  · left
    exact ⟨by simpa [isTaken] using taken, rfl⟩

theorem free_name_not_taken (registry : NameRegistry) (base : String) :
    registry.freeName base ∉ registry.taken := by
  rcases registry.free_name_eq base with ⟨free, same⟩ | ⟨_, chosen, same, _, free, _⟩
  · rwa [same]
  · rwa [same]

/-- What holds of a base, whatever number stands behind it, holds of the name that it gets. -/
theorem free_name_of_base {P : String → Prop} (own : P base)
    (numbers : ∀ number, P (numbered base number)) (registry : NameRegistry) :
    P (registry.freeName base) := by
  rcases registry.free_name_eq base with ⟨_, same⟩ | ⟨_, chosen, same, _⟩
  · rwa [same]
  · rw [same]
    exact numbers chosen

theorem mem_reserve_iff :
    name ∈ (registry.reserve base).taken ↔ name = base ∨ name ∈ registry.taken := by
  unfold reserve
  split_ifs with taken
  · have listed : base ∈ registry.taken := by simpa [isTaken] using taken
    constructor
    · exact .inr
    · intro either
      rcases either with rfl | earlier
      · exact listed
      · exact earlier
  · exact List.mem_cons

theorem claim_all_length (registry : NameRegistry) (bases : List String) :
    (registry.claimAll bases).1.length = bases.length := by
  induction bases generalizing registry with
  | nil => rfl
  | cons base rest induction => simp [claimAll, induction]

theorem claim_all_of_bases {P : String → Prop} {bases : List String}
    (each : ∀ base ∈ bases, P base)
    (numbers : ∀ base, P base → ∀ number, P (numbered base number)) (registry : NameRegistry) :
    ∀ name ∈ (registry.claimAll bases).1, P name := by
  induction bases generalizing registry with
  | nil => simp [claimAll]
  | cons base rest induction =>
      obtain ⟨own, others⟩ := List.forall_mem_cons.mp each
      exact List.forall_mem_cons.mpr
        ⟨free_name_of_base own (numbers base own) registry, induction others _⟩

theorem claim_all_append (registry : NameRegistry) (bases more : List String) :
    registry.claimAll (bases ++ more) =
      ((registry.claimAll bases).1 ++ ((registry.claimAll bases).2.claimAll more).1,
        ((registry.claimAll bases).2.claimAll more).2) := by
  induction bases generalizing registry with
  | nil => rfl
  | cons base rest induction => simp only [List.cons_append, claimAll, induction]

/-- Names that are handed out one after the other differ from each other and from all names that
were taken before. -/
theorem claim_all_fresh (registry : NameRegistry) (bases : List String) :
    (registry.claimAll bases).1.Nodup ∧
      ∀ name ∈ (registry.claimAll bases).1, name ∉ registry.taken := by
  induction bases generalizing registry with
  | nil => simp [claimAll]
  | cons base rest induction =>
      obtain ⟨distinct, fresh⟩ := induction (registry.reserve (registry.freeName base))
      have apart : ∀ name ∈ ((registry.reserve (registry.freeName base)).claimAll rest).1,
          name ≠ registry.freeName base ∧ name ∉ registry.taken := by
        intro name given
        have unused := fresh name given
        rwa [mem_reserve_iff, not_or] at unused
      constructor
      · apply List.nodup_cons.mpr
        exact ⟨fun repeated => (apart _ repeated).1 rfl, distinct⟩
      · intro name given
        rcases List.mem_cons.mp given with rfl | later
        · exact registry.free_name_not_taken base
        · exact (apart name later).2

end ApiCompiler.NameRegistry

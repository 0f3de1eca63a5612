import ApiCompiler.Proofs.SchemaWalk
import Mathlib.Data.Finset.Card
import Mathlib.Data.Finset.SDiff

/-!
How deep a walk goes. From struct to struct it passes through slices only, each of them once; and it
goes below a struct only when the struct is met for the first time. So the depth that a walk is
given is never used up where every chain of slices comes to an end.
-/

set_option autoImplicit false

namespace ApiCompiler.Manifest

/-- A type-id leads through slices to one that is no slice; all type-ids on that way count. -/
inductive SliceChain (manifest : Manifest) : Nat → String → Prop
  | last {id : String} (noSlice : ∀ elem, manifest.resolve id ≠ .ok (.slice elem)) :
      SliceChain manifest 1 id
  | slice {count : Nat} {id elem : String} (resolved : manifest.resolve id = .ok (.slice elem))
      (element : SliceChain manifest count elem) : SliceChain manifest (count + 1) id

/-- A type-id leads through slices to a primitive or a struct; all type-ids on that way count. -/
inductive Unfolds (manifest : Manifest) : Nat → String → Prop
  | primitive {id : String} {kind : Kind} (resolved : manifest.resolve id = .ok (.primitive kind)) :
      Unfolds manifest 1 id
  | struct {id name : String} {entry : TypeEntry}
      (resolved : manifest.resolve id = .ok (.struct name entry)) : Unfolds manifest 1 id
  | slice {count : Nat} {id elem : String} (resolved : manifest.resolve id = .ok (.slice elem))
      (element : Unfolds manifest count elem) : Unfolds manifest (count + 1) id

variable {manifest : Manifest} {id start : String} {count other : Nat} {rendered : List String}

theorem SliceChain.unique (first : manifest.SliceChain count id)
    (second : manifest.SliceChain other id) : count = other := by
  induction first generalizing other with
  | last noSlice =>
      cases second with
      | last => rfl
      | slice resolved => exact absurd resolved (noSlice _)
  | slice resolved _ induction =>
      cases second with
      | last noSlice => exact absurd resolved (noSlice _)
      | slice resolved' element =>
          rw [resolved] at resolved'
          cases resolved'
          rw [induction element]

theorem SliceChain.positive (chain : manifest.SliceChain count id) : 0 < count := by
  cases chain <;> omega

theorem SliceChain.element {elem : String} (chain : manifest.SliceChain (count + 1) id)
    (resolved : manifest.resolve id = .ok (.slice elem)) : manifest.SliceChain count elem := by
  cases chain with
  | last noSlice => exact absurd resolved (noSlice elem)
  | slice resolved' element =>
      rw [resolved] at resolved'
      cases resolved'
      exact element

/-- No type-id comes twice on the way, since each has a count of its own. -/
theorem SliceChain.listed (chain : manifest.SliceChain count id)
    (candidate : id ∈ manifest.candidates start) :
    ∃ ids : List String, ids.length = count ∧ ids.Nodup ∧ ids ⊆ manifest.candidates start ∧
      ∀ later ∈ ids, ∃ fewer ≤ count, manifest.SliceChain fewer later := by
  induction chain with
  | @last id noSlice =>
      exact ⟨[id], rfl, List.nodup_singleton id, by simpa using candidate, by
        simpa using ⟨1, le_rfl, .last noSlice⟩⟩
  | @slice count id elem resolved element induction =>
      have refers := (references_iff_refers resolved).mp List.mem_cons_self
      obtain ⟨ids, length, distinct, known, chains⟩ :=
        induction (candidates_closed candidate refers)
      have own : manifest.SliceChain (count + 1) id := .slice resolved element
      refine ⟨id :: ids, by rw [List.length_cons, length], List.nodup_cons.mpr ⟨?_, distinct⟩,
        List.cons_subset.mpr ⟨candidate, known⟩, ?_⟩
      · intro again
        obtain ⟨fewer, le, chain⟩ := chains id again
        have same := own.unique chain
        omega
      · intro later listed
        rcases List.mem_cons.mp listed with rfl | onward
        · exact ⟨count + 1, le_rfl, own⟩
        · obtain ⟨fewer, le, chain⟩ := chains later onward
          exact ⟨fewer, by omega, chain⟩

theorem SliceChain.le_bound (chain : manifest.SliceChain count id)
    (candidate : id ∈ manifest.candidates start) : count ≤ manifest.reachBound start := by
  obtain ⟨ids, length, distinct, known, _⟩ := chain.listed candidate
  have short := (distinct.subperm known).length_le
  have bound := manifest.candidates_length start
  omega

theorem Unfolds.slice_chain (unfolds : manifest.Unfolds count id) :
    manifest.SliceChain count id := by
  induction unfolds with
  | primitive resolved => exact .last (by simp [resolved])
  | struct resolved => exact .last (by simp [resolved])
  | slice resolved _ induction => exact .slice resolved induction

/-- The type-ids of a manifest that may still be entered. -/
def unentered (manifest : Manifest) (rendered : List String) : Finset String :=
  manifest.types.keys.toFinset \ rendered.toFinset

theorem unentered_card_cons {entry : TypeEntry} (found : manifest.types.get? id = some entry)
    (fresh : id ∉ rendered) :
    (manifest.unentered (id :: rendered)).card + 1 = (manifest.unentered rendered).card := by
  have member : id ∈ manifest.unentered rendered := by
    rw [unentered, Finset.mem_sdiff, List.mem_toFinset, List.mem_toFinset]
    exact ⟨SortedMap.mem_keys_iff.mpr ⟨entry, found⟩, fresh⟩
  rw [unentered, List.toFinset_cons, Finset.sdiff_insert]
  exact Finset.card_erase_add_one member

/-- A depth that lasts for the slices on the way to the next struct, and from each struct that may
still be entered to the one after it. -/
def Lasts (manifest : Manifest) (start : String) (rendered : List String) (depth : Nat)
    (id : String) : Prop :=
  ∀ count, manifest.Unfolds count id →
    (manifest.unentered rendered).card * manifest.reachBound start + count ≤ depth

/-- The slices on the way to the next struct, and as many as can be for each struct after it. -/
theorem walk_bound_enough (rendered : List String) (short : count ≤ manifest.reachBound id) :
    (manifest.unentered rendered).card * manifest.reachBound id + count ≤
      manifest.walkBound id := by
  have few : (manifest.unentered rendered).card ≤ manifest.types.entries.length := by
    calc
      (manifest.unentered rendered).card ≤ manifest.types.keys.toFinset.card :=
        Finset.card_le_card Finset.sdiff_subset
      _ ≤ manifest.types.keys.length := List.toFinset_card_le _
      _ = manifest.types.entries.length := by simp [SortedMap.keys]
  have product := Nat.mul_le_mul_right (manifest.reachBound id) few
  unfold walkBound
  rw [Nat.add_mul, Nat.mul_add]
  omega

/-- A struct that is entered leaves enough for the slices on the way to the next one. -/
theorem enough_below {depth : Nat} {entry : TypeEntry}
    (found : manifest.types.get? id = some entry) (fresh : id ∉ rendered)
    (enough : (manifest.unentered rendered).card * manifest.reachBound start ≤ depth)
    (short : count ≤ manifest.reachBound start) :
    (manifest.unentered (id :: rendered)).card * manifest.reachBound start + count ≤ depth := by
  rw [← unentered_card_cons found fresh, Nat.add_mul] at enough
  omega

theorem lasts_walk_bound (manifest : Manifest) (rendered : List String) (id : String) :
    manifest.Lasts id rendered (manifest.walkBound id) id :=
  fun _ unfolds => walk_bound_enough rendered
    (unfolds.slice_chain.le_bound (mem_candidates_of_mentioned List.mem_cons_self))

theorem Lasts.slice {depth : Nat} {elem : String}
    (lasts : manifest.Lasts start rendered (depth + 1) id)
    (resolved : manifest.resolve id = .ok (.slice elem)) :
    manifest.Lasts start rendered depth elem := by
  intro count unfolds
  have enough := lasts (count + 1) (.slice resolved unfolds)
  omega

theorem Lasts.field {depth : Nat} {entry : TypeEntry} {field : Field}
    (lasts : manifest.Lasts start rendered (depth + 1) id)
    (resolved : manifest.resolve id = .ok (.struct id entry)) (fresh : id ∉ rendered)
    (candidate : field.typeId ∈ manifest.candidates start) :
    manifest.Lasts start (id :: rendered) depth field.typeId := by
  intro count unfolds
  have enough := lasts 1 (.struct resolved)
  exact enough_below (resolve_struct_iff.mp resolved).2.1 fresh (by omega)
    (unfolds.slice_chain.le_bound candidate)

end ApiCompiler.Manifest

import ApiCompiler.Proofs.Checks
import ApiCompiler.Proofs.TypeReferences

/-!
The search for cycles decides groundedness. Whatever it has marked as done is grounded, so marks may
be shared between starts; and from a grounded start it comes to an end before its depth is used up.
-/

set_option autoImplicit false

namespace ApiCompiler.Manifest

open Relation (TransGen)

variable {manifest : Manifest}

/-- What a successful search leaves: the earlier marks and the searched ids, all of them
grounded. -/
structure Searched (manifest : Manifest) (ids done after : List String) : Prop where
  kept : done ⊆ after
  covered : ids ⊆ after
  grounded : ∀ id ∈ after, manifest.Grounded id

/-- A step that searches one id rightly, taken for several ids in turn, searches all of them. -/
theorem searched_of_fold {step : List String → String → Except ManifestFault (List String)}
    (sound : ∀ {done after : List String} {id : String}, (∀ mark ∈ done, manifest.Grounded mark) →
      step done id = .ok after → manifest.Searched [id] done after)
    {ids done after : List String} (grounded : ∀ mark ∈ done, manifest.Grounded mark)
    (searched : ids.foldlM step done = .ok after) : manifest.Searched ids done after := by
  induction ids generalizing done with
  | nil =>
      cases searched
      exact ⟨List.Subset.refl _, List.nil_subset _, grounded⟩
  | cons id rest induction =>
      rw [List.foldlM_cons, bind_ok_iff] at searched
      obtain ⟨between, first, others⟩ := searched
      have head := sound grounded first
      have tail := induction head.grounded others
      refine ⟨List.Subset.trans head.kept tail.kept, ?_, tail.grounded⟩
      exact List.cons_subset.mpr ⟨tail.kept (head.covered List.mem_cons_self), tail.covered⟩

theorem fold_succeeds {step : List String → String → Except ManifestFault (List String)}
    {ids : List String} (succeeds : ∀ id ∈ ids, ∀ done, ∃ after, step done id = .ok after)
    (done : List String) : ∃ after, ids.foldlM step done = .ok after := by
  induction ids generalizing done with
  | nil => exact ⟨done, rfl⟩
  | cons id rest induction =>
      obtain ⟨between, first⟩ := succeeds id List.mem_cons_self done
      obtain ⟨after, others⟩ :=
        induction (fun later listed => succeeds later (List.mem_cons_of_mem _ listed)) between
      refine ⟨after, ?_⟩
      rw [List.foldlM_cons, first]
      exact others

theorem visit_searched {depth : Nat} {path done after : List String} {id : String}
    (grounded : ∀ mark ∈ done, manifest.Grounded mark)
    (visited : manifest.visit depth path done id = .ok after) :
    manifest.Searched [id] done after := by
  induction depth generalizing path done after id with
  | zero =>
      rw [visit] at visited
      split_ifs at visited with marked
      cases visited
      exact ⟨List.Subset.refl _, by simpa using marked, grounded⟩
  | succ depth induction =>
      rw [visit] at visited
      split_ifs at visited with marked
      · cases visited
        exact ⟨List.Subset.refl _, by simpa using marked, grounded⟩
      · simp only [bind_ok_iff] at visited
        obtain ⟨target, resolved, between, below, marked⟩ := visited
        cases marked
        have references := searched_of_fold induction grounded below
        have own : manifest.Grounded id :=
          grounded_of_references ⟨target, resolved⟩ fun next refers =>
            references.grounded next
              (references.covered ((references_iff_refers resolved).mpr refers))
        refine ⟨List.Subset.trans references.kept (List.subset_cons_self _ _), ?_, ?_⟩
        · simp
        · intro mark listed
          rcases List.mem_cons.mp listed with rfl | earlier
          · exact own
          · exact references.grounded mark earlier

/-- With its last id, the path leads to what that id refers to. -/
theorem path_leads_on {path : List String} {id next : String}
    (leads : ∀ earlier ∈ path, TransGen manifest.Refers earlier id)
    (refers : manifest.Refers id next) :
    ∀ earlier ∈ path ++ [id], TransGen manifest.Refers earlier next := by
  intro earlier onPath
  rcases List.mem_append.mp onPath with before | last
  · exact (leads earlier before).tail refers
  · rw [List.mem_singleton.mp last]
    exact .single refers

/-- The ids on the path lead to the id that is visited, so it cannot be one of them. -/
theorem visit_succeeds {depth : Nat} {path done : List String} {id : String}
    (grounded : manifest.Grounded id) (within : manifest.Within depth id)
    (leads : ∀ earlier ∈ path, TransGen manifest.Refers earlier id) :
    ∃ after, manifest.visit depth path done id = .ok after := by
  induction depth generalizing path done id with
  | zero => exact within.elim
  | succ depth induction =>
      rw [visit]
      split_ifs with marked onPath
      · exact ⟨done, rfl⟩
      · exact absurd (leads id (by simpa using onPath)) grounded.acyclic
      · obtain ⟨target, resolved⟩ := within.1
        have references : ∀ next ∈ target.references, ∀ done,
            ∃ after, manifest.visit depth (path ++ [id]) done next = .ok after := by
          intro next listed done
          have refers := (references_iff_refers resolved).mp listed
          exact induction (grounded.reference refers) (within.2 next refers)
            (path_leads_on leads refers)
        obtain ⟨after, below⟩ := fold_succeeds references done
        refine ⟨id :: after, ?_⟩
        rw [resolved]
        simp only [bind, Except.bind, below]
        rfl

theorem search_searched {done after : List String} {start : String}
    (grounded : ∀ mark ∈ done, manifest.Grounded mark)
    (searched : manifest.search done start = .ok after) : manifest.Searched [start] done after :=
  visit_searched grounded searched

theorem search_succeeds {start : String} (grounded : manifest.Grounded start)
    (done : List String) : ∃ after, manifest.search done start = .ok after :=
  visit_succeeds grounded grounded.within (by simp)

theorem search_all_ok_iff {starts : List String} :
    manifest.searchAll starts = .ok () ↔ ∀ start ∈ starts, manifest.Grounded start := by
  unfold searchAll
  constructor
  · intro searched
    obtain ⟨after, found, _⟩ := bind_ok_iff.mp searched
    have all := searched_of_fold search_searched (by simp) found
    exact fun start listed => all.grounded start (all.covered listed)
  · intro grounded
    obtain ⟨after, found⟩ :=
      fold_succeeds (fun start listed => search_succeeds (grounded start listed)) []
    rw [found]
    rfl

end ApiCompiler.Manifest

import ApiCompiler.Proofs.CycleSearch
import Mathlib.Data.List.Chain

/-!
What the search for cycles comes to, whatever the manifest holds. The search is said once more as a
relation that goes as deep as the references do; the depth that a search is given never cuts it
short. A cycle that is reported is a chain of references from the start which comes back to itself,
and marks that earlier searches left change no verdict.
-/

set_option autoImplicit false

namespace ApiCompiler.Manifest

open Relation (ReflTransGen TransGen)

/-- Searching type-ids in turn, with the ids on the path to them and the ids already found to be in
order. The outcome is what is found to be in order then, or the first fault. -/
inductive Visits (manifest : Manifest) :
    (path done ids : List String) → Except ManifestFault (List String) → Prop
  | nothing {path done : List String} : Visits manifest path done [] (.ok done)
  | marked {path done rest : List String} {id : String}
      {outcome : Except ManifestFault (List String)} (known : id ∈ done)
      (others : Visits manifest path done rest outcome) :
      Visits manifest path done (id :: rest) outcome
  | repeated {path done rest : List String} {id : String} (unmarked : id ∉ done)
      (onPath : id ∈ path) :
      Visits manifest path done (id :: rest) (.error (.cycle (path ++ [id])))
  | unresolved {path done rest : List String} {id : String} {fault : ManifestFault}
      (unmarked : id ∉ done) (offPath : id ∉ path) (refused : manifest.resolve id = .error fault) :
      Visits manifest path done (id :: rest) (.error fault)
  | faulty {path done rest : List String} {id : String} {target : TypeRef} {fault : ManifestFault}
      (unmarked : id ∉ done) (offPath : id ∉ path) (resolved : manifest.resolve id = .ok target)
      (below : Visits manifest (path ++ [id]) done target.references (.error fault)) :
      Visits manifest path done (id :: rest) (.error fault)
  | grounded {path done between rest : List String} {id : String} {target : TypeRef}
      {outcome : Except ManifestFault (List String)} (unmarked : id ∉ done) (offPath : id ∉ path)
      (resolved : manifest.resolve id = .ok target)
      (below : Visits manifest (path ++ [id]) done target.references (.ok between))
      (others : Visits manifest path (id :: between) rest outcome) :
      Visits manifest path done (id :: rest) outcome

variable {manifest : Manifest} {path done between rest ids : List String} {id start : String}
  {outcome other : Except ManifestFault (List String)} {fault : ManifestFault}

theorem Visits.unique (first : manifest.Visits path done ids outcome)
    (second : manifest.Visits path done ids other) : outcome = other := by
  induction first generalizing other with
  | nothing =>
      cases second
      rfl
  | marked known _ induction =>
      cases second with
      | marked _ others => exact induction others
      | repeated unmarked => exact absurd known unmarked
      | unresolved unmarked => exact absurd known unmarked
      | faulty unmarked => exact absurd known unmarked
      | grounded unmarked => exact absurd known unmarked
  | repeated unmarked onPath =>
      cases second with
      | marked known => exact absurd known unmarked
      | repeated => rfl
      | unresolved _ offPath => exact absurd onPath offPath
      | faulty _ offPath => exact absurd onPath offPath
      | grounded _ offPath => exact absurd onPath offPath
  | unresolved unmarked offPath refused =>
      cases second with
      | marked known => exact absurd known unmarked
      | repeated _ onPath => exact absurd onPath offPath
      | unresolved _ _ refused' => simp_all
      | faulty _ _ resolved => simp_all
      | grounded _ _ resolved => simp_all
  | faulty unmarked offPath resolved _ induction =>
      cases second with
      | marked known => exact absurd known unmarked
      | repeated _ onPath => exact absurd onPath offPath
      | unresolved _ _ refused => simp_all
      | faulty _ _ resolved' below =>
          rw [resolved] at resolved'
          cases resolved'
          exact induction below
      | grounded _ _ resolved' below =>
          rw [resolved] at resolved'
          cases resolved'
          cases induction below
  | grounded unmarked offPath resolved _ _ induction others =>
      cases second with
      | marked known => exact absurd known unmarked
      | repeated _ onPath => exact absurd onPath offPath
      | unresolved _ _ refused => simp_all
      | faulty _ _ resolved' below =>
          rw [resolved] at resolved'
          cases resolved'
          cases induction below
      | grounded _ _ resolved' below others' =>
          rw [resolved] at resolved'
          cases resolved'
          cases induction below
          exact others others'

theorem Visits.stops (first : manifest.Visits path done [id] (.error fault)) (rest : List String) :
    manifest.Visits path done (id :: rest) (.error fault) := by
  cases first with
  | marked _ others => cases others
  | repeated unmarked onPath => exact .repeated unmarked onPath
  | unresolved unmarked offPath refused => exact .unresolved unmarked offPath refused
  | faulty unmarked offPath resolved below => exact .faulty unmarked offPath resolved below
  | grounded _ _ _ _ others => cases others

theorem Visits.goes_on (first : manifest.Visits path done [id] (.ok between))
    (others : manifest.Visits path between rest outcome) :
    manifest.Visits path done (id :: rest) outcome := by
  cases first with
  | marked known last =>
      cases last
      exact .marked known others
  | grounded unmarked offPath resolved below last =>
      cases last
      exact .grounded unmarked offPath resolved below others

theorem visits_of_fold {step : List String → String → Except ManifestFault (List String)}
    (each : ∀ id ∈ ids, ∀ done, manifest.Visits path done [id] (step done id))
    (done : List String) : manifest.Visits path done ids (ids.foldlM step done) := by
  induction ids generalizing done with
  | nil => exact .nothing
  | cons id rest induction =>
      rw [List.forall_mem_cons] at each
      have first := each.1 done
      rw [List.foldlM_cons]
      cases stepped : step done id with
      | error fault =>
          rw [stepped] at first
          exact first.stops rest
      | ok between =>
          rw [stepped] at first
          exact first.goes_on (induction each.2 between)

/-! ### The depth of a search is enough -/

/-- The path holds different ids of those that can be reached, so it ends before the depth does. -/
theorem visits_visit {depth : Nat} (distinct : path.Nodup)
    (known : path ⊆ manifest.candidates start) (candidate : id ∈ manifest.candidates start)
    (enough : manifest.reachBound start + 1 ≤ path.length + depth) :
    manifest.Visits path done [id] (manifest.visit depth path done id) := by
  induction depth generalizing path done id with
  | zero =>
      have short := (distinct.subperm known).length_le
      have bound := manifest.candidates_length start
      omega
  | succ depth induction =>
      rw [visit]
      split_ifs with marked onPath
      · exact .marked (by simpa using marked) .nothing
      · exact .repeated (by simpa using marked) (by simpa using onPath)
      · have unmarked : id ∉ done := by simpa using marked
        have offPath : id ∉ path := by simpa using onPath
        cases resolved : manifest.resolve id with
        | error fault => exact .unresolved unmarked offPath resolved
        | ok target =>
            have longer : (path ++ [id]).Nodup :=
              List.nodup_append.mpr ⟨distinct, List.nodup_singleton id, by
                intro earlier listed last same
                rw [List.mem_singleton.mp same]
                exact fun repeats => offPath (repeats ▸ listed)⟩
            have within : path ++ [id] ⊆ manifest.candidates start :=
              List.append_subset.mpr ⟨known, by simpa using candidate⟩
            have below : manifest.Visits (path ++ [id]) done target.references
                (target.references.foldlM (manifest.visit depth (path ++ [id])) done) := by
              apply visits_of_fold
              intro next listed done
              have refers := (references_iff_refers resolved).mp listed
              apply induction longer within (candidates_closed candidate refers)
              simp only [List.length_append, List.length_singleton]
              omega
            simp only [bind, Except.bind]
            cases folded : target.references.foldlM (manifest.visit depth (path ++ [id])) done with
            | error fault => exact .faulty unmarked offPath resolved (folded ▸ below)
            | ok between => exact .grounded unmarked offPath resolved (folded ▸ below) .nothing

theorem visits_search (manifest : Manifest) (done : List String) (start : String) :
    manifest.Visits [] done [start] (manifest.search done start) :=
  visits_visit List.nodup_nil (List.nil_subset _)
    (mem_candidates_of_mentioned List.mem_cons_self) (by simp)

/-! ### What a reported cycle is -/

/-- A chain of references from a start, whose last id has been on it before. -/
structure ClosedChain (manifest : Manifest) (start : String) (chain : List String) : Prop where
  starts : chain.head? = some start
  refers : chain.IsChain manifest.Refers
  closes : ∃ before last, chain = before ++ [last] ∧ last ∈ before

theorem resolve_error_ne_cycle {chain : List String} :
    manifest.resolve id ≠ .error (.cycle chain) := by
  intro refused
  rcases resolve_error_cases refused with same | same <;> cases same

theorem Visits.reported (visits : manifest.Visits path done ids outcome) {chain : List String}
    (reports : outcome = .error (.cycle chain))
    (leads : ∀ id ∈ ids, (path ++ [id]).IsChain manifest.Refers) :
    ∃ id ∈ ids, ∃ before last, chain = before ++ [last] ∧ last ∈ before ∧
      chain.IsChain manifest.Refers ∧ path ++ [id] <+: chain := by
  induction visits generalizing chain with
  | nothing => cases reports
  | marked _ _ induction =>
      rw [List.forall_mem_cons] at leads
      obtain ⟨id, listed, found⟩ := induction reports leads.2
      exact ⟨id, List.mem_cons_of_mem _ listed, found⟩
  | repeated _ onPath =>
      cases reports
      rw [List.forall_mem_cons] at leads
      exact ⟨_, List.mem_cons_self, _, _, rfl, onPath, leads.1, List.prefix_refl _⟩
  | unresolved _ _ refused =>
      cases reports
      exact absurd refused resolve_error_ne_cycle
  | faulty _ _ resolved _ induction =>
      rw [List.forall_mem_cons] at leads
      obtain ⟨next, _, before, last, same, closes, refers, begins⟩ := induction reports
        fun next listed => by
          rw [List.append_assoc]
          exact List.isChain_append_cons_cons.mpr
            ⟨leads.1, (references_iff_refers resolved).mp listed, List.isChain_singleton _⟩
      exact ⟨_, List.mem_cons_self, before, last, same, closes, refers,
        (List.prefix_append _ _).trans begins⟩
  | grounded _ _ _ _ _ _ others =>
      rw [List.forall_mem_cons] at leads
      obtain ⟨id, listed, found⟩ := others reports leads.2
      exact ⟨id, List.mem_cons_of_mem _ listed, found⟩

theorem closed_chain_of_search {chain : List String}
    (reports : manifest.search done start = .error (.cycle chain)) :
    manifest.ClosedChain start chain := by
  obtain ⟨id, listed, before, last, same, closes, refers, begins⟩ :=
    (visits_search manifest done start).reported reports (by simp)
  obtain ⟨onward, rfl⟩ := begins
  exact ⟨by simpa using List.mem_singleton.mp listed, refers, before, last, same, closes⟩

/-! ### Marks change no verdict -/

/-- What a search says, without what it has marked. -/
def verdict (outcome : Except ManifestFault (List String)) : Except ManifestFault Unit :=
  outcome.map fun _ => ()

theorem Visits.searched (visits : manifest.Visits path done ids outcome) {after : List String}
    (passes : outcome = .ok after) (marks : ∀ mark ∈ done, manifest.Grounded mark) :
    manifest.Searched ids done after := by
  induction visits generalizing after with
  | nothing =>
      cases passes
      exact ⟨List.Subset.refl _, List.nil_subset _, marks⟩
  | marked known _ induction =>
      obtain ⟨kept, covered, grounded⟩ := induction passes marks
      exact ⟨kept, List.cons_subset.mpr ⟨kept known, covered⟩, grounded⟩
  | repeated => cases passes
  | unresolved => cases passes
  | faulty => cases passes
  | @grounded _ _ between _ id _ _ _ _ resolved _ _ induction others =>
      have references := induction rfl marks
      have own : manifest.Grounded id := grounded_of_references ⟨_, resolved⟩ fun next refers =>
        references.grounded next
          (references.covered ((references_iff_refers resolved).mpr refers))
      obtain ⟨kept, covered, grounded⟩ :=
        others passes (List.forall_mem_cons.mpr ⟨own, references.grounded⟩)
      obtain ⟨listed, kept⟩ := List.cons_subset.mp kept
      exact ⟨List.Subset.trans references.kept kept, List.cons_subset.mpr ⟨listed, covered⟩,
        grounded⟩

/-- The path leads to the ids, so it cannot hold a grounded one. -/
theorem Visits.passes_grounded (visits : manifest.Visits path done ids outcome)
    (grounded : ∀ id ∈ ids, manifest.Grounded id)
    (leads : ∀ id ∈ ids, ∀ earlier ∈ path, TransGen manifest.Refers earlier id) :
    ∃ after, outcome = .ok after := by
  induction visits with
  | nothing => exact ⟨_, rfl⟩
  | marked _ _ induction =>
      rw [List.forall_mem_cons] at grounded leads
      exact induction grounded.2 leads.2
  | repeated _ onPath =>
      rw [List.forall_mem_cons] at grounded leads
      exact absurd (leads.1 _ onPath) grounded.1.acyclic
  | unresolved _ _ refused =>
      rw [List.forall_mem_cons] at grounded
      obtain ⟨target, resolved⟩ := grounded.1.resolves
      rw [refused] at resolved
      cases resolved
  | faulty _ _ resolved _ induction =>
      rw [List.forall_mem_cons] at grounded leads
      exact induction
        (fun next listed => grounded.1.reference ((references_iff_refers resolved).mp listed))
        (fun next listed => path_leads_on leads.1 ((references_iff_refers resolved).mp listed))
  | grounded _ _ _ _ _ _ others =>
      rw [List.forall_mem_cons] at grounded leads
      exact others grounded.2 leads.2

/-- A grounded id is passed over, whether it has been marked before or not. -/
theorem Visits.past_grounded (visits : manifest.Visits path done (id :: rest) outcome)
    (marks : ∀ mark ∈ done, manifest.Grounded mark) (grounded : manifest.Grounded id)
    (leads : ∀ earlier ∈ path, TransGen manifest.Refers earlier id) :
    ∃ between, (∀ mark ∈ between, manifest.Grounded mark) ∧
      manifest.Visits path between rest outcome := by
  have single : ∀ {fault}, ¬manifest.Visits path done [id] (.error fault) := by
    intro fault fails
    obtain ⟨after, passes⟩ := fails.passes_grounded (by simpa using grounded) (by simpa using leads)
    cases passes
  cases visits with
  | marked known others => exact ⟨done, marks, others⟩
  | repeated unmarked onPath => exact absurd (.repeated unmarked onPath) single
  | unresolved unmarked offPath refused =>
      exact absurd (.unresolved unmarked offPath refused) single
  | faulty unmarked offPath resolved below =>
      exact absurd (.faulty unmarked offPath resolved below) single
  | grounded _ _ _ below others =>
      exact ⟨_, List.forall_mem_cons.mpr ⟨grounded, (below.searched rfl marks).grounded⟩, others⟩

/-- Two searches that differ in their marks only come to the same verdict, if all marks are
right. -/
theorem Visits.same_verdict (first : manifest.Visits path done ids outcome) {marked : List String}
    (second : manifest.Visits path marked ids other)
    (marks : ∀ mark ∈ done, manifest.Grounded mark)
    (marks' : ∀ mark ∈ marked, manifest.Grounded mark)
    (leads : ∀ id ∈ ids, ∀ earlier ∈ path, TransGen manifest.Refers earlier id) :
    verdict outcome = verdict other := by
  induction first generalizing marked other with
  | nothing =>
      cases second
      rfl
  | marked known _ induction =>
      rw [List.forall_mem_cons] at leads
      obtain ⟨between, right, others⟩ := second.past_grounded marks' (marks _ known) leads.1
      exact induction others marks right leads.2
  | repeated unmarked onPath =>
      rw [List.forall_mem_cons] at leads
      cases second with
      | marked known => exact absurd (leads.1 _ onPath) (marks' _ known).acyclic
      | repeated => rfl
      | unresolved _ offPath => exact absurd onPath offPath
      | faulty _ offPath => exact absurd onPath offPath
      | grounded _ offPath => exact absurd onPath offPath
  | unresolved unmarked offPath refused =>
      cases second with
      | marked known =>
          obtain ⟨target, resolved⟩ := (marks' _ known).resolves
          simp_all
      | repeated _ onPath => exact absurd onPath offPath
      | unresolved _ _ refused' => simp_all
      | faulty _ _ resolved => simp_all
      | grounded _ _ resolved => simp_all
  | faulty unmarked offPath resolved below induction =>
      rw [List.forall_mem_cons] at leads
      have leadsOn := fun next (listed : next ∈ _) =>
        path_leads_on leads.1 ((references_iff_refers resolved).mp listed)
      cases second with
      | marked known =>
          obtain ⟨after, passes⟩ := below.passes_grounded (fun next listed =>
            (marks' _ known).reference ((references_iff_refers resolved).mp listed)) leadsOn
          cases passes
      | repeated _ onPath => exact absurd onPath offPath
      | unresolved _ _ refused => simp_all
      | faulty _ _ resolved' below' =>
          rw [resolved] at resolved'
          cases resolved'
          exact induction below' marks marks' leadsOn
      | grounded _ _ resolved' below' =>
          rw [resolved] at resolved'
          cases resolved'
          cases induction below' marks marks' leadsOn
  | grounded unmarked offPath resolved below _ induction others =>
      rw [List.forall_mem_cons] at leads
      have leadsOn := fun next (listed : next ∈ _) =>
        path_leads_on leads.1 ((references_iff_refers resolved).mp listed)
      have right := (Visits.grounded unmarked offPath resolved below .nothing).searched rfl marks
      cases second with
      | marked known others' => exact others others' right.grounded marks' leads.2
      | repeated _ onPath => exact absurd onPath offPath
      | unresolved _ _ refused => simp_all
      | faulty _ _ resolved' below' =>
          rw [resolved] at resolved'
          cases resolved'
          cases induction below' marks marks' leadsOn
      | grounded unmarked' _ resolved' below' others' =>
          have right' :=
            (Visits.grounded unmarked' offPath resolved' below' .nothing).searched rfl marks'
          exact others others' right.grounded right'.grounded leads.2

/-- The search for cycles comes to an end and is right, from every start and in every manifest. -/
structure SearchSettles (manifest : Manifest) (start : String) : Prop where
  /-- Searching as deep as the references go ends, with whatever marks, in the outcome that the
  search computes. -/
  ends : ∀ done outcome, manifest.Visits [] done [start] outcome ↔
    outcome = manifest.search done start
  passes_iff : (∃ done, manifest.search [] start = .ok done) ↔ manifest.Grounded start
  closes : ∀ chain, manifest.search [] start = .error (.cycle chain) →
    manifest.ClosedChain start chain
  /-- The marks of earlier searches that have passed may be used again. -/
  remembers : ∀ (roots done : List String), roots.foldlM manifest.search [] = .ok done →
    verdict (manifest.search done start) = verdict (manifest.search [] start)

theorem search_settles (manifest : Manifest) (start : String) : manifest.SearchSettles start := by
  refine ⟨?_, ?_, fun chain => closed_chain_of_search, ?_⟩
  · intro done outcome
    constructor
    · exact fun visits => visits.unique (visits_search manifest done start)
    · intro same
      subst same
      exact visits_search manifest done start
  · constructor
    · intro parts
      rcases parts with ⟨done, searched⟩
      have right := search_searched (by simp) searched
      exact right.grounded start (right.covered (List.mem_singleton_self start))
    · exact fun grounded => search_succeeds grounded []
  · intro roots done searched
    have right := searched_of_fold search_searched (by simp) searched
    exact (visits_search manifest done start).same_verdict (visits_search manifest [] start)
      right.grounded (by simp) (by simp)

/-- A keeper has a pet with toys, and each toy knows whose it is. -/
def ownedToys : Manifest := { empty with
  types := .ofList [
    ("Keeper", ⟨"", .struct, [⟨"Pet", "pet", "Pet", true, none⟩], none, none⟩),
    ("Pet", ⟨"", .struct, [⟨"Name", "name", "string", true, none⟩,
      ⟨"Toys", "toys", "[]Toy", false, none⟩], none, none⟩),
    ("Toy", ⟨"", .struct, [⟨"Owner", "", "Pet", true, none⟩], none, none⟩)] }

theorem owned_toys_closed :
    ownedToys.search [] "Keeper" = .error (.cycle ["Keeper", "Pet", "[]Toy", "Toy", "Pet"]) ∧
      ownedToys.ClosedChain "Keeper" ["Keeper", "Pet", "[]Toy", "Toy", "Pet"] := by
  have reports : ownedToys.search [] "Keeper" =
      .error (.cycle ["Keeper", "Pet", "[]Toy", "Toy", "Pet"]) := rfl
  exact ⟨reports, (search_settles ownedToys "Keeper").closes _ reports⟩

end ApiCompiler.Manifest

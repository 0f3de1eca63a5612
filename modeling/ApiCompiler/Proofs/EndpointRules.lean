import ApiCompiler.Proofs.Checks
import ApiCompiler.Proofs.CycleSearch
import ApiCompiler.Proofs.WellFormed
import Mathlib.Data.List.Nodup
import Mathlib.Data.Prod.Basic

/-!
The checks of one endpoint pass just for the well-formed endpoints whose types are grounded. Each
check has a lemma that says what it accepts; the last one puts them together.
-/

set_option autoImplicit false

namespace ApiCompiler

theorem Kind.of_name_iff {name : String} {kind : Kind} :
    Kind.ofName? name = some kind ↔ name = kind.name := by
  constructor
  · intro found
    have same := List.find?_some found
    exact (by simpa using same : kind.name = name).symm
  · intro same
    subst same
    cases kind <;> rfl

theorem FieldBinding.parse_kind_ok_iff {binding : FieldBinding} {kind : Kind} :
    binding.parseKind = .ok kind ↔
      if binding.isSlice then binding.elemKind = some kind.name else binding.kind = kind.name := by
  unfold FieldBinding.parseKind
  cases binding.isSlice with
  | false =>
      simp only [Bool.false_eq_true, if_false, ← Kind.of_name_iff]
      cases Kind.ofName? binding.kind <;> simp
  | true =>
      cases binding.elemKind with
      | none => simp
      | some name =>
          simp only [if_true, Option.some.injEq, ← Kind.of_name_iff]
          cases Kind.ofName? name <;> simp

theorem Bindings.is_empty_eq_false_iff {bindings : Bindings} :
    bindings.isEmpty = false ↔ bindings ≠ .empty := by
  obtain ⟨hasJsonBody, path, query, header⟩ := bindings
  cases hasJsonBody <;> cases path <;> cases query <;> cases header <;> simp [isEmpty, empty]

theorem first_repeated_none_iff {seen items : List String} :
    firstRepeated seen items = none ↔ items.Nodup ∧ ∀ item ∈ items, item ∉ seen := by
  induction items generalizing seen with
  | nil => simp [firstRepeated]
  | cons item rest induction =>
      rw [firstRepeated]
      split_ifs with repeated
      · simp only [false_iff]
        intro parts
        rcases parts with ⟨_, fresh⟩
        exact fresh item List.mem_cons_self (by simpa using repeated)
      · have notSeen : item ∉ seen := by simpa using repeated
        simp only [induction, List.nodup_cons, List.mem_cons, not_or, forall_eq_or_imp]
        constructor
        · intro parts
          rcases parts with ⟨distinct, fresh⟩
          exact ⟨⟨fun listed => (fresh item listed).1 rfl, distinct⟩, notSeen,
            fun later listed => (fresh later listed).2⟩
        · intro parts
          rcases parts with ⟨⟨once, distinct⟩, _, fresh⟩
          exact ⟨distinct, fun later listed =>
            ⟨fun same => once (same ▸ listed), fresh later listed⟩⟩

namespace Validation

theorem check_shape_ok_iff {endpoint : Endpoint} :
    checkShape endpoint = .ok () ↔
      (endpoint.reqType.isSome ↔ endpoint.shape.hasRequest) ∧
      (endpoint.respType.isSome ↔ endpoint.shape.hasResponse) ∧
      (endpoint.bindings.isSome → endpoint.reqType.isSome) := by
  unfold checkShape
  cases endpoint.shape.hasRequest <;> cases endpoint.reqType <;>
    cases endpoint.shape.hasResponse <;> cases endpoint.respType <;>
      simp [unit_bind_ok_iff, require_ok_iff]

theorem check_binding_ok_iff {parameters : List String} {seen : List (Location × String)}
    {location : Location} {binding : FieldBinding} :
    checkBinding parameters seen location binding = .ok () ↔
      binding.WellFormed location ∧ (location, binding.tagKey location) ∉ seen ∧
        (location = .path → binding.tag ∈ parameters) := by
  unfold checkBinding
  rw [unit_bind_ok_iff, require_ok_iff, bind_ok_iff]
  simp only [unit_bind_ok_iff, require_ok_iff, FieldBinding.parse_kind_ok_iff]
  simp only [Bool.and_eq_true, Bool.not_eq_true', String.isEmpty_eq_false_iff,
    Bool.and_eq_false_iff, beq_eq_false_iff_ne, List.contains_eq_mem, decide_eq_false_iff_not,
    Bool.not_eq_false']
  constructor
  · intro parts
    rcases parts with ⟨⟨fieldSet, tagSet⟩, kind, known, single, required, fresh, bound⟩
    refine ⟨⟨fieldSet, tagSet, ⟨kind, known⟩, ?_, ?_⟩, fresh, ?_⟩
    · intro inPath
      exact single.resolve_left (not_not_intro inPath)
    · intro inPath
      exact required.resolve_left (not_not_intro inPath)
    · intro inPath
      simpa using bound.resolve_left (not_not_intro inPath)
  · intro parts
    rcases parts with ⟨⟨fieldSet, tagSet, ⟨kind, known⟩, single, required⟩, fresh, bound⟩
    refine ⟨⟨fieldSet, tagSet⟩, kind, known, ?_, ?_, fresh, ?_⟩
    · exact Classical.or_iff_not_imp_left.mpr fun inPath => single (not_not.mp inPath)
    · exact Classical.or_iff_not_imp_left.mpr fun inPath => required (not_not.mp inPath)
    · exact Classical.or_iff_not_imp_left.mpr fun inPath => by simpa using bound (not_not.mp inPath)

/-- The keys by which the tags of one endpoint must differ. -/
def tagKeys (located : List (Location × FieldBinding)) : List (Location × String) :=
  located.map fun entry => (entry.1, entry.2.tagKey entry.1)

theorem check_bindings_ok_iff {parameters : List String} {seen : List (Location × String)}
    {located : List (Location × FieldBinding)} :
    checkBindings parameters seen located = .ok () ↔
      (∀ location binding, (location, binding) ∈ located →
        binding.WellFormed location ∧ (location = .path → binding.tag ∈ parameters)) ∧
      (tagKeys located).Nodup ∧ ∀ key ∈ tagKeys located, key ∉ seen := by
  induction located generalizing seen with
  | nil => simp [checkBindings, tagKeys]
  | cons head rest induction =>
      obtain ⟨location, binding⟩ := head
      rw [checkBindings, unit_bind_ok_iff, check_binding_ok_iff, induction]
      simp only [tagKeys, List.map_cons, List.nodup_cons, List.mem_cons, not_or, Prod.mk.injEq,
        forall_eq_or_imp]
      constructor
      · intro parts
        rcases parts with ⟨⟨wellFormed, fresh, bound⟩, each, distinct, unseen⟩
        refine ⟨?_, ⟨fun listed => (unseen _ listed).1 rfl, distinct⟩, fresh,
          fun key listed => (unseen key listed).2⟩
        intro location' binding' either
        rcases either with ⟨rfl, rfl⟩ | listed
        · exact ⟨wellFormed, bound⟩
        · exact each location' binding' listed
      · intro parts
        rcases parts with ⟨each, ⟨once, distinct⟩, fresh, unseen⟩
        have first := each location binding (.inl ⟨rfl, rfl⟩)
        refine ⟨⟨first.1, fresh, first.2⟩, fun location' binding' listed =>
          each location' binding' (.inr listed), distinct,
          fun key listed => ⟨?_, unseen key listed⟩⟩
        intro same
        subst same
        exact once listed

theorem check_bound_ok_iff {parameters bound : List String} :
    checkBound parameters bound = .ok () ↔ ∀ parameter ∈ parameters, parameter ∈ bound := by
  unfold checkBound
  cases found : parameters.find? fun parameter => !bound.contains parameter with
  | none => simpa using found
  | some parameter =>
      have listed := List.mem_of_find?_eq_some found
      have unbound := List.find?_some found
      simp only [reduceCtorEq, false_iff, not_forall]
      exact ⟨parameter, listed, by simpa using unbound⟩

theorem check_request_struct_ok_iff {manifest : Manifest} {endpoint : Endpoint}
    {bindings : Bindings} :
    checkRequestStruct manifest endpoint bindings = .ok () ↔
      (bindings ≠ .empty → ∀ id, endpoint.reqType = some id →
        ∃ entry, manifest.types.get? id = some entry ∧ entry.form = .struct) := by
  rw [← Bindings.is_empty_eq_false_iff]
  unfold checkRequestStruct
  cases bindings.isEmpty with
  | true => simp
  | false =>
      cases endpoint.reqType with
      | none => simp
      | some typeId =>
          simp only [bind_ok_iff, Option.some.injEq, forall_eq', true_imp_iff]
          constructor
          · intro parts
            rcases parts with ⟨target, resolved, isStruct⟩
            cases target with
            | struct name entry => exact ⟨entry, (Manifest.resolve_struct_iff.mp resolved).2⟩
            | primitive kind => cases isStruct
            | slice elem => cases isStruct
          · intro parts
            rcases parts with ⟨entry, found, form⟩
            exact ⟨.struct typeId entry, Manifest.resolve_struct_iff.mpr ⟨rfl, found, form⟩, rfl⟩

theorem tag_keys_nodup_iff {bindings : Bindings} :
    (tagKeys bindings.located).Nodup ↔
      (bindings.path.map (·.tag)).Nodup ∧ (bindings.query.map (·.tag)).Nodup ∧
        (bindings.header.map fun header => header.tag.toList.map Char.toLower).Nodup := by
  have keys : tagKeys bindings.located =
      (bindings.path.map (·.tag)).map (Prod.mk Location.path) ++
        (bindings.query.map (·.tag)).map (Prod.mk Location.query) ++
          (bindings.header.map fun header => header.tag.toList.map Char.toLower).map
            (fun tag => (Location.header, String.ofList tag)) := by
    simp [tagKeys, Bindings.located, FieldBinding.tagKey, Function.comp_def]
  have ofList : Function.Injective fun tag => (Location.header, String.ofList tag) := by
    intro left right same
    exact String.ofList_injective (Prod.mk.inj same).2
  rw [keys, List.nodup_append, List.nodup_append,
    List.nodup_map_iff (Prod.mk_right_injective Location.path),
    List.nodup_map_iff (Prod.mk_right_injective Location.query), List.nodup_map_iff ofList]
  simp only [List.mem_append, List.mem_map]
  constructor
  · intro parts
    rcases parts with ⟨⟨path, query, -⟩, header, -⟩
    exact ⟨path, query, header⟩
  · intro parts
    rcases parts with ⟨path, query, header⟩
    refine ⟨⟨path, query, ?_⟩, header, ?_⟩
    · intro _ inPath _ inQuery same
      rcases inPath with ⟨_, _, rfl⟩
      rcases inQuery with ⟨_, _, rfl⟩
      exact absurd (Prod.mk.inj same).1 (by decide)
    · intro _ earlier _ inHeader same
      rcases inHeader with ⟨_, _, rfl⟩
      rcases earlier with ⟨_, _, rfl⟩ | ⟨_, _, rfl⟩
      · exact absurd (Prod.mk.inj same).1 (by decide)
      · exact absurd (Prod.mk.inj same).1 (by decide)

theorem binds_parameters_iff {endpoint : Endpoint} {parameters : List String} :
    endpoint.BindsParameters parameters ↔
      firstRepeated [] parameters = none ∧
        match endpoint.bindings with
        | none => checkBound parameters [] = .ok ()
        | some bindings =>
            checkBindings parameters [] bindings.located = .ok () ∧
              checkBound parameters (bindings.path.map (·.tag)) = .ok () := by
  unfold Endpoint.BindsParameters
  rw [first_repeated_none_iff]
  cases endpoint.bindings with
  | none => simp [check_bound_ok_iff, List.eq_nil_iff_forall_not_mem]
  | some bindings =>
      simp only [check_bindings_ok_iff, tag_keys_nodup_iff, check_bound_ok_iff, List.not_mem_nil,
        not_false_eq_true, implies_true, and_true]
      apply and_congr_right
      intro _
      constructor
      · intro parts
        rcases parts with ⟨each, path, query, header, tags⟩
        refine ⟨⟨fun location binding listed => ⟨each location binding listed, ?_⟩,
          path, query, header⟩, fun name listed => (tags name).mpr listed⟩
        intro same
        subst same
        apply (tags binding.tag).mp
        have inPath : binding ∈ bindings.path := by simpa [Bindings.located] using listed
        exact List.mem_map_of_mem inPath
      · intro parts
        rcases parts with ⟨⟨each, path, query, header⟩, bound⟩
        refine ⟨fun location binding listed => (each location binding listed).1,
          path, query, header, fun name => ⟨?_, bound name⟩⟩
        intro listed
        obtain ⟨binding, inPath, rfl⟩ := List.mem_map.mp listed
        exact (each .path binding (by simpa [Bindings.located] using inPath)).2 rfl

theorem check_template_iff {endpoint : Endpoint} :
    (∃ pieces, PathTemplate.Spells pieces endpoint.path.toList ∧
      endpoint.BindsParameters ((PathTemplate.names pieces).map String.ofList)) ↔
        PathTemplate.check endpoint.path = .ok () ∧
          endpoint.BindsParameters (PathTemplate.parameters endpoint.path) := by
  rw [PathTemplate.check_ok_iff]
  constructor
  · intro parts
    rcases parts with ⟨pieces, spells, binds⟩
    exact ⟨⟨pieces, spells⟩, by rwa [PathTemplate.parameters_of_spells spells]⟩
  · intro parts
    rcases parts with ⟨⟨pieces, spells⟩, binds⟩
    exact ⟨pieces, spells, by rwa [← PathTemplate.parameters_of_spells spells]⟩

theorem rooted_iff {path : String} :
    (path.toList.head? == some '/') = true ↔ ∃ rest, path.toList = '/' :: rest := by
  cases path.toList with
  | nil => simp
  | cons first rest => simp

theorem check_endpoint_ok_iff {manifest : Manifest} {endpoint : Endpoint} :
    checkEndpoint manifest endpoint = .ok () ↔
      endpoint.WellFormed manifest ∧
        ∀ id, endpoint.reqType = some id ∨ endpoint.respType = some id → manifest.Grounded id := by
  have grounded : manifest.searchAll (endpoint.reqType.toList ++ endpoint.respType.toList) = .ok ()
      ↔ ∀ id, endpoint.reqType = some id ∨ endpoint.respType = some id → manifest.Grounded id := by
    simp [Manifest.search_all_ok_iff]
  have wellFormed : endpoint.WellFormed manifest ↔
      (endpoint.handler.package ≠ "" ∧ endpoint.handler.name ≠ "") ∧
      (endpoint.path.toList.head? == some '/') = true ∧
      PathTemplate.check endpoint.path = .ok () ∧ checkShape endpoint = .ok () ∧
      endpoint.BindsParameters (PathTemplate.parameters endpoint.path) ∧
      ∀ bindings, endpoint.bindings = some bindings →
        checkRequestStruct manifest endpoint bindings = .ok () := by
    rw [rooted_iff, check_shape_ok_iff]
    simp only [check_request_struct_ok_iff]
    constructor
    · intro parts
      rcases parts with ⟨package, name, rooted, template, request, response, bound, struct⟩
      obtain ⟨checked, binds⟩ := check_template_iff.mp template
      refine ⟨⟨package, name⟩, rooted, checked, ⟨request, response, bound⟩, binds, ?_⟩
      intro bindings present active id requested
      obtain ⟨own, entry, requested', found, form⟩ := struct bindings present active
      rw [requested] at requested'
      cases requested'
      exact ⟨entry, found, form⟩
    · intro parts
      rcases parts with
        ⟨⟨package, name⟩, rooted, checked, ⟨request, response, bound⟩, binds, struct⟩
      refine ⟨package, name, rooted, check_template_iff.mpr ⟨checked, binds⟩, request, response,
        bound, ?_⟩
      intro bindings present active
      obtain ⟨id, requested⟩ := Option.isSome_iff_exists.mp (bound (by rw [present]; rfl))
      obtain ⟨entry, found, form⟩ := struct bindings present active id requested
      exact ⟨id, entry, requested, found, form⟩
  rw [wellFormed, ← grounded, binds_parameters_iff]
  unfold checkEndpoint
  simp only [unit_bind_ok_iff, require_ok_iff]
  cases endpoint.bindings <;> cases firstRepeated [] (PathTemplate.parameters endpoint.path) <;>
    simp [unit_bind_ok_iff] <;> tauto

end Validation

/-! ### What a well-formed endpoint offers to those who read its bindings -/

namespace Endpoint

variable {manifest : Manifest} {endpoint : Endpoint} {bindings : Bindings}

theorem active_bindings_iff :
    endpoint.activeBindings = some bindings ↔
      endpoint.bindings = some bindings ∧ bindings ≠ .empty := by
  rw [activeBindings, Option.filter_eq_some_iff, Bool.not_eq_true',
    Bindings.is_empty_eq_false_iff]

theorem WellFormed.binding_parses (wellFormed : endpoint.WellFormed manifest)
    (present : endpoint.bindings = some bindings) {location : Location} {binding : FieldBinding}
    (listed : (location, binding) ∈ bindings.located) :
    ∃ kind, binding.parseKind = .ok kind := by
  obtain ⟨pieces, _, _, binds⟩ := wellFormed.template
  rw [present] at binds
  obtain ⟨kind, known⟩ := (binds.each location binding listed).kind_known
  exact ⟨kind, FieldBinding.parse_kind_ok_iff.mpr known⟩

end Endpoint

end ApiCompiler

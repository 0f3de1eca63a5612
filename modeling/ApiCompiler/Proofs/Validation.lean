import ApiCompiler.Proofs.EndpointOrder
import ApiCompiler.Proofs.EndpointRules
import ApiCompiler.Validation.Manifest
import Mathlib.Data.List.Perm.Basic

/-!
Validation accepts just the well-formed manifests. The canonical order in which the endpoints are
checked decides which fault is found, but not whether there is one.
-/

set_option autoImplicit false

namespace ApiCompiler

namespace Validation

variable {manifest : Manifest}

/-- The JSON names of the fields that are part of a body. -/
def bodyNames (fields : List Field) : List String := (fields.filter Field.inBody).map (·.jsonName)

theorem check_fields_ok_iff {id : String} {seen : List String} {fields : List Field} :
    checkFields manifest id seen fields = .ok () ↔
      (∀ field ∈ fields, field.name ≠ "" ∧ manifest.Resolves field.typeId) ∧
        (bodyNames fields).Nodup ∧ ∀ name ∈ bodyNames fields, name ∉ seen := by
  induction fields generalizing seen with
  | nil => simp [checkFields, bodyNames]
  | cons field rest induction =>
      rw [checkFields, unit_bind_ok_iff, unit_bind_ok_iff, require_ok_iff, require_ok_iff,
        bind_ok_iff]
      simp only [map_error_ok_iff, induction, exists_and_right]
      change _ ∧ _ ∧ manifest.Resolves field.typeId ∧ _ ↔ _
      cases inBody : field.inBody with
      | false =>
          have names : bodyNames (field :: rest) = bodyNames rest := by simp [bodyNames, inBody]
          simp only [names, List.forall_mem_cons]
          simp
          tauto
      | true =>
          have names : bodyNames (field :: rest) = field.jsonName :: bodyNames rest := by
            simp [bodyNames, inBody]
          simp only [names, List.forall_mem_cons, List.nodup_cons]
          simp only [Bool.not_eq_true', String.isEmpty_eq_false_iff, Bool.true_and, if_true,
            List.contains_eq_mem, decide_eq_false_iff_not, List.mem_cons, not_or]
          constructor
          · intro parts
            rcases parts with ⟨named, fresh, resolves, each, distinct, unseen⟩
            exact ⟨⟨⟨named, resolves⟩, each⟩, ⟨fun listed => (unseen _ listed).1 rfl, distinct⟩,
              fresh, fun name listed => (unseen name listed).2⟩
          · intro parts
            rcases parts with ⟨⟨⟨named, resolves⟩, each⟩, ⟨once, distinct⟩, fresh, unseen⟩
            refine ⟨named, fresh, resolves, each, distinct,
              fun name listed => ⟨?_, unseen name listed⟩⟩
            intro same
            subst same
            exact once listed

theorem check_entry_ok_iff {key : String} {entry : TypeEntry} :
    checkEntry manifest key entry = .ok () ↔ entry.WellFormed manifest key := by
  have own : (entry.id.isEmpty || entry.id == key) = true ↔ entry.id = "" ∨ entry.id = key := by
    simp
  unfold checkEntry
  rw [unit_bind_ok_iff, require_ok_iff, own]
  cases form : entry.form with
  | slice =>
      cases element : entry.elem with
      | none =>
          simp only [reduceCtorEq, and_false, false_iff]
          intro wellFormed
          obtain ⟨elem, present, _⟩ := wellFormed.slice_elem form
          rw [element] at present
          cases present
      | some elem =>
          simp only [bind_ok_iff, map_error_ok_iff, and_true]
          constructor
          · intro parts
            rcases parts with ⟨ownId, resolves⟩
            exact ⟨ownId, fun _ => ⟨elem, element, resolves⟩, by simp [form], by simp [form],
              by simp [form]⟩
          · intro wellFormed
            obtain ⟨elem', present, resolves⟩ := wellFormed.slice_elem form
            rw [element] at present
            cases present
            exact ⟨wellFormed.own_id, resolves⟩
  | struct =>
      simp only [check_fields_ok_iff, List.not_mem_nil, not_false_eq_true, implies_true, and_true]
      constructor
      · intro parts
        rcases parts with ⟨ownId, each, distinct⟩
        exact ⟨ownId, by simp [form], fun _ field listed => (each field listed).1,
          fun _ => distinct, fun _ field listed => (each field listed).2⟩
      · intro wellFormed
        exact ⟨wellFormed.own_id, fun field listed => ⟨wellFormed.fields_named form field listed,
          wellFormed.fields_resolve form field listed⟩, wellFormed.json_names_distinct form⟩

theorem check_types_ok_iff :
    checkTypes manifest = .ok () ↔
      (∀ key entry, manifest.types.get? key = some entry → entry.WellFormed manifest key) ∧
        ∀ key ∈ manifest.types.keys, manifest.Grounded key := by
  unfold checkTypes
  rw [unit_bind_ok_iff, for_each_ok_iff, Manifest.search_all_ok_iff]
  simp only [Prod.forall, SortedMap.mem_entries_iff, check_entry_ok_iff]

theorem status_in_range_iff {status : UInt16} :
    statusInRange status = true ↔ 100 ≤ status.toNat ∧ status.toNat ≤ 599 := by
  simp [statusInRange, UInt16.le_iff_toNat_le]

theorem check_middlewares_ok_iff :
    checkMiddlewares manifest = .ok () ↔
      ∀ name metadata, manifest.middlewareMetadata.get? name = some metadata →
        ∀ declaration ∈ metadata.mayReturn,
          100 ≤ declaration.status.toNat ∧ declaration.status.toNat ≤ 599 := by
  unfold checkMiddlewares
  simp only [for_each_ok_iff, Prod.forall, SortedMap.mem_entries_iff, require_ok_iff,
    status_in_range_iff]

theorem check_endpoints_ok_iff {routes : List (Method × String)} {endpoints : List Endpoint} :
    checkEndpoints manifest routes endpoints = .ok () ↔
      (∀ endpoint ∈ endpoints, checkEndpoint manifest endpoint = .ok ()) ∧
        (endpoints.map Endpoint.route).Nodup ∧
          ∀ route ∈ endpoints.map Endpoint.route, route ∉ routes := by
  induction endpoints generalizing routes with
  | nil => simp [checkEndpoints]
  | cons endpoint rest induction =>
      rw [checkEndpoints, unit_bind_ok_iff, unit_bind_ok_iff, map_error_ok_iff, require_ok_iff,
        induction]
      simp only [Bool.not_eq_true', List.contains_eq_mem, decide_eq_false_iff_not, List.map_cons,
        List.nodup_cons, List.mem_cons, not_or, forall_eq_or_imp]
      constructor
      · intro parts
        rcases parts with ⟨checked, fresh, others, distinct, unseen⟩
        exact ⟨⟨checked, others⟩, ⟨fun listed => (unseen _ listed).1 rfl, distinct⟩, fresh,
          fun route listed => (unseen route listed).2⟩
      · intro parts
        rcases parts with ⟨⟨checked, others⟩, ⟨once, distinct⟩, fresh, unseen⟩
        refine ⟨checked, fresh, others, distinct, fun route listed => ⟨?_, unseen route listed⟩⟩
        intro same
        subst same
        exact once listed

end Validation

namespace Manifest

open Validation

variable {manifest : Manifest}

/-- Whether there is a fault does not depend on the order of the endpoints. -/
theorem validate_ok_iff :
    manifest.validate = .ok () ↔
      manifest.version = 1 ∧ checkTypes manifest = .ok () ∧ checkMiddlewares manifest = .ok () ∧
        (∀ endpoint ∈ manifest.endpoints, checkEndpoint manifest endpoint = .ok ()) ∧
          (manifest.endpoints.map Endpoint.route).Nodup := by
  have routes := (manifest.canonical_endpoints_perm.map Endpoint.route).nodup_iff
  unfold validate
  simp only [unit_bind_ok_iff, require_ok_iff, check_endpoints_ok_iff, mem_canonical_iff, routes,
    List.not_mem_nil, not_false_eq_true, implies_true, and_true, beq_iff_eq, currentVersion]

theorem well_formed_of_validate (validated : manifest.validate = .ok ()) : manifest.WellFormed := by
  obtain ⟨version, checkedTypes, checkedMiddlewares, checked, distinct⟩ :=
    validate_ok_iff.mp validated
  obtain ⟨types, grounded⟩ := check_types_ok_iff.mp checkedTypes
  exact {
    version
    types
    types_grounded := grounded
    endpoints_grounded := fun endpoint member =>
      (check_endpoint_ok_iff.mp (checked endpoint member)).2
    statuses := check_middlewares_ok_iff.mp checkedMiddlewares
    routes_distinct := distinct
    endpoints := fun endpoint member =>
      (check_endpoint_ok_iff.mp (checked endpoint member)).1 }

theorem validate_of_well_formed (wellFormed : manifest.WellFormed) :
    manifest.validate = .ok () := by
  refine validate_ok_iff.mpr ⟨wellFormed.version,
    check_types_ok_iff.mpr ⟨wellFormed.types, wellFormed.types_grounded⟩,
    check_middlewares_ok_iff.mpr wellFormed.statuses, ?_, wellFormed.routes_distinct⟩
  intro endpoint member
  exact check_endpoint_ok_iff.mpr
    ⟨wellFormed.endpoints endpoint member, wellFormed.endpoints_grounded endpoint member⟩

theorem validate_ok_iff_well_formed : manifest.validate = .ok () ↔ manifest.WellFormed :=
  ⟨well_formed_of_validate, validate_of_well_formed⟩

/-- Pets, each with a keeper, are listed; one of them is struck off by its number. -/
def petShop : Manifest := { empty with
  endpoints := [
    ⟨.get, "/pets", ⟨"crate::pets", "list"⟩, .noReqResp, none, some "[]Pet", none, []⟩,
    ⟨.delete, "/pets/{id}", ⟨"crate::pets", "strike"⟩, .reqNoResp, some "PetKey", none,
      some ⟨false, [⟨"Id", "id", "int64", false, false, none⟩], [], []⟩, []⟩]
  types := .ofList [
    ("Pet", ⟨"Pet", .struct, [
      ⟨"Name", "name", "string", true, some "What it is called."⟩,
      ⟨"Keeper", "keeper", "Person", false, none⟩,
      ⟨"Cage", "", "PetKey", true, none⟩], none, none⟩),
    ("Person", ⟨"", .struct, [⟨"Name", "name", "string", true, none⟩], none, some "A person."⟩),
    ("PetKey", ⟨"", .struct, [⟨"Id", "", "int64", true, none⟩], none, none⟩)] }

example : petShop.validate = .ok () := by cbv

end Manifest

end ApiCompiler

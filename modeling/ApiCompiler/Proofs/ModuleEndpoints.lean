import ApiCompiler.Proofs.RoutesModule

/-!
What the module of a list of endpoints says of each of them: one context for each endpoint, in their
order, with the operation id and the suffix of its position.
-/

set_option autoImplicit false

namespace ApiCompiler.RoutesModule

variable {manifest : Manifest} {endpoints : List Endpoint}

theorem operation_ids_for (endpoints : List Endpoint) :
    operationIdsFor (.ofEndpoints endpoints) endpoints.length =
      .ok (BuildContext.ofEndpoints endpoints).operationIds := by
  have count := BuildContext.operation_ids_length endpoints
  apply map_each_ok_iff.mpr
  apply List.forall₂_iff_get.mpr
  constructor
  · rw [List.length_range, count]
  · intro index left right
    have found : (BuildContext.ofEndpoints endpoints).operationId index =
        some ((BuildContext.ofEndpoints endpoints).operationIds.get ⟨index, right⟩) :=
      List.getElem?_eq_getElem right
    simp [found]

theorem site_of_ok {context : BuildContext} {endpoint : Endpoint} {operationId suffix : String}
    {site : Site} (made : siteOf context endpoint operationId suffix = .ok site) :
    site.endpoint = endpoint ∧ site.operationId = operationId ∧ site.suffix = suffix := by
  unfold siteOf at made
  split at made
  · cases made
    exact ⟨rfl, rfl, rfl⟩
  · cases made

/-- The sites stand for the endpoints, with the operation ids and the suffixes of a build. -/
theorem sites_parts {sites : List Site}
    (made : sitesOf (.ofEndpoints endpoints) endpoints = .ok sites) :
    sites.map (·.endpoint) = endpoints ∧
      sites.map (·.operationId) = (BuildContext.ofEndpoints endpoints).operationIds ∧
      sites.map (·.suffix) = suffixes (BuildContext.ofEndpoints endpoints).operationIds := by
  rw [sitesOf, operation_ids_for] at made
  have ids := BuildContext.operation_ids_length endpoints
  have ends : (suffixes (BuildContext.ofEndpoints endpoints).operationIds).length =
      (BuildContext.ofEndpoints endpoints).operationIds.length := by
    rw [suffixes, NameRegistry.claim_all_length, List.length_map]
  generalize (BuildContext.ofEndpoints endpoints).operationIds = operationIds at *
  have named : ((operationIds.zip (suffixes operationIds)).map (·.1)) = operationIds :=
    List.map_fst_zip (Nat.le_of_eq ends.symm)
  have ended : ((operationIds.zip (suffixes operationIds)).map (·.2)) = suffixes operationIds :=
    List.map_snd_zip (Nat.le_of_eq ends)
  have paired : (operationIds.zip (suffixes operationIds)).length = endpoints.length := by
    rw [List.length_zip, ends, Nat.min_self, ids]
  have behind : ((endpoints.zip (operationIds.zip (suffixes operationIds))).map (·.2)) =
      operationIds.zip (suffixes operationIds) :=
    List.map_snd_zip (Nat.le_of_eq paired)
  have each := map_each_ok_iff.mp made
  refine ⟨?_, ?_, ?_⟩
  · rw [map_of_forall₂ each fun entry site own => (site_of_ok own).1]
    exact List.map_fst_zip (Nat.le_of_eq paired.symm)
  · rw [map_of_forall₂ each fun entry site own => (site_of_ok own).2.1]
    conv_rhs => rw [← named, ← behind, List.map_map]
    rfl
  · rw [map_of_forall₂ each fun entry site own => (site_of_ok own).2.2]
    conv_rhs => rw [← ended, ← behind, List.map_map]
    rfl

theorem of_site_ok_iff {site : Site} {context : EndpointContext} :
    EndpointContext.ofSite manifest site = .ok context ↔
      ∃ bindings bindFunction,
        (EndpointContext.bindingsOf site.endpoint).located.mapM
          (fun entry => BindingContext.ofBinding entry.1 entry.2) = .ok bindings ∧
        EndpointContext.bindFunctionOf site.endpoint site.suffix = .ok bindFunction ∧
        context = {
          operationId := site.operationId
          route := site.endpoint.routeLabel
          handler := site.endpoint.handler.qualifiedName
          handlerCall :=
            site.localName ++ "::" ++ Text.sourceIdentifier site.endpoint.handler.name
          bindFunction
          dispatchFunction := "dispatch_" ++ site.suffix
          hasRequest := site.endpoint.shape.hasRequest
          hasResponse := site.endpoint.shape.hasResponse
          respIsSlice :=
            site.endpoint.shape.hasResponse && site.endpoint.respType.any manifest.isSlice
          requestType := site.endpoint.reqType
          hasJsonBody := (EndpointContext.bindingsOf site.endpoint).hasJsonBody
          bindings
          extractors := Extractor.ofBindings (EndpointContext.bindingsOf site.endpoint) } := by
  unfold EndpointContext.ofSite
  simp only [bind_ok_iff]
  constructor
  · intro parts
    rcases parts with ⟨bindings, bound, bindFunction, named, same⟩
    cases same
    exact ⟨bindings, bindFunction, bound, named, rfl⟩
  · intro parts
    rcases parts with ⟨bindings, bindFunction, bound, named, rfl⟩
    exact ⟨bindings, bound, bindFunction, named, rfl⟩

variable {context : BuildContext} {module : Context}

theorem context_of_ok_iff :
    contextOf manifest endpoints context = .ok module ↔
      ∃ sites contexts parsers, sitesOf context endpoints = .ok sites ∧
        sites.mapM (EndpointContext.ofSite manifest) = .ok contexts ∧
        usedKinds endpoints = .ok parsers ∧
        module = {
          imports := context.imports
          helpers := helperFlags ((contexts.flatMap (·.bindings)).map (·.helper))
          parsers
          endpoints := contexts
          routes := (groupByPath (indexed endpoints)).map (routeOf contexts) } := by
  unfold contextOf
  simp only [bind_ok_iff, map_error_ok_iff]
  constructor
  · intro parts
    rcases parts with ⟨sites, located, contexts, made, parsers, used, same⟩
    cases same
    exact ⟨sites, contexts, parsers, located, made, used, rfl⟩
  · intro parts
    rcases parts with ⟨sites, contexts, parsers, located, made, used, rfl⟩
    exact ⟨sites, located, contexts, made, parsers, used, rfl⟩

theorem module_routes (made : contextOf manifest endpoints context = .ok module) :
    module.routes = (groupByPath (indexed endpoints)).map (routeOf module.endpoints) := by
  obtain ⟨sites, contexts, parsers, _, _, _, rfl⟩ := context_of_ok_iff.mp made
  rfl

/-- The sites that the endpoints of a module were made from. -/
theorem module_sites (made : contextOf manifest endpoints (.ofEndpoints endpoints) = .ok module) :
    ∃ sites, sites.map Site.endpoint = endpoints ∧
      sites.map Site.operationId = (BuildContext.ofEndpoints endpoints).operationIds ∧
      sites.map Site.suffix = suffixes (BuildContext.ofEndpoints endpoints).operationIds ∧
      List.Forall₂ (fun site context => EndpointContext.ofSite manifest site = .ok context)
        sites module.endpoints := by
  obtain ⟨sites, contexts, parsers, located, each, _, rfl⟩ := context_of_ok_iff.mp made
  obtain ⟨listed, named, ended⟩ := sites_parts located
  exact ⟨sites, listed, named, ended, map_each_ok_iff.mp each⟩

/-! ### The names that the module gives -/

theorem suffixes_nodup (operationIds : List String) : (suffixes operationIds).Nodup :=
  (NameRegistry.empty.claim_all_fresh _).1

theorem module_operation_ids
    (made : contextOf manifest endpoints (.ofEndpoints endpoints) = .ok module) :
    module.endpoints.map (·.operationId) = (BuildContext.ofEndpoints endpoints).operationIds := by
  obtain ⟨sites, _, named, _, each⟩ := module_sites made
  rw [← named]
  apply map_of_forall₂ each
  intro site context own
  obtain ⟨bindings, bindFunction, _, _, rfl⟩ := of_site_ok_iff.mp own
  rfl

theorem module_dispatch_functions
    (made : contextOf manifest endpoints (.ofEndpoints endpoints) = .ok module) :
    module.endpoints.map (·.dispatchFunction) =
      (suffixes (BuildContext.ofEndpoints endpoints).operationIds).map ("dispatch_" ++ ·) := by
  obtain ⟨sites, _, _, ended, each⟩ := module_sites made
  rw [← ended, List.map_map]
  apply map_of_forall₂ each
  intro site context own
  obtain ⟨bindings, bindFunction, _, _, rfl⟩ := of_site_ok_iff.mp own
  rfl

theorem bind_function_of_site {site : Site} {context : EndpointContext} {name : String}
    (own : EndpointContext.ofSite manifest site = .ok context)
    (binds : context.bindFunction = some name) : name = "bind_" ++ site.suffix := by
  obtain ⟨bindings, bindFunction, _, named, rfl⟩ := of_site_ok_iff.mp own
  simp only at binds
  subst binds
  unfold EndpointContext.bindFunctionOf at named
  split at named
  · cases named
    rfl
  · cases named
  · cases named

theorem module_bind_functions
    (made : contextOf manifest endpoints (.ofEndpoints endpoints) = .ok module) :
    (module.endpoints.filterMap (·.bindFunction)).Sublist
      ((suffixes (BuildContext.ofEndpoints endpoints).operationIds).map ("bind_" ++ ·)) := by
  obtain ⟨sites, -, -, ended, each⟩ := module_sites made
  rw [← ended, List.map_map]
  generalize module.endpoints = contexts at each ⊢
  clear made ended
  induction each with
  | nil => exact List.Sublist.slnil
  | cons own _ induction =>
      rw [List.filterMap_cons, List.map_cons]
      split
      · exact induction.cons _
      · rename_i name binds
        rw [bind_function_of_site own binds]
        exact induction.cons_cons _

/-- No two endpoints share an operation id, a dispatch function or a binder. -/
theorem module_names_distinct
    (made : contextOf manifest endpoints (.ofEndpoints endpoints) = .ok module) :
    (module.endpoints.map (·.operationId)).Nodup ∧
      (module.endpoints.map (·.dispatchFunction)).Nodup ∧
      (module.endpoints.filterMap (·.bindFunction)).Nodup := by
  have numbered : ∀ start : String,
      ((suffixes (BuildContext.ofEndpoints endpoints).operationIds).map (start ++ ·)).Nodup := by
    intro start
    apply (suffixes_nodup _).map
    intro left right same
    exact (String.append_right_inj start).mp same
  refine ⟨?_, ?_, ?_⟩
  · rw [module_operation_ids made]
    exact BuildContext.operation_ids_nodup endpoints
  · rw [module_dispatch_functions made]
    exact numbered "dispatch_"
  · exact (module_bind_functions made).nodup (numbered "bind_")

end ApiCompiler.RoutesModule

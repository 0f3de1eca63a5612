import ApiCompiler.Proofs.BuildNames
import ApiCompiler.Proofs.EndpointRules
import ApiCompiler.Proofs.TemplateData

/-!
The text of the routes module can be made for well-formed endpoints, when the names are those of a
build for the same endpoints: each endpoint has its operation id, each handler package is imported,
and each binding has a kind.
-/

set_option autoImplicit false

namespace ApiCompiler

namespace RoutesModule

variable {manifest : Manifest} {endpoints : List Endpoint}

theorem sites_succeed (endpoints : List Endpoint) :
    ∃ sites, sitesOf (.ofEndpoints endpoints) endpoints = .ok sites ∧
      ∀ site ∈ sites, site.endpoint ∈ endpoints := by
  obtain ⟨ids, given⟩ : ∃ ids,
      operationIdsFor (.ofEndpoints endpoints) endpoints.length = .ok ids := by
    apply map_each_succeeds
    intro index inRange
    obtain ⟨id, known⟩ := BuildContext.operation_id_known (List.mem_range.mp inRange)
    exact ⟨id, by rw [BuildContext.operationId, known]⟩
  have each : ∀ entry ∈ endpoints.zip (ids.zip (suffixes ids)),
      ∃ site, siteOf (.ofEndpoints endpoints) entry.1 entry.2.1 entry.2.2 = .ok site := by
    intro entry listed
    obtain ⟨localName, known⟩ := BuildContext.local_name_known (List.of_mem_zip listed).1
    exact ⟨_, by rw [siteOf, known]⟩
  obtain ⟨sites, made⟩ := map_each_succeeds each
  refine ⟨sites, ?_, ?_⟩
  · rw [sitesOf, given]
    exact made
  · intro site listed
    obtain ⟨entry, member, own⟩ := mem_of_map_each made listed
    obtain ⟨localName, known⟩ := BuildContext.local_name_known (List.of_mem_zip member).1
    rw [siteOf, known] at own
    cases own
    exact (List.of_mem_zip member).1

theorem located_parse {endpoint : Endpoint} (wellFormed : endpoint.WellFormed manifest)
    {location : Location} {binding : FieldBinding}
    (listed : (location, binding) ∈ (EndpointContext.bindingsOf endpoint).located) :
    ∃ kind, binding.parseKind = .ok kind := by
  unfold EndpointContext.bindingsOf at listed
  cases active : endpoint.activeBindings with
  | none =>
      rw [active] at listed
      cases listed
  | some bindings =>
      rw [active] at listed
      exact wellFormed.binding_parses (Endpoint.active_bindings_iff.mp active).1 listed

theorem endpoint_context_succeeds {site : Site} (wellFormed : site.endpoint.WellFormed manifest) :
    ∃ context, EndpointContext.ofSite manifest site = .ok context := by
  have bound : ∀ entry ∈ (EndpointContext.bindingsOf site.endpoint).located,
      ∃ context, BindingContext.ofBinding entry.1 entry.2 = .ok context := by
    intro parts listed
    rcases parts with ⟨location, binding⟩
    obtain ⟨kind, parses⟩ := located_parse wellFormed listed
    exact ⟨_, by rw [BindingContext.ofBinding, parses]; rfl⟩
  obtain ⟨bindings, made⟩ := map_each_succeeds bound
  obtain ⟨bindFunction, named⟩ :
      ∃ bindFunction,
        EndpointContext.bindFunctionOf site.endpoint site.suffix = .ok bindFunction := by
    unfold EndpointContext.bindFunctionOf
    cases active : site.endpoint.activeBindings with
    | none => exact ⟨none, rfl⟩
    | some bindings =>
        have present := (Endpoint.active_bindings_iff.mp active).1
        obtain ⟨id, requested⟩ := Option.isSome_iff_exists.mp
          (wellFormed.bindings_request (by rw [present]; rfl))
        rw [requested]
        exact ⟨_, rfl⟩
  simp only [EndpointContext.ofSite, made, named, bind, Except.bind]
  exact ⟨_, rfl⟩

theorem used_kinds_succeed (wellFormed : ∀ endpoint ∈ endpoints, endpoint.WellFormed manifest) :
    ∃ kinds, usedKinds endpoints = .ok kinds := by
  have each : ∀ entry ∈ endpoints.flatMap fun endpoint =>
      (EndpointContext.bindingsOf endpoint).located, ∃ kind, entry.2.parseKind = .ok kind := by
    intro entry listed
    obtain ⟨endpoint, member, located⟩ := List.mem_flatMap.mp listed
    exact located_parse (wellFormed endpoint member) located
  obtain ⟨kinds, parsed⟩ := map_each_succeeds each
  exact ⟨_, by rw [usedKinds, parsed]; rfl⟩

theorem context_succeeds (wellFormed : ∀ endpoint ∈ endpoints, endpoint.WellFormed manifest) :
    ∃ context, contextOf manifest endpoints (.ofEndpoints endpoints) = .ok context := by
  obtain ⟨sites, located, members⟩ := sites_succeed endpoints
  obtain ⟨contexts, made⟩ := map_each_succeeds fun site listed =>
    endpoint_context_succeeds (wellFormed site.endpoint (members site listed))
  obtain ⟨parsers, used⟩ := used_kinds_succeed wellFormed
  simp only [contextOf, located, made, used, Except.mapError, bind, Except.bind]
  exact ⟨_, rfl⟩

theorem source_succeeds (wellFormed : ∀ endpoint ∈ endpoints, endpoint.WellFormed manifest) :
    ∃ text, source manifest endpoints (.ofEndpoints endpoints) = .ok text := by
  obtain ⟨context, assembled⟩ := context_succeeds wellFormed
  obtain ⟨text, filled⟩ := fill_routes_succeeds context
  exact ⟨text, by rw [source, assembled]; exact filled⟩

end RoutesModule

end ApiCompiler

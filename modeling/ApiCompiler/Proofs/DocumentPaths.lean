import ApiCompiler.OpenApi.Build
import ApiCompiler.Proofs.BuildNames
import ApiCompiler.Proofs.EndpointOrder
import ApiCompiler.Proofs.EndpointRules
import ApiCompiler.Proofs.SchemaWalk

/-!
The operations of a document, each at its route. Adding an operation fills one slot and leaves all
others as they are, so endpoints with distinct routes find their slots free.
-/

set_option autoImplicit false

namespace ApiCompiler.OpenApi

open SchemaWalk (Succeeds)

theorem PathItem.slot_set (item : PathItem) (operation : Operation) (method other : Method) :
    (item.set operation method).slot other =
      if other = method then some operation else item.slot other := by
  cases method <;> cases other <;> rfl

/-- The operation that stands at a route. -/
def operationAt (paths : SortedMap String PathItem) (route : Method × String) : Option Operation :=
  ((paths.get? route.2).getD {}).slot route.1

theorem operation_at_empty (route : Method × String) : operationAt .empty route = none := by
  rcases route with ⟨method, path⟩
  cases method <;> rfl

variable {manifest : Manifest} {paths after : SortedMap String PathItem} {endpoint : Endpoint}
  {operation : Operation}

theorem add_operation_ok_iff :
    addOperation paths endpoint operation = .ok after ↔
      operationAt paths endpoint.route = none ∧
        after = paths.insert endpoint.path
          (((paths.get? endpoint.path).getD {}).set operation endpoint.method) := by
  change (if (operationAt paths endpoint.route).isSome then _ else _) = _ ↔ _
  cases operationAt paths endpoint.route with
  | none =>
      simp only [Option.isSome_none, Bool.false_eq_true, if_false, Except.ok.injEq, true_and]
      exact eq_comm
  | some taken => simp

theorem operation_at_after (added : addOperation paths endpoint operation = .ok after)
    (route : Method × String) :
    operationAt after route =
      if route = endpoint.route then some operation else operationAt paths route := by
  obtain ⟨_, rfl⟩ := add_operation_ok_iff.mp added
  rcases route with ⟨method, path⟩
  unfold operationAt
  by_cases samePath : path = endpoint.path
  · subst samePath
    rw [SortedMap.get?_insert_self, Option.getD_some, PathItem.slot_set]
    simp [Endpoint.route]
  · rw [SortedMap.get?_insert_other _ samePath, if_neg]
    exact fun same => samePath (congrArg Prod.snd same)

/-! ### No endpoint of a well-formed manifest is refused -/

theorem parameters_succeed (wellFormed : endpoint.WellFormed manifest) :
    ∃ parameters, parametersOf manifest endpoint = .ok parameters := by
  unfold parametersOf
  cases active : endpoint.activeBindings with
  | none => exact ⟨[], rfl⟩
  | some bindings =>
      apply map_each_succeeds
      intro parts listed
      rcases parts with ⟨location, binding⟩
      obtain ⟨kind, parses⟩ :=
        wellFormed.binding_parses (Endpoint.active_bindings_iff.mp active).1 listed
      simp only [parameterOf, parses]
      exact ⟨_, rfl⟩

theorem request_body_succeeds
    (grounded : ∀ id, endpoint.reqType = some id → manifest.Grounded id) :
    Succeeds (requestBodyOf manifest endpoint) := by
  unfold requestBodyOf
  cases requested : endpoint.reqType with
  | none => exact SchemaWalk.pure_succeeds none
  | some id =>
      refine (Manifest.schema_for_succeeds (grounded id requested)).bind fun schema => ?_
      cases endpoint.activeBindings with
      | none => exact SchemaWalk.pure_succeeds none
      | some bindings =>
          simp only
          split_ifs
          · exact SchemaWalk.pure_succeeds _
          · exact SchemaWalk.pure_succeeds none

theorem success_response_succeeds (wellFormed : endpoint.WellFormed manifest)
    (grounded : ∀ id, endpoint.respType = some id → manifest.Grounded id) :
    Succeeds (successResponse manifest endpoint) := by
  unfold successResponse
  split_ifs with answers
  · obtain ⟨id, answered⟩ := Option.isSome_iff_exists.mp (wellFormed.response.mpr answers)
    rw [answered]
    exact (Manifest.schema_for_succeeds (grounded id answered)).bind fun schema =>
      SchemaWalk.pure_succeeds _
  · exact SchemaWalk.pure_succeeds _

theorem operation_succeeds (wellFormed : endpoint.WellFormed manifest)
    (grounded : ∀ id, endpoint.reqType = some id ∨ endpoint.respType = some id →
      manifest.Grounded id) (operationId : String) :
    Succeeds (operationOf manifest endpoint operationId) := by
  obtain ⟨parameters, made⟩ := parameters_succeed wellFormed
  have body := request_body_succeeds fun id requested => grounded id (.inl requested)
  have answer := success_response_succeeds wellFormed fun id answered => grounded id (.inr answered)
  exact (SchemaWalk.lift_succeeds made).bind fun _ => body.bind fun _ => answer.bind fun _ =>
    SchemaWalk.pure_succeeds _

theorem add_endpoints_succeed {ids : List String} {entries : List (Nat × Endpoint)}
    (operations : ∀ entry ∈ entries, ∀ id, Succeeds (operationOf manifest entry.2 id))
    (named : ∀ entry ∈ entries, ∃ id, ids[entry.1]? = some id)
    (distinct : (entries.map (·.2.route)).Nodup)
    (free : ∀ entry ∈ entries, operationAt paths entry.2.route = none) :
    Succeeds (entries.foldlM (addEndpoint manifest ids) paths) := by
  induction entries generalizing paths with
  | nil => exact SchemaWalk.pure_succeeds paths
  | cons entry rest induction =>
      rw [List.forall_mem_cons] at operations named free
      rw [List.map_cons, List.nodup_cons] at distinct
      obtain ⟨id, known⟩ := named.1
      intro registry
      obtain ⟨operation, between, made⟩ := operations.1 id registry
      obtain ⟨after, added⟩ : ∃ after, addOperation paths entry.2 operation = .ok after :=
        ⟨_, add_operation_ok_iff.mpr ⟨free.1, rfl⟩⟩
      have stillFree : ∀ later ∈ rest, operationAt after later.2.route = none := by
        intro later listed
        have apart : later.2.route ≠ entry.2.route := fun same =>
          distinct.1 (List.mem_map.mpr ⟨later, listed, same⟩)
        rw [operation_at_after added, if_neg apart, free.2 later listed]
      obtain ⟨final, last, others⟩ := induction operations.2 named.2 distinct.2 stillFree between
      refine ⟨final, last, ?_⟩
      rw [List.foldlM_cons]
      refine SchemaWalk.run_bind_ok_iff.mpr ⟨after, between, ?_, others⟩
      rw [addEndpoint, known]
      exact SchemaWalk.run_bind_ok_iff.mpr ⟨operation, between, made, by rw [added]; rfl⟩

theorem document_succeeds (wellFormed : manifest.WellFormed) (config : Config) :
    ∃ document, documentOf manifest config manifest.canonicalEndpoints
      (.ofEndpoints manifest.canonicalEndpoints) = .ok document := by
  have routes := manifest.canonical_endpoints_perm.map Endpoint.route
  have walks : Succeeds ((indexed manifest.canonicalEndpoints).foldlM
      (addEndpoint manifest (BuildContext.ofEndpoints manifest.canonicalEndpoints).operationIds)
      .empty) := by
    apply add_endpoints_succeed
    · intro entry position id
      have member := Manifest.mem_endpoints_of_indexed position
      exact operation_succeeds (wellFormed.endpoints entry.2 member)
        (wellFormed.endpoints_grounded entry.2 member) id
    · intro entry position
      obtain ⟨inRange, _⟩ := List.getElem?_eq_some_iff.mp (mem_indexed_iff.mp position)
      exact BuildContext.operation_id_known inRange
    · rw [indexed_routes]
      exact routes.nodup_iff.mpr wellFormed.routes_distinct
    · exact fun entry _ => operation_at_empty entry.2.route
  obtain ⟨paths, registry, walked⟩ := walks (SchemaRegistry.start .empty)
  unfold documentOf
  simp only [BuildContext.ofEndpoints] at walked ⊢
  rw [walked]
  exact ⟨_, rfl⟩

end ApiCompiler.OpenApi

import ApiCompiler.Proofs.DocumentPaths
import ApiCompiler.Proofs.SchemaComponents
import ApiCompiler.Proofs.Validation

/-!
The operation of each endpoint, said without a registry: once the structs have names, all of it but
the texts is given by the endpoint. The paths of a document hold these operations and no others,
each at the route of its endpoint.
-/

set_option autoImplicit false

namespace ApiCompiler

open SchemaRegistry (Consistent Grows)

/-- The type-ids whose schemas an endpoint asks for, in that order. -/
def Endpoint.bodyTypes (endpoint : Endpoint) : List String :=
  endpoint.reqType.toList ++ endpoint.respType.toList

/-- What walks from some type-ids leave: the registry has grown, and holds their translations. -/
structure Manifest.Walked (manifest : Manifest) (starts : List String)
    (before after : SchemaRegistry) : Prop where
  grows : Grows manifest [] starts before after
  translated : ∀ start ∈ starts, ∃ schema, manifest.Translates after.names.lookup start schema

namespace Manifest

variable {manifest : Manifest} {starts more : List String} {before between after : SchemaRegistry}

theorem Walked.nothing (consistent : before.Consistent manifest []) :
    manifest.Walked [] before before := ⟨.refl consistent [], by simp⟩

theorem Walked.trans (first : manifest.Walked starts before between)
    (second : manifest.Walked more between after) :
    manifest.Walked (starts ++ more) before after := by
  refine ⟨first.grows.trans second.grows, ?_⟩
  intro start listed
  rcases List.mem_append.mp listed with earlier | later
  · obtain ⟨schema, translates⟩ := first.translated start earlier
    exact ⟨schema, translates.mono second.grows.names_kept⟩
  · exact second.translated start later

theorem schema_for_walked (distinct : manifest.DistinctBodies) {id : String} {schema : Schema}
    (consistent : before.Consistent manifest [])
    (ran : (manifest.schemaFor id).run before = (.ok schema, after)) :
    manifest.Walked [id] before after ∧ manifest.Translates after.names.lookup id schema := by
  obtain ⟨grows, translates⟩ := schema_for_uses distinct id consistent ran
  refine ⟨⟨grows, ?_⟩, translates⟩
  intro start listed
  rw [List.mem_singleton.mp listed]
  exact ⟨schema, translates⟩

theorem WellFormed.distinct_bodies (wellFormed : manifest.WellFormed) :
    manifest.DistinctBodies := by
  intro id entry resolved
  obtain ⟨_, found, form⟩ := resolve_struct_iff.mp resolved
  exact (wellFormed.types id entry found).json_names_distinct form

end Manifest

/-- Whether the body of the request is read. -/
def Endpoint.hasJsonBody (endpoint : Endpoint) : Bool :=
  endpoint.activeBindings.any (·.hasJsonBody)

theorem Endpoint.WellFormed.silent_request {manifest : Manifest} {endpoint : Endpoint}
    (wellFormed : endpoint.WellFormed manifest) (silent : endpoint.reqType = none) :
    endpoint.activeBindings = none := by
  have unbound : endpoint.bindings = none := by
    have bound := wellFormed.bindings_request
    rw [silent] at bound
    simpa using bound
  rw [activeBindings, unbound, Option.filter_none]

namespace OpenApi

/-- The body of a request, when it is read, is JSON of the request type. -/
inductive BodyOf (manifest : Manifest) (named : String → Option String) (endpoint : Endpoint) :
    Option RequestBody → Prop
  | absent (unread : endpoint.hasJsonBody = false) : BodyOf manifest named endpoint none
  | json {id : String} {schema : Schema} (read : endpoint.hasJsonBody = true)
      (requested : endpoint.reqType = some id) (translates : manifest.Translates named id schema) :
      BodyOf manifest named endpoint (some ⟨true, jsonContent schema⟩)

/-- The answer of success is JSON of the response type, or nothing. -/
inductive SuccessOf (manifest : Manifest) (named : String → Option String) (endpoint : Endpoint) :
    UInt16 × Response → Prop
  | silent (silent : endpoint.shape.hasResponse = false) (unanswered : endpoint.respType = none) :
      SuccessOf manifest named endpoint (204, .plain "No content")
  | json {id : String} {schema : Schema} (speaks : endpoint.shape.hasResponse = true)
      (answered : endpoint.respType = some id) (translates : manifest.Translates named id schema) :
      SuccessOf manifest named endpoint (200, .json "Successful response" schema)

/-- An operation is the one of an endpoint, when structs have the given names. -/
structure Operation.Documents (manifest : Manifest) (named : String → Option String)
    (endpoint : Endpoint) (operation : Operation) : Prop where
  parameters : parametersOf manifest endpoint = .ok operation.parameters
  requestBody : BodyOf manifest named endpoint operation.requestBody
  responses : ∃ success, SuccessOf manifest named endpoint success ∧
    operation.responses = mergeResponses (success :: failureResponses endpoint)
      (declaredResponses manifest endpoint)

variable {manifest : Manifest} {endpoint : Endpoint} {before after : SchemaRegistry}
  {named wider : String → Option String}

theorem BodyOf.mono {body : Option RequestBody}
    (grows : ∀ id name, named id = some name → wider id = some name)
    (bodyOf : BodyOf manifest named endpoint body) : BodyOf manifest wider endpoint body := by
  cases bodyOf with
  | absent unread => exact .absent unread
  | json read requested translates => exact .json read requested (translates.mono grows)

theorem SuccessOf.mono {entry : UInt16 × Response}
    (grows : ∀ id name, named id = some name → wider id = some name)
    (successOf : SuccessOf manifest named endpoint entry) :
    SuccessOf manifest wider endpoint entry := by
  cases successOf with
  | silent silent unanswered => exact .silent silent unanswered
  | json speaks answered translates => exact .json speaks answered (translates.mono grows)

theorem Operation.Documents.mono {operation : Operation}
    (grows : ∀ id name, named id = some name → wider id = some name)
    (documents : operation.Documents manifest named endpoint) :
    operation.Documents manifest wider endpoint := by
  obtain ⟨success, successOf, merged⟩ := documents.responses
  exact ⟨documents.parameters, documents.requestBody.mono grows,
    success, successOf.mono grows, merged⟩

/-! ### Running the walks of an endpoint -/

theorem request_body_walk (distinct : manifest.DistinctBodies)
    (wellFormed : endpoint.WellFormed manifest) {body : Option RequestBody}
    (consistent : before.Consistent manifest [])
    (ran : (requestBodyOf manifest endpoint).run before = (.ok body, after)) :
    manifest.Walked endpoint.reqType.toList before after ∧
      BodyOf manifest after.names.lookup endpoint body := by
  unfold requestBodyOf at ran
  cases requested : endpoint.reqType with
  | none =>
      rw [requested] at ran
      obtain ⟨rfl, rfl⟩ := SchemaWalk.run_pure_iff.mp ran
      refine ⟨.nothing consistent, .absent ?_⟩
      rw [Endpoint.hasJsonBody, wellFormed.silent_request requested, Option.any_none]
  | some id =>
      rw [requested] at ran
      obtain ⟨schema, between, asked, ran⟩ := SchemaWalk.run_bind_ok_iff.mp ran
      obtain ⟨walked, translates⟩ := Manifest.schema_for_walked distinct consistent asked
      cases active : endpoint.activeBindings with
      | none =>
          rw [active] at ran
          obtain ⟨rfl, rfl⟩ := SchemaWalk.run_pure_iff.mp ran
          exact ⟨walked, .absent (by rw [Endpoint.hasJsonBody, active, Option.any_none])⟩
      | some bindings =>
          have reads : endpoint.hasJsonBody = bindings.hasJsonBody := by
            rw [Endpoint.hasJsonBody, active, Option.any_some]
          simp only [active] at ran
          split_ifs at ran with read
          · obtain ⟨rfl, rfl⟩ := SchemaWalk.run_pure_iff.mp ran
            exact ⟨walked, .json (reads.trans read) requested translates⟩
          · obtain ⟨rfl, rfl⟩ := SchemaWalk.run_pure_iff.mp ran
            exact ⟨walked, .absent (reads.trans (by simpa using read))⟩

theorem success_response_walk (distinct : manifest.DistinctBodies)
    (wellFormed : endpoint.WellFormed manifest) {entry : UInt16 × Response}
    (consistent : before.Consistent manifest [])
    (ran : (successResponse manifest endpoint).run before = (.ok entry, after)) :
    manifest.Walked endpoint.respType.toList before after ∧
      SuccessOf manifest after.names.lookup endpoint entry := by
  have answers := wellFormed.response
  unfold successResponse at ran
  cases answered : endpoint.respType with
  | none =>
      have silent : endpoint.shape.hasResponse = false := by
        rw [answered] at answers
        simpa using answers
      rw [if_neg (by simp [silent])] at ran
      obtain ⟨rfl, rfl⟩ := SchemaWalk.run_pure_iff.mp ran
      exact ⟨.nothing consistent, .silent silent answered⟩
  | some id =>
      have speaks : endpoint.shape.hasResponse = true := by
        rw [answered] at answers
        simpa using answers
      rw [if_pos speaks, answered] at ran
      obtain ⟨schema, _, asked, ran⟩ := SchemaWalk.run_bind_ok_iff.mp ran
      obtain ⟨rfl, rfl⟩ := SchemaWalk.run_pure_iff.mp ran
      obtain ⟨walked, translates⟩ := Manifest.schema_for_walked distinct consistent asked
      exact ⟨walked, .json speaks answered translates⟩

theorem operation_walk (distinct : manifest.DistinctBodies)
    (wellFormed : endpoint.WellFormed manifest) {operationId : String}
    {operation : Operation} (consistent : before.Consistent manifest [])
    (ran : (operationOf manifest endpoint operationId).run before = (.ok operation, after)) :
    manifest.Walked endpoint.bodyTypes before after ∧ operation.operationId = operationId ∧
      operation.Documents manifest after.names.lookup endpoint := by
  obtain ⟨parameters, _, lifted, ran⟩ := SchemaWalk.run_bind_ok_iff.mp ran
  obtain ⟨made, rfl⟩ := SchemaWalk.run_lift_iff.mp lifted
  obtain ⟨body, between, asked, ran⟩ := SchemaWalk.run_bind_ok_iff.mp ran
  obtain ⟨success, _, answered, ran⟩ := SchemaWalk.run_bind_ok_iff.mp ran
  obtain ⟨rfl, rfl⟩ := SchemaWalk.run_pure_iff.mp ran
  obtain ⟨walked, bodyOf⟩ := request_body_walk distinct wellFormed consistent asked
  obtain ⟨onward, successOf⟩ :=
    success_response_walk distinct wellFormed walked.grows.consistent answered
  exact ⟨walked.trans onward, rfl, made, bodyOf.mono onward.grows.names_kept,
    success, successOf, rfl⟩

/-! ### The operations at their routes -/

theorem operation_at_iff_of_added {paths added : SortedMap String PathItem} {operation : Operation}
    (placed : addOperation paths endpoint operation = .ok added) {route : Method × String}
    {stands : Operation} :
    operationAt added route = some stands ↔
      operationAt paths route = some stands ∨ (route, stands) = (endpoint.route, operation) := by
  obtain ⟨free, _⟩ := add_operation_ok_iff.mp placed
  rw [operation_at_after placed]
  by_cases own : route = endpoint.route
  · subst own
    simp [free, eq_comm]
  · simp [own]

theorem add_endpoints_walk (distinct : manifest.DistinctBodies) {ids : List String}
    {entries : List (Nat × Endpoint)} {paths final : SortedMap String PathItem}
    (wellFormed : ∀ entry ∈ entries, entry.2.WellFormed manifest)
    (consistent : before.Consistent manifest [])
    (ran : (entries.foldlM (addEndpoint manifest ids) paths).run before = (.ok final, after)) :
    manifest.Walked (entries.flatMap (·.2.bodyTypes)) before after ∧
      ∃ operations : List Operation,
        List.Forall₂ (fun entry operation => ids[entry.1]? = some operation.operationId ∧
          operation.Documents manifest after.names.lookup entry.2) entries operations ∧
        ∀ route operation, operationAt final route = some operation ↔
          operationAt paths route = some operation ∨
            (route, operation) ∈ (entries.map (·.2.route)).zip operations := by
  induction entries generalizing paths before with
  | nil =>
      obtain ⟨rfl, rfl⟩ := SchemaWalk.run_pure_iff.mp ran
      exact ⟨.nothing consistent, [], .nil, by simp⟩
  | cons entry rest induction =>
      rw [List.forall_mem_cons] at wellFormed
      rw [List.foldlM_cons] at ran
      obtain ⟨added, between, first, others⟩ := SchemaWalk.run_bind_ok_iff.mp ran
      cases known : ids[entry.1]? with
      | none =>
          rw [addEndpoint, known] at first
          cases first
      | some operationId =>
          rw [addEndpoint, known] at first
          obtain ⟨operation, _, made, lifted⟩ := SchemaWalk.run_bind_ok_iff.mp first
          obtain ⟨placed, rfl⟩ := SchemaWalk.run_lift_iff.mp lifted
          obtain ⟨walked, rfl, documents⟩ := operation_walk distinct wellFormed.1 consistent made
          obtain ⟨onward, operations, each, stand⟩ :=
            induction wellFormed.2 walked.grows.consistent others
          -- Names that are given out stay, so the operation is documented in what follows, too.
          have kept := documents.mono onward.grows.names_kept
          refine ⟨walked.trans onward, operation :: operations, .cons ⟨known, kept⟩ each, ?_⟩
          intro route stands
          rw [stand, operation_at_iff_of_added placed, List.map_cons, List.zip_cons_cons,
            List.mem_cons, or_assoc]

theorem indexed_body_types (endpoints : List Endpoint) :
    (indexed endpoints).flatMap (·.2.bodyTypes) = endpoints.flatMap Endpoint.bodyTypes := by
  conv_rhs => rw [← indexed_endpoints endpoints, List.flatMap_map]

/-- The operations are those of the endpoints, with their ids, and stand at their routes. -/
structure Document.HasOperations (document : Document) (manifest : Manifest)
    (named : String → Option String) (operations : List Operation) : Prop where
  each : List.Forall₂ (fun endpoint operation => operation.Documents manifest named endpoint)
    manifest.canonicalEndpoints operations
  ids : operations.map (·.operationId) =
    (BuildContext.ofEndpoints manifest.canonicalEndpoints).operationIds
  stand : ∀ route operation, operationAt document.paths route = some operation ↔
    (route, operation) ∈ (manifest.canonicalEndpoints.map Endpoint.route).zip operations

/-- A document has operations just at the routes of a manifest's endpoints. -/
def Document.Covers (document : Document) (manifest : Manifest) : Prop :=
  ∀ route, (operationAt document.paths route).isSome ↔
    ∃ endpoint ∈ manifest.endpoints, endpoint.route = route

namespace Document.HasOperations

variable {document : Document} {named : String → Option String} {operations : List Operation}
  {operation : Operation} {endpoint : Endpoint}

theorem operation_of_endpoint (has : document.HasOperations manifest named operations)
    (listed : endpoint ∈ manifest.endpoints) :
    ∃ operation, operationAt document.paths endpoint.route = some operation ∧
      operation.Documents manifest named endpoint := by
  obtain ⟨index, inRange, rfl⟩ := List.mem_iff_getElem.mp (Manifest.mem_canonical_iff.mpr listed)
  have inRange' : index < operations.length := has.each.length_eq ▸ inRange
  refine ⟨operations[index], (has.stand _ _).mpr ?_, has.each.get inRange inRange'⟩
  rw [List.mem_iff_getElem]
  have inBoth : index <
      ((manifest.canonicalEndpoints.map Endpoint.route).zip operations).length := by
    rw [List.length_zip, List.length_map]
    exact Nat.lt_min.mpr ⟨inRange, inRange'⟩
  exact ⟨index, inBoth, by simp⟩

theorem endpoint_of_operation (has : document.HasOperations manifest named operations)
    {route : Method × String} (found : operationAt document.paths route = some operation) :
    ∃ endpoint ∈ manifest.endpoints, endpoint.route = route ∧
      operation.Documents manifest named endpoint := by
  have paired := (has.stand route operation).mp found
  rw [List.zip_map_left] at paired
  obtain ⟨⟨endpoint, own⟩, listed, same⟩ := List.mem_map.mp paired
  cases same
  exact ⟨endpoint, Manifest.mem_canonical_iff.mp (List.of_mem_zip listed).1, rfl,
    List.forall₂_zip has.each listed⟩

theorem covers (has : document.HasOperations manifest named operations) :
    document.Covers manifest := by
  intro route
  constructor
  · intro given
    obtain ⟨operation, found⟩ := Option.isSome_iff_exists.mp given
    obtain ⟨endpoint, listed, same, _⟩ := has.endpoint_of_operation found
    exact ⟨endpoint, listed, same⟩
  · rintro ⟨endpoint, listed, rfl⟩
    obtain ⟨operation, found, _⟩ := has.operation_of_endpoint listed
    exact Option.isSome_iff_exists.mpr ⟨operation, found⟩

end Document.HasOperations

theorem indexed_ids {endpoints : List Endpoint} {ids : List String}
    (aligned : ids.length = endpoints.length) :
    (indexed endpoints).map (fun entry => ids[entry.1]?) = ids.map some := by
  apply List.ext_getElem
  · simp [indexed, aligned]
  · intro index inRange inRange'
    have known : index < ids.length := by simpa using inRange'
    simp [indexed, List.getElem?_eq_getElem known]

theorem document_run {config : Config} {document : Document}
    (built : documentOf manifest config manifest.canonicalEndpoints
      (.ofEndpoints manifest.canonicalEndpoints) = .ok document) :
    ∃ registry, ((indexed manifest.canonicalEndpoints).foldlM
        (addEndpoint manifest (BuildContext.ofEndpoints manifest.canonicalEndpoints).operationIds)
        .empty).run (SchemaRegistry.start .empty) = (.ok document.paths, registry) ∧
      document.schemas = registry.components := by
  unfold documentOf at built
  simp only at built
  split at built
  · cases built
  · rename_i paths registry ran
    cases built
    exact ⟨registry, ran, rfl⟩

theorem run_walk (wellFormed : manifest.WellFormed) {document : Document}
    {registry : SchemaRegistry}
    (ran : ((indexed manifest.canonicalEndpoints).foldlM
        (addEndpoint manifest (BuildContext.ofEndpoints manifest.canonicalEndpoints).operationIds)
        .empty).run (SchemaRegistry.start .empty) = (.ok document.paths, registry)) :
    manifest.Walked (manifest.canonicalEndpoints.flatMap Endpoint.bodyTypes)
        (SchemaRegistry.start .empty) registry ∧
      ∃ operations, document.HasOperations manifest registry.names.lookup operations := by
  have endpoints : ∀ entry ∈ indexed manifest.canonicalEndpoints,
      entry.2.WellFormed manifest := fun entry position =>
    wellFormed.endpoints entry.2 (Manifest.mem_endpoints_of_indexed position)
  obtain ⟨walked, operations, each, stand⟩ := add_endpoints_walk wellFormed.distinct_bodies
    endpoints (SchemaRegistry.start_consistent manifest) ran
  rw [indexed_body_types] at walked
  refine ⟨walked, operations, ?_, ?_, ?_⟩
  · rw [← indexed_endpoints manifest.canonicalEndpoints, List.forall₂_map_left_iff]
    exact each.imp fun entry operation own => own.2
  · apply List.map_injective_iff.mpr (fun _ _ => Option.some.inj)
    rw [← indexed_ids (BuildContext.operation_ids_length _), List.map_map]
    exact map_of_forall₂ each fun entry operation own => own.1.symm
  · intro route operation
    rw [stand, operation_at_empty, indexed_routes]
    simp

theorem document_walk (wellFormed : manifest.WellFormed) {config : Config} {document : Document}
    (built : documentOf manifest config manifest.canonicalEndpoints
      (.ofEndpoints manifest.canonicalEndpoints) = .ok document) :
    ∃ registry operations,
      manifest.Walked (manifest.canonicalEndpoints.flatMap Endpoint.bodyTypes)
        (SchemaRegistry.start .empty) registry ∧
      document.schemas = registry.components ∧
      document.HasOperations manifest registry.names.lookup operations := by
  obtain ⟨registry, ran, schemas⟩ := document_run built
  obtain ⟨walked, operations, has⟩ := run_walk wellFormed ran
  exact ⟨registry, operations, walked, schemas, has⟩

end OpenApi

end ApiCompiler

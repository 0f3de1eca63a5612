import ApiCompiler.Proofs.Compilation

/-!
What a manifest is read for. Two manifests with the same endpoints that hold the same wherever the
first one refers to make the same artifacts: types are looked up from their uses, and no map of a
manifest is ever walked for its own sake.
-/

set_option autoImplicit false

namespace ApiCompiler

namespace Manifest

/-- A type-id that the manifest mentions, with leading brackets taken off any number of times. -/
inductive Mentions (manifest : Manifest) : String → Prop
  | request {endpoint : Endpoint} {id : String} (listed : endpoint ∈ manifest.endpoints)
      (requested : endpoint.reqType = some id) : Mentions manifest id
  | response {endpoint : Endpoint} {id : String} (listed : endpoint ∈ manifest.endpoints)
      (answered : endpoint.respType = some id) : Mentions manifest id
  | field {key : String} {entry : TypeEntry} {field : Field}
      (found : manifest.types.get? key = some entry) (member : field ∈ entry.fields) :
      Mentions manifest field.typeId
  | elem {key id : String} {entry : TypeEntry} (found : manifest.types.get? key = some entry)
      (element : entry.elem = some id) : Mentions manifest id
  | stripped {id elem : String} (mentioned : Mentions manifest id)
      (element : sliceElement? id = some elem) : Mentions manifest elem

/-- Another manifest has the same endpoints, and holds the same wherever this one refers to. -/
structure SharesReferenced (manifest wider : Manifest) : Prop where
  endpoints : wider.canonicalEndpoints = manifest.canonicalEndpoints
  types : ∀ id, manifest.Mentions id → wider.types.get? id = manifest.types.get? id
  docs : ∀ endpoint ∈ manifest.endpoints, wider.docFor endpoint = manifest.docFor endpoint
  middlewares : ∀ endpoint ∈ manifest.endpoints, ∀ middleware ∈ endpoint.middlewares,
    wider.middlewareMetadata.get? middleware = manifest.middlewareMetadata.get? middleware

variable {manifest wider : Manifest} {id next : String} {endpoint : Endpoint}

/-- Mentioned types refer to mentioned types only. -/
theorem Mentions.reference (mentioned : manifest.Mentions id) (refers : manifest.Refers id next) :
    manifest.Mentions next := by
  cases refers with
  | field found _ member => exact .field found member
  | elem found _ element => exact .elem found element
  | brackets _ _ element => exact .stripped mentioned element

namespace SharesReferenced

theorem resolve (shares : manifest.SharesReferenced wider) (mentioned : manifest.Mentions id) :
    wider.resolve id = manifest.resolve id := by
  unfold Manifest.resolve
  rw [shares.types id mentioned]

theorem is_slice (shares : manifest.SharesReferenced wider) (mentioned : manifest.Mentions id) :
    wider.isSlice id = manifest.isSlice id := by
  unfold isSlice
  rw [shares.resolve mentioned]

/-! ### The document -/

theorem object_schema_congr {schemaOf schemaOf' : String → SchemaWalk Schema} {entry : TypeEntry}
    (same : ∀ field ∈ entry.fields, schemaOf field.typeId = schemaOf' field.typeId) :
    objectSchema schemaOf entry = objectSchema schemaOf' entry := by
  unfold objectSchema
  rw [fold_congr]
  intro field listed object
  rw [same field (List.mem_of_mem_filter listed)]

/-- Walks that are deep enough do not depend on how deep they may go. -/
theorem schema_at (shares : manifest.SharesReferenced wider) {depth depth' : Nat}
    (mentioned : manifest.Mentions id) (within : manifest.Within depth id)
    (within' : wider.Within depth' id) : wider.schemaAt depth' id = manifest.schemaAt depth id := by
  -- The depths are bounds that the two manifests give apart from each other, so both vary.
  induction depth generalizing depth' id with
  | zero => exact within.elim
  | succ depth induction =>
      cases depth' with
      | zero => exact within'.elim
      | succ depth' =>
          obtain ⟨target, resolved⟩ := within.1
          have resolved' := (shares.resolve mentioned).trans resolved
          have references : ∀ next ∈ target.references,
              wider.schemaAt depth' next = manifest.schemaAt depth next := by
            intro next listed
            have refers := (references_iff_refers resolved).mp listed
            have refers' := (references_iff_refers resolved').mp listed
            exact induction (mentioned.reference refers) (within.2 next refers)
              (within'.2 next refers')
          rw [schemaAt, schemaAt, resolved, resolved']
          cases target with
          | primitive kind => rfl
          | slice elem =>
              simp only [references elem List.mem_cons_self, shares.types id mentioned]
          | struct name entry =>
              have object : objectSchema (wider.schemaAt depth') entry =
                  objectSchema (manifest.schemaAt depth) entry := by
                apply object_schema_congr
                intro field listed
                exact references field.typeId (List.mem_map_of_mem listed)
              simp only [object]

theorem schema_for (shares : manifest.SharesReferenced wider) (mentioned : manifest.Mentions id)
    (grounded : manifest.Grounded id) (grounded' : wider.Grounded id) :
    wider.schemaFor id = manifest.schemaFor id :=
  shares.schema_at mentioned (grounded.within.mono (manifest.reach_bound_lt_walk_bound id))
    (grounded'.within.mono (wider.reach_bound_lt_walk_bound id))

theorem request_field_doc (shares : manifest.SharesReferenced wider)
    (listed : endpoint ∈ manifest.endpoints) (field : String) :
    wider.requestFieldDoc endpoint field = manifest.requestFieldDoc endpoint field := by
  unfold requestFieldDoc
  cases requested : endpoint.reqType with
  | none => rfl
  | some id => rw [Option.bind_eq_bind, Option.bind_some, Option.bind_eq_bind, Option.bind_some,
      shares.types id (.request listed requested)]

theorem parameters (shares : manifest.SharesReferenced wider)
    (listed : endpoint ∈ manifest.endpoints) :
    OpenApi.parametersOf wider endpoint = OpenApi.parametersOf manifest endpoint := by
  unfold OpenApi.parametersOf OpenApi.parameterOf
  simp only [shares.request_field_doc listed]

theorem declared_responses (shares : manifest.SharesReferenced wider)
    (listed : endpoint ∈ manifest.endpoints) :
    OpenApi.declaredResponses wider endpoint = OpenApi.declaredResponses manifest endpoint := by
  unfold OpenApi.declaredResponses
  apply List.flatMap_congr
  intro middleware member
  rw [shares.middlewares endpoint listed middleware member]

theorem operation (shares : manifest.SharesReferenced wider) (wellFormed : manifest.WellFormed)
    (wellFormed' : wider.WellFormed) (listed : endpoint ∈ manifest.endpoints)
    (operationId : String) :
    OpenApi.operationOf wider endpoint operationId =
      OpenApi.operationOf manifest endpoint operationId := by
  have listed' : endpoint ∈ wider.endpoints := by
    rwa [← mem_canonical_iff, shares.endpoints, mem_canonical_iff]
  have schema : ∀ id, endpoint.reqType = some id ∨ endpoint.respType = some id →
      wider.schemaFor id = manifest.schemaFor id := by
    intro id asked
    have mentioned : manifest.Mentions id := asked.elim (.request listed) (.response listed)
    exact shares.schema_for mentioned (wellFormed.endpoints_grounded endpoint listed id asked)
      (wellFormed'.endpoints_grounded endpoint listed' id asked)
  have body : OpenApi.requestBodyOf wider endpoint = OpenApi.requestBodyOf manifest endpoint := by
    unfold OpenApi.requestBodyOf
    cases requested : endpoint.reqType with
    | none => rfl
    | some id => simp only [schema id (.inl requested)]
  have success : OpenApi.successResponse wider endpoint =
      OpenApi.successResponse manifest endpoint := by
    unfold OpenApi.successResponse
    cases answered : endpoint.respType with
    | none => rfl
    | some id => simp only [schema id (.inr answered)]
  unfold OpenApi.operationOf
  rw [shares.docs endpoint listed, shares.parameters listed, body, success,
    shares.declared_responses listed]

theorem document (shares : manifest.SharesReferenced wider) (wellFormed : manifest.WellFormed)
    (wellFormed' : wider.WellFormed) (config : Config) (context : BuildContext) :
    OpenApi.documentOf wider config manifest.canonicalEndpoints context =
      OpenApi.documentOf manifest config manifest.canonicalEndpoints context := by
  have walk : (indexed manifest.canonicalEndpoints).foldlM
        (OpenApi.addEndpoint wider context.operationIds) .empty =
      (indexed manifest.canonicalEndpoints).foldlM
        (OpenApi.addEndpoint manifest context.operationIds) .empty := by
    apply fold_congr
    intro entry position paths
    have listed := mem_endpoints_of_indexed position
    unfold OpenApi.addEndpoint
    simp only [shares.operation wellFormed wellFormed' listed]
  unfold OpenApi.documentOf
  rw [walk]

/-! ### The routes module -/

theorem endpoint_context (shares : manifest.SharesReferenced wider) {site : RoutesModule.Site}
    (listed : site.endpoint ∈ manifest.endpoints) :
    RoutesModule.EndpointContext.ofSite wider site =
      RoutesModule.EndpointContext.ofSite manifest site := by
  have slice : site.endpoint.respType.any wider.isSlice =
      site.endpoint.respType.any manifest.isSlice := by
    cases answered : site.endpoint.respType with
    | none => rfl
    | some id => exact shares.is_slice (.response listed answered)
  unfold RoutesModule.EndpointContext.ofSite
  simp only [slice]

theorem module (shares : manifest.SharesReferenced wider) :
    RoutesModule.contextOf wider manifest.canonicalEndpoints
        (.ofEndpoints manifest.canonicalEndpoints) =
      RoutesModule.contextOf manifest manifest.canonicalEndpoints
        (.ofEndpoints manifest.canonicalEndpoints) := by
  obtain ⟨sites, located, members⟩ := RoutesModule.sites_succeed manifest.canonicalEndpoints
  have contexts : sites.mapM (RoutesModule.EndpointContext.ofSite wider) =
      sites.mapM (RoutesModule.EndpointContext.ofSite manifest) := by
    apply map_each_congr
    intro site listed
    exact shares.endpoint_context (mem_canonical_iff.mp (members site listed))
  unfold RoutesModule.contextOf
  rw [located]
  simp only [bind, Except.bind, contexts]

theorem build (shares : manifest.SharesReferenced wider) (wellFormed : manifest.WellFormed)
    (wellFormed' : wider.WellFormed) (config : Config) :
    Artifacts.build wider config = Artifacts.build manifest config := by
  unfold Artifacts.build
  rw [shares.endpoints]
  unfold RoutesModule.source Artifacts.documentText
  simp only [shares.module, shares.document wellFormed wellFormed']

end SharesReferenced

end Manifest

end ApiCompiler

import ApiCompiler.Proofs.BoundParameters

/-!
The path of an operation and its parameters. Each name in braces is documented as a parameter of the
path, each parameter of the path stands in braces, and none is told twice.
-/

set_option autoImplicit false

namespace ApiCompiler

open OpenApi (Operation Parameter boundSchema operationAt parameterOf parametersOf)
open RoutesModule (EndpointContext)

/-- What makes two parameters of one operation the same. Header names do not depend on case. -/
def OpenApi.Parameter.key (parameter : Parameter) : Location × String :=
  match parameter.location with
  | .header => (.header, String.ofList (parameter.name.toList.map Char.toLower))
  | location => (location, parameter.name)

/-- The names of the parameters that stand in the path. -/
def OpenApi.Operation.pathNames (operation : Operation) : List String :=
  (operation.parameters.filter fun parameter => parameter.location == .path).map (·.name)

/-- The parameters of an operation fit the template of its path. -/
structure OpenApi.Operation.FitsTemplate (operation : Operation) (path : String) : Prop where
  template : ∃ pieces, PathTemplate.Spells pieces path.toList
  names : ∀ pieces, PathTemplate.Spells pieces path.toList →
    operation.pathNames.Perm ((PathTemplate.names pieces).map String.ofList)
  names_distinct : operation.pathNames.Nodup
  required : ∀ parameter ∈ operation.parameters, parameter.location = .path →
    parameter.required = true
  single : ∀ parameter ∈ operation.parameters, parameter.location = .path →
    parameter.schema.type ≠ some "array"
  keys_distinct : (operation.parameters.map Parameter.key).Nodup

/-- What an endpoint binds; no bindings bind nothing. -/
def Endpoint.bound (endpoint : Endpoint) : Bindings := endpoint.bindings.getD .empty

theorem Endpoint.BindsParameters.bound {endpoint : Endpoint} {parameters : List String}
    (binds : endpoint.BindsParameters parameters) :
    parameters.Nodup ∧ endpoint.bound.WellFormed parameters := by
  obtain ⟨distinct, rest⟩ := binds
  refine ⟨distinct, ?_⟩
  unfold Endpoint.bound
  cases present : endpoint.bindings with
  | none =>
      rw [present] at rest
      subst rest
      constructor <;> simp [Bindings.empty, Bindings.located]
  | some bindings =>
      rw [present] at rest
      exact rest

namespace OpenApi

variable {manifest : Manifest} {endpoint : Endpoint} {operation : Operation}

/-- The parameters stand for what is bound, one by one. -/
theorem parameters_of_bound {parameters : List Parameter}
    (made : parametersOf manifest endpoint = .ok parameters) :
    List.Forall₂ (fun entry parameter => parameterOf manifest endpoint entry.1 entry.2 =
      .ok parameter) endpoint.bound.located parameters := by
  rw [RoutesModule.parameters_of_located, RoutesModule.bindings_of_eq] at made
  exact map_each_ok_iff.mp made

theorem parameter_of_ok {location : Location} {binding : FieldBinding} {parameter : Parameter}
    (made : parameterOf manifest endpoint location binding = .ok parameter) :
    parameter.location = location ∧ parameter.name = binding.tag ∧
      parameter.required = (location == .path || !binding.isPointer) ∧
      ∃ kind, parameter.schema = boundSchema binding kind := by
  obtain ⟨kind, _, same⟩ := bind_ok_iff.mp made
  cases same
  exact ⟨rfl, rfl, rfl, kind, rfl⟩

theorem parameter_keys {parameters : List Parameter}
    (made : parametersOf manifest endpoint = .ok parameters) :
    parameters.map Parameter.key = Validation.tagKeys endpoint.bound.located := by
  apply map_of_forall₂ (parameters_of_bound made)
  intro entry parameter own
  obtain ⟨location, name, _⟩ := parameter_of_ok own
  unfold Parameter.key FieldBinding.tagKey
  rw [location, name]
  cases entry.1 <;> rfl

theorem Operation.Documents.path_names {named : String → Option String}
    (documents : operation.Documents manifest named endpoint) :
    operation.pathNames = endpoint.bound.path.map (·.tag) := by
  have inPath := congrArg
    (fun pairs => (pairs.filter fun pair => pair.1 == Location.path).map (·.2))
    (RoutesModule.parameters_listed documents.parameters)
  have query : (Location.query == Location.path) = false := rfl
  have header : (Location.header == Location.path) = false := rfl
  unfold Endpoint.boundTags at inPath
  unfold Endpoint.bound
  cases present : endpoint.bindings with
  | none =>
      rw [present] at inPath
      simpa [Operation.pathNames, List.filter_map, Function.comp_def, Bindings.empty] using inPath
  | some bindings =>
      rw [present] at inPath
      simpa [Operation.pathNames, List.filter_map, Function.comp_def, query, header] using inPath

theorem Operation.Documents.fits_template {named : String → Option String}
    (documents : operation.Documents manifest named endpoint)
    (wellFormed : endpoint.WellFormed manifest) : operation.FitsTemplate endpoint.path := by
  obtain ⟨pieces, spells, binds⟩ := wellFormed.template
  obtain ⟨distinct, bound⟩ := binds.bound
  have fromPath : ∀ parameter ∈ operation.parameters, parameter.location = .path →
      ∃ binding, binding.WellFormed .path ∧
        parameterOf manifest endpoint .path binding = .ok parameter := by
    intro parameter listed inPath
    obtain ⟨⟨location, binding⟩, member, own⟩ :=
      mem_of_forall₂ (parameters_of_bound documents.parameters) listed
    obtain rfl : location = .path := (parameter_of_ok own).1.symm.trans inPath
    exact ⟨binding, bound.each .path binding member, own⟩
  refine ⟨⟨pieces, spells⟩, ?_, ?_, ?_, ?_, ?_⟩
  · intro pieces' spells'
    rw [← PathTemplate.parameters_of_spells spells', PathTemplate.parameters_of_spells spells,
      documents.path_names]
    exact (List.perm_ext_iff_of_nodup bound.path_tags_distinct distinct).mpr bound.path_tags
  · rw [documents.path_names]
    exact bound.path_tags_distinct
  · intro parameter listed inPath
    obtain ⟨binding, _, own⟩ := fromPath parameter listed inPath
    rw [(parameter_of_ok own).2.2.1]
    rfl
  · intro parameter listed inPath
    obtain ⟨binding, wellFormed, own⟩ := fromPath parameter listed inPath
    obtain ⟨_, _, _, kind, schema⟩ := parameter_of_ok own
    have notSlice := wellFormed.path_single rfl
    rw [schema, boundSchema, notSlice]
    exact Schema.primitive_not_array kind
  · rw [parameter_keys documents.parameters]
    exact Validation.tag_keys_nodup_iff.mpr
      ⟨bound.path_tags_distinct, bound.query_tags_distinct, bound.header_tags_distinct⟩

end OpenApi

/-- The document of an accepted manifest has an operation for each endpoint, and each operation that
it has at a path has parameters that fit the template of the path. -/
theorem path_parameters_fit (manifest : Manifest) (validated : manifest.validate = .ok ())
    (config : Config) :
    ∃ document, OpenApi.documentOf manifest config manifest.canonicalEndpoints
        (.ofEndpoints manifest.canonicalEndpoints) = .ok document ∧
      document.Covers manifest ∧ ∀ path method operation, operationAt document.paths (method, path) = some operation →
        operation.FitsTemplate path := by
  have wellFormed := Manifest.well_formed_of_validate validated
  obtain ⟨document, built⟩ := OpenApi.document_succeeds wellFormed config
  obtain ⟨registry, operations, _, _, has⟩ := OpenApi.document_walk wellFormed built
  refine ⟨document, built, has.covers, ?_⟩
  intro path method operation found
  obtain ⟨endpoint, listed, route, documents⟩ := has.endpoint_of_operation found
  obtain rfl : endpoint.path = path := congrArg Prod.snd route
  exact documents.fits_template (wellFormed.endpoints endpoint listed)

theorem order_desk_templates : Manifest.orderDesk.validate = .ok () ∧
    ∃ document, OpenApi.documentOf Manifest.orderDesk {} Manifest.orderDesk.canonicalEndpoints
        (.ofEndpoints Manifest.orderDesk.canonicalEndpoints) = .ok document ∧
      document.Covers Manifest.orderDesk ∧ ∀ path method operation, operationAt document.paths (method, path) = some operation →
        operation.FitsTemplate path :=
  ⟨Manifest.order_desk_valid,
    path_parameters_fit Manifest.orderDesk Manifest.order_desk_valid {}⟩

end ApiCompiler

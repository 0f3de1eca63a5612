import ApiCompiler.Proofs.TemplateGrammar
import ApiCompiler.Proofs.TypeReferences

/-!
What makes a manifest well-formed, said as properties of its parts and without an order in which
they would be checked.
-/

set_option autoImplicit false

namespace ApiCompiler

structure TypeEntry.WellFormed (manifest : Manifest) (key : String) (entry : TypeEntry) : Prop where
  own_id : entry.id = "" ∨ entry.id = key
  slice_elem : entry.form = .slice → ∃ elem, entry.elem = some elem ∧ manifest.Resolves elem
  fields_named : entry.form = .struct → ∀ field ∈ entry.fields, field.name ≠ ""
  json_names_distinct : entry.form = .struct →
    ((entry.fields.filter Field.inBody).map (·.jsonName)).Nodup
  fields_resolve : entry.form = .struct → ∀ field ∈ entry.fields, manifest.Resolves field.typeId

structure FieldBinding.WellFormed (location : Location) (binding : FieldBinding) : Prop where
  field_set : binding.field ≠ ""
  tag_set : binding.tag ≠ ""
  /-- For a slice, the kind of its elements counts. -/
  kind_known : ∃ kind : Kind,
    if binding.isSlice then binding.elemKind = some kind.name else binding.kind = kind.name
  path_single : location = .path → binding.isSlice = false
  path_required : location = .path → binding.isPointer = false

/-- The bindings of an endpoint whose path has the given parameters. -/
structure Bindings.WellFormed (parameters : List String) (bindings : Bindings) : Prop where
  each : ∀ location binding, (location, binding) ∈ bindings.located → binding.WellFormed location
  path_tags_distinct : (bindings.path.map (·.tag)).Nodup
  query_tags_distinct : (bindings.query.map (·.tag)).Nodup
  /-- Header names do not depend on case. -/
  header_tags_distinct :
    (bindings.header.map fun header => header.tag.toList.map Char.toLower).Nodup
  path_tags : ∀ name, name ∈ bindings.path.map (·.tag) ↔ name ∈ parameters

/-- Each parameter of the path occurs once, and the bindings bind just these parameters. -/
def Endpoint.BindsParameters (endpoint : Endpoint) (parameters : List String) : Prop :=
  parameters.Nodup ∧
    match endpoint.bindings with
    | none => parameters = []
    | some bindings => bindings.WellFormed parameters

structure Endpoint.WellFormed (manifest : Manifest) (endpoint : Endpoint) : Prop where
  package_set : endpoint.handler.package ≠ ""
  name_set : endpoint.handler.name ≠ ""
  rooted : ∃ rest, endpoint.path.toList = '/' :: rest
  template : ∃ pieces, PathTemplate.Spells pieces endpoint.path.toList ∧
    endpoint.BindsParameters ((PathTemplate.names pieces).map String.ofList)
  request : endpoint.reqType.isSome ↔ endpoint.shape.hasRequest
  response : endpoint.respType.isSome ↔ endpoint.shape.hasResponse
  bindings_request : endpoint.bindings.isSome → endpoint.reqType.isSome
  /-- Whatever is bound is bound to the fields of a struct. -/
  request_struct : ∀ bindings, endpoint.bindings = some bindings → bindings ≠ .empty →
    ∃ id entry, endpoint.reqType = some id ∧ manifest.types.get? id = some entry ∧
      entry.form = .struct

/-- Where an endpoint is registered. No two endpoints may share this. -/
def Endpoint.route (endpoint : Endpoint) : Method × String := (endpoint.method, endpoint.path)

structure Manifest.WellFormed (manifest : Manifest) : Prop where
  version : manifest.version = 1
  types : ∀ key entry, manifest.types.get? key = some entry → entry.WellFormed manifest key
  types_grounded : ∀ key ∈ manifest.types.keys, manifest.Grounded key
  endpoints_grounded : ∀ endpoint ∈ manifest.endpoints, ∀ id,
    endpoint.reqType = some id ∨ endpoint.respType = some id → manifest.Grounded id
  statuses : ∀ name metadata, manifest.middlewareMetadata.get? name = some metadata →
    ∀ declaration ∈ metadata.mayReturn,
      100 ≤ declaration.status.toNat ∧ declaration.status.toNat ≤ 599
  routes_distinct : (manifest.endpoints.map Endpoint.route).Nodup
  endpoints : ∀ endpoint ∈ manifest.endpoints, endpoint.WellFormed manifest

end ApiCompiler

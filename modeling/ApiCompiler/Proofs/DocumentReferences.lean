import ApiCompiler.Proofs.Checks
import ApiCompiler.Proofs.ResponseMerge
import ApiCompiler.Proofs.SchemaTranslation

/-!
The schemas that a document shows, and where they come from. A parameter has the schema of a bound
value, and a response that is documented is one of the responses that were merged.
-/

set_option autoImplicit false

namespace ApiCompiler.OpenApi

/-- A schema stands in a content. -/
def Content.Shows (content : Content) (schema : Schema) : Prop :=
  ∃ mediaType, content.get? mediaType = some schema

def Response.Shows (response : Response) (schema : Schema) : Prop :=
  ∃ content, response.content = some content ∧ Content.Shows content schema

inductive Operation.Shows (operation : Operation) : Schema → Prop
  | parameter {parameter : Parameter} (member : parameter ∈ operation.parameters) :
      Operation.Shows operation parameter.schema
  | requestBody {body : RequestBody} {schema : Schema} (has : operation.requestBody = some body)
      (shows : Content.Shows body.content schema) : Operation.Shows operation schema
  | response {status : UInt16} {response : Response} {schema : Schema}
      (has : operation.responses.get? status = some response) (shows : response.Shows schema) :
      Operation.Shows operation schema

inductive Document.Shows (document : Document) : Schema → Prop
  | operation {path : String} {item : PathItem} {method : Method} {operation : Operation}
      {schema : Schema} (found : document.paths.get? path = some item)
      (slot : item.slot method = some operation) (shows : operation.Shows schema) :
      Document.Shows document schema
  | component {name : String} {schema : Schema} (found : document.schemas.get? name = some schema) :
      Document.Shows document schema

/-- Where a schema comes from when structs have the given names: a bound value, a type in a body, a
failure, or one of the components. -/
inductive Origin (manifest : Manifest) (named : String → Option String) : Schema → Prop
  | bound (binding : FieldBinding) (kind : Kind) : Origin manifest named (boundSchema binding kind)
  | body {id : String} {schema : Schema} (translates : manifest.Translates named id schema) :
      Origin manifest named schema
  | failure : Origin manifest named (.component Schema.errorResponseName)
  | envelope : Origin manifest named .errorResponse
  | struct {id : String} {schema : Schema} (describes : manifest.Describes named id schema) :
      Origin manifest named schema

variable {manifest : Manifest} {endpoint : Endpoint} {named : String → Option String}
  {schema shown : Schema} {entry : UInt16 × Response}

/-! ### Responses -/

theorem json_content_shows (shows : Content.Shows (jsonContent schema) shown) : shown = schema := by
  obtain ⟨mediaType, found⟩ := shows
  have listed := SortedMap.mem_entries_iff.mpr found
  exact congrArg Prod.snd (List.mem_singleton.mp listed)

theorem json_shows {description : String} (shows : (Response.json description schema).Shows shown) :
    shown = schema := by
  obtain ⟨content, has, inside⟩ := shows
  cases has
  exact json_content_shows inside

theorem plain_shows_nothing (description : String) : ¬(Response.plain description).Shows shown := by
  intro parts
  rcases parts with ⟨content, has, _⟩
  cases has

theorem merge_responses_from {builtIn declared : List (UInt16 × Response)} {status : UInt16}
    {response : Response} (found : (mergeResponses builtIn declared).get? status = some response) :
    (status, response) ∈ builtIn ++ declared := by
  rw [get?_merge_responses, List.lookup_eq_some_iff] at found
  obtain ⟨before, after, shape, _⟩ := found
  rw [shape]
  exact List.mem_append_right before List.mem_cons_self

theorem declared_shows (listed : entry ∈ declaredResponses manifest endpoint)
    (shows : entry.2.Shows shown) : shown = .component Schema.errorResponseName := by
  obtain ⟨middleware, _, declared⟩ := List.mem_flatMap.mp listed
  split at declared
  · cases declared
  · obtain ⟨declaration, _, rfl⟩ := List.mem_map.mp declared
    unfold declaredResponse at shows
    split_ifs at shows
    · exact json_shows shows
    · exact absurd shows (plain_shows_nothing _)

theorem failure_shows (listed : entry ∈ failureResponses endpoint) (shows : entry.2.Shows shown) :
    shown = .component Schema.errorResponseName := by
  have error : ∃ description, entry.2 = Response.error description := by
    unfold failureResponses at listed
    rcases List.mem_append.mp listed with bound | always
    · split_ifs at bound
      · exact ⟨_, congrArg Prod.snd (List.mem_singleton.mp bound)⟩
      · cases bound
    · exact ⟨_, congrArg Prod.snd (List.mem_singleton.mp always)⟩
  obtain ⟨description, same⟩ := error
  rw [same] at shows
  exact json_shows shows

/-! ### Parameters -/

theorem parameter_schema {parameters : List Parameter}
    (made : parametersOf manifest endpoint = .ok parameters) {parameter : Parameter}
    (listed : parameter ∈ parameters) :
    ∃ binding kind, parameter.schema = boundSchema binding kind := by
  unfold parametersOf at made
  split at made
  · cases made
    cases listed
  · obtain ⟨⟨location, binding⟩, _, own⟩ := mem_of_map_each made listed
    obtain ⟨kind, _, same⟩ := bind_ok_iff.mp own
    cases same
    exact ⟨binding, kind, rfl⟩

theorem bound_schema_refers_only {known : String → Prop} (binding : FieldBinding) (kind : Kind) :
    (boundSchema binding kind).RefersOnlyTo known := by
  unfold boundSchema
  split_ifs
  · exact Schema.array_refers_only (Schema.primitive_refers_only kind)
  · exact Schema.primitive_refers_only kind

/-- Schemas refer to named structs and to the error envelope. -/
theorem Origin.refers_only (origin : Origin manifest named schema) :
    schema.RefersOnlyTo fun name =>
      name = Schema.errorResponseName ∨ ∃ id, named id = some name := by
  cases origin with
  | bound binding kind => exact bound_schema_refers_only binding kind
  | body translates => exact translates.refers_only.mono fun name => .inr
  | failure => exact Schema.component_refers_only (.inl rfl)
  | envelope => exact Schema.error_response_refers_only
  | struct describes => exact describes.refers_only.mono fun name => .inr

end ApiCompiler.OpenApi

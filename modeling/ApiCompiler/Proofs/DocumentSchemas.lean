import ApiCompiler.Proofs.DocumentOperations
import ApiCompiler.Proofs.DocumentReferences
import Mathlib

/-!
The components of the document of an accepted manifest: the error envelope and, under a name of its
own, the translation of every struct that the body of a request or a response reaches. Every
reference in the document is to one of them.
-/

set_option autoImplicit false

namespace ApiCompiler

/-- The names that components have, or will have once all unfinished structs are finished. -/
def SchemaRegistry.Names (registry : SchemaRegistry) (name : String) : Prop :=
  name = Schema.errorResponseName ∨ ∃ id, registry.names.lookup id = some name

namespace OpenApi

variable {manifest : Manifest} {registry : SchemaRegistry}

theorem Operation.Documents.origin {named : String → Option String} {endpoint : Endpoint}
    {operation : Operation} (documents : operation.Documents manifest named endpoint)
    {schema : Schema} (shows : operation.Shows schema) : Origin manifest named schema := by
  cases shows with
  | parameter member =>
      obtain ⟨binding, kind, same⟩ := parameter_schema documents.parameters member
      rw [same]
      exact .bound binding kind
  | requestBody has shows =>
      have bodyOf := documents.requestBody
      rw [has] at bodyOf
      cases bodyOf with
      | json read requested translates =>
          rw [json_content_shows shows]
          exact .body translates
  | response has shows =>
      obtain ⟨success, successOf, merged⟩ := documents.responses
      rw [merged] at has
      have listed := merge_responses_from has
      rw [List.cons_append, List.mem_cons, List.mem_append] at listed
      rcases listed with rfl | failure | declared
      · cases successOf with
        | silent => exact absurd shows (plain_shows_nothing _)
        | json speaks answered translates =>
            rw [json_shows shows]
            exact .body translates
      · rw [failure_shows failure shows]
        exact .failure
      · rw [declared_shows declared shows]
        exact .failure

theorem shown_origin {document : Document} {operations : List Operation}
    (consistent : registry.Consistent manifest [])
    (schemas : document.schemas = registry.components)
    (has : document.HasOperations manifest registry.names.lookup operations) {schema : Schema}
    (shows : document.Shows schema) : Origin manifest registry.names.lookup schema := by
  cases shows with
  | @operation path item method operation _ found slot shows =>
      have stands : operationAt document.paths (method, path) = some operation := by
        rw [operationAt, found, Option.getD_some, slot]
      have listed := (List.of_mem_zip ((has.stand (method, path) operation).mp stands)).2
      obtain ⟨endpoint, _, documents⟩ := mem_of_forall₂ has.each listed
      exact documents.origin shows
  | component found =>
      rw [schemas] at found
      rcases consistent.only _ schema found with rfl | ⟨id, _, known⟩
      · rw [consistent.envelope] at found
        cases found
        exact .envelope
      · obtain ⟨own, found', describes⟩ := consistent.finished id _ List.not_mem_nil known
        rw [found] at found'
        cases found'
        exact .struct describes

end OpenApi

namespace Manifest

variable {manifest : Manifest} {registry : SchemaRegistry}

end Manifest

namespace OpenApi

variable {manifest : Manifest} {registry : SchemaRegistry} {document : Document}

theorem component_key_iff (consistent : registry.Consistent manifest []) (key : String) :
    key ∈ registry.components.keys ↔ registry.Names key := by
  rw [SortedMap.mem_keys_iff]
  constructor
  · intro parts
    rcases parts with ⟨schema, found⟩
    exact (consistent.only key schema found).imp_right fun ⟨id, _, known⟩ => ⟨id, known⟩
  · intro either
    rcases either with rfl | ⟨id, known⟩
    · exact ⟨_, consistent.envelope⟩
    · obtain ⟨schema, found, _⟩ := consistent.finished id key List.not_mem_nil known
      exact ⟨schema, found⟩

end OpenApi

end ApiCompiler

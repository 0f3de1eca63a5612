import ApiCompiler.Proofs.ReferencedContent
import ApiCompiler.Proofs.ServedEndpoints

/-!
What no endpoint and no type refers to has no influence on what is made, not even where its names
would be those of something that is there.
-/

set_option autoImplicit false

namespace ApiCompiler

namespace Manifest

variable {manifest : Manifest} {id : String}

/-- What is mentioned is written in an endpoint or in a type, behind brackets or not. -/
theorem Mentions.written (mentioned : manifest.Mentions id) :
    ∃ origin ∈ manifest.endpoints.flatMap Endpoint.bodyTypes ++ manifest.mentionedIds,
      id.toList ∈ unwrappings origin.toList := by
  have inEndpoint : ∀ endpoint ∈ manifest.endpoints, ∀ id ∈ endpoint.bodyTypes,
      id ∈ manifest.endpoints.flatMap Endpoint.bodyTypes ++ manifest.mentionedIds :=
    fun endpoint listed id part =>
      List.mem_append_left _ (List.mem_flatMap.mpr ⟨endpoint, listed, part⟩)
  induction mentioned with
  | request listed requested =>
      exact ⟨_, inEndpoint _ listed _ (by simp [Endpoint.bodyTypes, requested]),
        unwrappings_self _⟩
  | response listed answered =>
      exact ⟨_, inEndpoint _ listed _ (by simp [Endpoint.bodyTypes, answered]),
        unwrappings_self _⟩
  | field found member =>
      have written := mentioned_of_entry found
        (List.mem_append_right _ (List.mem_map_of_mem member))
      exact ⟨_, List.mem_append_right _ written, unwrappings_self _⟩
  | elem found element =>
      have written := mentioned_of_entry found
        (List.mem_append_left _ (Option.mem_toList.mpr element))
      exact ⟨_, List.mem_append_right _ written, unwrappings_self _⟩
  | stripped _ element induction =>
      obtain ⟨origin, listed, unwrapped⟩ := induction
      rw [sliceElement_toList element] at unwrapped
      exact ⟨origin, listed, unwrappings_closed unwrapped⟩

/-- Adds types, documentation and metadata of middlewares. -/
def adding (manifest : Manifest) (types : List (String × TypeEntry)) (docs : List (String × Doc))
    (middlewares : List (String × MiddlewareMetadata)) : Manifest :=
  { manifest with
    types := manifest.types.insertAll types
    endpointDocs := manifest.endpointDocs.insertAll docs
    middlewareMetadata := manifest.middlewareMetadata.insertAll middlewares }

theorem shares_referenced_of_adding {types : List (String × TypeEntry)}
    {docs : List (String × Doc)} {middlewares : List (String × MiddlewareMetadata)}
    (unmentioned : ∀ entry ∈ types, ¬manifest.Mentions entry.1)
    (undocumented : ∀ entry ∈ docs, ∀ endpoint ∈ manifest.endpoints,
      endpoint.handler.qualifiedName ≠ entry.1)
    (unlisted : ∀ entry ∈ middlewares, ∀ endpoint ∈ manifest.endpoints,
      entry.1 ∉ endpoint.middlewares) :
    manifest.SharesReferenced (manifest.adding types docs middlewares) := by
  refine ⟨rfl, ?_, ?_, ?_⟩
  · intro id mentioned
    apply SortedMap.get?_insert_all_other
    intro entry added same
    exact unmentioned entry added (same ▸ mentioned)
  · intro endpoint listed
    apply SortedMap.get?_insert_all_other
    exact fun entry added => undocumented entry added endpoint listed
  · intro endpoint listed middleware member
    apply SortedMap.get?_insert_all_other
    intro entry added same
    exact unlisted entry added endpoint listed (same ▸ member)

end Manifest

/-- What is added to a manifest without being referred to is not seen in what is compiled. -/
theorem compile_ignores_unreferenced (manifest : Manifest) (config : Config)
    (types : List (String × TypeEntry)) (docs : List (String × Doc))
    (middlewares : List (String × MiddlewareMetadata)) (validated : manifest.validate = .ok ())
    (validated' : (manifest.adding types docs middlewares).validate = .ok ())
    (unmentioned : ∀ entry ∈ types, ¬manifest.Mentions entry.1)
    (undocumented : ∀ entry ∈ docs, ∀ endpoint ∈ manifest.endpoints,
      endpoint.handler.qualifiedName ≠ entry.1)
    (unlisted : ∀ entry ∈ middlewares, ∀ endpoint ∈ manifest.endpoints,
      entry.1 ∉ endpoint.middlewares) :
    compile (manifest.adding types docs middlewares) config = compile manifest config := by
  have shares := Manifest.shares_referenced_of_adding unmentioned undocumented unlisted
  have wellFormed := Manifest.well_formed_of_validate validated
  have wellFormed' := Manifest.well_formed_of_validate validated'
  unfold compile
  rw [validated, validated']
  simp only [shares.build wellFormed wellFormed']

/-- The first type would be named like the one that is there, were it named at all. -/
def spareTypes : List (String × TypeEntry) := [
  ("x::Order", ⟨"", .struct, [⟨"Total", "total", "int64", true, none⟩], none, none⟩),
  ("Spare", ⟨"", .slice, [], some "[]x::Order", none⟩)]

def spareDocs : List (String × Doc) := [("crate::orders::lose", ⟨some "No one does this.", none⟩)]

def spareMiddlewares : List (String × MiddlewareMetadata) := [
  ("crate::auth::riddle", ⟨[⟨404, "Not the answer"⟩]⟩)]

theorem order_desk_with_spares :
    Manifest.orderDesk.validate = .ok () ∧
    (Manifest.orderDesk.adding spareTypes spareDocs spareMiddlewares).validate = .ok () ∧
    (∀ entry ∈ spareTypes, ¬Manifest.orderDesk.Mentions entry.1) ∧
    (∀ entry ∈ spareDocs, ∀ endpoint ∈ Manifest.orderDesk.endpoints,
      endpoint.handler.qualifiedName ≠ entry.1) ∧
    (∀ entry ∈ spareMiddlewares, ∀ endpoint ∈ Manifest.orderDesk.endpoints,
      entry.1 ∉ endpoint.middlewares) ∧
    (∃ source document files, compile Manifest.orderDesk Config.plainViewer =
      .ok ⟨source, some document, some files⟩) ∧
    compile (Manifest.orderDesk.adding spareTypes spareDocs spareMiddlewares) Config.plainViewer =
      compile Manifest.orderDesk Config.plainViewer := by
  have validated := Manifest.order_desk_valid
  have validated' :
      (Manifest.orderDesk.adding spareTypes spareDocs spareMiddlewares).validate = .ok () :=
    Manifest.validate_ok_iff.mpr ⟨rfl, by cbv, rfl, for_each_ok_iff.mp (by cbv), by decide⟩
  have unmentioned : ∀ entry ∈ spareTypes, ¬Manifest.orderDesk.Mentions entry.1 := by
    have unwritten : ∀ entry ∈ spareTypes, ∀ origin ∈
        Manifest.orderDesk.endpoints.flatMap Endpoint.bodyTypes ++ Manifest.orderDesk.mentionedIds,
        entry.1.toList ∉ Manifest.unwrappings origin.toList := by decide
    intro entry added mentioned
    obtain ⟨origin, listed, unwrapped⟩ := mentioned.written
    exact unwritten entry added origin listed unwrapped
  have undocumented : ∀ entry ∈ spareDocs, ∀ endpoint ∈ Manifest.orderDesk.endpoints,
      endpoint.handler.qualifiedName ≠ entry.1 := by decide
  have unlisted : ∀ entry ∈ spareMiddlewares, ∀ endpoint ∈ Manifest.orderDesk.endpoints,
      entry.1 ∉ endpoint.middlewares := by decide
  exact ⟨validated, validated', unmentioned, undocumented, unlisted,
    plain_viewer_compiles validated,
    compile_ignores_unreferenced Manifest.orderDesk Config.plainViewer spareTypes spareDocs
      spareMiddlewares validated validated' unmentioned undocumented unlisted⟩

end ApiCompiler

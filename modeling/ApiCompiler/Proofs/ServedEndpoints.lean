import ApiCompiler.Proofs.DocumentOperations
import ApiCompiler.Proofs.ModuleEndpoints
import Mathlib

/-!
The routes module and the document of one build, endpoint by endpoint: each endpoint has its context
in the module and, at its route, its operation in the document, and the two have one operation id.
-/

set_option autoImplicit false

namespace ApiCompiler

open OpenApi (Operation operationAt)
open RoutesModule (EndpointContext)

/-- The module and the document that one build makes. -/
structure Manifest.Builds (manifest : Manifest) (config : Config) (module : RoutesModule.Context)
    (document : OpenApi.Document) : Prop where
  module : RoutesModule.contextOf manifest manifest.canonicalEndpoints
    (.ofEndpoints manifest.canonicalEndpoints) = .ok module
  document : OpenApi.documentOf manifest config manifest.canonicalEndpoints
    (.ofEndpoints manifest.canonicalEndpoints) = .ok document

/-- The module has a context for each endpoint that is listed, in canonical order, and something
holds of each endpoint, of its context and of the operation at its route. -/
structure Manifest.EachEndpoint (manifest : Manifest) (module : RoutesModule.Context)
    (document : OpenApi.Document) (holds : Endpoint → EndpointContext → Operation → Prop) :
    Prop where
  reordered : manifest.canonicalEndpoints.Perm manifest.endpoints
  each : List.Forall₂ (fun endpoint context =>
    ∃ operation, operationAt document.paths endpoint.route = some operation ∧
      holds endpoint context operation) manifest.canonicalEndpoints module.endpoints

/-- A context is the one of an endpoint, with some names for its operation and its functions. -/
def RoutesModule.EndpointContext.Presents (manifest : Manifest) (endpoint : Endpoint)
    (context : EndpointContext) : Prop :=
  ∃ site : RoutesModule.Site, site.endpoint = endpoint ∧
    EndpointContext.ofSite manifest site = .ok context

theorem RoutesModule.module_presents {manifest : Manifest} {endpoints : List Endpoint}
    {module : RoutesModule.Context}
    (made : RoutesModule.contextOf manifest endpoints (.ofEndpoints endpoints) = .ok module) :
    List.Forall₂ (EndpointContext.Presents manifest) endpoints module.endpoints := by
  obtain ⟨sites, listed, _, _, each⟩ := RoutesModule.module_sites made
  rw [← listed, List.forall₂_map_left_iff]
  exact each.imp fun site context own => ⟨site, rfl, own⟩

namespace Manifest

variable {manifest : Manifest} {config : Config} {module : RoutesModule.Context}
  {document : OpenApi.Document}

theorem WellFormed.builds (wellFormed : manifest.WellFormed) (config : Config) :
    ∃ module document, manifest.Builds config module document := by
  obtain ⟨module, made⟩ := RoutesModule.context_succeeds wellFormed.canonical
  obtain ⟨document, built⟩ := OpenApi.document_succeeds wellFormed config
  exact ⟨module, document, made, built⟩

theorem EachEndpoint.imp {holds holds' : Endpoint → EndpointContext → Operation → Prop}
    (each : manifest.EachEndpoint module document holds)
    (weaker : ∀ endpoint context operation, holds endpoint context operation →
      holds' endpoint context operation) : manifest.EachEndpoint module document holds' := by
  refine ⟨each.reordered, each.each.imp ?_⟩
  intro endpoint context parts
  rcases parts with ⟨operation, found, own⟩
  exact ⟨operation, found, weaker endpoint context operation own⟩

theorem Builds.presents (builds : manifest.Builds config module document) :
    List.Forall₂ (EndpointContext.Presents manifest) manifest.canonicalEndpoints
      module.endpoints := RoutesModule.module_presents builds.module

/-- Orders are placed and listed behind a check of the caller; one is struck off by its number. -/
def orderDesk : Manifest := { empty with
  endpoints := [
    ⟨.post, "/orders/{id}", ⟨"crate::orders", "place"⟩, .reqResp, some "NewOrder", some "Orders",
      some ⟨true, [⟨"Id", "id", "int64", false, false, none⟩],
        [⟨"Labels", "label", "", false, true, some "string"⟩,
          ⟨"Urgent", "urgent", "bool", true, false, none⟩],
        [⟨"Copies", "X-Copies", "", true, true, some "uint8"⟩]⟩, ["crate::auth::check"]⟩,
    ⟨.get, "/orders", ⟨"crate::orders", "list"⟩, .noReqResp, none, some "[]Order", none,
      ["crate::auth::check"]⟩,
    ⟨.get, "/orders/{id}", ⟨"crate::orders", "find"⟩, .reqResp, some "OrderKey", some "Order",
      some ⟨false, [⟨"Id", "id", "int64", false, false, none⟩], [], []⟩, []⟩,
    ⟨.delete, "/orders/{id}", ⟨"crate::orders", "strike"⟩, .reqNoResp, some "OrderKey", none,
      some ⟨false, [⟨"Id", "id", "int64", false, false, none⟩], [], []⟩, []⟩]
  types := .ofList [
    ("NewOrder", ⟨"", .struct, [
      ⟨"Id", "", "int64", true, some "The number of the order."⟩,
      ⟨"Labels", "", "[]string", false, none⟩,
      ⟨"Urgent", "", "bool", false, none⟩,
      ⟨"Copies", "", "[]uint8", false, none⟩,
      ⟨"Order", "order", "Order", true, none⟩], none, none⟩),
    ("Order", ⟨"", .struct, [⟨"Note", "note", "string", false, none⟩], none, some "An order."⟩),
    ("Orders", ⟨"", .slice, [], some "Order", none⟩),
    ("OrderKey", ⟨"", .struct, [⟨"Id", "", "int64", true, none⟩], none, none⟩)]
  middlewareMetadata := .ofList [
    ("crate::auth::check", ⟨[⟨401, "Who is there?"⟩, ⟨400, "A riddle"⟩, ⟨500, "Out of order"⟩]⟩)] }

theorem order_desk_valid : orderDesk.validate = .ok () :=
  validate_ok_iff.mpr ⟨rfl, by cbv, rfl, for_each_ok_iff.mp (by cbv), by decide⟩

end Manifest

end ApiCompiler

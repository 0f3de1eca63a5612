import ApiCompiler.Proofs.ModuleMeaning
import Mathlib

/-!
The module of the store. The manifest of the store is valid, and its module, run with the handlers
of the store, answers every request as the service does.
-/

set_option autoImplicit false

namespace ApiCompiler.Petstore

open Http (Request Response)
open Json (Value)
open RoutesModule (Assignment EndpointContext HandlerFunction RequestField)

/-! ### The manifest -/

def operations : String := "crate::handlers::ops"

def petHandlers : String := "crate::handlers::pets"

def healthEndpoint : Endpoint :=
  ⟨.get, "/health", ⟨operations, "health"⟩, .noReqNoResp, none, none, none, []⟩

def countersEndpoint : Endpoint :=
  ⟨.get, "/counters", ⟨operations, "counters"⟩, .reqResp, some "crate::models::Counters",
    some "crate::models::Counters",
    some ⟨false, [],
      [⟨"small", "small", "uint8", false, false, none⟩,
        ⟨"medium", "medium", "int16", false, false, none⟩,
        ⟨"large", "large", "uint32", false, false, none⟩,
        ⟨"ratio", "ratio", "float32", true, false, none⟩,
        ⟨"label", "label", "string", true, false, none⟩],
      [⟨"tenant", "X-Tenant", "string", false, false, none⟩]⟩, []⟩

def listPetsEndpoint : Endpoint :=
  ⟨.get, "/pets", ⟨petHandlers, "list_pets"⟩, .noReqResp, none, some "[]crate::models::Pet", none,
    []⟩

def createPetEndpoint : Endpoint :=
  ⟨.post, "/pets", ⟨petHandlers, "create_pet"⟩, .reqResp, some "crate::models::CreatePet",
    some "crate::models::Pet",
    some ⟨true, [], [⟨"dry_run", "dry_run", "bool", true, false, none⟩], []⟩, []⟩

def getPetEndpoint : Endpoint :=
  ⟨.get, "/pets/\x7bid\x7d", ⟨petHandlers, "get_pet"⟩, .reqResp, some "crate::models::GetPet",
    some "crate::models::Pet",
    some ⟨false, [⟨"id", "id", "int64", false, false, none⟩],
      [⟨"tags", "tag", "slice", false, true, some "int8"⟩],
      [⟨"verbose", "X-Verbose", "bool", true, false, none⟩]⟩, []⟩

def manifest : Manifest := { Manifest.empty with
  endpoints := [healthEndpoint, countersEndpoint, listPetsEndpoint, createPetEndpoint,
    getPetEndpoint]
  types := .ofList [
    ("crate::models::Pet", ⟨"", .struct, [
      ⟨"id", "id", "int64", true, none⟩,
      ⟨"name", "name", "string", true, none⟩,
      ⟨"tags", "tags", "[]int8", false, none⟩,
      ⟨"verbose", "verbose", "bool", false, none⟩], none, none⟩),
    ("crate::models::CreatePet", ⟨"", .struct, [
      ⟨"name", "name", "string", true, none⟩,
      ⟨"dry_run", "", "bool", false, none⟩], none, none⟩),
    ("crate::models::GetPet", ⟨"", .struct, [
      ⟨"id", "", "int64", false, none⟩,
      ⟨"tags", "", "[]int8", false, none⟩,
      ⟨"verbose", "", "bool", false, none⟩], none, none⟩),
    ("crate::models::Counters", ⟨"", .struct, [
      ⟨"small", "small", "uint8", true, none⟩,
      ⟨"medium", "medium", "int16", true, none⟩,
      ⟨"large", "large", "uint32", true, none⟩,
      ⟨"ratio", "ratio", "float32", false, none⟩,
      ⟨"label", "label", "string", false, none⟩,
      ⟨"tenant", "tenant", "string", true, none⟩], none, none⟩)] }

theorem manifest_valid : manifest.validate = .ok () :=
  Manifest.validate_ok_iff.mpr
    ⟨rfl, by decide +kernel, by decide +kernel, by decide +kernel, by decide⟩

/-- The endpoints in canonical order. -/
def served : List Endpoint :=
  [countersEndpoint, healthEndpoint, listPetsEndpoint, createPetEndpoint, getPetEndpoint]

theorem canonical_endpoints_eq : manifest.canonicalEndpoints = served := by
  have reordered : manifest.endpoints.Perm served := by decide
  have distinct : (manifest.endpoints.map Endpoint.route).Nodup := by decide
  have sorted : served.Pairwise fun left right => (left.order right).isLE = true := by
    decide +kernel
  have unique : manifest.canonicalEndpoints =
      ({ manifest with endpoints := served } : Manifest).canonicalEndpoints :=
    Manifest.canonical_endpoints_unique reordered distinct
  rw [unique]
  exact List.mergeSort_of_pairwise sorted

/-! ### The handlers -/

def smallField : RequestField Counters :=
  ⟨"small", .requiredOne, .uint8, fun small taken => { taken with small }⟩

def mediumField : RequestField Counters :=
  ⟨"medium", .requiredOne, .int16, fun medium taken => { taken with medium }⟩

def largeField : RequestField Counters :=
  ⟨"large", .requiredOne, .uint32, fun large taken => { taken with large }⟩

def ratioField : RequestField Counters :=
  ⟨"ratio", .optionalOne, .float32, fun ratio taken => { taken with ratio }⟩

def labelField : RequestField Counters :=
  ⟨"label", .optionalOne, .string, fun label taken => { taken with label }⟩

def tenantField : RequestField Counters :=
  ⟨"tenant", .requiredOne, .string, fun tenant taken => { taken with tenant }⟩

def nameField : RequestField CreatePet :=
  ⟨"name", .requiredOne, .string, fun name taken => { taken with name }⟩

def dryRunField : RequestField CreatePet :=
  ⟨"dry_run", .optionalOne, .bool, fun dryRun taken => { taken with dryRun }⟩

def idField : RequestField GetPet :=
  ⟨"id", .requiredOne, .int64, fun id taken => { taken with id }⟩

def tagsField : RequestField GetPet :=
  ⟨"tags", .requiredMany, .int8, fun tags taken => { taken with tags }⟩

def verboseField : RequestField GetPet :=
  ⟨"verbose", .optionalOne, .bool, fun verbose taken => { taken with verbose }⟩

def countersFields : List (RequestField Counters) :=
  [smallField, mediumField, largeField, ratioField, labelField, tenantField]

def createPetFields : List (RequestField CreatePet) := [nameField, dryRunField]

def getPetFields : List (RequestField GetPet) := [idField, tagsField, verboseField]

/-- A handler that takes nothing. -/
def takingNothing (place : Handler) (result : Except Response Value) : HandlerFunction where
  place
  Taken := Unit
  fields := []
  initial := ()
  read := fun _ => .ok ()
  run := fun _ => result

def healthFunction : HandlerFunction := takingNothing ⟨operations, "health"⟩ (.ok .null)

def countersFunction : HandlerFunction where
  place := ⟨operations, "counters"⟩
  Taken := Counters
  fields := countersFields
  initial := ⟨0, 0, 0, none, none, ""⟩
  -- No body is read for this type, nor for that of the request for a pet.
  read := fun _ => .error (.missingField "small")
  run := fun taken => .ok taken.toJson

def listPetsFunction : HandlerFunction := takingNothing ⟨petHandlers, "list_pets"⟩
  (.ok (.ofOption (fun pets => .array (pets.map Pet.toJson)) listPets))

def createPetFunction : HandlerFunction where
  place := ⟨petHandlers, "create_pet"⟩
  Taken := CreatePet
  fields := createPetFields
  initial := ⟨"", none⟩
  read := readCreatePet
  run := fun taken => .ok (createPet taken).toJson

def getPetFunction : HandlerFunction where
  place := ⟨petHandlers, "get_pet"⟩
  Taken := GetPet
  fields := getPetFields
  initial := ⟨0, [], none⟩
  read := fun _ => .error (.missingField "id")
  run := fun taken => ((getPet taken).map Pet.toJson).mapError PetFault.respond

def handlers : List HandlerFunction :=
  [healthFunction, countersFunction, listPetsFunction, createPetFunction, getPetFunction]

/-! ### The module -/

def countersAssignments : List (Assignment Counters) := [
  ⟨⟨.query, "small", "small"⟩, smallField⟩,
  ⟨⟨.query, "medium", "medium"⟩, mediumField⟩,
  ⟨⟨.query, "large", "large"⟩, largeField⟩,
  ⟨⟨.query, "ratio", "ratio"⟩, ratioField⟩,
  ⟨⟨.query, "label", "label"⟩, labelField⟩,
  ⟨⟨.header, "X-Tenant", "tenant"⟩, tenantField⟩]

def createPetAssignments : List (Assignment CreatePet) :=
  [⟨⟨.query, "dry_run", "dry_run"⟩, dryRunField⟩]

def getPetAssignments : List (Assignment GetPet) := [
  ⟨⟨.path, "id", "id"⟩, idField⟩,
  ⟨⟨.query, "tag", "tags"⟩, tagsField⟩,
  ⟨⟨.header, "X-Verbose", "verbose"⟩, verboseField⟩]

def countersContext : EndpointContext where
  operationId := "handlersOpsCounters"
  route := "GET /counters"
  handler := "crate::handlers::ops::counters"
  handlerCall := "ops::counters"
  bindFunction := some "bind_handlers_ops_counters"
  dispatchFunction := "dispatch_handlers_ops_counters"
  hasRequest := true
  hasResponse := true
  respIsSlice := false
  requestType := some "crate::models::Counters"
  hasJsonBody := false
  bindings := countersAssignments.map Assignment.binding
  extractors := [.query, .headers]

def healthContext : EndpointContext where
  operationId := "handlersOpsHealth"
  route := "GET /health"
  handler := "crate::handlers::ops::health"
  handlerCall := "ops::health"
  bindFunction := none
  dispatchFunction := "dispatch_handlers_ops_health"
  hasRequest := false
  hasResponse := false
  respIsSlice := false
  requestType := none
  hasJsonBody := false
  bindings := []
  extractors := []

def listPetsContext : EndpointContext where
  operationId := "handlersPetsListPets"
  route := "GET /pets"
  handler := "crate::handlers::pets::list_pets"
  handlerCall := "pets::list_pets"
  bindFunction := none
  dispatchFunction := "dispatch_handlers_pets_list_pets"
  hasRequest := false
  hasResponse := true
  respIsSlice := true
  requestType := none
  hasJsonBody := false
  bindings := []
  extractors := []

def createPetContext : EndpointContext where
  operationId := "handlersPetsCreatePet"
  route := "POST /pets"
  handler := "crate::handlers::pets::create_pet"
  handlerCall := "pets::create_pet"
  bindFunction := some "bind_handlers_pets_create_pet"
  dispatchFunction := "dispatch_handlers_pets_create_pet"
  hasRequest := true
  hasResponse := true
  respIsSlice := false
  requestType := some "crate::models::CreatePet"
  hasJsonBody := true
  bindings := createPetAssignments.map Assignment.binding
  extractors := [.query, .body]

def getPetContext : EndpointContext where
  operationId := "handlersPetsGetPet"
  route := "GET /pets/\x7bid\x7d"
  handler := "crate::handlers::pets::get_pet"
  handlerCall := "pets::get_pet"
  bindFunction := some "bind_handlers_pets_get_pet"
  dispatchFunction := "dispatch_handlers_pets_get_pet"
  hasRequest := true
  hasResponse := true
  respIsSlice := false
  requestType := some "crate::models::GetPet"
  hasJsonBody := false
  bindings := getPetAssignments.map Assignment.binding
  extractors := [.path, .query, .headers]

def storeModule : RoutesModule.Context where
  imports := [⟨operations, "ops"⟩, ⟨petHandlers, "pets"⟩]
  helpers := ⟨true, true, true, true⟩
  parsers := [.string, .bool, .int8, .int16, .int64, .uint8, .uint32, .float32]
  endpoints := [countersContext, healthContext, listPetsContext, createPetContext, getPetContext]
  routes := [
    ⟨Text.stringLiteral "/counters", [(.get, "dispatch_handlers_ops_counters")]⟩,
    ⟨Text.stringLiteral "/health", [(.get, "dispatch_handlers_ops_health")]⟩,
    ⟨Text.stringLiteral "/pets", [(.get, "dispatch_handlers_pets_list_pets"),
      (.post, "dispatch_handlers_pets_create_pet")]⟩,
    ⟨Text.stringLiteral "/pets/\x7bid\x7d", [(.get, "dispatch_handlers_pets_get_pet")]⟩]

theorem store_module_made : RoutesModule.contextOf manifest served (.ofEndpoints served) =
    .ok storeModule := by
  decide +kernel

/-! ### Binders -/

theorem counters_binder : countersContext.bind? countersFunction = some bindCounters := by
  have known : ∀ assignment ∈ countersAssignments, assignment.Known countersFields := by
    simp only [countersAssignments, List.forall_mem_cons]
    exact ⟨rfl, rfl, rfl, rfl, rfl, rfl, nofun⟩
  refine RoutesModule.EndpointContext.bind_of_assignments rfl known fun parts => ?_
  simp only [RoutesModule.runAll, countersAssignments, Assignment.run, bind_assoc, pure_bind]
  rfl

theorem create_pet_binder : createPetContext.bind? createPetFunction = some bindCreatePet := by
  have known : ∀ assignment ∈ createPetAssignments, assignment.Known createPetFields := by
    simp only [createPetAssignments, List.forall_mem_cons]
    exact ⟨rfl, nofun⟩
  refine RoutesModule.EndpointContext.bind_of_assignments rfl known fun parts => ?_
  simp only [RoutesModule.runAll, createPetAssignments, Assignment.run, bind_assoc, pure_bind]
  rfl

theorem get_pet_binder : getPetContext.bind? getPetFunction = some bindGetPet := by
  have known : ∀ assignment ∈ getPetAssignments, assignment.Known getPetFields := by
    simp only [getPetAssignments, List.forall_mem_cons]
    exact ⟨rfl, rfl, rfl, nofun⟩
  refine RoutesModule.EndpointContext.bind_of_assignments rfl known fun parts => ?_
  simp only [RoutesModule.runAll, getPetAssignments, Assignment.run, bind_assoc, pure_bind]
  rfl

/-! ### Dispatch functions -/

variable {request : Request}

theorem dispatch_counters : storeModule.dispatch? handlers [] request
    "dispatch_handlers_ops_counters" = some (answerCounters request) := by
  have handled := EndpointContext.handle_of_bind rfl counters_binder
  rw [RoutesModule.Context.dispatch_eq countersContext countersFunction rfl rfl handled]
  rfl

theorem dispatch_health : storeModule.dispatch? handlers [] request
    "dispatch_handlers_ops_health" = some .noContent := by
  rw [RoutesModule.Context.dispatch_eq healthContext healthFunction rfl rfl rfl]
  rfl

theorem dispatch_list_pets : storeModule.dispatch? handlers [] request
    "dispatch_handlers_pets_list_pets" = some answerListPets := by
  rw [RoutesModule.Context.dispatch_eq listPetsContext listPetsFunction rfl rfl rfl]
  rfl

theorem dispatch_create_pet : storeModule.dispatch? handlers [] request
    "dispatch_handlers_pets_create_pet" = some (answerCreatePet request) := by
  have handled := EndpointContext.handle_of_bind rfl create_pet_binder
  rw [RoutesModule.Context.dispatch_eq createPetContext createPetFunction rfl rfl handled]
  rfl

theorem conclude_get_pet (result : Except PetFault Value) :
    getPetContext.conclude (result.mapError PetFault.respond) = respond result := by
  cases result <;> rfl

theorem dispatch_get_pet (id : String) : storeModule.dispatch? handlers [("id", id)] request
    "dispatch_handlers_pets_get_pet" = some (answerGetPet id request) := by
  have handled : getPetContext.handle? getPetFunction = some fun parts =>
      answer (bindGetPet parts) fun taken => respond ((getPet taken).map Pet.toJson) := by
    simp only [← conclude_get_pet]
    exact EndpointContext.handle_of_bind rfl get_pet_binder
  rw [RoutesModule.Context.dispatch_eq getPetContext getPetFunction rfl rfl handled]
  rfl

/-! ### The router -/

/-- The route of the module, and the parameters of the path. -/
def Route.placed : Route → RoutesModule.Route × List (String × String)
  | .counters => (⟨Text.stringLiteral "/counters", [(.get, "dispatch_handlers_ops_counters")]⟩, [])
  | .health => (⟨Text.stringLiteral "/health", [(.get, "dispatch_handlers_ops_health")]⟩, [])
  | .pets => (⟨Text.stringLiteral "/pets", [(.get, "dispatch_handlers_pets_list_pets"),
      (.post, "dispatch_handlers_pets_create_pet")]⟩, [])
  | .pet id => (⟨Text.stringLiteral "/pets/\x7bid\x7d",
      [(.get, "dispatch_handlers_pets_get_pet")]⟩, [("id", id)])

theorem captured_pet_iff {pieces : List String} {captured : List (String × String)} :
    RoutesModule.captured? ["", "pets", "\x7bid\x7d"] pieces = some captured ↔
      ∃ id, id ≠ "" ∧ pieces = ["", "pets", id] ∧ captured = [("id", id)] := by
  have root : RoutesModule.parameter? "" = none := by decide
  have pets : RoutesModule.parameter? "pets" = none := by decide
  have named : RoutesModule.parameter? "\x7bid\x7d" = some "id" := by decide
  constructor
  · intro found
    rcases pieces with _ | ⟨first, _ | ⟨second, _ | ⟨id, _ | ⟨more, rest⟩⟩⟩⟩ <;>
      simp [RoutesModule.captured?, root, pets, named] at found
    obtain ⟨rfl, rfl, filled, rfl⟩ := found
    exact ⟨id, filled, rfl, rfl⟩
  · rintro ⟨id, filled, rfl, rfl⟩
    simp [RoutesModule.captured?, root, pets, named, filled]

theorem routed (path : String) :
    (storeModule.routes.findSome? fun route => (route.captured? path).map (route, ·)) =
      (Route.ofPath? path).map Route.placed := by
  have counters : Path.pieces "/counters" = ["", "counters"] := by decide
  have health : Path.pieces "/health" = ["", "health"] := by decide
  have pets : Path.pieces "/pets" = ["", "pets"] := by decide
  have pet : Path.pieces "/pets/\x7bid\x7d" = ["", "pets", "\x7bid\x7d"] := by decide
  have own : Route.ofPath? path = Route.ofSegments? (Path.pieces path) := rfl
  simp only [storeModule, List.findSome?, RoutesModule.Route.captured_eq, counters, health, pets,
    pet, own]
  generalize Path.pieces path = pieces
  rw [RoutesModule.captured_static (by decide), RoutesModule.captured_static (by decide),
    RoutesModule.captured_static (by decide)]
  by_cases isCounters : ["", "counters"] = pieces
  · subst isCounters
    rfl
  by_cases isHealth : ["", "health"] = pieces
  · subst isHealth
    rfl
  by_cases isPets : ["", "pets"] = pieces
  · subst isPets
    rfl
  rw [if_neg isCounters, if_neg isHealth, if_neg isPets]
  cases found : RoutesModule.captured? ["", "pets", "\x7bid\x7d"] pieces with
  | some captured =>
      obtain ⟨id, filled, rfl, rfl⟩ := captured_pet_iff.mp found
      simp [Route.ofSegments?, filled, Route.placed]
  | none =>
      have none : Route.ofSegments? pieces = none := by
        unfold Route.ofSegments?
        split
        · exact absurd rfl isHealth
        · exact absurd rfl isCounters
        · exact absurd rfl isPets
        · rename_i id
          have void : id = "" := by
            by_contra filled
            rw [captured_pet_iff.mpr ⟨id, filled, rfl, rfl⟩] at found
            cases found
          rw [void]
          rfl
        · rfl
      rw [none]
      rfl

theorem answered (request : Request) (route : Route) :
    storeModule.answer? handlers request route.placed.1 route.placed.2 =
      some (answerAt request route) := by
  unfold RoutesModule.Context.answer? answerAt
  cases Method.ofName? request.method with
  | none => cases route <;> rfl
  | some method =>
      cases route with
      | counters =>
          cases method with
          | get => exact dispatch_counters
          | head => exact congrArg (Option.map Response.withoutBody) dispatch_counters
          | _ => rfl
      | health =>
          cases method with
          | get => exact dispatch_health
          | head => exact congrArg (Option.map Response.withoutBody) dispatch_health
          | _ => rfl
      | pets =>
          cases method with
          | get => exact dispatch_list_pets
          | head => exact congrArg (Option.map Response.withoutBody) dispatch_list_pets
          | post => exact dispatch_create_pet
          | _ => rfl
      | pet id =>
          cases method with
          | get => exact dispatch_get_pet id
          | head => exact congrArg (Option.map Response.withoutBody) (dispatch_get_pet id)
          | _ => rfl

/-- The service is what the module of the store does with the handlers of the store. -/
theorem serves_module : manifest.validate = .ok () ∧
    ∃ module, RoutesModule.contextOf manifest manifest.canonicalEndpoints
        (.ofEndpoints manifest.canonicalEndpoints) = .ok module ∧
      ∀ request, module.serve? handlers request = some (serve request) := by
  rw [canonical_endpoints_eq]
  refine ⟨manifest_valid, storeModule, store_module_made, fun request => ?_⟩
  rw [RoutesModule.Context.serve?, routed, serve]
  cases Route.ofPath? request.target.path with
  | none => rfl
  | some route => exact answered request route

end ApiCompiler.Petstore

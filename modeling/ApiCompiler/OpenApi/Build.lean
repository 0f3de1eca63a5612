import ApiCompiler.Config.Basic
import ApiCompiler.Json.Printer
import ApiCompiler.Manifest.Order
import ApiCompiler.OpenApi.Json
import ApiCompiler.Schema.Registry

/-!
The document of a manifest, from its endpoints in their order. Schemas are asked for in that order,
the request type of an endpoint before its response type. Operations are grouped by a tag, the first
segment of the path.
-/

set_option autoImplicit false

namespace ApiCompiler.OpenApi

def firstSegment (path : List Char) : List Char :=
  (path.dropWhile (· = '/')).takeWhile (· ≠ '/')

/-- Takes off one pair of braces around the whole text. -/
def withoutBraces (text : List Char) : List Char :=
  match text with
  | '{' :: inner => if inner.getLast? = some '}' then inner.dropLast else text
  | _ => text

/-- The first segment of a path without its braces, or `default` where that is empty. -/
def tagFor (path : String) : String :=
  match withoutBraces (firstSegment path.toList) with
  | [] => "default"
  | name => String.ofList name

/-- The schema of a bound value: of a kind, or an array of it. -/
def boundSchema (binding : FieldBinding) (kind : Kind) : Schema :=
  if binding.isSlice then .array (.primitive kind) else .primitive kind

def parameterOf (manifest : Manifest) (endpoint : Endpoint) (location : Location)
    (binding : FieldBinding) : Except ManifestFault Parameter := do
  let kind ← binding.parseKind
  return {
    name := binding.tag
    location
    description := manifest.requestFieldDoc endpoint binding.field
    required := location == .path || !binding.isPointer
    schema := boundSchema binding kind }

def parametersOf (manifest : Manifest) (endpoint : Endpoint) :
    Except ManifestFault (List Parameter) :=
  match endpoint.activeBindings with
  | none => .ok []
  | some bindings =>
      bindings.located.mapM fun (location, binding) =>
        parameterOf manifest endpoint location binding

def declaredResponse (declaration : StatusDeclaration) : Response :=
  if 400 ≤ declaration.status then .error declaration.description
  else .plain declaration.description

def declaredResponses (manifest : Manifest) (endpoint : Endpoint) : List (UInt16 × Response) :=
  endpoint.middlewares.flatMap fun middleware =>
    match manifest.middlewareMetadata.get? middleware with
    | none => []
    | some metadata =>
        metadata.mayReturn.map fun declaration =>
          (declaration.status, declaredResponse declaration)

/-- Adds a response unless there is one with its status. -/
def addResponse (responses : SortedMap UInt16 Response) (entry : UInt16 × Response) :
    SortedMap UInt16 Response :=
  if responses.contains entry.1 then responses else responses.insert entry.1 entry.2

/-- The built-in responses come first, and no later one replaces an earlier one. -/
def mergeResponses (builtIn declared : List (UInt16 × Response)) : SortedMap UInt16 Response :=
  (builtIn ++ declared).foldl addResponse .empty

/-- The built-in responses besides the one of success. -/
def failureResponses (endpoint : Endpoint) : List (UInt16 × Response) :=
  (if endpoint.requiresBinding then [(400, Response.error "Invalid request")] else [])
    ++ [(500, Response.error "Internal server error")]

/-- The schema of the request type is asked for even when there is no body: what it reaches is part
of the document. -/
def requestBodyOf (manifest : Manifest) (endpoint : Endpoint) :
    SchemaWalk (Option RequestBody) := do
  match endpoint.reqType with
  | none => return none
  | some typeId => do
      let schema ← manifest.schemaFor typeId
      match endpoint.activeBindings with
      | some bindings =>
          if bindings.hasJsonBody then return some ⟨true, jsonContent schema⟩ else return none
      | none => return none

def successResponse (manifest : Manifest) (endpoint : Endpoint) :
    SchemaWalk (UInt16 × Response) := do
  if endpoint.shape.hasResponse then
    match endpoint.respType with
    | some typeId => do
        let schema ← manifest.schemaFor typeId
        return (200, .json "Successful response" schema)
    | none => throw (.noResponseType endpoint.routeLabel endpoint.shape)
  else return (204, .plain "No content")

def operationOf (manifest : Manifest) (endpoint : Endpoint) (operationId : String) :
    SchemaWalk Operation := do
  let doc := manifest.docFor endpoint
  let parameters ← ExceptT.mk (pure (parametersOf manifest endpoint))
  let requestBody ← requestBodyOf manifest endpoint
  let success ← successResponse manifest endpoint
  return {
    operationId
    summary := doc.bind (·.summary)
    description := doc.bind (·.description)
    tags := [tagFor endpoint.path]
    parameters
    requestBody
    responses := mergeResponses (success :: failureResponses endpoint)
      (declaredResponses manifest endpoint) }

/-- Puts an operation into its path's slot, which must be free. -/
def addOperation (paths : SortedMap String PathItem) (endpoint : Endpoint)
    (operation : Operation) : Except ManifestFault (SortedMap String PathItem) :=
  let item := (paths.get? endpoint.path).getD {}
  if (item.slot endpoint.method).isSome then .error (.duplicateRoute endpoint.routeLabel)
  else .ok (paths.insert endpoint.path (item.set operation endpoint.method))

def addEndpoint (manifest : Manifest) (operationIds : List String)
    (paths : SortedMap String PathItem) (entry : Nat × Endpoint) :
    SchemaWalk (SortedMap String PathItem) := do
  match operationIds[entry.1]? with
  | none => throw (.noOperationId entry.2.routeLabel)
  | some operationId => do
      let operation ← operationOf manifest entry.2 operationId
      ExceptT.mk (pure (addOperation paths entry.2 operation))

/-- The document for endpoints whose operation ids are given by position. -/
def documentOf (manifest : Manifest) (config : Config) (endpoints : List Endpoint)
    (context : BuildContext) : Except ManifestFault Document :=
  let walk := (indexed endpoints).foldlM (addEndpoint manifest context.operationIds) .empty
  match walk.run (SchemaRegistry.start context.components) with
  | (.error fault, _) => .error fault
  | (.ok paths, registry) =>
      .ok {
        openapi := Document.formatVersion
        info := ⟨config.openapiTitle, config.openapiVersion, config.openapiDescription⟩
        servers := config.openapiServers
        paths
        schemas := registry.components }

/-- A document's text: indented, with a line break at its end. -/
def Document.render (document : Document) : String := document.toJson.pretty 0 ++ "\n"

end ApiCompiler.OpenApi

import ApiCompiler.Json.Member
import ApiCompiler.Manifest.Resolve
import ApiCompiler.Text.Identifier
import ApiCompiler.Text.Literal

/-!
What the routes module says about one endpoint: its binder, if it binds anything, and its dispatch
function.
-/

set_option autoImplicit false

namespace ApiCompiler

open Json (Value)

namespace RoutesModule

/-- How a bound value is looked up. -/
inductive Helper
  | requiredOne
  | optionalOne
  | requiredMany
  | optionalMany
  deriving DecidableEq, Repr, Inhabited

def Helper.name : Helper → String
  | .requiredOne => "required_one"
  | .optionalOne => "optional_one"
  | .requiredMany => "required_many"
  | .optionalMany => "optional_many"

/-- A path parameter is never optional. -/
def Helper.ofBinding (location : Location) (binding : FieldBinding) : Helper :=
  match binding.isSlice, binding.isPointer && location != .path with
  | false, false => .requiredOne
  | false, true => .optionalOne
  | true, false => .requiredMany
  | true, true => .optionalMany

structure BindingContext where
  field : String
  fieldLiteral : String
  tagLiteral : String
  source : String
  helper : Helper
  parserName : String
  deriving DecidableEq, Repr, Inhabited

def BindingContext.ofBinding (location : Location) (binding : FieldBinding) :
    Except ManifestFault BindingContext := do
  let kind ← binding.parseKind
  return {
    field := Text.sourceIdentifier binding.field
    fieldLiteral := Text.stringLiteral binding.field
    tagLiteral := Text.stringLiteral binding.tag
    source := location.variant
    helper := Helper.ofBinding location binding
    parserName := kind.parserName }

/-- A part of the request that a dispatch function extracts. -/
inductive Extractor
  | path
  | query
  | headers
  | body
  deriving DecidableEq, Repr, Inhabited

namespace Extractor

def fieldName : Extractor → String
  | path => "path"
  | query => "query"
  | headers => "headers"
  | body => "body"

def parameter : Extractor → String
  | path => "Path(path): Path<HashMap<String, String>>"
  | query => "Query(query): Query<Vec<(String, String)>>"
  | headers => "headers: HeaderMap"
  | body => "body: Bytes"

/-- The parts that bindings read from; the body comes last. -/
def ofBindings (bindings : Bindings) : List Extractor :=
  (if bindings.path.isEmpty then [] else [path])
    ++ (if bindings.query.isEmpty then [] else [query])
    ++ (if bindings.header.isEmpty then [] else [headers])
    ++ (if bindings.hasJsonBody then [body] else [])

end Extractor

/-- An endpoint with the names given to it. -/
structure Site where
  endpoint : Endpoint
  operationId : String
  localName : String
  /-- The end of the names of the endpoint's functions. -/
  suffix : String

structure EndpointContext where
  operationId : String
  route : String
  handler : String
  handlerCall : String
  /-- The name of the binder, where anything is bound. -/
  bindFunction : Option String
  dispatchFunction : String
  hasRequest : Bool
  hasResponse : Bool
  /-- A list as response is never written as null. -/
  respIsSlice : Bool
  requestType : Option String
  hasJsonBody : Bool
  bindings : List BindingContext
  extractors : List Extractor
  deriving DecidableEq, Repr, Inhabited

namespace EndpointContext

def bindFunctionOf (endpoint : Endpoint) (suffix : String) :
    Except ManifestFault (Option String) :=
  match endpoint.activeBindings, endpoint.reqType with
  | some _, some _ => .ok (some ("bind_" ++ suffix))
  | some _, none => .error (.bindsWithoutRequestType endpoint.routeLabel)
  | none, _ => .ok none

/-- The bindings that count: none, when nothing is bound. -/
def bindingsOf (endpoint : Endpoint) : Bindings := endpoint.activeBindings.getD Bindings.empty

def ofSite (manifest : Manifest) (site : Site) : Except ManifestFault EndpointContext := do
  let endpoint := site.endpoint
  let bindings ← (bindingsOf endpoint).located.mapM fun (location, binding) =>
    BindingContext.ofBinding location binding
  let bindFunction ← bindFunctionOf endpoint site.suffix
  return {
    operationId := site.operationId
    route := endpoint.routeLabel
    handler := endpoint.handler.qualifiedName
    handlerCall := site.localName ++ "::" ++ Text.sourceIdentifier endpoint.handler.name
    bindFunction
    dispatchFunction := "dispatch_" ++ site.suffix
    hasRequest := endpoint.shape.hasRequest
    hasResponse := endpoint.shape.hasResponse
    respIsSlice := endpoint.shape.hasResponse && endpoint.respType.any manifest.isSlice
    requestType := endpoint.reqType
    hasJsonBody := (bindingsOf endpoint).hasJsonBody
    bindings
    extractors := Extractor.ofBindings (bindingsOf endpoint) }

def needs (context : EndpointContext) (extractor : Extractor) : Bool :=
  context.extractors.contains extractor

def partsComplete (context : EndpointContext) : Bool := context.extractors.length == 4

end EndpointContext

def BindingContext.toJson (context : BindingContext) : Value :=
  .object [("field", .string context.field), ("field_lit", .string context.fieldLiteral),
    ("tag_lit", .string context.tagLiteral), ("source", .string context.source),
    ("helper", .string context.helper.name), ("parser_fn", .string context.parserName)]

def EndpointContext.toJson (context : EndpointContext) : Value :=
  .object [("operation_id", .string context.operationId), ("route", .string context.route),
    ("handler", .string context.handler), ("handler_call", .string context.handlerCall),
    ("bind_fn", .ofOption .string context.bindFunction),
    ("dispatch_fn", .string context.dispatchFunction),
    ("has_request", .bool context.hasRequest), ("has_response", .bool context.hasResponse),
    ("resp_is_slice", .bool context.respIsSlice),
    ("request_type", .ofOption .string context.requestType),
    ("has_json_body", .bool context.hasJsonBody),
    ("bindings", .array (context.bindings.map BindingContext.toJson)),
    ("extractors", Value.strings (context.extractors.map Extractor.parameter)),
    ("parts_fields", Value.strings (context.extractors.map Extractor.fieldName)),
    ("parts_complete", .bool context.partsComplete)]

end RoutesModule

end ApiCompiler

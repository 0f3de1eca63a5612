import ApiCompiler.Manifest.Order
import ApiCompiler.Names.BuildContext
import ApiCompiler.RoutesModule.Endpoint
import ApiCompiler.Template.Library

/-!
The routes module of a list of endpoints: its imports, the parsers and helpers that its binders use,
and its routes.
-/

set_option autoImplicit false

namespace ApiCompiler

open Json (Value)

def generatorName : String := "apigen"

namespace RoutesModule

structure HelperFlags where
  requiredOne : Bool
  optionalOne : Bool
  requiredMany : Bool
  optionalMany : Bool
  deriving DecidableEq, Repr

structure Route where
  pathLiteral : String
  /-- The methods of the path, each with its dispatch function. -/
  chain : List (Method × String)
  deriving DecidableEq, Repr

structure Context where
  imports : List Import
  helpers : HelperFlags
  parsers : List Kind
  endpoints : List EndpointContext
  routes : List Route
  deriving DecidableEq, Repr

/-- The ends of the names of functions, one for each operation id. -/
def suffixes (operationIds : List String) : List String :=
  (NameRegistry.empty.claimAll (operationIds.map Text.toSnakeCase)).1

/-- The operation ids of as many endpoints as there are. -/
def operationIdsFor (context : BuildContext) (count : Nat) : Except Error (List String) :=
  (List.range count).mapM fun index =>
    match context.operationId index with
    | some id => .ok id
    | none => .error (.template (.noOperationId index))

def siteOf (context : BuildContext) (endpoint : Endpoint) (operationId suffix : String) :
    Except Error Site :=
  match context.localNameOf endpoint.handler.package with
  | some localName => .ok ⟨endpoint, operationId, localName, suffix⟩
  | none => .error (.template (.packageNotImported endpoint.handler.package))

def sitesOf (context : BuildContext) (endpoints : List Endpoint) : Except Error (List Site) := do
  let operationIds ← operationIdsFor context endpoints.length
  (endpoints.zip (operationIds.zip (suffixes operationIds))).mapM
    fun (endpoint, operationId, suffix) => siteOf context endpoint operationId suffix

/-- The kinds that the endpoints bind, in the order of all kinds. -/
def usedKinds (endpoints : List Endpoint) : Except ManifestFault (List Kind) := do
  let kinds ← (endpoints.flatMap fun endpoint =>
    (EndpointContext.bindingsOf endpoint).located).mapM fun (_, binding) => binding.parseKind
  return Kind.all.filter kinds.contains

/-- A value that must be there and may be repeated is looked up as one that may be absent. -/
def helperFlags (used : List Helper) : HelperFlags where
  requiredOne := used.contains .requiredOne
  optionalOne := used.contains .optionalOne
  requiredMany := used.contains .requiredMany
  optionalMany := used.contains .optionalMany || used.contains .requiredMany

def routeOf (contexts : List EndpointContext) (group : PathGroup) : Route where
  pathLiteral := Text.stringLiteral group.path
  chain := group.members.map fun (index, endpoint) =>
    (endpoint.method, ((contexts[index]?).map (·.dispatchFunction)).getD "")

def contextOf (manifest : Manifest) (endpoints : List Endpoint) (context : BuildContext) :
    Except Error Context := do
  let sites ← sitesOf context endpoints
  let contexts ← (sites.mapM (EndpointContext.ofSite manifest)).mapError .manifest
  let parsers ← (usedKinds endpoints).mapError .manifest
  return {
    imports := context.imports
    helpers := helperFlags ((contexts.flatMap (·.bindings)).map (·.helper))
    parsers
    endpoints := contexts
    routes := (groupByPath (indexed endpoints)).map (routeOf contexts) }

namespace Context

def needsBinding (context : Context) : Bool :=
  context.endpoints.any fun endpoint => endpoint.bindFunction.isSome

/-- The router functions that open a chain, in the order of their names. -/
def routingFunctions (context : Context) : List String :=
  (SortedMap.ofList ((context.routes.filterMap fun route => route.chain.head?).map
    fun link => (link.1.routerName, ()))).keys

def extractImports (context : Context) : List String :=
  match context.endpoints.any (·.needs .path), context.endpoints.any (·.needs .query) with
  | true, true => ["use axum::extract::\x7bPath, Query\x7d;"]
  | true, false => ["use axum::extract::Path;"]
  | false, true => ["use axum::extract::Query;"]
  | false, false => []

def routingImports (functions : List String) : List String :=
  match functions with
  | [] => []
  | [single] => ["use axum::routing::" ++ single ++ ";"]
  | several => ["use axum::routing::\x7b" ++ ", ".intercalate several ++ "\x7d;"]

def axumImports (context : Context) : List String :=
  (if context.needsBinding then ["use axum::body::Bytes;"] else [])
    ++ context.extractImports
    ++ [if context.needsBinding then "use axum::http::\x7bHeaderMap, StatusCode\x7d;"
        else "use axum::http::StatusCode;"]
    ++ ["use axum::response::\x7bIntoResponse, Response\x7d;"]
    ++ routingImports context.routingFunctions
    ++ ["use axum::\x7bJson, Router\x7d;"]

def importLine (item : Import) : String :=
  if item.needsRename then "use " ++ item.package ++ " as " ++ item.localName ++ ";"
  else "use " ++ item.package ++ ";"

/-- The groups of import lines: standard library, framework, handlers. -/
def importGroups (context : Context) : List (List String) :=
  [if context.needsBinding then ["use std::collections::HashMap;"] else [],
    context.axumImports, context.imports.map importLine]

def importBlock (context : Context) : String :=
  "\n\n".intercalate ((context.importGroups.filter fun group => !group.isEmpty).map
    ("\n".intercalate ·))

end Context

def parserToJson (kind : Kind) : Value :=
  .object [("fn_name", .string kind.parserName), ("rust_type", .string kind.rustType),
    ("family", .string kind.family.name), ("kind", .string kind.name)]

def HelperFlags.toJson (flags : HelperFlags) : Value :=
  .object [("required_one", .bool flags.requiredOne), ("optional_one", .bool flags.optionalOne),
    ("required_many", .bool flags.requiredMany), ("optional_many", .bool flags.optionalMany)]

def linkText (link : Method × String) : String := link.1.routerName ++ "(" ++ link.2 ++ ")"

def Route.chainText (route : Route) : String := ".".intercalate (route.chain.map linkText)

def Route.toJson (route : Route) : Value :=
  .object [("path_lit", .string route.pathLiteral), ("chain", .string route.chainText)]

def Context.toJson (context : Context) : Value :=
  .object [("generator", .string generatorName), ("use_block", .string context.importBlock),
    ("needs_binding", .bool context.needsBinding), ("helpers", context.helpers.toJson),
    ("parsers", .array (context.parsers.map parserToJson)),
    ("endpoints", .array (context.endpoints.map EndpointContext.toJson)),
    ("routes", .array (context.routes.map Route.toJson))]

/-- The text of the module for endpoints with the names of a build. -/
def source (manifest : Manifest) (endpoints : List Endpoint) (context : BuildContext) :
    Except Error String := do
  let module ← contextOf manifest endpoints context
  Template.fill Template.routesName module.toJson

end RoutesModule

end ApiCompiler

import ApiCompiler.Kind
import ApiCompiler.SortedMap

/-!
The manifest: a description of an API, found by an analyzer in the source of its handlers. Types
are referred to by type-ids, which are strings.
-/

set_option autoImplicit false

namespace ApiCompiler

inductive Method
  | get
  | post
  | put
  | patch
  | delete
  | head
  | options
  deriving DecidableEq, Repr, Inhabited

namespace Method

def all : List Method := [.get, .post, .put, .patch, .delete, .head, .options]

def name : Method → String
  | get => "GET"
  | post => "POST"
  | put => "PUT"
  | patch => "PATCH"
  | delete => "DELETE"
  | head => "HEAD"
  | options => "OPTIONS"

def routerName : Method → String
  | get => "get"
  | post => "post"
  | put => "put"
  | patch => "patch"
  | delete => "delete"
  | head => "head"
  | options => "options"

def ofName? (name : String) : Option Method := all.find? fun method => method.name == name

end Method

structure Handler where
  package : String
  name : String
  deriving DecidableEq, Repr, Inhabited

def Handler.qualifiedName (handler : Handler) : String := handler.package ++ "::" ++ handler.name

/-- Whether a handler takes a request value and whether it gives a response body. -/
inductive Shape
  | noReqNoResp
  | reqNoResp
  | noReqResp
  | reqResp
  deriving DecidableEq, Repr, Inhabited

namespace Shape

def all : List Shape := [.noReqNoResp, .reqNoResp, .noReqResp, .reqResp]

def hasRequest : Shape → Bool
  | reqNoResp | reqResp => true
  | noReqNoResp | noReqResp => false

def hasResponse : Shape → Bool
  | noReqResp | reqResp => true
  | noReqNoResp | reqNoResp => false

def name : Shape → String
  | noReqNoResp => "NoReqNoResp"
  | reqNoResp => "ReqNoResp"
  | noReqResp => "NoReqResp"
  | reqResp => "ReqResp"

def ofName? (name : String) : Option Shape := all.find? fun shape => shape.name == name

end Shape

/-- The part of a request that a field is bound from. -/
inductive Location
  | path
  | query
  | header
  deriving DecidableEq, Repr, Inhabited

namespace Location

def all : List Location := [.path, .query, .header]

def name : Location → String
  | path => "path"
  | query => "query"
  | header => "header"

/-- The variant of the generated module's source type. -/
def variant : Location → String
  | path => "Path"
  | query => "Query"
  | header => "Header"

def ofName? (name : String) : Option Location := all.find? fun location => location.name == name

end Location

/-- Binds one field of the request to a path parameter, query key or header: the tag. -/
structure FieldBinding where
  field : String
  tag : String
  kind : String
  /-- Absence leaves the field unset. -/
  isPointer : Bool
  /-- Every occurrence is read. -/
  isSlice : Bool
  elemKind : Option String
  deriving DecidableEq, Repr, Inhabited

structure Bindings where
  hasJsonBody : Bool
  path : List FieldBinding
  query : List FieldBinding
  header : List FieldBinding
  deriving DecidableEq, Repr, Inhabited

namespace Bindings

def empty : Bindings := ⟨false, [], [], []⟩

def isEmpty (bindings : Bindings) : Bool :=
  !bindings.hasJsonBody && bindings.path.isEmpty && bindings.query.isEmpty
    && bindings.header.isEmpty

/-- All field bindings with their locations: path, then query, then header. -/
def located (bindings : Bindings) : List (Location × FieldBinding) :=
  bindings.path.map (Location.path, ·) ++ bindings.query.map (Location.query, ·)
    ++ bindings.header.map (Location.header, ·)

end Bindings

structure Endpoint where
  method : Method
  path : String
  handler : Handler
  shape : Shape
  reqType : Option String
  respType : Option String
  bindings : Option Bindings
  /-- Qualified names, outermost first. -/
  middlewares : List String
  deriving DecidableEq, Repr, Inhabited

namespace Endpoint

/-- The bindings, if they bind anything. -/
def activeBindings (endpoint : Endpoint) : Option Bindings :=
  endpoint.bindings.filter fun bindings => !bindings.isEmpty

def requiresBinding (endpoint : Endpoint) : Bool := endpoint.activeBindings.isSome

def routeLabel (endpoint : Endpoint) : String := endpoint.method.name ++ " " ++ endpoint.path

end Endpoint

inductive TypeForm
  | struct
  | slice
  deriving DecidableEq, Repr, Inhabited

namespace TypeForm

def all : List TypeForm := [.struct, .slice]

def name : TypeForm → String
  | struct => "struct"
  | slice => "slice"

def ofName? (name : String) : Option TypeForm := all.find? fun form => form.name == name

end TypeForm

structure Field where
  name : String
  /-- The name in a JSON body; an empty one means that the field is not part of it. -/
  jsonName : String
  typeId : String
  required : Bool
  doc : Option String
  deriving DecidableEq, Repr, Inhabited

def Field.inBody (field : Field) : Bool := !field.jsonName.isEmpty

structure TypeEntry where
  /-- The type's own id; empty, or else the key it is stored under. -/
  id : String
  form : TypeForm
  fields : List Field
  elem : Option String
  doc : Option String
  deriving DecidableEq, Repr, Inhabited

structure Doc where
  summary : Option String
  description : Option String
  deriving DecidableEq, Repr, Inhabited

structure StatusDeclaration where
  status : UInt16
  description : String
  deriving DecidableEq, Repr, Inhabited

/-- What a middleware may answer in place of the handler. -/
structure MiddlewareMetadata where
  mayReturn : List StatusDeclaration
  deriving DecidableEq, Repr, Inhabited

structure Manifest where
  version : UInt32
  endpoints : List Endpoint
  types : SortedMap String TypeEntry
  /-- By the qualified name of the handler. -/
  endpointDocs : SortedMap String Doc
  /-- By the qualified name of the middleware. -/
  middlewareMetadata : SortedMap String MiddlewareMetadata

namespace Manifest

/-- The only version of the format. -/
def currentVersion : UInt32 := 1

def empty : Manifest := ⟨currentVersion, [], .empty, .empty, .empty⟩

instance : Inhabited Manifest := ⟨empty⟩

end Manifest

end ApiCompiler

import ApiCompiler.Manifest.Basic
import ApiCompiler.Schema.Basic

/-!
OpenAPI documents.
-/

set_option autoImplicit false

namespace ApiCompiler

namespace OpenApi

structure Info where
  title : String
  version : String
  description : Option String
  deriving DecidableEq, Repr, Inhabited

structure Parameter where
  name : String
  location : Location
  description : Option String
  required : Bool
  schema : Schema
  deriving Repr, Inhabited

/-- Schemas by media type. -/
abbrev Content := SortedMap String Schema

structure RequestBody where
  required : Bool
  content : Content
  deriving Inhabited

structure Response where
  description : String
  content : Option Content
  deriving Inhabited

structure Operation where
  operationId : String
  summary : Option String
  description : Option String
  tags : List String
  parameters : List Parameter
  requestBody : Option RequestBody
  responses : SortedMap UInt16 Response
  deriving Inhabited

structure PathItem where
  get : Option Operation := none
  put : Option Operation := none
  post : Option Operation := none
  delete : Option Operation := none
  options : Option Operation := none
  head : Option Operation := none
  patch : Option Operation := none
  deriving Inhabited

namespace PathItem

def slot (item : PathItem) : Method → Option Operation
  | .get => item.get
  | .put => item.put
  | .post => item.post
  | .delete => item.delete
  | .options => item.options
  | .head => item.head
  | .patch => item.patch

def set (item : PathItem) (operation : Operation) : Method → PathItem
  | .get => { item with get := some operation }
  | .put => { item with put := some operation }
  | .post => { item with post := some operation }
  | .delete => { item with delete := some operation }
  | .options => { item with options := some operation }
  | .head => { item with head := some operation }
  | .patch => { item with patch := some operation }

/-- The order in which the operations of a path are written. -/
def methods : List Method := [.get, .put, .post, .delete, .options, .head, .patch]

def operations (item : PathItem) : List (Method × Operation) :=
  methods.filterMap fun method => (item.slot method).map (method, ·)

end PathItem

structure Document where
  openapi : String
  info : Info
  servers : List String
  paths : SortedMap String PathItem
  schemas : SortedMap String Schema
  deriving Inhabited

namespace Document

/-- The version of the format. -/
def formatVersion : String := "3.0.3"

def operationCount (document : Document) : Nat :=
  (document.paths.entries.map fun entry => entry.2.operations.length).foldr (· + ·) 0

end Document

def jsonMediaType : String := "application/json"

def jsonContent (schema : Schema) : Content := .singleton jsonMediaType schema

namespace Response

def plain (description : String) : Response := ⟨description, none⟩

def json (description : String) (schema : Schema) : Response :=
  ⟨description, some (jsonContent schema)⟩

def error (description : String) : Response :=
  json description (.component Schema.errorResponseName)

end Response

end OpenApi

end ApiCompiler

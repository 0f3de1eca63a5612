import ApiCompiler.Manifest.Basic
import ApiCompiler.Names.Registry
import ApiCompiler.Text.Identifier
import ApiCompiler.Text.Letter
import ApiCompiler.Text.Qualified

/-!
The names of one build: the local names of handler packages, the ids of operations, and the names
of schema components. All are given out in the order in which they are asked for.
-/

set_option autoImplicit false

namespace ApiCompiler

/-- A handler package and its local name in the generated module. -/
structure Import where
  package : String
  localName : String
  deriving DecidableEq, Repr, Inhabited

/-- Whether the local name has to be stated. -/
def Import.needsRename (item : Import) : Bool := Text.lastSegment item.package != item.localName

def reservedLocalNames : List String :=
  ["axum", "core", "crate", "self", "serde_json", "std", "super"]

def defaultLocalName (package : String) : String :=
  Text.sanitizeIdentifier (Text.toSnakeCase (Text.lastSegment package)) "handlers"

/-- The qualified name of the handler in one word; leading `crate` segments do not count. -/
def operationIdBase (handler : Handler) : String :=
  let segments := (Text.qualifiedSegments handler.qualifiedName).dropWhile (· == "crate")
  let id := Text.toLowerCamelCase (Text.sanitizeIdentifier ("_".intercalate segments) "op")
  if id.isEmpty then "operation" else id

/-- The last segments of a generic type's arguments. -/
def genericArguments (tail : List Char) : List String :=
  let inner := ((tail.dropWhile (· = '<')).reverse.dropWhile (· = '>')).reverse
  (Text.pieces (· = ',') inner).map fun argument =>
    Text.lastSegment (String.ofList (Text.trim argument))

/-- A type-id without the packages of the type and of its arguments. -/
def componentBase (typeId : String) : String :=
  let head := typeId.toList.takeWhile (· ≠ '<')
  let tail := typeId.toList.dropWhile (· ≠ '<')
  let outer :=
    if tail.isEmpty then Text.lastSegment typeId
    else Text.lastSegment (String.ofList head) ++ "_" ++ "_".intercalate (genericArguments tail)
  Text.sanitizeIdentifier outer "Type"

structure ComponentNames where
  assigned : List (String × String)
  registry : NameRegistry
  deriving Inhabited

namespace ComponentNames

def empty : ComponentNames := ⟨[], .empty⟩

def lookup (names : ComponentNames) (typeId : String) : Option String :=
  names.assigned.lookup typeId

def reserve (names : ComponentNames) (name : String) : ComponentNames :=
  { names with registry := names.registry.reserve name }

/-- The name of a type, which is given out when it is first asked for. -/
def nameOf (names : ComponentNames) (typeId : String) : String × ComponentNames :=
  match names.lookup typeId with
  | some name => (name, names)
  | none =>
      let (name, registry) := names.registry.claim (componentBase typeId)
      (name, ⟨(typeId, name) :: names.assigned, registry⟩)

end ComponentNames

structure BuildContext where
  /-- In the order in which the packages first occur. -/
  imports : List Import
  operationIds : List String
  components : ComponentNames
  deriving Inhabited

namespace BuildContext

def addImport (state : List Import × NameRegistry) (package : String) :
    List Import × NameRegistry :=
  if state.1.any fun item => item.package == package then state
  else
    let (localName, registry) := state.2.claim (defaultLocalName package)
    (state.1 ++ [⟨package, localName⟩], registry)

def localNameRegistry : NameRegistry := reservedLocalNames.foldl NameRegistry.reserve .empty

def importsOf (packages : List String) : List Import :=
  (packages.foldl addImport ([], localNameRegistry)).1

/-- The names for endpoints in their order. -/
def ofEndpoints (endpoints : List Endpoint) : BuildContext where
  imports := importsOf (endpoints.map (·.handler.package))
  operationIds :=
    (NameRegistry.empty.claimAll (endpoints.map fun endpoint => operationIdBase endpoint.handler)).1
  components := .empty

def localNameOf (context : BuildContext) (package : String) : Option String :=
  (context.imports.find? fun item => item.package == package).map (·.localName)

def operationId (context : BuildContext) (index : Nat) : Option String :=
  context.operationIds[index]?

end BuildContext

end ApiCompiler

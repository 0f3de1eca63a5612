import ApiCompiler.Manifest.Resolve
import ApiCompiler.Names.BuildContext
import ApiCompiler.Schema.Basic

/-!
The components of a document: the schemas of all structs reached from the type-ids that are asked
for. A struct gets its name before its fields are walked, and its fields are walked once. What was
registered before a fault stays registered.
-/

set_option autoImplicit false

namespace ApiCompiler

structure SchemaRegistry where
  names : ComponentNames
  components : SortedMap String Schema
  /-- The structs whose fields have been walked, or are being walked. -/
  rendered : List String
  deriving Inhabited

namespace SchemaRegistry

/-- Holds the error envelope only, whose name no type can take. -/
def start (names : ComponentNames) : SchemaRegistry :=
  ⟨names.reserve Schema.errorResponseName,
    .singleton Schema.errorResponseName Schema.errorResponse, []⟩

end SchemaRegistry

/-- A walk that may fail, and keeps the registry when it does. -/
abbrev SchemaWalk (α : Type) := ExceptT ManifestFault (StateM SchemaRegistry) α

namespace SchemaWalk

def nameOf (typeId : String) : SchemaWalk String :=
  modifyGet fun registry =>
    let (name, names) := registry.names.nameOf typeId
    (name, { registry with names })

/-- Whether a struct is met for the first time; from now on it is not. -/
def enter (typeId : String) : SchemaWalk Bool :=
  modifyGet fun registry =>
    if registry.rendered.contains typeId then (false, registry)
    else (true, { registry with rendered := typeId :: registry.rendered })

def register (name : String) (schema : Schema) : SchemaWalk Unit :=
  modify fun registry =>
    { registry with components := registry.components.insert name schema }

end SchemaWalk

namespace Manifest

/-- The schema of an object from the schemas of its fields; a field without a JSON name is not part
of the body. -/
def objectSchema (schemaOf : String → SchemaWalk Schema) (entry : TypeEntry) :
    SchemaWalk Schema := do
  let object ← (entry.fields.filter Field.inBody).foldlM (fun object field => do
    let schema ← schemaOf field.typeId
    return object.withProperty field.jsonName (schema.withDescription field.doc) field.required)
    Schema.object
  return object.withDescription entry.doc

def schemaAt (manifest : Manifest) : (depth : Nat) → (typeId : String) → SchemaWalk Schema
  | 0, typeId => throw (.cycle [typeId])
  | depth + 1, typeId => do
      match manifest.resolve typeId with
      | .error fault => throw fault
      | .ok (.primitive kind) => return Schema.primitive kind
      | .ok (.slice elem) => do
          let items ← manifest.schemaAt depth elem
          let doc := (manifest.types.get? typeId).bind (·.doc)
          return (Schema.array items).withDescription doc
      | .ok (.struct id entry) => do
          let name ← SchemaWalk.nameOf id
          if ← SchemaWalk.enter id then
            let object ← objectSchema (manifest.schemaAt depth) entry
            SchemaWalk.register name object
          return Schema.component name

/-- At least the depth of a walk: between two structs, each of which is entered once, lies a chain
of slices without a repetition. -/
def walkBound (manifest : Manifest) (typeId : String) : Nat :=
  (manifest.types.entries.length + 1) * (manifest.reachBound typeId + 2)

/-- The schema of one use of a type; every struct it reaches is registered. -/
def schemaFor (manifest : Manifest) (typeId : String) : SchemaWalk Schema :=
  manifest.schemaAt (manifest.walkBound typeId) typeId

end Manifest

end ApiCompiler

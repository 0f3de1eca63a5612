import ApiCompiler.Manifest.Fault

/-!
What a type-id refers to: an entry of the manifest, else a primitive kind, else a slice written
with leading brackets. Also how many type-ids there can be, the look-ups of documentation, and the
kind of a binding.
-/

set_option autoImplicit false

namespace ApiCompiler

inductive TypeRef
  | primitive (kind : Kind)
  | struct (id : String) (entry : TypeEntry)
  | slice (elem : String)
  deriving DecidableEq, Repr

/-- The element of a type-id that is written as a slice. -/
def sliceElement? (typeId : String) : Option String :=
  match typeId.toList with
  | '[' :: ']' :: elem => some (String.ofList elem)
  | _ => none

namespace Manifest

def resolve (manifest : Manifest) (typeId : String) : Except ManifestFault TypeRef :=
  match manifest.types.get? typeId with
  | some entry =>
      match entry.form with
      | .struct => .ok (.struct typeId entry)
      | .slice =>
          match entry.elem with
          | some elem => .ok (.slice elem)
          | none => .error (.sliceWithoutElem typeId)
  | none =>
      match Kind.ofName? typeId with
      | some kind => .ok (.primitive kind)
      | none =>
          match sliceElement? typeId with
          | some elem => .ok (.slice elem)
          | none => .error (.danglingType typeId)

def isSlice (manifest : Manifest) (typeId : String) : Bool :=
  match manifest.resolve typeId with
  | .ok (.slice _) => true
  | _ => false

def mentionedIds (manifest : Manifest) : List String :=
  manifest.types.entries.flatMap fun (key, entry) =>
    key :: entry.elem.toList ++ entry.fields.map (·.typeId)

/-- At least the number of different type-ids that can be reached from one: each mentioned id, with
leading brackets taken off any number of times. -/
def reachBound (manifest : Manifest) (start : String) : Nat :=
  ((start :: manifest.mentionedIds).map fun id => id.length + 1).foldr (· + ·) 0

def docFor (manifest : Manifest) (endpoint : Endpoint) : Option Doc :=
  manifest.endpointDocs.get? endpoint.handler.qualifiedName

/-- The documentation of a field of the endpoint's request type, by the name in the source. -/
def requestFieldDoc (manifest : Manifest) (endpoint : Endpoint) (field : String) :
    Option String := do
  let typeId ← endpoint.reqType
  let entry ← manifest.types.get? typeId
  let found ← entry.fields.find? fun candidate => candidate.name == field
  found.doc

end Manifest

/-- The kind each raw value is read as; for a slice, the kind of its elements. -/
def FieldBinding.parseKind (binding : FieldBinding) : Except ManifestFault Kind :=
  let ofName := fun name =>
    match Kind.ofName? name with
    | some kind => .ok kind
    | none => .error (.unknownKind binding.field binding.tag name)
  if binding.isSlice then
    match binding.elemKind with
    | some name => ofName name
    | none => .error (.noElementKind binding.field binding.tag)
  else ofName binding.kind

end ApiCompiler

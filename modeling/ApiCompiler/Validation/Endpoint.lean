import ApiCompiler.Manifest.PathTemplate
import ApiCompiler.Validation.TypeGraph

/-!
The rules for one endpoint, in the order in which they are checked.
-/

set_option autoImplicit false

namespace ApiCompiler

def Validation.require (condition : Bool) (fault : ManifestFault) : Except ManifestFault Unit :=
  if condition then .ok () else .error fault

/-- The first member of a list that also stands before itself. -/
def firstRepeated : (seen : List String) → List String → Option String
  | _, [] => none
  | seen, item :: rest =>
      if seen.contains item then some item else firstRepeated (item :: seen) rest

/-- What makes two tags of one location the same. Header names do not depend on case. -/
def FieldBinding.tagKey (location : Location) (binding : FieldBinding) : String :=
  match location with
  | .header => String.ofList (binding.tag.toList.map Char.toLower)
  | _ => binding.tag

namespace Validation

def checkShape (endpoint : Endpoint) : Except ManifestFault Unit := do
  match endpoint.shape.hasRequest, endpoint.reqType with
  | true, none => .error (.requestTypeMissing endpoint.shape)
  | false, some _ => .error (.requestTypeUnwanted endpoint.shape)
  | _, _ => .ok ()
  match endpoint.shape.hasResponse, endpoint.respType with
  | true, none => .error (.responseTypeMissing endpoint.shape)
  | false, some _ => .error (.responseTypeUnwanted endpoint.shape)
  | _, _ => .ok ()
  require (!(endpoint.bindings.isSome && endpoint.reqType.isNone)) .bindingsWithoutRequest

def checkBinding (parameters : List String) (seen : List (Location × String))
    (location : Location) (binding : FieldBinding) : Except ManifestFault Unit := do
  require (!binding.field.isEmpty && !binding.tag.isEmpty) (.incompleteBinding location)
  let _ ← binding.parseKind
  require (!(location == .path && binding.isSlice)) (.sliceInPath binding.tag)
  require (!(location == .path && binding.isPointer)) (.optionalInPath binding.tag)
  require (!seen.contains (location, binding.tagKey location)) (.duplicateTag location binding.tag)
  require (!(location == .path && !parameters.contains binding.tag)) (.strayPathBinding binding.tag)

def checkBindings (parameters : List String) :
    (seen : List (Location × String)) → List (Location × FieldBinding) → Except ManifestFault Unit
  | _, [] => .ok ()
  | seen, (location, binding) :: rest => do
      checkBinding parameters seen location binding
      checkBindings parameters ((location, binding.tagKey location) :: seen) rest

def checkBound (parameters bound : List String) : Except ManifestFault Unit :=
  match parameters.find? fun parameter => !bound.contains parameter with
  | some parameter => .error (.unboundParameter parameter)
  | none => .ok ()

/-- Whatever is bound is bound to the fields of a struct. -/
def checkRequestStruct (manifest : Manifest) (endpoint : Endpoint) (bindings : Bindings) :
    Except ManifestFault Unit :=
  match bindings.isEmpty, endpoint.reqType with
  | false, some typeId => do
      match ← manifest.resolve typeId with
      | .struct _ _ => .ok ()
      | _ => .error (.requestNotStruct bindings.hasJsonBody typeId)
  | _, _ => .ok ()

def checkEndpoint (manifest : Manifest) (endpoint : Endpoint) : Except ManifestFault Unit := do
  require (!endpoint.handler.package.isEmpty && !endpoint.handler.name.isEmpty) .handlerUnset
  require (endpoint.path.toList.head? == some '/') .pathNotRooted
  PathTemplate.check endpoint.path
  checkShape endpoint
  manifest.searchAll (endpoint.reqType.toList ++ endpoint.respType.toList)
  let parameters := PathTemplate.parameters endpoint.path
  match firstRepeated [] parameters with
  | some parameter => .error (.repeatedParameter parameter)
  | none => .ok ()
  match endpoint.bindings with
  | none => checkBound parameters []
  | some bindings => do
      checkBindings parameters [] bindings.located
      checkBound parameters (bindings.path.map (·.tag))
      checkRequestStruct manifest endpoint bindings

end Validation

end ApiCompiler

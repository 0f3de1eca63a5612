import ApiCompiler.Manifest.Basic

/-!
Everything that can be wrong with a manifest, and how it is told.
-/

set_option autoImplicit false

namespace ApiCompiler

inductive ManifestFault
  | unsupportedVersion (version : UInt32)
  | misplacedType (key id : String)
  | sliceWithoutElem (id : String)
  | danglingType (id : String)
  | unnamedField (type : String)
  | repeatedJsonName (type jsonName : String)
  | cycle (chain : List String)
  | statusOutOfRange (middleware : String) (status : UInt16)
  | duplicateRoute (label : String)
  | handlerUnset
  | pathNotRooted
  | unbalancedBraces (path : String)
  | unnamedParameter (path : String)
  | requestTypeMissing (shape : Shape)
  | requestTypeUnwanted (shape : Shape)
  | responseTypeMissing (shape : Shape)
  | responseTypeUnwanted (shape : Shape)
  | bindingsWithoutRequest
  | repeatedParameter (name : String)
  | unboundParameter (name : String)
  | incompleteBinding (location : Location)
  | noElementKind (field tag : String)
  | unknownKind (field tag kind : String)
  | sliceInPath (tag : String)
  | optionalInPath (tag : String)
  | duplicateTag (location : Location) (tag : String)
  | strayPathBinding (tag : String)
  | requestNotStruct (hasJsonBody : Bool) (typeId : String)
  | noOperationId (label : String)
  | noResponseType (label : String) (shape : Shape)
  | bindsWithoutRequestType (label : String)
  | inType (id : String) (fault : ManifestFault)
  | inField (field type : String) (fault : ManifestFault)
  | inEndpoint (label : String) (fault : ManifestFault)
  deriving DecidableEq, Repr

namespace ManifestFault

def quoted (name : String) : String := "'" ++ name ++ "'"

def bindingLabel (field tag : String) : String :=
  "binding " ++ quoted field ++ " (tag " ++ quoted tag ++ ")"

def message : ManifestFault → String
  | unsupportedVersion version =>
      "unsupported manifest version " ++ toString version.toNat ++ " (expected "
        ++ toString Manifest.currentVersion.toNat ++ ")"
  | misplacedType key id => "type stored under " ++ quoted key ++ " declares id " ++ quoted id
  | sliceWithoutElem id => "slice type " ++ quoted id ++ " has no elem"
  | danglingType id => "dangling type reference " ++ quoted id
  | unnamedField type => "type " ++ quoted type ++ " has a field without a name"
  | repeatedJsonName type jsonName =>
      "type " ++ quoted type ++ " declares JSON name " ++ quoted jsonName ++ " twice"
  | cycle chain => "type references form a cycle: " ++ " -> ".intercalate chain
  | statusOutOfRange middleware status =>
      "middleware " ++ quoted middleware ++ " declares status " ++ toString status.toNat
        ++ " outside 100..=599"
  | duplicateRoute label => "duplicate route " ++ label
  | handlerUnset => "handler package and name must be set"
  | pathNotRooted => "path must start with '/'"
  | unbalancedBraces path => "path template " ++ quoted path ++ " has unbalanced braces"
  | unnamedParameter path => "path template " ++ quoted path ++ " has an unnamed parameter"
  | requestTypeMissing shape => "shape " ++ shape.name ++ " requires reqType"
  | requestTypeUnwanted shape => "shape " ++ shape.name ++ " takes no reqType"
  | responseTypeMissing shape => "shape " ++ shape.name ++ " requires respType"
  | responseTypeUnwanted shape => "shape " ++ shape.name ++ " takes no respType"
  | bindingsWithoutRequest => "bindings present without reqType"
  | repeatedParameter name => "path parameter " ++ quoted name ++ " appears twice"
  | unboundParameter name => "path parameter " ++ quoted name ++ " has no path binding"
  | incompleteBinding location => location.name ++ " binding needs both a field and a tag"
  | noElementKind field tag => "slice " ++ bindingLabel field tag ++ " has no element kind"
  | unknownKind field tag kind => bindingLabel field tag ++ ": " ++ Kind.unknownMessage kind
  | sliceInPath tag => "path binding " ++ quoted tag ++ " cannot be a slice"
  | optionalInPath tag => "path binding " ++ quoted tag ++ " cannot be optional"
  | duplicateTag location tag => "duplicate " ++ location.name ++ " tag " ++ quoted tag
  | strayPathBinding tag =>
      "path binding " ++ quoted tag ++ " does not appear in the path template"
  | requestNotStruct hasJsonBody typeId =>
      (if hasJsonBody then "JSON body" else "field bindings")
        ++ " requires a struct request type, " ++ quoted typeId ++ " is not one"
  | noOperationId label => "no operation id for endpoint " ++ label
  | noResponseType label shape =>
      "endpoint " ++ label ++ " has shape " ++ shape.name ++ " without respType"
  | bindsWithoutRequestType label =>
      "endpoint " ++ label ++ " binds fields without a request type"
  | inType id fault => "type " ++ quoted id ++ ": " ++ fault.message
  | inField field type fault =>
      "field " ++ quoted field ++ " of type " ++ quoted type ++ ": " ++ fault.message
  | inEndpoint label fault => "endpoint " ++ label ++ ": " ++ fault.message

end ManifestFault

end ApiCompiler

import ApiCompiler.Manifest.Order
import ApiCompiler.Validation.Endpoint

/-!
Whether a manifest is consistent. The first fault is reported; endpoints are checked in canonical
order.
-/

set_option autoImplicit false

namespace ApiCompiler

namespace Validation

def checkFields (manifest : Manifest) (id : String) :
    (seen : List String) → List Field → Except ManifestFault Unit
  | _, [] => .ok ()
  | seen, field :: rest => do
      require (!field.name.isEmpty) (.unnamedField id)
      require (!(field.inBody && seen.contains field.jsonName))
        (.repeatedJsonName id field.jsonName)
      let _ ← (manifest.resolve field.typeId).mapError (.inField field.name id)
      checkFields manifest id (if field.inBody then field.jsonName :: seen else seen) rest

def checkEntry (manifest : Manifest) (key : String) (entry : TypeEntry) :
    Except ManifestFault Unit := do
  require (entry.id.isEmpty || entry.id == key) (.misplacedType key entry.id)
  match entry.form with
  | .slice =>
      match entry.elem with
      | none => .error (.sliceWithoutElem key)
      | some elem => do
          let _ ← (manifest.resolve elem).mapError (.inType key)
          .ok ()
  | .struct => checkFields manifest key [] entry.fields

def checkTypes (manifest : Manifest) : Except ManifestFault Unit := do
  manifest.types.entries.forM fun (key, entry) => checkEntry manifest key entry
  manifest.searchAll manifest.types.keys

def statusInRange (status : UInt16) : Bool := decide (100 ≤ status) && decide (status ≤ 599)

def checkMiddlewares (manifest : Manifest) : Except ManifestFault Unit :=
  manifest.middlewareMetadata.entries.forM fun (name, metadata) =>
    metadata.mayReturn.forM fun declaration =>
      require (statusInRange declaration.status) (.statusOutOfRange name declaration.status)

/-- Checks endpoints one after the other; the routes before them are given. -/
def checkEndpoints (manifest : Manifest) :
    (routes : List (Method × String)) → List Endpoint → Except ManifestFault Unit
  | _, [] => .ok ()
  | routes, endpoint :: rest => do
      (checkEndpoint manifest endpoint).mapError (.inEndpoint endpoint.routeLabel)
      require (!routes.contains (endpoint.method, endpoint.path))
        (.duplicateRoute endpoint.routeLabel)
      checkEndpoints manifest ((endpoint.method, endpoint.path) :: routes) rest

end Validation

def Manifest.validate (manifest : Manifest) : Except ManifestFault Unit := do
  Validation.require (manifest.version == currentVersion) (.unsupportedVersion manifest.version)
  Validation.checkTypes manifest
  Validation.checkMiddlewares manifest
  Validation.checkEndpoints manifest [] manifest.canonicalEndpoints

end ApiCompiler

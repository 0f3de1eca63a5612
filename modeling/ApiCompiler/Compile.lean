import ApiCompiler.Config.Validated
import ApiCompiler.Docs.Bundle
import ApiCompiler.OpenApi.Build
import ApiCompiler.Validation.Manifest

/-!
Compiling a manifest: the routes module, the document and the documentation viewer. Either all of
them are made, or one error tells why not; the configuration is checked before the manifest.
-/

set_option autoImplicit false

namespace ApiCompiler

structure Artifacts where
  source : String
  openapi : Option String
  docs : Option (List BundleFile)
  deriving DecidableEq, Repr, Inhabited

namespace Artifacts

def documentText (manifest : Manifest) (config : Config) (endpoints : List Endpoint)
    (context : BuildContext) : Except Error (Option String) :=
  if config.openapiEnabled then
    match OpenApi.documentOf manifest config endpoints context with
    | .ok document => .ok (some document.render)
    | .error fault => .error (.manifest fault)
  else .ok none

/-- What a checked manifest and a checked configuration make. -/
def build (manifest : Manifest) (config : Config) : Except Error Artifacts := do
  let endpoints := manifest.canonicalEndpoints
  let context := BuildContext.ofEndpoints endpoints
  let source ← RoutesModule.source manifest endpoints context
  let openapi ← documentText manifest config endpoints context
  let docs ← Docs.bundle config
  return ⟨source, openapi, docs⟩

end Artifacts

def compile (manifest : Manifest) (config : Config) : Except Error Artifacts := do
  let config ← config.validated.mapError .config
  manifest.validate.mapError .manifest
  Artifacts.build manifest config

end ApiCompiler

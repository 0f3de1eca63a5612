/-!
The options of a compilation.
-/

set_option autoImplicit false

namespace ApiCompiler

structure Config where
  openapiEnabled : Bool := false
  openapiTitle : String := "API"
  openapiVersion : String := "1.0.0"
  openapiDescription : Option String := none
  /-- The name of the document's file. -/
  openapiOutput : String := "openapi.json"
  openapiServers : List String := []
  /-- The route at which the document is served. -/
  openapiJsonPath : Option String := none
  docsUiEnabled : Bool := false
  /-- The route at which the viewer is served. -/
  docsPath : String := "/docs"
  deriving DecidableEq, Repr, Inhabited

/-- The document's route where the viewer needs one and none is set. -/
def Config.defaultJsonPath : String := "/openapi.json"

end ApiCompiler

import ApiCompiler.Config.Basic
import ApiCompiler.Error
import ApiCompiler.Url.Check

/-!
Checking a configuration, and settling what its options imply.
-/

set_option autoImplicit false

namespace ApiCompiler.Config

/-- The viewer needs the document, and a route for it. -/
def withImplied (config : Config) : Config :=
  if config.docsUiEnabled then
    { config with
      openapiEnabled := true
      openapiJsonPath := some (config.openapiJsonPath.getD defaultJsonPath) }
  else config

def isRooted (path : String) : Bool := path.toList.head? = some '/'

def trimSlashes (path : String) : String :=
  String.ofList (path.toList.reverse.dropWhile (· = '/')).reverse

/-- The route of the viewer, without slashes at its end. -/
def checkDocsPath (path : String) : Except ConfigFault String :=
  if !isRooted path then .error (.docsPathNotRooted path)
  else if (trimSlashes path).isEmpty then .error .docsPathIsRoot
  else .ok (trimSlashes path)

def checkJsonPath (config : Config) (path : String) : Except ConfigFault Unit :=
  if !isRooted path then .error (.jsonPathNotRooted path)
  else if path.toList.getLast? = some '/' then .error (.jsonPathEndsWithSlash path)
  else if config.docsUiEnabled && path = config.docsPath then .error (.sameRoute path)
  else .ok ()

def isFileName (name : String) : Bool :=
  !name.isEmpty && !(name.toList.any fun character => character = '/' || character = '\\')
    && name ≠ "." && name ≠ ".."

/-- A server is a URL, or a path on the server of the document. -/
def checkServer (server : String) : Except ConfigFault Unit :=
  if isRooted server then .ok () else (Url.check server).mapError (.serverNotUrl server)

/-- The configuration with all that it implies, if its options make sense. -/
def validated (config : Config) : Except ConfigFault Config := do
  let config := config.withImplied
  let docsPath ← checkDocsPath config.docsPath
  let config := { config with docsPath }
  config.openapiJsonPath.forM config.checkJsonPath
  if !isFileName config.openapiOutput then throw (.outputNotFileName config.openapiOutput)
  config.openapiServers.forM checkServer
  return config

end ApiCompiler.Config

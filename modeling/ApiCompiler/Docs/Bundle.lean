import ApiCompiler.Config.Basic
import ApiCompiler.Docs.ViewerScript
import ApiCompiler.Docs.ViewerStyle
import ApiCompiler.RoutesModule.Build

/-!
The documentation viewer: a module that serves it, the page, and the files that the page loads.
Paths are relative to the directory that the bundle is written to.
-/

set_option autoImplicit false

namespace ApiCompiler

structure BundleFile where
  path : String
  contents : String
  deriving DecidableEq, Repr, Inhabited

namespace Docs

def moduleFile : String := "docs.rs"

def pageFile : String := "docs_assets/index.html"

def styleFile : String := "docs_assets/viewer.css"

def scriptFile : String := "docs_assets/viewer.js"

/-- The route at which the document is served. -/
def jsonPath (config : Config) : String := config.openapiJsonPath.getD Config.defaultJsonPath

/-- The route below which the page's files are served. -/
def assetsPath (config : Config) : String := config.docsPath ++ "/assets"

def context (config : Config) : Json.Value :=
  let literal := fun text => Json.Value.string (Text.stringLiteral text)
  .object [
    ("generator", .string generatorName),
    ("title", .string config.openapiTitle),
    ("docs_path", .string config.docsPath),
    ("openapi_json_path", .string (jsonPath config)),
    ("assets_path", .string (assetsPath config)),
    ("openapi_file_lit", literal config.openapiOutput),
    ("index_file_lit", literal pageFile),
    ("css_file_lit", literal styleFile),
    ("js_file_lit", literal scriptFile),
    ("openapi_json_path_lit", literal (jsonPath config)),
    ("docs_path_lit", literal config.docsPath),
    ("css_route_lit", literal (assetsPath config ++ "/viewer.css")),
    ("js_route_lit", literal (assetsPath config ++ "/viewer.js"))]

def files (config : Config) : Except Error (List BundleFile) := do
  let module ← Template.fill Template.docsModuleName (context config)
  let page ← Template.fill Template.docsPageName (context config)
  return [
    ⟨moduleFile, module⟩,
    ⟨pageFile, page⟩,
    ⟨styleFile, "\n".intercalate viewerStyle⟩,
    ⟨scriptFile, "\n".intercalate viewerScript⟩]

def bundle (config : Config) : Except Error (Option (List BundleFile)) :=
  if config.docsUiEnabled then (files config).map some else .ok none

end Docs

end ApiCompiler

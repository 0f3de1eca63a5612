import ApiCompiler.Files.Fault
import ApiCompiler.Json.Fault
import ApiCompiler.Manifest.Fault
import ApiCompiler.Url.Fault

/-!
The errors of the library, by cause, and how they are told. The faults of YAML and TOML are not
told apart.
-/

set_option autoImplicit false

namespace ApiCompiler

inductive TemplateFault
  | noOperationId (index : Nat)
  | packageNotImported (package : String)
  | contextNotObject
  | rendering (template : String)
  deriving DecidableEq, Repr

def TemplateFault.message : TemplateFault → String
  | .noOperationId index => "no operation id for endpoint #" ++ toString index
  | .packageNotImported package => "handler package " ++ package ++ " was never imported"
  | .contextNotObject => "Failed to serialize context"
  | .rendering template => "Failed to render template '" ++ template ++ "'"

inductive ConfigFault
  | docsPathNotRooted (path : String)
  | docsPathIsRoot
  | jsonPathNotRooted (path : String)
  | jsonPathEndsWithSlash (path : String)
  | sameRoute (path : String)
  | outputNotFileName (name : String)
  | serverNotUrl (server : String) (fault : UrlFault)
  | unsupportedFile (name : String)
  deriving DecidableEq, Repr

def ConfigFault.message : ConfigFault → String
  | .docsPathNotRooted path => "docs_path must start with '/', got '" ++ path ++ "'"
  | .docsPathIsRoot => "docs_path must not be '/'"
  | .jsonPathNotRooted path => "openapi_json_path must start with '/', got '" ++ path ++ "'"
  | .jsonPathEndsWithSlash path =>
      "openapi_json_path must not end with '/', got '" ++ path ++ "'"
  | .sameRoute path => "openapi_json_path and docs_path are both '" ++ path ++ "'"
  | .outputNotFileName name => "openapi_output must be a bare file name, got '" ++ name ++ "'"
  | .serverNotUrl server fault =>
      "openapi_servers entry '" ++ server ++ "' is not a URL: " ++ fault.message
  | .unsupportedFile name =>
      "unsupported config file '" ++ name ++ "': expected .yaml, .yml, .toml or .json"

inductive Error
  | io (fault : FileFault)
  | yaml
  | toml
  | json (fault : Json.Fault)
  | template (fault : TemplateFault)
  | manifest (fault : ManifestFault)
  /-- A manifest's file does not hold a manifest. -/
  | manifestFile (path : String) (cause : Error)
  | config (fault : ConfigFault)
  deriving DecidableEq, Repr

namespace Error

def manifestPrefix : String := "Manifest validation error: "

def message : Error → String
  | io fault => "I/O error: " ++ fault.message
  | yaml => "YAML parsing error"
  | toml => "TOML parsing error"
  | json fault => "JSON parsing error: " ++ fault.message
  | template fault => "Template error: " ++ fault.message
  | manifest fault => manifestPrefix ++ fault.message
  | manifestFile path cause =>
      manifestPrefix ++ "Failed to parse manifest at " ++ path ++ ": " ++ cause.message
  | config fault => "Configuration error: " ++ fault.message

/-- What an error that stems from another one stems from. -/
def source? : Error → Option String
  | io fault => some fault.message
  | yaml => some "malformed document"
  | toml => some "malformed document"
  | json fault => some fault.message
  | _ => none

end Error

end ApiCompiler

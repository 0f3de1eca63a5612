import ApiCompiler.Config.Basic
import ApiCompiler.Json.Value
import ApiCompiler.Toml.Printer
import ApiCompiler.Yaml.Printer

/-!
The options of a configuration by name, in the order in which they are written, and what they are in
each data format. Those that are not set are left out.
-/

set_option autoImplicit false

namespace ApiCompiler

inductive OptionValue
  | flag (value : Bool)
  | text (value : String)
  | texts (values : List String)
  deriving DecidableEq, Repr

namespace Config

def optionalText (name : String) : Option String → List (String × OptionValue)
  | some value => [(name, .text value)]
  | none => []

def options (config : Config) : List (String × OptionValue) :=
  [("openapi_enabled", .flag config.openapiEnabled),
    ("openapi_title", .text config.openapiTitle),
    ("openapi_version", .text config.openapiVersion)]
    ++ optionalText "openapi_description" config.openapiDescription
    ++ [("openapi_output", .text config.openapiOutput),
      ("openapi_servers", .texts config.openapiServers)]
    ++ optionalText "openapi_json_path" config.openapiJsonPath
    ++ [("docs_ui_enabled", .flag config.docsUiEnabled), ("docs_path", .text config.docsPath)]

end Config

/-! ### Data formats -/

def OptionValue.toJson : OptionValue → Json.Value
  | .flag value => .bool value
  | .text value => .string value
  | .texts values => Json.Value.strings values

def Config.toJson (config : Config) : Json.Value :=
  .object (config.options.map fun (name, value) => (name, value.toJson))

def OptionValue.tomlValue : OptionValue → String
  | .flag value => Toml.flagValue value
  | .text value => Toml.textValue value
  | .texts values => Toml.listValue values

def Config.toToml (config : Config) : String :=
  String.join (config.options.map fun (name, value) => Toml.memberLine name value.tomlValue)

def OptionValue.yamlLines (name : String) : OptionValue → String
  | .flag value => Yaml.memberLines name (Yaml.flagText value)
  | .text value => Yaml.memberLines name (Yaml.scalar value)
  | .texts values => Yaml.listLines name values

def Config.toYaml (config : Config) : String :=
  String.join (config.options.map fun (name, value) => value.yamlLines name)

end ApiCompiler

import ApiCompiler.Config.Options
import ApiCompiler.Config.Reader
import ApiCompiler.Files.Path
import ApiCompiler.Files.System
import ApiCompiler.Json.Format
import ApiCompiler.Json.Printer
import ApiCompiler.Toml.Format
import ApiCompiler.Yaml.Format

/-!
Configurations in files. The extension of the name tells the format.
-/

set_option autoImplicit false

namespace ApiCompiler

inductive ConfigFormat
  | yaml
  | toml
  | json
  deriving DecidableEq, Repr

namespace ConfigFormat

def ofExtension? : String → Option ConfigFormat
  | "yaml" => some yaml
  | "yml" => some yaml
  | "toml" => some toml
  | "json" => some json
  | _ => none

def ofPath (path : String) : Except Error ConfigFormat :=
  match (Path.extension? path).bind ofExtension? with
  | some format => .ok format
  | none => .error (.config (.unsupportedFile path))

def parse (text : String) : ConfigFormat → Except Error Config
  | yaml => (Yaml.readText Yaml.format.readConfig text).mapError fun _ => .yaml
  | toml => (Toml.readText Toml.format.readConfig text).mapError fun _ => .toml
  | json => (Json.readText Json.textFormat.readConfig text).mapError .json

def print (config : Config) : ConfigFormat → String
  | yaml => config.toYaml
  | toml => config.toToml
  | json => config.toJson.pretty 0

end ConfigFormat

namespace Config

variable {m : Type → Type} [Monad m]

/-- The file is read before its name is looked at. -/
def load (files : FileSystem m) (path : String) : m (Except Error Config) := do
  match ← files.readText path with
  | .error error => return .error error
  | .ok text => return (ConfigFormat.ofPath path).bind (ConfigFormat.parse text)

def save (files : FileSystem m) (path : String) (config : Config) : m (Except Error Unit) := do
  match ConfigFormat.ofPath path with
  | .error error => return .error error
  | .ok format => return (← files.writeText path (format.print config)).mapError .io

end Config

end ApiCompiler

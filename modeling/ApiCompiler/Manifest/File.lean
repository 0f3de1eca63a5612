import ApiCompiler.Error
import ApiCompiler.Files.System
import ApiCompiler.Json.Format
import ApiCompiler.Manifest.Reader
import ApiCompiler.Text.Letter
import ApiCompiler.Yaml.Format

/-!
Manifests as text, and in files. A text that begins with a brace, apart from blanks, is JSON; any
other is YAML.
-/

set_option autoImplicit false

namespace ApiCompiler.Manifest

def isJson (text : String) : Bool := (Text.trimStart text.toList).head? = some '{'

def parse (text : String) : Except Error Manifest :=
  if isJson text then
    (Json.readText Json.textFormat.readManifest text).mapError .json
  else
    (Yaml.readText Yaml.format.readManifest text).mapError fun _ => .yaml

variable {m : Type → Type} [Monad m]

def load (files : FileSystem m) (path : String) : m (Except Error Manifest) := do
  match ← files.readText path with
  | .error error => return .error error
  | .ok text => return (Manifest.parse text).mapError (.manifestFile path)

end ApiCompiler.Manifest

import ApiCompiler.Config.Basic
import ApiCompiler.Record.Reader

/-!
A configuration as a record, for readers of any data format. Every option may be left out.
-/

set_option autoImplicit false

namespace ApiCompiler.DataFormat

variable {node fault : Type}

def readConfig (format : DataFormat node fault) : node → Except fault Config :=
  format.readRecord "Config" {} [
    ⟨"openapi_enabled", false, fun value config =>
      return { config with openapiEnabled := ← format.flag value }⟩,
    ⟨"openapi_title", false, fun value config =>
      return { config with openapiTitle := ← format.text value }⟩,
    ⟨"openapi_version", false, fun value config =>
      return { config with openapiVersion := ← format.text value }⟩,
    ⟨"openapi_description", false, fun value config =>
      return { config with openapiDescription := ← format.readOptional format.text value }⟩,
    ⟨"openapi_output", false, fun value config =>
      return { config with openapiOutput := ← format.text value }⟩,
    ⟨"openapi_servers", false, fun value config =>
      return { config with openapiServers := ← format.readList format.text value }⟩,
    ⟨"openapi_json_path", false, fun value config =>
      return { config with openapiJsonPath := ← format.readOptional format.text value }⟩,
    ⟨"docs_ui_enabled", false, fun value config =>
      return { config with docsUiEnabled := ← format.flag value }⟩,
    ⟨"docs_path", false, fun value config =>
      return { config with docsPath := ← format.text value }⟩]

end ApiCompiler.DataFormat

import ApiCompiler.Manifest.Basic
import ApiCompiler.Record.Reader

/-!
The records of a manifest, for readers of any data format.
-/

set_option autoImplicit false

namespace ApiCompiler

variable {node fault : Type}

namespace DataFormat

def optionalText (format : DataFormat node fault) (value : node) : Except fault (Option String) :=
  format.readOptional format.text value

def readHandler (format : DataFormat node fault) : node → Except fault Handler :=
  format.readRecord "HandlerRef" ⟨"", ""⟩ [
    ⟨"package", true, fun value handler =>
      return { handler with package := ← format.text value }⟩,
    ⟨"name", true, fun value handler => return { handler with name := ← format.text value }⟩]

def readFieldBinding (format : DataFormat node fault) : node → Except fault FieldBinding :=
  format.readRecord "FieldBinding" ⟨"", "", "", false, false, none⟩ [
    ⟨"field", true, fun value binding => return { binding with field := ← format.text value }⟩,
    ⟨"tag", true, fun value binding => return { binding with tag := ← format.text value }⟩,
    ⟨"kind", false, fun value binding => return { binding with kind := ← format.text value }⟩,
    ⟨"isPointer", false, fun value binding =>
      return { binding with isPointer := ← format.flag value }⟩,
    ⟨"isSlice", false, fun value binding =>
      return { binding with isSlice := ← format.flag value }⟩,
    ⟨"elemKind", false, fun value binding =>
      return { binding with elemKind := ← format.optionalText value }⟩]

def readBindings (format : DataFormat node fault) : node → Except fault Bindings :=
  format.readRecord "BindingInfo" Bindings.empty [
    ⟨"hasJsonBody", false, fun value bindings =>
      return { bindings with hasJsonBody := ← format.flag value }⟩,
    ⟨"path", false, fun value bindings =>
      return { bindings with path := ← format.readList format.readFieldBinding value }⟩,
    ⟨"query", false, fun value bindings =>
      return { bindings with query := ← format.readList format.readFieldBinding value }⟩,
    ⟨"header", false, fun value bindings =>
      return { bindings with header := ← format.readList format.readFieldBinding value }⟩]

def readEndpoint (format : DataFormat node fault) : node → Except fault Endpoint :=
  format.readRecord "Endpoint" ⟨.get, "", ⟨"", ""⟩, .noReqNoResp, none, none, none, []⟩ [
    ⟨"method", true, fun value endpoint =>
      return { endpoint with method := ← format.named Method.all Method.name value }⟩,
    ⟨"path", true, fun value endpoint => return { endpoint with path := ← format.text value }⟩,
    ⟨"handler", true, fun value endpoint =>
      return { endpoint with handler := ← format.readHandler value }⟩,
    ⟨"shape", true, fun value endpoint =>
      return { endpoint with shape := ← format.named Shape.all Shape.name value }⟩,
    ⟨"reqType", false, fun value endpoint =>
      return { endpoint with reqType := ← format.optionalText value }⟩,
    ⟨"respType", false, fun value endpoint =>
      return { endpoint with respType := ← format.optionalText value }⟩,
    ⟨"bindings", false, fun value endpoint =>
      return { endpoint with bindings := ← format.readOptional format.readBindings value }⟩,
    ⟨"middlewares", false, fun value endpoint =>
      return { endpoint with middlewares := ← format.readList format.text value }⟩]

def readField (format : DataFormat node fault) : node → Except fault Field :=
  format.readRecord "ManifestField" ⟨"", "", "", false, none⟩ [
    ⟨"name", true, fun value field => return { field with name := ← format.text value }⟩,
    ⟨"jsonName", false, fun value field => return { field with jsonName := ← format.text value }⟩,
    ⟨"type", true, fun value field => return { field with typeId := ← format.text value }⟩,
    ⟨"required", false, fun value field => return { field with required := ← format.flag value }⟩,
    ⟨"doc", false, fun value field => return { field with doc := ← format.optionalText value }⟩]

def readTypeEntry (format : DataFormat node fault) : node → Except fault TypeEntry :=
  format.readRecord "ManifestType" ⟨"", .struct, [], none, none⟩ [
    ⟨"id", false, fun value entry => return { entry with id := ← format.text value }⟩,
    ⟨"kind", true, fun value entry =>
      return { entry with form := ← format.named TypeForm.all TypeForm.name value }⟩,
    ⟨"fields", false, fun value entry =>
      return { entry with fields := ← format.readList format.readField value }⟩,
    ⟨"elem", false, fun value entry => return { entry with elem := ← format.optionalText value }⟩,
    ⟨"doc", false, fun value entry => return { entry with doc := ← format.optionalText value }⟩]

def readDoc (format : DataFormat node fault) : node → Except fault Doc :=
  format.readRecord "Doc" ⟨none, none⟩ [
    ⟨"summary", false, fun value doc =>
      return { doc with summary := ← format.optionalText value }⟩,
    ⟨"description", false, fun value doc =>
      return { doc with description := ← format.optionalText value }⟩]

def readStatusDeclaration (format : DataFormat node fault) :
    node → Except fault StatusDeclaration :=
  format.readRecord "StatusDecl" ⟨0, ""⟩ [
    ⟨"status", true, fun value declaration =>
      return { declaration with status := UInt16.ofFin (← format.natural 16 value) }⟩,
    ⟨"description", true, fun value declaration =>
      return { declaration with description := ← format.text value }⟩]

def readMiddlewareMetadata (format : DataFormat node fault) :
    node → Except fault MiddlewareMetadata :=
  format.readRecord "MiddlewareMetadata" ⟨[]⟩ [
    ⟨"mayReturn", false, fun value metadata =>
      return { metadata with mayReturn := ← format.readList format.readStatusDeclaration value }⟩]

def readManifest (format : DataFormat node fault) : node → Except fault Manifest :=
  format.readRecord "Manifest" Manifest.empty [
    ⟨"version", false, fun value manifest =>
      return { manifest with version := UInt32.ofFin (← format.natural 32 value) }⟩,
    ⟨"endpoints", false, fun value manifest =>
      return { manifest with endpoints := ← format.readList format.readEndpoint value }⟩,
    ⟨"types", false, fun value manifest =>
      return { manifest with types := ← format.readMap format.readTypeEntry value }⟩,
    ⟨"endpointDocs", false, fun value manifest =>
      return { manifest with endpointDocs := ← format.readMap format.readDoc value }⟩,
    ⟨"middlewareMetadata", false, fun value manifest =>
      return { manifest with
        middlewareMetadata := ← format.readMap format.readMiddlewareMetadata value }⟩]

end DataFormat

end ApiCompiler

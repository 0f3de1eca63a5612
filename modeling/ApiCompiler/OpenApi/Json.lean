import ApiCompiler.Json.NumericKey
import ApiCompiler.OpenApi.Document
import ApiCompiler.Schema.Json

/-!
Documents as JSON values, and documents read from JSON text.
-/

set_option autoImplicit false

namespace ApiCompiler.OpenApi

open Json (Value Node Fault)

def contentToJson (content : Content) : Value :=
  Value.ofMap (fun schema => .object [("schema", schema.toJson)]) content

def Info.toJson (info : Info) : Value :=
  .object ([("title", .string info.title), ("version", .string info.version)]
    ++ Value.textMember "description" info.description)

def serverToJson (url : String) : Value := .object [("url", .string url)]

def Parameter.toJson (parameter : Parameter) : Value :=
  .object ([("name", .string parameter.name), ("in", .string parameter.location.name)]
    ++ Value.textMember "description" parameter.description
    ++ [("required", .bool parameter.required), ("schema", parameter.schema.toJson)])

def RequestBody.toJson (body : RequestBody) : Value :=
  .object [("required", .bool body.required), ("content", contentToJson body.content)]

def Response.toJson (response : Response) : Value :=
  .object ([("description", .string response.description)]
    ++ Value.member "content" contentToJson response.content)

def responsesToJson (responses : SortedMap UInt16 Response) : Value :=
  .object (responses.entries.map fun entry => (toString entry.1.toNat, entry.2.toJson))

def Operation.toJson (operation : Operation) : Value :=
  .object ([("operationId", .string operation.operationId)]
    ++ Value.textMember "summary" operation.summary
    ++ Value.textMember "description" operation.description
    ++ [("tags", Value.strings operation.tags)]
    ++ Value.listMember "parameters" Parameter.toJson operation.parameters
    ++ Value.member "requestBody" RequestBody.toJson operation.requestBody
    ++ [("responses", responsesToJson operation.responses)])

def PathItem.toJson (item : PathItem) : Value :=
  .object (item.operations.map fun entry => (entry.1.routerName, entry.2.toJson))

def Document.toJson (document : Document) : Value :=
  .object ([("openapi", .string document.openapi), ("info", document.info.toJson)]
    ++ Value.listMember "servers" serverToJson document.servers
    ++ [("paths", Value.ofMap PathItem.toJson document.paths),
      ("components", .object [("schemas", Value.ofMap Schema.toJson document.schemas)])])

def format : DataFormat Node Fault := Json.textFormat

def optionalText (value : Node) : Except Fault (Option String) :=
  format.readOptional format.text value

def readInfo : Node → Except Fault Info :=
  format.readRecord "Info" ⟨"", "", none⟩ [
    ⟨"title", true, fun value info => return { info with title := ← format.text value }⟩,
    ⟨"version", true, fun value info => return { info with version := ← format.text value }⟩,
    ⟨"description", false, fun value info =>
      return { info with description := ← optionalText value }⟩]

def readServer : Node → Except Fault String :=
  format.readRecord "Server" "" [⟨"url", true, fun value _ => format.text value⟩]

def readParameter : Node → Except Fault Parameter :=
  format.readRecord "Parameter" ⟨"", .path, none, false, {}⟩ [
    ⟨"name", true, fun value parameter =>
      return { parameter with name := ← format.text value }⟩,
    ⟨"in", true, fun value parameter =>
      return { parameter with location := ← format.named Location.all Location.name value }⟩,
    ⟨"description", false, fun value parameter =>
      return { parameter with description := ← optionalText value }⟩,
    ⟨"required", true, fun value parameter =>
      return { parameter with required := ← format.flag value }⟩,
    ⟨"schema", true, fun value parameter =>
      return { parameter with schema := ← Schema.read value }⟩]

def readMediaType : Node → Except Fault Schema :=
  format.readRecord "MediaType" {} [⟨"schema", true, fun value _ => Schema.read value⟩]

def readContent : Node → Except Fault Content := format.readMap readMediaType

def readRequestBody : Node → Except Fault RequestBody :=
  format.readRecord "RequestBody" ⟨false, .empty⟩ [
    ⟨"required", true, fun value body => return { body with required := ← format.flag value }⟩,
    ⟨"content", true, fun value body => return { body with content := ← readContent value }⟩]

def readResponse : Node → Except Fault Response :=
  format.readRecord "Response" ⟨"", none⟩ [
    ⟨"description", true, fun value response =>
      return { response with description := ← format.text value }⟩,
    ⟨"content", false, fun value response =>
      return { response with content := ← format.readOptional readContent value }⟩]

def readOperation : Node → Except Fault Operation :=
  format.readRecord "Operation" ⟨"", none, none, [], [], none, .empty⟩ [
    ⟨"operationId", true, fun value operation =>
      return { operation with operationId := ← format.text value }⟩,
    ⟨"summary", false, fun value operation =>
      return { operation with summary := ← optionalText value }⟩,
    ⟨"description", false, fun value operation =>
      return { operation with description := ← optionalText value }⟩,
    ⟨"tags", true, fun value operation =>
      return { operation with tags := ← format.readList format.text value }⟩,
    ⟨"parameters", false, fun value operation =>
      return { operation with parameters := ← format.readList readParameter value }⟩,
    ⟨"requestBody", false, fun value operation =>
      return { operation with requestBody := ← format.readOptional readRequestBody value }⟩,
    ⟨"responses", true, fun value operation =>
      return { operation with
        responses := .ofList (← Json.readNumberedEntries readResponse value) }⟩]

def readPathItem : Node → Except Fault PathItem :=
  format.readRecord "PathItem" {} [
    ⟨"get", false, fun value item =>
      return { item with get := ← format.readOptional readOperation value }⟩,
    ⟨"put", false, fun value item =>
      return { item with put := ← format.readOptional readOperation value }⟩,
    ⟨"post", false, fun value item =>
      return { item with post := ← format.readOptional readOperation value }⟩,
    ⟨"delete", false, fun value item =>
      return { item with delete := ← format.readOptional readOperation value }⟩,
    ⟨"options", false, fun value item =>
      return { item with options := ← format.readOptional readOperation value }⟩,
    ⟨"head", false, fun value item =>
      return { item with head := ← format.readOptional readOperation value }⟩,
    ⟨"patch", false, fun value item =>
      return { item with patch := ← format.readOptional readOperation value }⟩]

def readComponents : Node → Except Fault (SortedMap String Schema) :=
  format.readRecord "Components" .empty [
    ⟨"schemas", true, fun value _ => format.readMap Schema.read value⟩]

def readDocument : Node → Except Fault Document :=
  format.readRecord "OpenApiDocument" ⟨"", ⟨"", "", none⟩, [], .empty, .empty⟩ [
    ⟨"openapi", true, fun value document =>
      return { document with openapi := ← format.text value }⟩,
    ⟨"info", true, fun value document =>
      return { document with info := ← readInfo value }⟩,
    ⟨"servers", false, fun value document =>
      return { document with servers := ← format.readList readServer value }⟩,
    ⟨"paths", true, fun value document =>
      return { document with paths := ← format.readMap readPathItem value }⟩,
    ⟨"components", true, fun value document =>
      return { document with schemas := ← readComponents value }⟩]

end ApiCompiler.OpenApi

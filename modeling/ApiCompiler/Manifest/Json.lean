import ApiCompiler.Json.Member
import ApiCompiler.Manifest.Basic

/-!
Manifests as JSON values. Absent optional values, empty ids and empty lists of fields are left out;
everything else is written even when it has its default.
-/

set_option autoImplicit false

namespace ApiCompiler

open Json (Value)

def Handler.toJson (handler : Handler) : Value :=
  .object [("package", .string handler.package), ("name", .string handler.name)]

def FieldBinding.toJson (binding : FieldBinding) : Value :=
  .object ([("field", .string binding.field), ("tag", .string binding.tag),
    ("kind", .string binding.kind), ("isPointer", .bool binding.isPointer),
    ("isSlice", .bool binding.isSlice)] ++ Value.textMember "elemKind" binding.elemKind)

def Bindings.toJson (bindings : Bindings) : Value :=
  .object [("hasJsonBody", .bool bindings.hasJsonBody),
    ("path", .array (bindings.path.map FieldBinding.toJson)),
    ("query", .array (bindings.query.map FieldBinding.toJson)),
    ("header", .array (bindings.header.map FieldBinding.toJson))]

def Endpoint.toJson (endpoint : Endpoint) : Value :=
  .object ([("method", .string endpoint.method.name), ("path", .string endpoint.path),
    ("handler", endpoint.handler.toJson), ("shape", .string endpoint.shape.name)]
    ++ Value.textMember "reqType" endpoint.reqType
    ++ Value.textMember "respType" endpoint.respType
    ++ Value.member "bindings" Bindings.toJson endpoint.bindings
    ++ [("middlewares", Value.strings endpoint.middlewares)])

def Field.toJson (field : Field) : Value :=
  .object ([("name", .string field.name), ("jsonName", .string field.jsonName),
    ("type", .string field.typeId), ("required", .bool field.required)]
    ++ Value.textMember "doc" field.doc)

def TypeEntry.toJson (entry : TypeEntry) : Value :=
  .object ((if entry.id.isEmpty then [] else [("id", .string entry.id)])
    ++ [("kind", .string entry.form.name)]
    ++ Value.listMember "fields" Field.toJson entry.fields
    ++ Value.textMember "elem" entry.elem ++ Value.textMember "doc" entry.doc)

def Doc.toJson (doc : Doc) : Value :=
  .object (Value.textMember "summary" doc.summary
    ++ Value.textMember "description" doc.description)

def StatusDeclaration.toJson (declaration : StatusDeclaration) : Value :=
  .object [("status", .ofNat declaration.status.toNat),
    ("description", .string declaration.description)]

def MiddlewareMetadata.toJson (metadata : MiddlewareMetadata) : Value :=
  .object [("mayReturn", .array (metadata.mayReturn.map StatusDeclaration.toJson))]

def Manifest.toJson (manifest : Manifest) : Value :=
  .object [("version", .ofNat manifest.version.toNat),
    ("endpoints", .array (manifest.endpoints.map Endpoint.toJson)),
    ("types", Value.ofMap TypeEntry.toJson manifest.types),
    ("endpointDocs", Value.ofMap Doc.toJson manifest.endpointDocs),
    ("middlewareMetadata", Value.ofMap MiddlewareMetadata.toJson manifest.middlewareMetadata)]

end ApiCompiler

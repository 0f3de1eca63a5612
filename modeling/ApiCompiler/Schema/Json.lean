import ApiCompiler.Json.Member
import ApiCompiler.Json.Format
import ApiCompiler.Schema.Basic

/-!
Schemas as JSON values, and schemas read from JSON text.
-/

set_option autoImplicit false

namespace ApiCompiler.Schema

open Json (Value Node Fault)

mutual

def toJson : Schema → Value
  | ⟨reference, allOf, type, format, description, items, properties, required⟩ =>
      .object (Value.textMember "$ref" reference ++ allOfMember allOf
        ++ Value.textMember "type" type ++ Value.textMember "format" format
        ++ Value.textMember "description" description ++ itemsMember items
        ++ propertiesMember properties ++ Value.listMember "required" .string required)

def allOfMember : List Schema → List (String × Value)
  | [] => []
  | first :: rest => [("allOf", .array (first.toJson :: listToJson rest))]

def listToJson : List Schema → List Value
  | [] => []
  | first :: rest => first.toJson :: listToJson rest

def itemsMember : Option Schema → List (String × Value)
  | none => []
  | some items => [("items", items.toJson)]

def propertiesMember : Option (List (String × Schema)) → List (String × Value)
  | none => []
  | some properties => [("properties", .object (membersToJson properties))]

def membersToJson : List (String × Schema) → List (String × Value)
  | [] => []
  | (name, schema) :: rest => (name, schema.toJson) :: membersToJson rest

end

/-- Properties in the order of the text; a later one of the same name replaces an earlier one. -/
def ofEntries (entries : List (String × Schema)) : List (String × Schema) :=
  entries.foldl (fun properties entry => putProperty entry.1 entry.2 properties) []

def readProperties (read : Node → Except Fault Schema) (node : Node) :
    Except Fault (List (String × Schema)) := do
  let listing ← Node.map node
  let entries ← DataFormat.readEntries read listing.items
  listing.finish
  return ofEntries entries

/-- Reads a schema. Each schema opens an object, so as many levels as the node allows are enough. -/
def readLevels : (levels : Nat) → Node → Except Fault Schema
  | 0, _ => .error (.malformed .tooDeep)
  | levels + 1, node =>
      let format := Json.textFormat
      let read := readLevels levels
      format.readRecord "Schema" ({} : Schema) [
        ⟨"$ref", false, fun value schema =>
          return { schema with reference := ← format.readOptional format.text value }⟩,
        ⟨"allOf", false, fun value schema =>
          return { schema with allOf := ← format.readList read value }⟩,
        ⟨"type", false, fun value schema =>
          return { schema with type := ← format.readOptional format.text value }⟩,
        ⟨"format", false, fun value schema =>
          return { schema with format := ← format.readOptional format.text value }⟩,
        ⟨"description", false, fun value schema =>
          return { schema with description := ← format.readOptional format.text value }⟩,
        ⟨"items", false, fun value schema =>
          return { schema with items := ← format.readOptional read value }⟩,
        ⟨"properties", false, fun value schema =>
          return { schema with properties := ← format.readOptional (readProperties read) value }⟩,
        ⟨"required", false, fun value schema =>
          return { schema with required := ← format.readList format.text value }⟩] node

def read (node : Node) : Except Fault Schema := readLevels (node.depth + 1) node

end ApiCompiler.Schema

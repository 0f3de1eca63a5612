import ApiCompiler.Manifest.File
import ApiCompiler.Manifest.Json
import ApiCompiler.Proofs.WrittenRecords

/-!
Manifests that are read back from their text. Each record of a manifest is restored from what is
written of it, so writing a manifest as JSON, in either layout, and parsing the text loses nothing.
-/

set_option autoImplicit false

namespace ApiCompiler

open Json (Value Restores Fills textFormat)

variable {levels : Nat}

/-! ### Members that may be left out -/

section

variable {α β : Type} {read : Json.Node → Except Json.Fault α} {write : α → Value} {name : String}
  {before : β}

theorem written_member {put : β → Option α → β} {held : Option α} (unset : put before none = before)
    (each : ∀ item, held = some item →
      Restores levels read (write item) item ∧ write item ≠ .null) :
    Value.member name write held = [] ∧ put before held = before ∨
      ∃ value, Value.member name write held = [(name, value)] ∧
        Restores levels (textFormat.readOptional read) value held := by
  cases held with
  | none => exact .inl ⟨rfl, unset⟩
  | some item =>
      have restores := each item rfl
      exact .inr ⟨write item, rfl, restores.1.held restores.2⟩

theorem written_text_member {put : β → Option String → β} {text : Option String}
    (unset : put before none = before) :
    Value.textMember name text = [] ∧ put before text = before ∨
      ∃ value, Value.textMember name text = [(name, value)] ∧
        Restores levels textFormat.optionalText value text := by
  have same : Value.textMember name text = Value.member name Value.string text := by
    cases text <;> rfl
  rw [same]
  exact written_member unset fun text _ => ⟨.text text, nofun⟩

theorem written_list_member {put : β → List α → β} {items : List α}
    (unset : put before [] = before) (each : ∀ item ∈ items, Restores levels read (write item) item) :
    Value.listMember name write items = [] ∧ put before items = before ∨
      ∃ value, Value.listMember name write items = [(name, value)] ∧
        Restores (levels + 1) (textFormat.readList read) value items := by
  cases items with
  | nil => exact .inl ⟨rfl, unset⟩
  | cons item rest => exact .inr ⟨_, rfl, .list each⟩

end

/-! ### The records -/

theorem handler_restored (handler : Handler) :
    Restores (levels + 1) textFormat.readHandler handler.toJson handler := by
  apply Fills.record (by decide)
  apply Fills.field (.text handler.package)
  apply Fills.field (.text handler.name)
  exact .done

theorem field_binding_restored (binding : FieldBinding) :
    Restores (levels + 1) textFormat.readFieldBinding binding.toJson binding := by
  have members : binding.toJson = .object (("field", .string binding.field) ::
      ("tag", .string binding.tag) :: ("kind", .string binding.kind) ::
      ("isPointer", .bool binding.isPointer) :: ("isSlice", .bool binding.isSlice) ::
      (Value.textMember "elemKind" binding.elemKind ++ [])) := by
    simp [FieldBinding.toJson]
  rw [members]
  apply Fills.record (by decide)
  apply Fills.field (.text binding.field)
  apply Fills.field (.text binding.tag)
  apply Fills.field (.text binding.kind)
  apply Fills.field (.flag binding.isPointer)
  apply Fills.field (.flag binding.isSlice)
  apply Fills.optional (written_text_member rfl)
  exact .done

theorem bindings_restored (bindings : Bindings) :
    Restores (levels + 3) textFormat.readBindings bindings.toJson bindings := by
  apply Fills.record (by decide)
  apply Fills.field (.flag bindings.hasJsonBody)
  apply Fills.field (.list fun binding _ => field_binding_restored binding)
  apply Fills.field (.list fun binding _ => field_binding_restored binding)
  apply Fills.field (.list fun binding _ => field_binding_restored binding)
  exact .done

theorem method_spelled (method : Method) :
    (Method.all.find? fun other => other.name == method.name) = some method := by
  cases method <;> decide

theorem shape_spelled (shape : Shape) :
    (Shape.all.find? fun other => other.name == shape.name) = some shape := by
  cases shape <;> decide

theorem type_form_spelled (form : TypeForm) :
    (TypeForm.all.find? fun other => other.name == form.name) = some form := by
  cases form <;> decide

theorem endpoint_restored (endpoint : Endpoint) :
    Restores (levels + 4) textFormat.readEndpoint endpoint.toJson endpoint := by
  have members : endpoint.toJson = .object (("method", .string endpoint.method.name) ::
      ("path", .string endpoint.path) :: ("handler", endpoint.handler.toJson) ::
      ("shape", .string endpoint.shape.name) :: (Value.textMember "reqType" endpoint.reqType ++
      (Value.textMember "respType" endpoint.respType ++
      (Value.member "bindings" Bindings.toJson endpoint.bindings ++
      [("middlewares", Value.strings endpoint.middlewares)])))) := by
    simp [Endpoint.toJson]
  rw [members]
  apply Fills.record (by decide)
  apply Fills.field (.named (method_spelled endpoint.method))
  apply Fills.field (.text endpoint.path)
  apply Fills.field (handler_restored endpoint.handler)
  apply Fills.field (.named (shape_spelled endpoint.shape))
  apply Fills.optional (written_text_member rfl)
  apply Fills.optional (written_text_member rfl)
  apply Fills.optional (written_member rfl fun bindings _ => ⟨bindings_restored bindings, nofun⟩)
  apply Fills.field (.list fun name _ => .text name)
  exact .done

theorem field_restored (field : Field) :
    Restores (levels + 1) textFormat.readField field.toJson field := by
  have members : field.toJson = .object (("name", .string field.name) ::
      ("jsonName", .string field.jsonName) :: ("type", .string field.typeId) ::
      ("required", .bool field.required) :: (Value.textMember "doc" field.doc ++ [])) := by
    simp [Field.toJson]
  rw [members]
  apply Fills.record (by decide)
  apply Fills.field (.text field.name)
  apply Fills.field (.text field.jsonName)
  apply Fills.field (.text field.typeId)
  apply Fills.field (.flag field.required)
  apply Fills.optional (written_text_member rfl)
  exact .done

theorem type_entry_restored (entry : TypeEntry) :
    Restores (levels + 3) textFormat.readTypeEntry entry.toJson entry := by
  have members : entry.toJson = .object
      ((if entry.id.isEmpty then [] else [("id", .string entry.id)]) ++
      (("kind", .string entry.form.name) :: (Value.listMember "fields" Field.toJson entry.fields ++
      (Value.textMember "elem" entry.elem ++ (Value.textMember "doc" entry.doc ++ []))))) := by
    simp [TypeEntry.toJson]
  have id : (if entry.id.isEmpty then [] else [("id", Value.string entry.id)]) = [] ∧
        (⟨entry.id, .struct, [], none, none⟩ : TypeEntry) = ⟨"", .struct, [], none, none⟩ ∨
      ∃ value, (if entry.id.isEmpty then [] else [("id", Value.string entry.id)]) =
        [("id", value)] ∧ Restores (levels + 2) textFormat.text value entry.id := by
    by_cases empty : entry.id = ""
    · simp [empty]
    · exact .inr ⟨.string entry.id, by simp [empty], .text entry.id⟩
  rw [members]
  apply Fills.record (by decide)
  apply Fills.optional id
  apply Fills.field (.named (type_form_spelled entry.form))
  apply Fills.optional (written_list_member rfl fun field _ => field_restored field)
  apply Fills.optional (written_text_member rfl)
  apply Fills.optional (written_text_member rfl)
  exact .done

theorem doc_restored (doc : Doc) : Restores (levels + 1) textFormat.readDoc doc.toJson doc := by
  have members : doc.toJson = .object (Value.textMember "summary" doc.summary ++
      (Value.textMember "description" doc.description ++ [])) := by
    simp [Doc.toJson]
  rw [members]
  apply Fills.record (by decide)
  apply Fills.optional (written_text_member rfl)
  apply Fills.optional (written_text_member rfl)
  exact .done

theorem status_declaration_restored (declaration : StatusDeclaration) :
    Restores (levels + 1) textFormat.readStatusDeclaration declaration.toJson declaration := by
  apply Fills.record (by decide)
  apply Fills.field (.natural 16 declaration.status.toFin (by decide))
  apply Fills.field (.text declaration.description)
  exact .done

theorem middleware_metadata_restored (metadata : MiddlewareMetadata) :
    Restores (levels + 3) textFormat.readMiddlewareMetadata metadata.toJson metadata := by
  apply Fills.record (by decide)
  apply Fills.field (.list fun declaration _ => status_declaration_restored declaration)
  exact .done

theorem manifest_restored (manifest : Manifest) :
    Restores (levels + 6) textFormat.readManifest manifest.toJson manifest := by
  apply Fills.record (by decide)
  apply Fills.field (.natural 32 manifest.version.toFin (by decide))
  apply Fills.field (.list fun endpoint _ => endpoint_restored endpoint)
  apply Fills.field (.map fun entry _ => type_entry_restored entry.2)
  apply Fills.field (.map fun entry _ => doc_restored entry.2)
  apply Fills.field (.map fun entry _ => middleware_metadata_restored entry.2)
  exact .done

/-! ### The text -/

namespace Manifest

theorem is_json_of_brace (rest : String) : isJson ("\x7b" ++ rest) = true := by
  have stays : Text.trimStart ("\x7b" ++ rest).toList = '{' :: rest.toList := by
    rw [String.toList_append]
    rfl
  rw [isJson, stays]
  rfl

theorem object_text_begins (members : List (String × Value)) :
    (∃ rest, (Value.object members).compact = "\x7b" ++ rest) ∧
      ∀ depth, ∃ rest, (Value.object members).pretty depth = "\x7b" ++ rest := by
  constructor
  · exact ⟨_, by rw [Value.compact, String.append_assoc]⟩
  · intro depth
    cases members with
    | nil => exact ⟨"\x7d", rfl⟩
    | cons member rest => exact ⟨_, by rw [Value.pretty, String.append_assoc, String.append_assoc]⟩

theorem parse_restored {text : String} {manifest : Manifest}
    (begins : ∃ rest, text = "\x7b" ++ rest)
    (reads : Json.Source.read text = (manifest.toJson.source, false)) :
    parse text = .ok manifest := by
  have isObject : isJson text = true := by
    obtain ⟨rest, rfl⟩ := begins
    exact is_json_of_brace rest
  have restores : Restores 6 textFormat.readManifest manifest.toJson manifest :=
    manifest_restored manifest
  have top : textFormat.readManifest ⟨manifest.toJson.source, Json.depthLimit⟩ = .ok manifest :=
    restores.reads Json.depthLimit (by decide)
  have read : Json.readText textFormat.readManifest text = .ok manifest := by
    simp only [Json.readText, reads, top, bind, Except.bind, Bool.false_eq_true, if_false]
  rw [parse, isObject, read]
  rfl

theorem parse_compact (manifest : Manifest) : parse manifest.toJson.compact = .ok manifest := by
  have restores : Restores 6 textFormat.readManifest manifest.toJson manifest :=
    manifest_restored manifest
  apply parse_restored (object_text_begins _).1
  exact Json.Source.read_compact restores.plain

theorem parse_pretty (manifest : Manifest) (depth : Nat) :
    parse (manifest.toJson.pretty depth) = .ok manifest := by
  have restores : Restores 6 textFormat.readManifest manifest.toJson manifest :=
    manifest_restored manifest
  apply parse_restored ((object_text_begins _).2 depth)
  exact Json.Source.read_pretty restores.plain depth

/-- Parsing undoes writing, and a manifest that was parsed is the same when it is written and
parsed again. -/
theorem parse_written :
    (∀ manifest : Manifest, parse manifest.toJson.compact = .ok manifest ∧
      ∀ depth, parse (manifest.toJson.pretty depth) = .ok manifest) ∧
    ∀ text, (parse text >>= fun manifest => parse manifest.toJson.compact) = parse text ∧
      (parse text >>= fun manifest => parse (manifest.toJson.pretty 0)) = parse text := by
  constructor
  · intro manifest
    exact ⟨parse_compact manifest, parse_pretty manifest⟩
  · intro text
    have compact : (fun manifest => parse manifest.toJson.compact) = pure :=
      funext parse_compact
    have pretty : (fun manifest => parse (manifest.toJson.pretty 0)) = pure :=
      funext fun manifest => parse_pretty manifest 0
    rw [compact, pretty, bind_pure]
    exact ⟨rfl, rfl⟩

end Manifest

end ApiCompiler

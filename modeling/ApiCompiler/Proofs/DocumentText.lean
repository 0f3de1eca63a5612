import ApiCompiler.OpenApi.Build
import ApiCompiler.Proofs.DocumentReferences
import ApiCompiler.Proofs.SchemaText

/-!
Documents that are read back from their text. Writing a document, indented or compact, and reading
the text again loses nothing, as long as the document does not nest deeper than a reader follows.
-/

set_option autoImplicit false

namespace ApiCompiler.OpenApi

open Json (Value Node Fault Restores Recovers Completes textFormat recovered_member
  recovered_text_member recovered_list_member)

/-- No object of a document has two properties of one name. -/
def Document.NamesApart (document : Document) : Prop :=
  ∀ schema, document.Shows schema → schema.NamesApart

def Operation.NamesApart (operation : Operation) : Prop :=
  ∀ schema, operation.Shows schema → schema.NamesApart

def Content.NamesApart (content : Content) : Prop :=
  ∀ schema, Content.Shows content schema → schema.NamesApart

/-! ### Contents and responses -/

theorem media_type_recovered {schema : Schema} (apart : schema.NamesApart) :
    Recovers readMediaType (.object [("schema", schema.toJson)]) schema := by
  apply Recovers.record (by simp)
  exact .given (Schema.recovered apart) .done

theorem content_recovered {content : Content} (apart : content.NamesApart) :
    Recovers readContent (contentToJson content) content := by
  apply Recovers.map
  intro entry listed
  exact media_type_recovered (apart _ ⟨entry.1, SortedMap.mem_entries_iff.mp listed⟩)

theorem response_recovered {response : Response}
    (apart : ∀ schema, response.Shows schema → schema.NamesApart) :
    Recovers readResponse response.toJson response := by
  have members : response.toJson = .object (("description", .string response.description) ::
      (Value.member "content" contentToJson response.content ++ [])) := by
    simp [Response.toJson]
  rw [members]
  apply Recovers.record (by simp)
  apply Completes.field (Restores.text response.description)
  apply Completes.optional (recovered_member rfl ?_)
  · exact .done
  · intro content has
    refine ⟨content_recovered fun schema shows => apart schema ⟨content, has, shows⟩, nofun⟩

theorem request_body_recovered {body : RequestBody} (apart : Content.NamesApart body.content) :
    Recovers readRequestBody body.toJson body := by
  apply Recovers.record (by simp)
  apply Completes.field (Restores.flag body.required)
  apply Completes.field (content_recovered apart)
  exact .done

/-! ### Responses by their statuses -/

theorem escape_digit {digit : Char} (isDigit : digit.isDigit = true) :
    Json.escapeChar digit = [digit] := by
  have large : 48 ≤ digit.toNat := by
    simp only [Char.isDigit, Bool.and_eq_true, decide_eq_true_eq] at isDigit
    exact isDigit.1
  unfold Json.escapeChar
  split
  case h_6 =>
      rw [if_neg (by omega), if_neg (by omega), if_neg (by omega)]
  all_goals cases isDigit

theorem escape_digits (number : Nat) :
    (toString number).toList.flatMap Json.escapeChar = Nat.toDigits 10 number := by
  have digits : (toString number).toList = Nat.toDigits 10 number := by
    rw [Nat.toString_eq_repr, Nat.toList_repr]
  rw [digits,
    List.flatMap_congr fun digit listed => escape_digit (Json.digits_of_number digit listed)]
  exact List.flatMap_singleton' _

/-- A status is written in decimal figures and read back from them. -/
theorem read_status_key (status : UInt16) :
    Json.readNumericKey (Json.writtenKey (toString status.toNat)) = .ok status := by
  have small : status.toNat < Nat.pow 2 16 := status.toFin.isLt
  have quoteEnds : Json.EndsNumeral ['"'] := by
    intro character first
    cases first
    decide
  have read := Json.read_whole_number (le_of_lt (small.trans (by decide))) quoteEnds
  have word : Node.naturalOf 16 (.natural status.toNat) = .ok ⟨status.toNat, small⟩ := dif_pos small
  have lexeme : (Json.writtenKey (toString status.toNat)).lexeme = Nat.toDigits 10 status.toNat :=
    escape_digits _
  obtain ⟨digit, later, begins, isDigit⟩ := Json.numeral_begins status.toNat
  have starts : digit = '-' ∨ digit.isDigit = true := .inr isDigit
  rw [Json.readNumericKey, lexeme, begins]
  simp only [if_pos starts]
  rw [← begins]
  simp only [read, word, bind, Except.bind]
  rfl

/-- A response as a member of the object of responses. -/
def responseMember (entry : UInt16 × Response) : String × Value :=
  (toString entry.1.toNat, entry.2.toJson)

theorem numbered_members_read {read : Node → Except Fault Response}
    {entries : List (UInt16 × Response)} {depth : Nat}
    (each : ∀ entry ∈ entries, read ⟨entry.2.toJson.source, depth⟩ = .ok entry.2) :
    Json.readNumberedMembers read depth (Json.memberSources (entries.map responseMember)) =
      .ok entries := by
  induction entries with
  | nil => rfl
  | cons entry entries induction =>
      obtain ⟨first, others⟩ := List.forall_mem_cons.mp each
      rw [List.map_cons, responseMember, Json.memberSources, Json.readNumberedMembers,
        read_status_key, first, induction others]
      rfl

theorem responses_recovered {responses : SortedMap UInt16 Response}
    (each : ∀ entry ∈ responses.entries, Recovers readResponse entry.2.toJson entry.2) :
    Recovers (Json.readNumberedEntries readResponse) (responsesToJson responses)
      responses.entries := by
  have members : responsesToJson responses = .object (responses.entries.map responseMember) := rfl
  rw [members]
  constructor
  · apply Value.Plain.object
    intro member listed
    obtain ⟨entry, inside, rfl⟩ := List.mem_map.mp listed
    exact (each entry inside).plain
  · intro depth enough
    rw [Value.source]
    obtain ⟨entered, inside⟩ := Restores.enter
      (.object (Json.memberSources (responses.entries.map responseMember)) .closed) enough
    have readEach := numbered_members_read fun entry listed =>
      (each entry listed).reads _ (lt_of_le_of_lt
        (Value.member_nesting_le (List.mem_map_of_mem (f := responseMember) listed)) inside)
    simp only [Json.readNumberedEntries, entered, readEach, Json.Ending.fault, bind, Except.bind]

/-! ### Operations -/

theorem location_spelled (location : Location) :
    (Location.all.find? fun other => other.name == location.name) = some location := by
  cases location <;> decide

theorem parameter_recovered {parameter : Parameter} (apart : parameter.schema.NamesApart) :
    Recovers readParameter parameter.toJson parameter := by
  have members : parameter.toJson = .object (("name", .string parameter.name) ::
      ("in", .string parameter.location.name) ::
      (Value.textMember "description" parameter.description ++
        [("required", .bool parameter.required), ("schema", parameter.schema.toJson)])) := by
    simp [Parameter.toJson]
  rw [members]
  apply Recovers.record (by simp)
  apply Completes.field (Restores.text parameter.name)
  apply Completes.field (Restores.named (location_spelled parameter.location))
  apply Completes.optional (recovered_text_member rfl)
  apply Completes.field (Restores.flag parameter.required)
  apply Completes.field (Schema.recovered apart)
  exact .done

theorem operation_recovered {operation : Operation} (apart : operation.NamesApart) :
    Recovers readOperation operation.toJson operation := by
  have members : operation.toJson = .object (("operationId", .string operation.operationId) ::
      (Value.textMember "summary" operation.summary ++
      (Value.textMember "description" operation.description ++
      (("tags", Value.strings operation.tags) ::
      (Value.listMember "parameters" Parameter.toJson operation.parameters ++
      (Value.member "requestBody" RequestBody.toJson operation.requestBody ++
      [("responses", responsesToJson operation.responses)])))))) := by
    simp [Operation.toJson]
  rw [members]
  apply Recovers.record (by simp)
  apply Completes.field (Restores.text operation.operationId)
  apply Completes.optional (recovered_text_member rfl)
  apply Completes.optional (recovered_text_member rfl)
  apply Completes.field (Recovers.list fun tag _ => Restores.text tag)
  apply Completes.optional (recovered_list_member rfl fun parameter listed => ?_)
  apply Completes.optional (recovered_member rfl ?_)
  apply Completes.field (responses_recovered fun entry listed => response_recovered ?_)
  · rw [SortedMap.of_list_entries]
    exact .done
  · intro schema shows
    exact apart schema (.response (SortedMap.mem_entries_iff.mp listed) shows)
  · intro body has
    constructor
    · exact request_body_recovered fun schema shows => apart schema (.requestBody has shows)
    · intro absent
      cases absent
  · exact parameter_recovered (apart parameter.schema (.parameter listed))

/-! ### Paths -/

theorem operation_members (item : PathItem) (methods : List Method) :
    (methods.filterMap fun method => (item.slot method).map (method, ·)).map
        (fun entry => (entry.1.routerName, entry.2.toJson)) =
      methods.flatMap fun method =>
        Value.member method.routerName Operation.toJson (item.slot method) := by
  induction methods with
  | nil => rfl
  | cons method methods induction =>
      rw [List.flatMap_cons, ← induction]
      cases held : item.slot method <;> simp [held, Value.member]

theorem path_item_recovered {item : PathItem}
    (apart : ∀ method operation, item.slot method = some operation → operation.NamesApart) :
    Recovers readPathItem item.toJson item := by
  have members : item.toJson = .object (Value.member "get" Operation.toJson item.get ++
      (Value.member "put" Operation.toJson item.put ++
      (Value.member "post" Operation.toJson item.post ++
      (Value.member "delete" Operation.toJson item.delete ++
      (Value.member "options" Operation.toJson item.options ++
      (Value.member "head" Operation.toJson item.head ++
      (Value.member "patch" Operation.toJson item.patch ++ []))))))) := by
    rw [PathItem.toJson, PathItem.operations, operation_members]
    rfl
  have each : ∀ method operation, item.slot method = some operation →
      Recovers readOperation operation.toJson operation ∧ operation.toJson ≠ .null :=
    fun method operation held => ⟨operation_recovered (apart method operation held), nofun⟩
  rw [members]
  apply Recovers.record (by decide)
  apply Completes.optional (recovered_member rfl (each .get))
  apply Completes.optional (recovered_member rfl (each .put))
  apply Completes.optional (recovered_member rfl (each .post))
  apply Completes.optional (recovered_member rfl (each .delete))
  apply Completes.optional (recovered_member rfl (each .options))
  apply Completes.optional (recovered_member rfl (each .head))
  apply Completes.optional (recovered_member rfl (each .patch))
  exact .done

/-! ### The document -/

theorem info_recovered (info : Info) : Recovers readInfo info.toJson info := by
  have members : info.toJson = .object (("title", .string info.title) ::
      ("version", .string info.version) ::
      (Value.textMember "description" info.description ++ [])) := by
    simp [Info.toJson]
  rw [members]
  apply Recovers.record (by decide)
  apply Completes.field (Restores.text info.title)
  apply Completes.field (Restores.text info.version)
  apply Completes.optional (recovered_text_member rfl)
  exact .done

theorem server_recovered (url : String) : Recovers readServer (serverToJson url) url := by
  apply Recovers.record (by decide)
  exact .given (Restores.text url) .done

theorem components_recovered {schemas : SortedMap String Schema}
    (apart : ∀ name schema, schemas.get? name = some schema → schema.NamesApart) :
    Recovers readComponents (.object [("schemas", Value.ofMap Schema.toJson schemas)]) schemas := by
  apply Recovers.record (by decide)
  apply Completes.given
  · apply Recovers.map
    intro entry listed
    exact Schema.recovered (apart entry.1 entry.2 (SortedMap.mem_entries_iff.mp listed))
  · exact .done

theorem Document.recovered {document : Document} (apart : document.NamesApart) :
    Recovers readDocument document.toJson document := by
  have members : document.toJson = .object (("openapi", .string document.openapi) ::
      ("info", document.info.toJson) ::
      (Value.listMember "servers" serverToJson document.servers ++
      [("paths", Value.ofMap PathItem.toJson document.paths),
        ("components", .object [("schemas", Value.ofMap Schema.toJson document.schemas)])])) := by
    simp [Document.toJson]
  rw [members]
  apply Recovers.record (by decide)
  apply Completes.field (Restores.text document.openapi)
  apply Completes.field (info_recovered document.info)
  apply Completes.optional (recovered_list_member rfl fun url _ => server_recovered url)
  apply Completes.field (Recovers.map fun entry listed => path_item_recovered ?_)
  apply Completes.field (components_recovered ?_)
  · exact .done
  · exact fun name schema found => apart schema (.component found)
  · intro method operation held schema shows
    exact apart schema (.operation (SortedMap.mem_entries_iff.mp listed) held shows)

namespace Document

theorem read_text {document : Document} (apart : document.NamesApart)
    (shallow : document.toJson.nesting < Json.depthLimit) {text : String}
    (reads : Json.Source.read text = (document.toJson.source, false)) :
    Json.readText readDocument text = .ok document := by
  have top := (recovered apart).reads Json.depthLimit shallow
  simp only [Json.readText, reads, top, bind, Except.bind, Bool.false_eq_true, if_false]

/-- Reading a document undoes writing it, in either layout, so that what was read is written as the
same text again. -/
theorem read_written {document : Document} (apart : document.NamesApart)
    (shallow : document.toJson.nesting < Json.depthLimit) :
    (Json.readText readDocument document.render = .ok document ∧
      Json.readText readDocument document.toJson.compact = .ok document) ∧
    (Json.readText readDocument document.render).map render = .ok document.render ∧
      (Json.readText readDocument document.toJson.compact).map (·.toJson.compact) =
        .ok document.toJson.compact := by
  have plain := (recovered apart).plain
  have pretty : Json.readText readDocument document.render = .ok document := by
    apply read_text apart shallow
    have newLine : Value.newline 0 = "\n" := rfl
    rw [render, ← newLine]
    exact Json.Source.read_of_reads_as plain ((plain.pretty_reads 0).then_new_line 0)
  have compact : Json.readText readDocument document.toJson.compact = .ok document :=
    read_text apart shallow (Json.Source.read_compact plain)
  rw [pretty, compact]
  exact ⟨⟨rfl, rfl⟩, rfl, rfl⟩

/-- A document with a parameter, a response and an object whose properties are not in the order of
their names. -/
def sample : Document :=
  { openapi := formatVersion
    info := ⟨"Pets", "1.0", none⟩
    servers := ["/v1"]
    paths := .singleton "/pets" {
      get := some {
        operationId := "listPets"
        summary := none
        description := some ""
        tags := ["pets"]
        parameters := [⟨"limit", .query, none, false, .primitive .int32⟩]
        requestBody := none
        responses := .singleton 200 (.json "All pets" (.component "Pet")) } }
    schemas := .singleton "Pet" ((Schema.object.withProperty "name" (.primitive .string) true
      ).withProperty "age" (.primitive .int) false) }

theorem found_in_singleton {κ α : Type} [Ord κ] [Std.TransOrd κ] [Std.LawfulEqOrd κ] {key other : κ}
    {value item : α} (found : (SortedMap.singleton key value).get? other = some item) :
    other = key ∧ item = value := by
  have listed := SortedMap.mem_entries_iff.mpr found
  simpa using List.mem_singleton.mp listed

theorem sample_names_apart : sample.NamesApart := by
  intro schema shows
  cases shows with
  | @operation path item method operation _ found slot shows =>
      obtain ⟨rfl, rfl⟩ := found_in_singleton found
      cases method <;> cases slot
      cases shows with
      | parameter listed =>
          cases List.mem_singleton.mp listed
          exact Schema.primitive_names_apart .int32
      | requestBody has _ => cases has
      | response has shows =>
          obtain ⟨rfl, rfl⟩ := found_in_singleton has
          obtain ⟨content, held, shows⟩ := shows
          cases held
          rw [json_content_shows shows]
          exact Schema.component_names_apart "Pet"
  | component found =>
      obtain ⟨rfl, rfl⟩ := found_in_singleton found
      apply Schema.NamesApart.with_property _ (Schema.primitive_names_apart .int)
      exact Schema.object_names_apart.with_property (Schema.primitive_names_apart .string) _ _

/-- The sample, written with its line break, is read back with its properties in their order. -/
theorem sample_read_written :
    sample.NamesApart ∧ sample.toJson.nesting < Json.depthLimit ∧
      Json.readText readDocument sample.render = .ok sample ∧
      Json.readText readDocument sample.toJson.compact = .ok sample := by
  have shallow : sample.toJson.nesting < Json.depthLimit := by decide
  exact ⟨sample_names_apart, shallow, (read_written sample_names_apart shallow).1⟩

end Document

end ApiCompiler.OpenApi

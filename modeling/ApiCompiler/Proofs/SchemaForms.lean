import ApiCompiler.Proofs.DocumentSchemas
import ApiCompiler.Schema.Json

/-!
The forms of the schemas in a document. A reference stands alone, also where a description is
wanted: it is then wrapped. Everything else is a primitive, an array or an object, and an object
requires properties that it has.
-/

set_option autoImplicit false

namespace ApiCompiler

open Json (Value)

namespace Schema

/-- What a schema is, without the schemas inside it. -/
inductive HasForm : Schema → Prop
  | reference (target : String) : HasForm { reference := some target }
  | wrapped (target text : String) :
      HasForm { allOf := [{ reference := some target }], description := some text }
  | primitive (kind : Kind) (description : Option String) :
      HasForm { type := some kind.schemaType.1, format := kind.schemaType.2, description }
  | array (items : Schema) (description : Option String) :
      HasForm { type := some "array", items := some items, description }
  | object {properties : List (String × Schema)} {required : List String}
      (description : Option String) (distinct : (properties.map (·.1)).Nodup)
      (once : required.Nodup) (ordered : required.Sublist (properties.map (·.1))) :
      HasForm { type := some "object", properties := some properties, required, description }

/-- All schemas inside a schema, and the schema itself, have one of the forms. -/
def WellFormed (schema : Schema) : Prop := ∀ node, schema.Contains node → node.HasForm

variable {schema items : Schema}

/-- A reference is written without another member. -/
theorem HasForm.reference_alone (form : schema.HasForm) {target : String}
    (refers : schema.reference = some target) :
    schema.toJson = .object [("$ref", .string target)] := by
  cases form with
  | reference =>
      cases refers
      rfl
  | wrapped => cases refers
  | primitive => cases refers
  | array => cases refers
  | object => cases refers

theorem HasForm.with_description (form : schema.HasForm) (description : Option String) :
    (schema.withDescription description).HasForm := by
  cases description with
  | none => exact form
  | some text =>
      cases form with
      | reference target => exact .wrapped target text
      | wrapped target => exact .wrapped target text
      | primitive kind => exact .primitive kind (some text)
      | array items => exact .array items (some text)
      | object _ distinct once ordered => exact .object (some text) distinct once ordered

theorem WellFormed.with_description (wellFormed : schema.WellFormed) (description : Option String) :
    (schema.withDescription description).WellFormed := by
  have form := (wellFormed schema (.self schema)).with_description description
  cases description with
  | none => exact wellFormed
  | some text =>
      unfold withDescription at form ⊢
      split_ifs at form ⊢
      · refine every_node form ?_ (by simp) (by simp)
        intro part listed
        rw [List.mem_singleton.mp listed]
        exact wellFormed
      · exact every_node form (fun part listed node inner => wellFormed node (.part listed inner))
          (fun items has node inner => wellFormed node (.items has inner))
          (fun properties has entry listed node inner =>
            wellFormed node (.property has listed inner))

/-! ### The schemas that are made -/

theorem component_well_formed (name : String) : (component name).WellFormed :=
  every_node (.reference _) (by simp [component]) (by simp [component]) (by simp [component])

theorem primitive_well_formed (kind : Kind) : (primitive kind).WellFormed :=
  every_node (.primitive kind none) (by simp [primitive]) (by simp [primitive])
    (by simp [primitive])

theorem array_well_formed (wellFormed : items.WellFormed) : (array items).WellFormed := by
  refine every_node (.array items none) (by simp [array]) ?_ (by simp [array])
  intro found has
  cases has
  exact wellFormed

theorem object_well_formed {properties : List (String × Schema)} {required : List String}
    (distinct : (properties.map (·.1)).Nodup) (ordered : required.Sublist (properties.map (·.1)))
    (each : ∀ entry ∈ properties, entry.2.WellFormed) :
    ({ type := some "object", properties := some properties, required } : Schema).WellFormed := by
  refine every_node (.object none distinct (distinct.sublist ordered) ordered) (by simp) (by simp)
    ?_
  intro found has
  cases has
  exact each

theorem error_response_well_formed : errorResponse.WellFormed := by
  have texts : ∀ entry ∈ [("code", primitive .string), ("message", primitive .string)],
      entry.2.WellFormed := by
    simp [primitive_well_formed]
  have detail : ∀ entry ∈ [("error", errorDetail)], entry.2.WellFormed := by
    intro entry listed
    rw [List.mem_singleton.mp listed]
    exact object_well_formed (by decide) (.refl _) texts
  have envelope : (object.withProperty "error" errorDetail true).WellFormed :=
    object_well_formed (by decide) (.refl _) detail
  exact envelope.with_description (some "Error envelope returned by every failing request")

end Schema

namespace Manifest

variable {manifest : Manifest} {named : String → Option String} {id : String} {schema : Schema}
  {fields : List Field} {uses : List Schema}

theorem Translates.well_formed (translates : manifest.Translates named id schema) :
    schema.WellFormed := by
  induction translates with
  | primitive resolved => exact Schema.primitive_well_formed _
  | slice resolved _ induction => exact (Schema.array_well_formed induction).with_description _
  | struct resolved known => exact Schema.component_well_formed _

theorem TranslatesFields.property_names (each : manifest.TranslatesFields named fields uses) :
    (Schema.propertiesOf fields uses).map (·.1) = fields.map (·.jsonName) := by
  induction each with
  | nil => rfl
  | cons own _ induction => rw [Schema.properties_of_cons, List.map_cons, induction, List.map_cons]

theorem TranslatesFields.well_formed (each : manifest.TranslatesFields named fields uses) :
    ∀ entry ∈ Schema.propertiesOf fields uses, entry.2.WellFormed := by
  induction each with
  | nil => simp [Schema.propertiesOf]
  | cons own _ induction =>
      rw [Schema.properties_of_cons, List.forall_mem_cons]
      exact ⟨own.well_formed.with_description _, induction⟩

/-- The required properties are listed in the order of the fields, of which no two share a name. -/
theorem Describes.well_formed (distinct : manifest.DistinctBodies)
    (describes : manifest.Describes named id schema) : schema.WellFormed := by
  obtain ⟨entry, uses, resolved, each, rfl⟩ := describes
  have names := each.property_names
  have apart := distinct id entry resolved
  rw [← names] at apart
  have ordered : ((entry.body.filter (·.required)).map (·.jsonName)).Sublist
      ((Schema.propertiesOf entry.body uses).map (·.1)) := by
    rw [names]
    exact List.filter_sublist.map _
  exact (Schema.object_well_formed apart ordered each.well_formed).with_description entry.doc

end Manifest

namespace OpenApi

variable {manifest : Manifest} {named : String → Option String} {schema : Schema}

theorem bound_schema_well_formed (binding : FieldBinding) (kind : Kind) :
    (boundSchema binding kind).WellFormed := by
  unfold boundSchema
  split_ifs
  · exact Schema.array_well_formed (Schema.primitive_well_formed kind)
  · exact Schema.primitive_well_formed kind

theorem Origin.well_formed (distinct : manifest.DistinctBodies)
    (origin : Origin manifest named schema) : schema.WellFormed := by
  cases origin with
  | bound binding kind => exact bound_schema_well_formed binding kind
  | body translates => exact translates.well_formed
  | failure => exact Schema.component_well_formed _
  | envelope => exact Schema.error_response_well_formed
  | struct describes => exact describes.well_formed distinct

/-- The document of an accepted manifest has an operation for each endpoint. Every schema inside it
has one of the forms, and a reference is written as an object with nothing else in it. -/
theorem document_nodes_have_forms (manifest : Manifest) (validated : manifest.validate = .ok ())
    (config : Config) : ∃ document,
      documentOf manifest config manifest.canonicalEndpoints
        (.ofEndpoints manifest.canonicalEndpoints) = .ok document ∧
      document.Covers manifest ∧
      ∀ schema, document.Shows schema → ∀ node, schema.Contains node → node.HasForm ∧
        ∀ target, node.reference = some target →
          node.toJson = .object [("$ref", .string target)] := by
  have wellFormed := Manifest.well_formed_of_validate validated
  obtain ⟨document, built⟩ := document_succeeds wellFormed config
  obtain ⟨registry, operations, walked, schemas, has⟩ := document_walk wellFormed built
  refine ⟨document, built, has.covers, ?_⟩
  intro schema shows node inside
  have origin := shown_origin walked.grows.consistent schemas has shows
  have form := origin.well_formed wellFormed.distinct_bodies node inside
  exact ⟨form, fun target => form.reference_alone⟩

/-- Visits are listed, each with a guest and with those who came along. -/
def guestBook : Manifest := { Manifest.empty with
  endpoints := [⟨.get, "/visits", ⟨"crate::visits", "list"⟩, .noReqResp, none, some "Visits",
    none, []⟩]
  types := .ofList [
    ("Visit", ⟨"", .struct, [⟨"Guest", "guest", "Guest", true, some "Who came."⟩,
      ⟨"Others", "others", "[]Guest", false, some "Who came along."⟩], none, none⟩),
    ("Guest", ⟨"", .struct, [⟨"Name", "name", "string", true, none⟩], none, some "A guest."⟩),
    ("Visits", ⟨"", .slice, [], some "Visit", some "The latest visit comes first."⟩)] }

theorem guest_book_forms : guestBook.validate = .ok () ∧ ∃ document,
    documentOf guestBook {} guestBook.canonicalEndpoints
      (.ofEndpoints guestBook.canonicalEndpoints) = .ok document ∧
    document.Covers guestBook ∧
    ∀ schema, document.Shows schema → ∀ node, schema.Contains node → node.HasForm ∧
      ∀ target, node.reference = some target →
        node.toJson = .object [("$ref", .string target)] := by
  have validated : guestBook.validate = .ok () := by decide +kernel
  exact ⟨validated, document_nodes_have_forms guestBook validated {}⟩

end OpenApi

end ApiCompiler

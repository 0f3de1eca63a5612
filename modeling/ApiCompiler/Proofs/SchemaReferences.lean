import ApiCompiler.Schema.Basic
import Mathlib.Data.List.Basic

/-!
The references inside a schema: which components the schema needs.
-/

set_option autoImplicit false

namespace ApiCompiler.Schema

/-- A schema and all schemas inside it. -/
inductive Contains : Schema → Schema → Prop
  | self (schema : Schema) : Contains schema schema
  | part {schema part node : Schema} (member : part ∈ schema.allOf) (inner : Contains part node) :
      Contains schema node
  | items {schema items node : Schema} (has : schema.items = some items)
      (inner : Contains items node) : Contains schema node
  | property {schema part node : Schema} {properties : List (String × Schema)} {name : String}
      (has : schema.properties = some properties) (member : (name, part) ∈ properties)
      (inner : Contains part node) : Contains schema node

/-- What holds of a schema and of all schemas inside its parts holds of all schemas inside it. -/
theorem every_node {P : Schema → Prop} {schema : Schema} (own : P schema)
    (parts : ∀ part ∈ schema.allOf, ∀ node, part.Contains node → P node)
    (items : ∀ items, schema.items = some items → ∀ node, items.Contains node → P node)
    (properties : ∀ properties, schema.properties = some properties →
      ∀ entry ∈ properties, ∀ node, entry.2.Contains node → P node) :
    ∀ node, schema.Contains node → P node := by
  intro node inside
  cases inside with
  | self => exact own
  | part member inner => exact parts _ member node inner
  | items has inner => exact items _ has node inner
  | property has member inner => exact properties _ has _ member node inner

/-- Every reference in a schema is to a component with a known name. -/
def RefersOnlyTo (known : String → Prop) (schema : Schema) : Prop :=
  ∀ node, schema.Contains node → ∀ target, node.reference = some target →
    ∃ name, known name ∧ target = referenceTo name

variable {known : String → Prop} {schema items : Schema}

theorem RefersOnlyTo.mono {wider : String → Prop} (grows : ∀ name, known name → wider name)
    (refers : schema.RefersOnlyTo known) : schema.RefersOnlyTo wider := by
  intro node inside target own
  obtain ⟨name, isKnown, same⟩ := refers node inside target own
  exact ⟨name, grows name isKnown, same⟩

theorem RefersOnlyTo.part {part : Schema} (refers : schema.RefersOnlyTo known)
    (member : part ∈ schema.allOf) : part.RefersOnlyTo known :=
  fun node inner => refers node (.part member inner)

theorem RefersOnlyTo.element (refers : schema.RefersOnlyTo known)
    (has : schema.items = some items) : items.RefersOnlyTo known :=
  fun node inner => refers node (.items has inner)

theorem RefersOnlyTo.property {part : Schema} {properties : List (String × Schema)} {name : String}
    (refers : schema.RefersOnlyTo known) (has : schema.properties = some properties)
    (member : (name, part) ∈ properties) : part.RefersOnlyTo known :=
  fun node inner => refers node (.property has member inner)

theorem refers_only_of_parts
    (own : ∀ target, schema.reference = some target →
      ∃ name, known name ∧ target = referenceTo name)
    (parts : ∀ part ∈ schema.allOf, part.RefersOnlyTo known)
    (items : ∀ items, schema.items = some items → items.RefersOnlyTo known)
    (properties : ∀ properties, schema.properties = some properties →
      ∀ entry ∈ properties, entry.2.RefersOnlyTo known) : schema.RefersOnlyTo known :=
  every_node own parts items properties

theorem refers_only_of_leaf (parts : schema.allOf = []) (items : schema.items = none)
    (properties : schema.properties = none)
    (own : ∀ target, schema.reference = some target →
      ∃ name, known name ∧ target = referenceTo name) : schema.RefersOnlyTo known := by
  apply refers_only_of_parts own
  · simp [parts]
  · simp [items]
  · simp [properties]

theorem component_refers_only {name : String} (isKnown : known name) :
    (component name).RefersOnlyTo known :=
  refers_only_of_leaf rfl rfl rfl fun _ own => ⟨name, isKnown, (Option.some.inj own).symm⟩

theorem primitive_refers_only (kind : Kind) : (primitive kind).RefersOnlyTo known := by
  apply refers_only_of_leaf rfl rfl rfl
  intro target own
  cases own

theorem array_refers_only (refers : items.RefersOnlyTo known) :
    (array items).RefersOnlyTo known := by
  apply refers_only_of_parts
  · intro target own
    cases own
  · intro part member
    cases member
  · intro found has
    cases has
    exact refers
  · intro properties has
    cases has

theorem object_refers_only {properties : List (String × Schema)} {required : List String}
    (each : ∀ entry ∈ properties, entry.2.RefersOnlyTo known) :
    ({ type := some "object", properties := some properties, required } : Schema).RefersOnlyTo
      known := by
  apply refers_only_of_parts
  · intro target own
    cases own
  · intro part member
    cases member
  · intro items has
    cases has
  · intro found has
    cases has
    exact each

theorem RefersOnlyTo.with_description (refers : schema.RefersOnlyTo known)
    (description : Option String) : (schema.withDescription description).RefersOnlyTo known := by
  cases description with
  | none => exact refers
  | some text =>
      unfold withDescription
      split_ifs
      · apply refers_only_of_parts
        · intro target own
          cases own
        · intro part member
          rw [List.mem_singleton.mp member]
          exact refers
        · intro items has
          cases has
        · intro properties has
          cases has
      · apply refers_only_of_parts
        · exact refers schema (.self schema)
        · exact fun part member => refers.part member
        · exact fun items has => refers.element has
        · exact fun properties has entry member => refers.property has member

/-- A description neither adds a reference nor takes one away. -/
theorem refers_only_with_description_iff {description : Option String} :
    (schema.withDescription description).RefersOnlyTo known ↔ schema.RefersOnlyTo known := by
  refine ⟨?_, fun refers => refers.with_description description⟩
  intro refers
  cases description with
  | none => exact refers
  | some text =>
      unfold withDescription at refers
      split_ifs at refers
      · exact refers.part List.mem_cons_self
      · have own := refers _ (.self _)
        apply refers_only_of_parts
        · exact own
        · exact fun part member => refers.part member
        · exact fun items has => refers.element has
        · exact fun properties has entry member => refers.property has member

theorem reference_to_injective {name other : String} (same : referenceTo name = referenceTo other) :
    name = other := by
  unfold referenceTo at same
  simpa using same

theorem component_refers_only_iff {name : String} :
    (component name).RefersOnlyTo known ↔ known name := by
  refine ⟨?_, component_refers_only⟩
  intro refers
  obtain ⟨other, isKnown, same⟩ := refers (component name) (.self _) _ rfl
  rwa [reference_to_injective same]

/-- What the error envelope holds. -/
def errorDetail : Schema :=
  (object.withProperty "code" (primitive .string) true).withProperty "message"
    (primitive .string) true

theorem error_response_refers_only : errorResponse.RefersOnlyTo known := by
  have texts : ∀ entry ∈ [("code", primitive .string), ("message", primitive .string)],
      entry.2.RefersOnlyTo known := by
    simp [primitive_refers_only]
  have detail : ∀ entry ∈ [("error", errorDetail)], entry.2.RefersOnlyTo known := by
    intro entry member
    rw [List.mem_singleton.mp member]
    exact object_refers_only texts
  have envelope : (object.withProperty "error" errorDetail true).RefersOnlyTo known :=
    object_refers_only detail
  exact envelope.with_description (some "Error envelope returned by every failing request")

end ApiCompiler.Schema

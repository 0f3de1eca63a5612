import ApiCompiler.Manifest.Resolve
import ApiCompiler.Proofs.SchemaReferences
import Mathlib.Data.List.Forall2
import Mathlib.Logic.Relation

/-!
The schema of a type, said without a registry: once the structs have names, every use of a type has
one schema, and so has the body of every struct.
-/

set_option autoImplicit false

namespace ApiCompiler

open Relation (ReflTransGen)

/-- The fields that a struct has in a body. -/
def TypeEntry.body (entry : TypeEntry) : List Field := entry.fields.filter Field.inBody

/-- One property for each field, in the order of the fields. -/
def Schema.propertiesOf (fields : List Field) (uses : List Schema) : List (String × Schema) :=
  List.zipWith (fun field use => (field.jsonName, use.withDescription field.doc)) fields uses

theorem Schema.properties_of_cons (field : Field) (fields : List Field) (use : Schema)
    (uses : List Schema) :
    propertiesOf (field :: fields) (use :: uses) =
      (field.jsonName, use.withDescription field.doc) :: propertiesOf fields uses := rfl

theorem Schema.primitive_not_array (kind : Kind) : (primitive kind).type ≠ some "array" := by
  cases kind <;> decide

theorem Schema.type_with_description {schema : Schema} (own : schema.reference = none)
    (description : Option String) : (schema.withDescription description).type = schema.type := by
  cases description with
  | none => rfl
  | some text => simp [withDescription, own]

/-- The schema of a struct whose body fields have the given schemas. -/
def TypeEntry.objectOf (entry : TypeEntry) (uses : List Schema) : Schema :=
  Schema.withDescription {
    type := some "object"
    properties := some (Schema.propertiesOf entry.body uses)
    required := (entry.body.filter (·.required)).map (·.jsonName) } entry.doc

namespace Manifest

/-- One type-id refers to another one in a body: as a struct to the types of its body fields, or as
a slice to its element. -/
inductive BodyRefers (manifest : Manifest) : String → String → Prop
  | field {id name : String} {entry : TypeEntry} {field : Field}
      (resolved : manifest.resolve id = .ok (.struct name entry)) (member : field ∈ entry.body) :
      BodyRefers manifest id field.typeId
  | elem {id elem : String} (resolved : manifest.resolve id = .ok (.slice elem)) :
      BodyRefers manifest id elem

def BodyReaches (manifest : Manifest) : String → String → Prop := ReflTransGen manifest.BodyRefers

def IsStruct (manifest : Manifest) (id : String) : Prop :=
  ∃ entry, manifest.resolve id = .ok (.struct id entry)

/-- The schema of one use of a type: structs by their names, slices in place. -/
inductive Translates (manifest : Manifest) (named : String → Option String) : String → Schema → Prop
  | primitive {id : String} {kind : Kind} (resolved : manifest.resolve id = .ok (.primitive kind)) :
      Translates manifest named id (.primitive kind)
  | slice {id elem : String} {items : Schema} (resolved : manifest.resolve id = .ok (.slice elem))
      (element : Translates manifest named elem items) :
      Translates manifest named id
        ((Schema.array items).withDescription ((manifest.types.get? id).bind (·.doc)))
  | struct {id name : String} {entry : TypeEntry}
      (resolved : manifest.resolve id = .ok (.struct id entry)) (known : named id = some name) :
      Translates manifest named id (.component name)

/-- The schemas of fields, one by one. -/
def TranslatesFields (manifest : Manifest) (named : String → Option String) :
    List Field → List Schema → Prop :=
  List.Forall₂ fun field use => manifest.Translates named field.typeId use

/-- The schema of the body of a struct. -/
def Describes (manifest : Manifest) (named : String → Option String) (id : String)
    (schema : Schema) : Prop :=
  ∃ entry uses, manifest.resolve id = .ok (.struct id entry) ∧
    manifest.TranslatesFields named entry.body uses ∧ schema = entry.objectOf uses

variable {manifest : Manifest} {named : String → Option String} {id next : String}
  {schema other : Schema}

theorem Translates.mono {wider : String → Option String}
    (grows : ∀ id name, named id = some name → wider id = some name)
    (translates : manifest.Translates named id schema) : manifest.Translates wider id schema := by
  induction translates with
  | primitive resolved => exact .primitive resolved
  | slice resolved _ induction => exact .slice resolved induction
  | struct resolved known => exact .struct resolved (grows _ _ known)

theorem TranslatesFields.mono {wider : String → Option String} {fields : List Field}
    {uses : List Schema} (grows : ∀ id name, named id = some name → wider id = some name)
    (each : manifest.TranslatesFields named fields uses) :
    manifest.TranslatesFields wider fields uses :=
  List.Forall₂.imp (fun _ _ translates => translates.mono grows) each

theorem Describes.mono {wider : String → Option String}
    (grows : ∀ id name, named id = some name → wider id = some name)
    (describes : manifest.Describes named id schema) : manifest.Describes wider id schema := by
  obtain ⟨entry, uses, resolved, each, same⟩ := describes
  exact ⟨entry, uses, resolved, each.mono grows, same⟩

theorem Translates.unique (first : manifest.Translates named id schema)
    (second : manifest.Translates named id other) : schema = other := by
  induction first generalizing other with
  | primitive resolved =>
      cases second with
      | primitive resolved' => simp_all
      | slice resolved' => simp_all
      | struct resolved' => simp_all
  | slice resolved _ induction =>
      cases second with
      | primitive resolved' => simp_all
      | slice resolved' element =>
          rw [resolved] at resolved'
          cases resolved'
          rw [induction element]
      | struct resolved' => simp_all
  | struct resolved known =>
      cases second with
      | primitive resolved' => simp_all
      | slice resolved' => simp_all
      | struct resolved' known' => simp_all

theorem TranslatesFields.unique {fields : List Field} {first second : List Schema}
    (each : manifest.TranslatesFields named fields first)
    (each' : manifest.TranslatesFields named fields second) : first = second := by
  induction each generalizing second with
  | nil =>
      cases each'
      rfl
  | cons own _ induction =>
      cases each' with
      | cons own' others' => rw [own.unique own', induction others']

theorem Describes.unique (first : manifest.Describes named id schema)
    (second : manifest.Describes named id other) : schema = other := by
  obtain ⟨entry, uses, resolved, each, rfl⟩ := first
  obtain ⟨entry', uses', resolved', each', rfl⟩ := second
  rw [resolved] at resolved'
  cases resolved'
  rw [each.unique each']

/-- Only slices are translated as arrays. -/
theorem Translates.array_iff (translates : manifest.Translates named id schema) :
    schema.type = some "array" ↔ manifest.isSlice id = true := by
  cases translates with
  | primitive resolved => simp [isSlice, resolved, Schema.primitive_not_array]
  | slice resolved => simp [isSlice, resolved, Schema.type_with_description, Schema.array]
  | struct resolved => simp [isSlice, resolved, Schema.component]

/-! ### What a schema needs, and what a type reaches -/

/-- A schema refers to structs that its type-id reaches. -/
theorem Translates.refers_reached (translates : manifest.Translates named id schema) :
    schema.RefersOnlyTo fun name =>
      ∃ other, manifest.BodyReaches id other ∧ named other = some name := by
  induction translates with
  | primitive resolved => exact Schema.primitive_refers_only _
  | slice resolved _ induction =>
      refine (Schema.array_refers_only (induction.mono ?_)).with_description _
      intro name parts
      rcases parts with ⟨other, reaches, known⟩
      exact ⟨other, .head (.elem resolved) reaches, known⟩
  | struct resolved known => exact Schema.component_refers_only ⟨_, .refl, known⟩

theorem Translates.refers_only (translates : manifest.Translates named id schema) :
    schema.RefersOnlyTo fun name => ∃ id, named id = some name :=
  translates.refers_reached.mono fun _ ⟨other, _, known⟩ => ⟨other, known⟩

theorem TranslatesFields.refers_only {fields : List Field} {uses : List Schema}
    (each : manifest.TranslatesFields named fields uses) :
    ∀ entry ∈ Schema.propertiesOf fields uses,
      entry.2.RefersOnlyTo fun name => ∃ id, named id = some name := by
  induction each with
  | nil => simp [Schema.propertiesOf]
  | cons own _ induction =>
      rw [Schema.properties_of_cons, List.forall_mem_cons]
      exact ⟨own.refers_only.with_description _, induction⟩

theorem Describes.refers_only (describes : manifest.Describes named id schema) :
    schema.RefersOnlyTo fun name => ∃ id, named id = some name := by
  obtain ⟨entry, uses, resolved, each, rfl⟩ := describes
  exact (Schema.object_refers_only each.refers_only).with_description _

/-- Names that a schema does not refer to may be taken away. -/
theorem Translates.restrict {known : String → Prop} {narrower : String → Option String}
    (keeps : ∀ id name, named id = some name → known name → narrower id = some name)
    (translates : manifest.Translates named id schema) (refers : schema.RefersOnlyTo known) :
    manifest.Translates narrower id schema := by
  induction translates with
  | primitive resolved => exact .primitive resolved
  | slice resolved _ induction =>
      have items := Schema.refers_only_with_description_iff.mp refers
      exact .slice resolved (induction (items.element rfl))
  | struct resolved given =>
      exact .struct resolved (keeps _ _ given (Schema.component_refers_only_iff.mp refers))

theorem TranslatesFields.restrict {known : String → Prop} {narrower : String → Option String}
    (keeps : ∀ id name, named id = some name → known name → narrower id = some name)
    {fields : List Field} {uses : List Schema}
    (each : manifest.TranslatesFields named fields uses)
    (refer : ∀ entry ∈ Schema.propertiesOf fields uses, entry.2.RefersOnlyTo known) :
    manifest.TranslatesFields narrower fields uses := by
  induction each with
  | nil => exact .nil
  | cons own _ induction =>
      rw [Schema.properties_of_cons, List.forall_mem_cons] at refer
      exact .cons (own.restrict keeps (Schema.refers_only_with_description_iff.mp refer.1))
        (induction refer.2)

theorem Describes.restrict {known : String → Prop} {narrower : String → Option String}
    (keeps : ∀ id name, named id = some name → known name → narrower id = some name)
    (describes : manifest.Describes named id schema) (refers : schema.RefersOnlyTo known) :
    manifest.Describes narrower id schema := by
  obtain ⟨entry, uses, resolved, each, rfl⟩ := describes
  have object := Schema.refers_only_with_description_iff.mp refers
  exact ⟨entry, uses, resolved, each.restrict keeps fun entry listed => object.property rfl listed,
    rfl⟩

theorem TranslatesFields.field {fields : List Field} {uses : List Schema} {field : Field}
    (each : manifest.TranslatesFields named fields uses) (member : field ∈ fields) :
    ∃ use, manifest.Translates named field.typeId use := by
  induction each with
  | nil => cases member
  | cons own _ induction =>
      rcases List.mem_cons.mp member with rfl | later
      · exact ⟨_, own⟩
      · exact induction later

/-- If all named structs are described, whatever a translated type refers to is translated too. -/
theorem Translates.reference (described : ∀ id name, named id = some name →
      ∃ schema, manifest.Describes named id schema)
    (translates : manifest.Translates named id schema) (refers : manifest.BodyRefers id next) :
    ∃ schema, manifest.Translates named next schema := by
  cases refers with
  | field resolved member =>
      cases translates with
      | primitive resolved' => simp_all
      | slice resolved' => simp_all
      | struct resolved' known =>
          obtain ⟨_, entry, uses, own, each, _⟩ := described _ _ known
          rw [resolved] at own
          cases own
          exact each.field member
  | elem resolved =>
      cases translates with
      | primitive resolved' => simp_all
      | slice resolved' element =>
          rw [resolved] at resolved'
          cases resolved'
          exact ⟨_, element⟩
      | struct resolved' => simp_all

theorem Translates.reached (described : ∀ id name, named id = some name →
      ∃ schema, manifest.Describes named id schema)
    (translates : manifest.Translates named id schema) (reaches : manifest.BodyReaches id next) :
    ∃ schema, manifest.Translates named next schema := by
  induction reaches with
  | refl => exact ⟨schema, translates⟩
  | tail _ refers induction =>
      obtain ⟨between, translates⟩ := induction
      exact translates.reference described refers

end Manifest

end ApiCompiler

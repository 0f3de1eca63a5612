import ApiCompiler.Proofs.SchemaRegistry

/-!
Walks translate. Whatever a registry already holds, the walk from a type-id gives the translation of
that type-id, and leaves a registry in which all that the translation needs has been entered.
-/

set_option autoImplicit false

namespace ApiCompiler

open SchemaRegistry (Adds Grows)

namespace Schema

theorem put_property_fresh {name : String} {properties : List (String × Schema)}
    (fresh : name ∉ properties.map (·.1)) (schema : Schema) :
    putProperty name schema properties = properties ++ [(name, schema)] := by
  induction properties with
  | nil => rfl
  | cons entry rest induction =>
      obtain ⟨other, old⟩ := entry
      rw [List.map_cons, List.mem_cons, not_or] at fresh
      rw [putProperty, if_neg (Ne.symm fresh.1), induction fresh.2, List.cons_append]

theorem mem_put_property {name : String} {part : Schema} {properties : List (String × Schema)}
    {entry : String × Schema} (listed : entry ∈ putProperty name part properties) :
    entry = (name, part) ∨ entry ∈ properties := by
  induction properties with
  | nil => exact .inl (List.mem_singleton.mp listed)
  | cons first rest induction =>
      rw [putProperty] at listed
      split_ifs at listed
      · exact (List.mem_cons.mp listed).imp_right (List.mem_cons_of_mem _)
      · rcases List.mem_cons.mp listed with rfl | later
        · exact .inr List.mem_cons_self
        · exact (induction later).imp_right (List.mem_cons_of_mem _)

/-- Adds one body field to an object. -/
def addField (object : Schema) (entry : Field × Schema) : Schema :=
  object.withProperty entry.1.jsonName (entry.2.withDescription entry.1.doc) entry.1.required

/-- Fields with distinct names are added behind each other. -/
theorem add_fields_eq {fields : List Field} {uses : List Schema}
    (aligned : fields.length = uses.length) {properties : List (String × Schema)}
    (distinct : (properties.map (·.1) ++ fields.map (·.jsonName)).Nodup) (required : List String) :
    (fields.zip uses).foldl addField
        { type := some "object", properties := some properties, required } =
      { type := some "object"
        properties := some (properties ++ propertiesOf fields uses)
        required := required ++ (fields.filter (·.required)).map (·.jsonName) } := by
  induction fields generalizing uses properties required with
  | nil => simp [propertiesOf]
  | cons field rest induction =>
      cases uses with
      | nil => cases aligned
      | cons use others =>
          have fresh : field.jsonName ∉ properties.map (·.1) := by
            rw [List.map_cons, List.nodup_append] at distinct
            exact fun listed => distinct.2.2 _ listed _ List.mem_cons_self rfl
          have added : addField { type := some "object", properties := some properties, required }
              (field, use) =
              { type := some "object"
                properties := some
                  (properties ++ [(field.jsonName, use.withDescription field.doc)])
                required :=
                  if field.required then required ++ [field.jsonName] else required } := by
            rw [addField, withProperty, Option.getD_some, put_property_fresh fresh]
          rw [List.zip_cons_cons, List.foldl_cons, added, induction (Nat.succ.inj aligned)]
          · rw [properties_of_cons, List.append_assoc, List.singleton_append, List.filter_cons]
            split_ifs <;> simp
          · simpa using distinct

theorem RefersOnlyTo.with_property {known : String → Prop} {object part : Schema}
    (refers : object.RefersOnlyTo known) (inner : part.RefersOnlyTo known) (name : String)
    (required : Bool) : (object.withProperty name part required).RefersOnlyTo known := by
  apply refers_only_of_parts
  · exact refers object (.self object)
  · exact fun part member => refers.part member
  · exact fun items has => refers.element has
  · intro properties has entry listed
    cases has
    rcases mem_put_property listed with rfl | before
    · exact inner
    · cases old : object.properties with
      | none => simp [old] at before
      | some properties => exact refers.property old (by simpa [old] using before)

theorem add_fields_refer_only {known : String → Prop} {entries : List (Field × Schema)}
    (each : ∀ entry ∈ entries, entry.2.RefersOnlyTo known) {object : Schema}
    (refers : object.RefersOnlyTo known) : (entries.foldl addField object).RefersOnlyTo known := by
  induction entries generalizing object with
  | nil => exact refers
  | cons entry rest induction =>
      rw [List.forall_mem_cons] at each
      exact induction each.2 (refers.with_property (each.1.with_description _) _ _)

end Schema

namespace SchemaRegistry

/-- The registry once a type has a name. -/
def naming (registry : SchemaRegistry) (id : String) : SchemaRegistry :=
  { registry with names := (registry.names.nameOf id).2 }

/-- The registry once a struct has a name and is marked as met. -/
def meeting (registry : SchemaRegistry) (id : String) : SchemaRegistry :=
  { registry.naming id with rendered := id :: registry.rendered }

end SchemaRegistry

namespace SchemaWalk

/-- The walk at a struct, which takes up the walk of its body when it is met for the first time. -/
def meet (id : String) (body : SchemaWalk Schema) : SchemaWalk Schema := do
  let name ← nameOf id
  if ← enter id then
    let object ← body
    register name object
  return Schema.component name

/-- What is left of the walk at a struct once the struct has been entered under a name. -/
def fill (name : String) (body : SchemaWalk Schema) : SchemaWalk Schema := do
  let object ← body
  register name object
  return Schema.component name

variable {registry : SchemaRegistry} {id : String}

/-- A struct that is marked already gets its name, if it has none, and nothing else. -/
theorem run_meet_marked (marked : id ∈ registry.rendered) (body : SchemaWalk Schema) :
    (meet id body).run registry =
      (.ok (.component (registry.names.nameOf id).1), registry.naming id) := by
  have asked : (enter id).run (registry.naming id) = (.ok false, registry.naming id) :=
    run_enter_again marked
  rw [meet, run_bind_of (run_name_of id registry)]
  exact run_bind_of asked

theorem run_meet_unmarked (unmarked : id ∉ registry.rendered) (body : SchemaWalk Schema) :
    (meet id body).run registry =
      (fill (registry.names.nameOf id).1 body).run (registry.meeting id) := by
  have asked : (enter id).run (registry.naming id) = (.ok true, registry.meeting id) :=
    run_enter_first unmarked
  rw [meet, run_bind_of (run_name_of id registry)]
  exact run_bind_of asked

/-- A struct that has been entered before changes nothing. -/
theorem run_meet_again {name : String} (known : registry.names.lookup id = some name)
    (entered : id ∈ registry.rendered) (body : SchemaWalk Schema) :
    (meet id body).run registry = (.ok (.component name), registry) := by
  rw [run_meet_marked entered, SchemaRegistry.naming, ComponentNames.name_of_known known]

theorem run_meet_first (fresh : registry.names.lookup id = none)
    (notEntered : id ∉ registry.rendered) (body : SchemaWalk Schema) :
    (meet id body).run registry =
      (fill (registry.names.freshName id) body).run (registry.entering id) := by
  rw [run_meet_unmarked notEntered, SchemaRegistry.meeting, SchemaRegistry.naming,
    ComponentNames.name_of_fresh fresh]
  rfl

end SchemaWalk

namespace Manifest

/-- The schema of the body of a struct, in a manifest that may repeat the name of a field: a later
field then takes the place of an earlier one. -/
def Renders (manifest : Manifest) (named : String → Option String) (id : String)
    (schema : Schema) : Prop :=
  ∃ entry uses, manifest.resolve id = .ok (.struct id entry) ∧
    manifest.TranslatesFields named entry.body uses ∧
      schema = ((entry.body.zip uses).foldl Schema.addField .object).withDescription entry.doc

/-- The names of the body fields of a struct are distinct. -/
def DistinctBodies (manifest : Manifest) : Prop :=
  ∀ id entry, manifest.resolve id = .ok (.struct id entry) →
    (entry.body.map (·.jsonName)).Nodup

variable {manifest : Manifest} {unfinished : List String} {id : String}
  {named : String → Option String} {before between after : SchemaRegistry} {schema : Schema}

theorem Renders.mono {named wider : String → Option String} {id : String} {schema : Schema}
    (grows : ∀ id name, named id = some name → wider id = some name)
    (renders : manifest.Renders named id schema) : manifest.Renders wider id schema := by
  obtain ⟨entry, uses, resolved, each, same⟩ := renders
  exact ⟨entry, uses, resolved, each.mono grows, same⟩

theorem renders_iff_describes (distinct : manifest.DistinctBodies) :
    manifest.Renders named id schema ↔ manifest.Describes named id schema := by
  have built : ∀ {entry : TypeEntry} {uses : List Schema},
      manifest.resolve id = .ok (.struct id entry) →
      manifest.TranslatesFields named entry.body uses →
      ((entry.body.zip uses).foldl Schema.addField .object).withDescription entry.doc =
        entry.objectOf uses := by
    intro entry uses resolved each
    have apart := distinct id entry resolved
    have added := @Schema.add_fields_eq entry.body uses each.length_eq [] apart []
    rw [Schema.object, added]
    rfl
  constructor
  · intro parts
    rcases parts with ⟨entry, uses, resolved, each, same⟩
    exact ⟨entry, uses, resolved, each, same.trans (built resolved each)⟩
  · intro parts
    rcases parts with ⟨entry, uses, resolved, each, same⟩
    exact ⟨entry, uses, resolved, each, same.trans (built resolved each).symm⟩

theorem holds_renders_iff (distinct : manifest.DistinctBodies) :
    before.Holds manifest.Renders unfinished ↔ before.Consistent manifest unfinished :=
  ⟨fun holds => SchemaRegistry.consistent_iff_holds.mpr
      (holds.imp fun _ _ _ => (renders_iff_describes distinct).mp),
    fun consistent => (SchemaRegistry.consistent_iff_holds.mp consistent).imp
      fun _ _ _ => (renders_iff_describes distinct).mpr⟩

/-- A walk that, whenever it gives a schema, gives the translation of a type-id, and finishes every
struct that it enters. -/
def Finishes (manifest : Manifest) (id : String) (walk : SchemaWalk Schema) : Prop :=
  ∀ {unfinished : List String} {before after : SchemaRegistry} {schema : Schema},
    before.Holds manifest.Renders unfinished → walk.run before = (.ok schema, after) →
      after.Holds manifest.Renders unfinished ∧ Adds manifest [id] before after ∧
        manifest.Translates after.names.lookup id schema

theorem fields_walk {schemaOf : String → SchemaWalk Schema} {fields : List Field}
    (each : ∀ field ∈ fields, manifest.Finishes field.typeId (schemaOf field.typeId))
    (holds : before.Holds manifest.Renders unfinished) {object result : Schema}
    (ran : (fields.foldlM (fun object field => do
      let schema ← schemaOf field.typeId
      return object.withProperty field.jsonName (schema.withDescription field.doc) field.required)
      object : SchemaWalk Schema).run before = (.ok result, after)) :
    after.Holds manifest.Renders unfinished ∧
      Adds manifest (fields.map (·.typeId)) before after ∧
      ∃ uses, manifest.TranslatesFields after.names.lookup fields uses ∧
        result = (fields.zip uses).foldl Schema.addField object := by
  induction fields generalizing before object with
  | nil =>
      obtain ⟨rfl, rfl⟩ := SchemaWalk.run_pure_iff.mp ran
      exact ⟨holds, .refl _ [], [], .nil, rfl⟩
  | cons field rest induction =>
      rw [List.foldlM_cons] at ran
      obtain ⟨added, between, first, others⟩ := SchemaWalk.run_bind_ok_iff.mp ran
      obtain ⟨use, _, asked, done⟩ := SchemaWalk.run_bind_ok_iff.mp first
      obtain ⟨rfl, rfl⟩ := SchemaWalk.run_pure_iff.mp done
      rw [List.forall_mem_cons] at each
      obtain ⟨holds, adds, translates⟩ := each.1 holds asked
      obtain ⟨holds, onward, uses, translate, same⟩ := induction each.2 holds others
      exact ⟨holds, adds.trans onward, use :: uses,
        .cons (translates.mono onward.names_kept) translate, same⟩

theorem object_walk {schemaOf : String → SchemaWalk Schema} {entry : TypeEntry}
    (each : ∀ field ∈ entry.body, manifest.Finishes field.typeId (schemaOf field.typeId))
    (holds : before.Holds manifest.Renders unfinished)
    (ran : (objectSchema schemaOf entry).run before = (.ok schema, after)) :
    after.Holds manifest.Renders unfinished ∧
      Adds manifest (entry.body.map (·.typeId)) before after ∧
      ∃ uses, manifest.TranslatesFields after.names.lookup entry.body uses ∧ schema =
        ((entry.body.zip uses).foldl Schema.addField .object).withDescription entry.doc := by
  obtain ⟨object, _, folded, done⟩ := SchemaWalk.run_bind_ok_iff.mp ran
  obtain ⟨rfl, rfl⟩ := SchemaWalk.run_pure_iff.mp done
  obtain ⟨holds, adds, uses, translate, rfl⟩ := fields_walk each holds folded
  exact ⟨holds, adds, uses, translate, rfl⟩

/-- A struct is entered by getting a name. -/
theorem not_rendered (holds : before.Holds manifest.Renders unfinished)
    (fresh : before.names.lookup id = none) : id ∉ before.rendered := by
  rw [holds.entered_iff, fresh]
  intro parts
  rcases parts with ⟨name, impossible⟩
  cases impossible

theorem struct_walk {schemaOf : String → SchemaWalk Schema} {entry : TypeEntry}
    (resolved : manifest.resolve id = .ok (.struct id entry))
    (each : ∀ field ∈ entry.body, manifest.Finishes field.typeId (schemaOf field.typeId)) :
    manifest.Finishes id (SchemaWalk.meet id (objectSchema schemaOf entry)) := by
  intro unfinished before after schema holds ran
  cases known : before.names.lookup id with
  | some earlier =>
      rw [SchemaWalk.run_meet_again known ((holds.entered_iff id).mpr ⟨_, known⟩)] at ran
      cases ran
      exact ⟨holds, .refl _ [id], .struct resolved known⟩
  | none =>
      -- The struct is new: it stays unfinished while its body is walked, and is registered then.
      have notEntered := not_rendered holds known
      rw [SchemaWalk.run_meet_first known notEntered] at ran
      obtain ⟨object, filled, built, ran⟩ := SchemaWalk.run_bind_ok_iff.mp ran
      obtain ⟨_, _, registered, ran⟩ := SchemaWalk.run_bind_ok_iff.mp ran
      rw [SchemaWalk.run_register] at registered
      cases registered
      obtain ⟨rfl, rfl⟩ := SchemaWalk.run_pure_iff.mp ran
      obtain ⟨filledHolds, adds, uses, translate, same⟩ :=
        object_walk each (holds.entering Renders.mono known) built
      have ownName := adds.names_kept id _ (ComponentNames.lookup_fresh_self before.names id)
      have kept := SchemaRegistry.entering_names_kept known
      have renders : manifest.Renders filled.names.lookup id object :=
        ⟨entry, uses, resolved, translate, same⟩
      refine ⟨filledHolds.register ?_ ownName renders, ⟨?_, ?_⟩, .struct resolved ownName⟩
      · exact fun listed => notEntered (holds.unfinished_entered listed)
      · exact fun other name earlier => adds.names_kept other name (kept other name earlier)
      · intro other entered
        rcases adds.reached other entered with earlier | ⟨next, listed, reaches⟩
        · rcases List.mem_cons.mp earlier with rfl | earlier
          · exact .inr ⟨_, List.mem_singleton_self _, .refl⟩
          · exact .inl earlier
        · obtain ⟨field, member, rfl⟩ := List.mem_map.mp listed
          exact .inr ⟨id, List.mem_singleton_self id, .head (.field resolved member) reaches⟩

theorem schema_at_finishes (manifest : Manifest) (depth : Nat) (id : String) :
    manifest.Finishes id (manifest.schemaAt depth id) := by
  induction depth generalizing id with
  | zero =>
      intro unfinished before after schema holds ran
      cases ran
  | succ depth induction =>
      cases resolved : manifest.resolve id with
      | error fault =>
          intro unfinished before after schema holds ran
          rw [schemaAt, resolved] at ran
          cases ran
      | ok target =>
          rw [schemaAt, resolved]
          cases target with
          | primitive kind =>
              intro unfinished before after schema holds ran
              obtain ⟨rfl, rfl⟩ := SchemaWalk.run_pure_iff.mp ran
              exact ⟨holds, .refl _ [id], .primitive resolved⟩
          | slice elem =>
              intro unfinished before after schema holds ran
              obtain ⟨items, _, asked, ran⟩ := SchemaWalk.run_bind_ok_iff.mp ran
              obtain ⟨rfl, rfl⟩ := SchemaWalk.run_pure_iff.mp ran
              obtain ⟨holds, adds, translates⟩ := induction elem holds asked
              refine ⟨holds, adds.from_reference ?_, .slice resolved translates⟩
              intro next listed
              rw [List.mem_singleton.mp listed]
              exact .elem resolved
          | struct name entry =>
              obtain ⟨rfl, _, _⟩ := resolve_struct_iff.mp resolved
              exact struct_walk resolved fun field _ => induction field.typeId

/-- A walk that gives nothing but the translation of a type-id, and keeps registries consistent. -/
def Uses (manifest : Manifest) (id : String) (walk : SchemaWalk Schema) : Prop :=
  ∀ {unfinished : List String} {before after : SchemaRegistry} {schema : Schema},
    before.Consistent manifest unfinished → walk.run before = (.ok schema, after) →
      Grows manifest unfinished [id] before after ∧
        manifest.Translates after.names.lookup id schema

theorem schema_for_uses (distinct : manifest.DistinctBodies) (id : String) :
    manifest.Uses id (manifest.schemaFor id) := by
  intro unfinished before after schema consistent ran
  obtain ⟨holds, adds, translates⟩ := schema_at_finishes manifest (manifest.walkBound id) id
    ((holds_renders_iff distinct).mpr consistent) ran
  exact ⟨SchemaRegistry.grows_iff.mpr ⟨(holds_renders_iff distinct).mp holds, adds⟩, translates⟩

end Manifest

end ApiCompiler

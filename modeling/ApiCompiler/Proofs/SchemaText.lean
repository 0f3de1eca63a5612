import ApiCompiler.Proofs.NestedRecords
import ApiCompiler.Proofs.SchemaComponents
import ApiCompiler.Schema.Json

/-!
Schemas that are read back from their text, with their properties in the order in which they were
written. No two properties of an object share a name.
-/

set_option autoImplicit false

namespace ApiCompiler.Schema

open Json (Value Node Fault Restores Recovers Completes textFormat recovered_member
  recovered_text_member recovered_list_member)

/-- Every object inside a schema has properties of different names. -/
def NamesApart (schema : Schema) : Prop :=
  ∀ node, schema.Contains node → ∀ properties, node.properties = some properties →
    (properties.map (·.1)).Nodup

theorem list_to_json_eq (schemas : List Schema) : listToJson schemas = schemas.map toJson := by
  induction schemas with
  | nil => rfl
  | cons first rest induction => rw [listToJson, induction, List.map_cons]

theorem members_to_json_eq (properties : List (String × Schema)) :
    membersToJson properties = properties.map fun entry => (entry.1, entry.2.toJson) := by
  induction properties with
  | nil => rfl
  | cons entry rest induction => rw [membersToJson, induction, List.map_cons]

/-- The properties of an object as a JSON value. -/
def propertiesToJson (properties : List (String × Schema)) : Value :=
  .object (properties.map fun entry => (entry.1, entry.2.toJson))

theorem to_json_eq (schema : Schema) : schema.toJson = .object
    (Value.textMember "$ref" schema.reference ++ (Value.listMember "allOf" toJson schema.allOf ++
      (Value.textMember "type" schema.type ++ (Value.textMember "format" schema.format ++
      (Value.textMember "description" schema.description ++
      (Value.member "items" toJson schema.items ++
      (Value.member "properties" propertiesToJson schema.properties ++
      (Value.listMember "required" .string schema.required ++ [])))))))) := by
  obtain ⟨reference, allOf, type, format, description, items, properties, required⟩ := schema
  have parts : allOfMember allOf = Value.listMember "allOf" toJson allOf := by
    cases allOf with
    | nil => rfl
    | cons first rest => rw [allOfMember, list_to_json_eq]; rfl
  have inside : itemsMember items = Value.member "items" toJson items := by
    cases items <;> rfl
  have fields : propertiesMember properties =
      Value.member "properties" propertiesToJson properties := by
    cases properties with
    | none => rfl
    | some properties => rw [propertiesMember, members_to_json_eq]; rfl
  rw [toJson, parts, inside, fields]
  simp only [List.append_assoc, List.append_nil]

/-- Properties of different names are put behind each other. -/
theorem of_entries_eq {properties : List (String × Schema)}
    (apart : (properties.map (·.1)).Nodup) : ofEntries properties = properties := by
  have behind : ∀ before later : List (String × Schema), ((before ++ later).map (·.1)).Nodup →
      later.foldl (fun properties entry => putProperty entry.1 entry.2 properties) before =
        before ++ later := by
    intro before later distinct
    induction later generalizing before with
    | nil => simp
    | cons entry later induction =>
        have shape : before ++ entry :: later = before ++ [entry] ++ later := by simp
        have fresh : entry.1 ∉ before.map (·.1) := by
          simp only [List.map_append, List.map_cons, List.nodup_append] at distinct
          intro known
          exact distinct.2.2 _ known _ List.mem_cons_self rfl
        rw [shape] at distinct ⊢
        rw [List.foldl_cons, put_property_fresh fresh, induction _ distinct]
  exact behind [] properties apart

/-! ### The parts of a schema -/

variable {schema : Schema}

theorem NamesApart.properties (apart : schema.NamesApart) {properties : List (String × Schema)}
    (has : schema.properties = some properties) :
    (properties.map (·.1)).Nodup ∧ ∀ entry ∈ properties, entry.2.NamesApart := by
  constructor
  · exact apart schema (.self schema) properties has
  · intro entry listed node inside
    exact apart node (.property has listed inside)

theorem NamesApart.items (apart : schema.NamesApart) {items : Schema}
    (has : schema.items = some items) : items.NamesApart :=
  fun node inside => apart node (.items has inside)

theorem NamesApart.part (apart : schema.NamesApart) {part : Schema} (listed : part ∈ schema.allOf) :
    part.NamesApart := fun node inside => apart node (.part listed inside)

/-! ### How schemas with such properties are made -/

theorem names_apart_of_parts
    (properties : ∀ properties, schema.properties = some properties →
      (properties.map (·.1)).Nodup ∧ ∀ entry ∈ properties, entry.2.NamesApart)
    (items : ∀ items, schema.items = some items → items.NamesApart)
    (parts : ∀ part ∈ schema.allOf, part.NamesApart) : schema.NamesApart :=
  every_node (fun own has => (properties own has).1) parts items
    fun own has => (properties own has).2

theorem component_names_apart (name : String) : (component name).NamesApart := by
  apply names_apart_of_parts <;> simp [component]

theorem primitive_names_apart (kind : Kind) : (primitive kind).NamesApart := by
  apply names_apart_of_parts <;> simp [primitive]

theorem put_property_names (name : String) (part : Schema) (properties : List (String × Schema)) :
    (putProperty name part properties).map (·.1) =
      if name ∈ properties.map (·.1) then properties.map (·.1)
      else properties.map (·.1) ++ [name] := by
  by_cases known : name ∈ properties.map (·.1)
  · rw [if_pos known]
    induction properties with
    | nil => cases known
    | cons entry rest induction =>
        rw [putProperty]
        split_ifs with same
        · simp [same]
        · rw [List.map_cons, List.map_cons, induction]
          simpa [Ne.symm same] using known
  · rw [if_neg known, put_property_fresh known]
    simp

/-- A property that is put to an object replaces the one of its name. -/
theorem NamesApart.with_property {part : Schema} (apart : schema.NamesApart)
    (inner : part.NamesApart) (name : String) (required : Bool) :
    (schema.withProperty name part required).NamesApart := by
  have old : ((schema.properties.getD []).map (·.1)).Nodup ∧
      ∀ entry ∈ schema.properties.getD [], entry.2.NamesApart := by
    cases has : schema.properties with
    | none => simp
    | some properties => exact apart.properties has
  apply names_apart_of_parts
  · intro properties has
    cases has
    constructor
    · rw [put_property_names]
      split_ifs with known
      · exact old.1
      · rw [← List.concat_eq_append]
        exact old.1.concat known
    · intro entry listed
      rcases mem_put_property listed with rfl | before
      · exact inner
      · exact old.2 entry before
  · exact fun items has => apart.items has
  · exact fun part listed => apart.part listed

theorem object_names_apart : object.NamesApart := by
  apply names_apart_of_parts <;> simp [object]

/-! ### Reading a schema back -/

/-- A member of a schema nests less than the schema. -/
theorem member_nesting_lt {member : String × Value}
    (listed : member ∈ Value.listMember "allOf" toJson schema.allOf ∨
      member ∈ Value.member "items" toJson schema.items ∨
      member ∈ Value.member "properties" propertiesToJson schema.properties) :
    member.2.nesting < schema.toJson.nesting := by
  rw [to_json_eq, Value.nesting]
  apply Nat.lt_succ_of_le
  apply Value.member_nesting_le
  simp only [List.mem_append]
  tauto

theorem part_nesting_lt {part : Schema} (listed : part ∈ schema.allOf) :
    part.toJson.nesting < schema.toJson.nesting := by
  have written : ("allOf", Value.array (schema.allOf.map toJson)) ∈
      Value.listMember "allOf" toJson schema.allOf := by
    cases parts : schema.allOf with
    | nil => simp [parts] at listed
    | cons first rest => exact List.mem_singleton_self _
  have inside := Value.item_nesting_le (List.mem_map_of_mem (f := toJson) listed)
  exact (Nat.lt_succ_of_le inside).trans (member_nesting_lt (.inl written))

theorem items_nesting_lt {items : Schema} (has : schema.items = some items) :
    items.toJson.nesting < schema.toJson.nesting := by
  have written : ("items", items.toJson) ∈ Value.member "items" toJson schema.items := by
    simp [has, Value.member]
  exact member_nesting_lt (.inr (.inl written))

theorem property_nesting_lt {properties : List (String × Schema)}
    (has : schema.properties = some properties) {entry : String × Schema}
    (listed : entry ∈ properties) : entry.2.toJson.nesting < schema.toJson.nesting := by
  have written : ("properties", propertiesToJson properties) ∈
      Value.member "properties" propertiesToJson schema.properties := by
    simp [has, Value.member]
  have inside := Value.member_nesting_le
    (List.mem_map_of_mem (f := fun entry => (entry.1, entry.2.toJson)) listed)
  exact (Nat.lt_succ_of_le inside).trans (member_nesting_lt (.inr (.inr written)))

theorem properties_recovered {read : Node → Except Fault Schema}
    {properties : List (String × Schema)} (apart : (properties.map (·.1)).Nodup)
    (each : ∀ entry ∈ properties, Recovers read entry.2.toJson entry.2) :
    Recovers (readProperties read) (propertiesToJson properties) properties := by
  constructor
  · apply Value.Plain.object
    intro member listed
    obtain ⟨entry, inside, rfl⟩ := List.mem_map.mp listed
    exact (each entry inside).plain
  · intro depth enough
    obtain ⟨entered, inside⟩ := Restores.enter (propertiesToJson properties).source enough
    have opened : Node.map ⟨(propertiesToJson properties).source, depth⟩ =
        .ok (Node.members (Json.memberSources (properties.map fun entry =>
          (entry.1, entry.2.toJson))) .closed (depth - 1)) := by
      change (do return Node.members _ _ (← Node.enter _)) = _
      rw [entered]
      rfl
    have readEach := Restores.read_entries fun entry listed =>
      (each entry listed).reads _ (lt_of_le_of_lt (Value.member_nesting_le
        (List.mem_map_of_mem (f := fun entry => (entry.1, entry.2.toJson)) listed)) inside)
    have closed : (Node.members (Json.memberSources (properties.map fun entry =>
        (entry.1, entry.2.toJson))) .closed (depth - 1)).finish = .ok () := rfl
    simp only [readProperties, opened, readEach, closed, of_entries_eq apart, bind, Except.bind,
      pure, Except.pure]

/-- As many levels as a schema nests are enough to read it; each part has one level less. -/
theorem levels_recovered {levels : Nat} (apart : schema.NamesApart)
    (fits : schema.toJson.nesting ≤ levels) :
    Recovers (readLevels levels) schema.toJson schema := by
  induction levels generalizing schema with
  | zero =>
      rw [to_json_eq] at fits
      cases fits
  | succ levels induction =>
      have below := fun nesting (less : nesting < schema.toJson.nesting) =>
        Nat.le_of_lt_succ (less.trans_le fits)
      rw [to_json_eq]
      obtain ⟨reference, allOf, type, format, description, items, properties, required⟩ := schema
      apply Recovers.record (by simp)
      apply Completes.optional (recovered_text_member rfl)
      apply Completes.optional (recovered_list_member rfl ?_)
      apply Completes.optional (recovered_text_member rfl)
      apply Completes.optional (recovered_text_member rfl)
      apply Completes.optional (recovered_text_member rfl)
      apply Completes.optional (recovered_member rfl ?_)
      apply Completes.optional (recovered_member rfl ?_)
      apply Completes.optional (recovered_list_member rfl fun name _ => .text name)
      exact .done
      · intro properties has
        obtain ⟨names, each⟩ := apart.properties has
        refine ⟨properties_recovered names fun entry listed => ?_, nofun⟩
        exact induction (each entry listed) (below _ (property_nesting_lt has listed))
      · intro items has
        refine ⟨induction (apart.items has) (below _ (items_nesting_lt has)), ?_⟩
        rw [to_json_eq]
        nofun
      · intro part listed
        exact induction (apart.part listed) (below _ (part_nesting_lt listed))

theorem recovered (apart : schema.NamesApart) : Recovers read schema.toJson schema := by
  refine ⟨(levels_recovered apart le_rfl).plain, fun depth enough => ?_⟩
  exact (levels_recovered apart (Nat.le_succ_of_le enough.le)).reads depth enough

end ApiCompiler.Schema

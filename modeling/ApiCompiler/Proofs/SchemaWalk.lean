import ApiCompiler.Proofs.TypeReferences
import ApiCompiler.Schema.Registry

/-!
Running walks over the schema registry: what a sequence of walks does, and why the walk below a
grounded type-id always gives a schema, whatever the registry holds.
-/

set_option autoImplicit false

namespace ApiCompiler

namespace SchemaWalk

variable {α β : Type} {registry after : SchemaRegistry}

theorem run_bind_of {first : SchemaWalk α} {next : α → SchemaWalk β} {value : α}
    (ran : first.run registry = (.ok value, after)) :
    (first >>= next).run registry = (next value).run after := by
  have unfolded : (first >>= next).run registry =
      (ExceptT.bindCont next (first.run registry).1).run (first.run registry).2 := rfl
  rw [unfolded, ran]
  rfl

theorem run_bind_failed {first : SchemaWalk α} {next : α → SchemaWalk β} {fault : ManifestFault}
    (failed : first.run registry = (.error fault, after)) :
    (first >>= next).run registry = (.error fault, after) := by
  have unfolded : (first >>= next).run registry =
      (ExceptT.bindCont next (first.run registry).1).run (first.run registry).2 := rfl
  rw [unfolded, failed]
  rfl

theorem run_bind_ok_iff {first : SchemaWalk α} {next : α → SchemaWalk β} {result : β} :
    (first >>= next).run registry = (.ok result, after) ↔
      ∃ value between, first.run registry = (.ok value, between) ∧
        (next value).run between = (.ok result, after) := by
  rcases ran : first.run registry with ⟨fault | value, between⟩
  · rw [run_bind_failed ran]
    constructor
    · intro same
      cases same
    · rintro ⟨_, _, same, _⟩
      cases same
  · rw [run_bind_of ran]
    constructor
    · exact fun onward => ⟨value, between, rfl, onward⟩
    · rintro ⟨_, _, same, onward⟩
      cases same
      exact onward

theorem run_bind_error_iff {first : SchemaWalk α} {next : α → SchemaWalk β}
    {fault : ManifestFault} :
    (first >>= next).run registry = (.error fault, after) ↔
      first.run registry = (.error fault, after) ∨
        ∃ value between, first.run registry = (.ok value, between) ∧
          (next value).run between = (.error fault, after) := by
  rcases ran : first.run registry with ⟨earlier | value, between⟩
  · rw [run_bind_failed ran]
    constructor
    · intro same
      cases same
      exact .inl rfl
    · rintro (same | ⟨_, _, same, _⟩) <;> cases same
      rfl
  · rw [run_bind_of ran]
    constructor
    · exact fun onward => .inr ⟨value, between, rfl, onward⟩
    · rintro (same | ⟨_, _, same, onward⟩)
      · cases same
      · cases same
        exact onward

theorem run_pure_iff {value result : α} :
    (pure value : SchemaWalk α).run registry = (.ok result, after) ↔
      value = result ∧ registry = after := by
  change (Except.ok value, registry) = (Except.ok result, after) ↔ _
  simp

theorem run_lift_iff {outcome : Except ManifestFault α} {result : α} :
    (ExceptT.mk (pure outcome) : SchemaWalk α).run registry = (.ok result, after) ↔
      outcome = .ok result ∧ registry = after := by
  change (outcome, registry) = (Except.ok result, after) ↔ _
  simp

theorem run_name_of (id : String) (registry : SchemaRegistry) :
    (nameOf id).run registry =
      (.ok (registry.names.nameOf id).1, { registry with names := (registry.names.nameOf id).2 }) :=
  rfl

theorem run_enter (id : String) (registry : SchemaRegistry) :
    (enter id).run registry =
      (fun answer : Bool × SchemaRegistry => (Except.ok answer.1, answer.2))
        (if registry.rendered.contains id then (false, registry)
          else (true, { registry with rendered := id :: registry.rendered })) := rfl

theorem run_enter_again {id : String} (known : id ∈ registry.rendered) :
    (enter id).run registry = (.ok false, registry) := by
  rw [run_enter, if_pos (by simpa using known)]

theorem run_enter_first {id : String} (fresh : id ∉ registry.rendered) :
    (enter id).run registry =
      (.ok true, { registry with rendered := id :: registry.rendered }) := by
  rw [run_enter, if_neg (by simpa using fresh)]

theorem run_register (name : String) (schema : Schema) (registry : SchemaRegistry) :
    (register name schema).run registry =
      (.ok (), { registry with components := registry.components.insert name schema }) := rfl

/-- A walk that gives a value, whatever the registry holds. -/
def Succeeds (walk : SchemaWalk α) : Prop :=
  ∀ registry, ∃ value after, walk.run registry = (.ok value, after)

theorem pure_succeeds (value : α) : Succeeds (pure value) := fun registry => ⟨value, registry, rfl⟩

theorem lift_succeeds {outcome : Except ManifestFault α} {value : α} (known : outcome = .ok value) :
    Succeeds (ExceptT.mk (pure outcome)) := fun registry => ⟨value, registry, by rw [known]; rfl⟩

theorem name_of_succeeds (id : String) : Succeeds (nameOf id) :=
  fun registry => ⟨_, _, run_name_of id registry⟩

theorem enter_succeeds (id : String) : Succeeds (enter id) := by
  intro registry
  by_cases known : id ∈ registry.rendered
  · exact ⟨false, _, run_enter_again known⟩
  · exact ⟨true, _, run_enter_first known⟩

theorem register_succeeds (name : String) (schema : Schema) : Succeeds (register name schema) :=
  fun registry => ⟨(), _, run_register name schema registry⟩

theorem Succeeds.bind {first : SchemaWalk α} {next : α → SchemaWalk β} (starts : Succeeds first)
    (continues : ∀ value, Succeeds (next value)) : Succeeds (first >>= next) := by
  intro registry
  obtain ⟨value, between, begun⟩ := starts registry
  obtain ⟨result, after, ended⟩ := continues value between
  exact ⟨result, after, run_bind_ok_iff.mpr ⟨value, between, begun, ended⟩⟩

theorem fold_succeeds {step : β → α → SchemaWalk β} {items : List α}
    (steps : ∀ item ∈ items, ∀ value, Succeeds (step value item)) (start : β) :
    Succeeds (items.foldlM step start) := by
  induction items generalizing start with
  | nil => exact pure_succeeds start
  | cons item rest induction =>
      rw [List.foldlM_cons]
      exact (steps item List.mem_cons_self start).bind fun value =>
        induction (fun later listed => steps later (List.mem_cons_of_mem _ listed)) value

end SchemaWalk

namespace Manifest

open SchemaWalk

variable {manifest : Manifest}

theorem object_schema_succeeds {schemaOf : String → SchemaWalk Schema} {entry : TypeEntry}
    (fields : ∀ field ∈ entry.fields, Succeeds (schemaOf field.typeId)) :
    Succeeds (objectSchema schemaOf entry) := by
  unfold objectSchema
  refine (fold_succeeds ?_ _).bind fun object => pure_succeeds _
  intro field listed object
  exact (fields field (List.mem_of_mem_filter listed)).bind fun schema => pure_succeeds _

theorem schema_at_succeeds {depth : Nat} {id : String} (within : manifest.Within depth id) :
    Succeeds (manifest.schemaAt depth id) := by
  induction depth generalizing id with
  | zero => exact within.elim
  | succ depth induction =>
      obtain ⟨target, resolved⟩ := within.1
      have references : ∀ next ∈ target.references, Succeeds (manifest.schemaAt depth next) :=
        fun next listed => induction (within.2 next ((references_iff_refers resolved).mp listed))
      rw [schemaAt, resolved]
      cases target with
      | primitive kind => exact pure_succeeds _
      | slice elem => exact (references elem List.mem_cons_self).bind fun items => pure_succeeds _
      | struct name entry =>
          have object : Succeeds (objectSchema (manifest.schemaAt depth) entry) :=
            object_schema_succeeds fun field listed =>
              references field.typeId (List.mem_map_of_mem listed)
          refine (name_of_succeeds name).bind fun given => ?_
          refine (enter_succeeds name).bind fun first => ?_
          cases first with
          | false => exact pure_succeeds _
          | true =>
              exact object.bind fun schema =>
                (register_succeeds given schema).bind fun _ => pure_succeeds _

/-- A walk may go deeper than any chain of references is long. -/
theorem reach_bound_lt_walk_bound (manifest : Manifest) (id : String) :
    manifest.reachBound id + 1 ≤ manifest.walkBound id := by
  unfold walkBound
  have one : 1 * (manifest.reachBound id + 2) ≤
      (manifest.types.entries.length + 1) * (manifest.reachBound id + 2) :=
    Nat.mul_le_mul_right _ (by omega)
  omega

theorem schema_for_succeeds {id : String} (grounded : manifest.Grounded id) :
    Succeeds (manifest.schemaFor id) :=
  schema_at_succeeds (grounded.within.mono (manifest.reach_bound_lt_walk_bound id))

end Manifest

end ApiCompiler

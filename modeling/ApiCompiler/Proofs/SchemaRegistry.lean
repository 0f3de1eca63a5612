import ApiCompiler.Proofs.ComponentNames
import ApiCompiler.Proofs.Lookup
import ApiCompiler.Proofs.SchemaTranslation
import ApiCompiler.Proofs.SchemaWalk

/-!
What the registry of components holds during a walk. A struct has a name from the moment its body is
entered, and its component from the moment its body is finished; in between it is unfinished. Walks
keep this up, give the translation of what they are asked for, and enter no struct that is not
reached from there.
-/

set_option autoImplicit false

namespace ApiCompiler

namespace SchemaRegistry

structure Consistent (manifest : Manifest) (unfinished : List String) (registry : SchemaRegistry) :
    Prop where
  names : registry.names.Proper [Schema.errorResponseName]
  entered_iff : ∀ id, id ∈ registry.rendered ↔ ∃ name, registry.names.lookup id = some name
  unfinished_entered : unfinished ⊆ registry.rendered
  envelope : registry.components.get? Schema.errorResponseName = some Schema.errorResponse
  finished : ∀ id name, id ∉ unfinished → registry.names.lookup id = some name →
    ∃ schema, registry.components.get? name = some schema ∧
      manifest.Describes registry.names.lookup id schema
  only : ∀ key schema, registry.components.get? key = some schema →
    key = Schema.errorResponseName ∨ ∃ id, id ∉ unfinished ∧ registry.names.lookup id = some key

/-- What a registry holds while some structs are unfinished, as far as `describes` says which schema
a struct has under some names. -/
structure Holds (describes : (String → Option String) → String → Schema → Prop)
    (unfinished : List String) (registry : SchemaRegistry) : Prop where
  names : registry.names.Proper [Schema.errorResponseName]
  entered_iff : ∀ id, id ∈ registry.rendered ↔ ∃ name, registry.names.lookup id = some name
  unfinished_entered : unfinished ⊆ registry.rendered
  envelope : registry.components.get? Schema.errorResponseName = some Schema.errorResponse
  finished : ∀ id name, id ∉ unfinished → registry.names.lookup id = some name →
    ∃ schema, registry.components.get? name = some schema ∧
      describes registry.names.lookup id schema
  only : ∀ key schema, registry.components.get? key = some schema →
    key = Schema.errorResponseName ∨ ∃ id, id ∉ unfinished ∧ registry.names.lookup id = some key

/-- What walks from some type-ids may add to a registry. -/
structure Adds (manifest : Manifest) (starts : List String) (before after : SchemaRegistry) :
    Prop where
  names_kept : ∀ id name, before.names.lookup id = some name → after.names.lookup id = some name
  reached : ∀ id ∈ after.rendered,
    id ∈ before.rendered ∨ ∃ start ∈ starts, manifest.BodyReaches start id

/-- What walks from some type-ids may do to a registry. -/
structure Grows (manifest : Manifest) (unfinished starts : List String)
    (before after : SchemaRegistry) : Prop where
  consistent : after.Consistent manifest unfinished
  names_kept : ∀ id name, before.names.lookup id = some name → after.names.lookup id = some name
  reached : ∀ id ∈ after.rendered,
    id ∈ before.rendered ∨ ∃ start ∈ starts, manifest.BodyReaches start id

variable {manifest : Manifest} {unfinished starts : List String} {id : String}
  {registry before between after : SchemaRegistry}
  {describes : (String → Option String) → String → Schema → Prop}

theorem consistent_iff_holds :
    registry.Consistent manifest unfinished ↔ registry.Holds manifest.Describes unfinished :=
  ⟨fun consistent => ⟨consistent.names, consistent.entered_iff, consistent.unfinished_entered,
      consistent.envelope, consistent.finished, consistent.only⟩,
    fun holds => ⟨holds.names, holds.entered_iff, holds.unfinished_entered, holds.envelope,
      holds.finished, holds.only⟩⟩

theorem Adds.refl (registry : SchemaRegistry) (starts : List String) :
    Adds manifest starts registry registry :=
  ⟨fun _ _ known => known, fun _ entered => .inl entered⟩

theorem Adds.trans {more : List String} (first : Adds manifest starts before between)
    (second : Adds manifest more between after) : Adds manifest (starts ++ more) before after := by
  refine ⟨fun id name known => second.names_kept id name (first.names_kept id name known), ?_⟩
  intro id entered
  rcases second.reached id entered with earlier | ⟨start, listed, reaches⟩
  · rcases first.reached id earlier with earliest | ⟨start, listed, reaches⟩
    · exact .inl earliest
    · exact .inr ⟨start, List.mem_append_left _ listed, reaches⟩
  · exact .inr ⟨start, List.mem_append_right _ listed, reaches⟩

theorem Adds.from_reference {nexts : List String}
    (refers : ∀ next ∈ nexts, manifest.BodyRefers id next)
    (adds : Adds manifest nexts before after) : Adds manifest [id] before after := by
  refine ⟨adds.names_kept, ?_⟩
  intro other entered
  rcases adds.reached other entered with earlier | ⟨next, listed, reaches⟩
  · exact .inl earlier
  · exact .inr ⟨id, List.mem_singleton_self id, .head (refers next listed) reaches⟩

theorem Adds.rendered_kept {earlier later : List String} (adds : Adds manifest starts before after)
    (holds : before.Holds describes earlier) (holds' : after.Holds describes later) :
    before.rendered ⊆ after.rendered := by
  intro id entered
  obtain ⟨name, known⟩ := (holds.entered_iff id).mp entered
  exact (holds'.entered_iff id).mpr ⟨name, adds.names_kept id name known⟩

theorem grows_iff : Grows manifest unfinished starts before after ↔
    after.Consistent manifest unfinished ∧ Adds manifest starts before after :=
  ⟨fun grows => ⟨grows.consistent, grows.names_kept, grows.reached⟩,
    fun ⟨consistent, adds⟩ => ⟨consistent, adds.names_kept, adds.reached⟩⟩

theorem Grows.refl (consistent : registry.Consistent manifest unfinished) (starts : List String) :
    Grows manifest unfinished starts registry registry :=
  grows_iff.mpr ⟨consistent, .refl registry starts⟩

theorem Grows.trans {more : List String} (first : Grows manifest unfinished starts before between)
    (second : Grows manifest unfinished more between after) :
    Grows manifest unfinished (starts ++ more) before after :=
  grows_iff.mpr ⟨second.consistent, (grows_iff.mp first).2.trans (grows_iff.mp second).2⟩

/-- Finished structs may be described in any other way that holds of them under the same names. -/
theorem Holds.imp {other : (String → Option String) → String → Schema → Prop}
    (implies : ∀ named id schema, describes named id schema → other named id schema)
    (holds : registry.Holds describes unfinished) : registry.Holds other unfinished := by
  refine ⟨holds.names, holds.entered_iff, holds.unfinished_entered, holds.envelope, ?_, holds.only⟩
  intro id name finished known
  obtain ⟨schema, found, described⟩ := holds.finished id name finished known
  exact ⟨schema, found, implies _ id schema described⟩

theorem start_holds (describes : (String → Option String) → String → Schema → Prop) :
    (start .empty).Holds describes [] := by
  have unnamed : ∀ id name,
      (ComponentNames.empty.reserve Schema.errorResponseName).lookup id ≠ some name := by
    intro id name known
    cases known
  refine ⟨ComponentNames.proper_of_reserved _, ?_, List.nil_subset _, ?_, ?_, ?_⟩
  · intro id
    constructor
    · intro entered
      cases entered
    · intro parts
      rcases parts with ⟨name, known⟩
      exact absurd known (unnamed id name)
  · exact SortedMap.mem_entries_iff.mp List.mem_cons_self
  · exact fun id name _ known => absurd known (unnamed id name)
  · intro key schema found
    have listed := SortedMap.mem_entries_iff.mpr found
    exact .inl (congrArg Prod.fst (List.mem_singleton.mp listed))

theorem start_consistent (manifest : Manifest) : (start .empty).Consistent manifest [] :=
  consistent_iff_holds.mpr (start_holds manifest.Describes)

/-- The registry after a struct without a name has been entered. -/
def entering (registry : SchemaRegistry) (id : String) : SchemaRegistry :=
  { registry with
    names := registry.names.withFresh id
    rendered := id :: registry.rendered }

theorem entering_names_kept (fresh : registry.names.lookup id = none) (other name : String)
    (known : registry.names.lookup other = some name) :
    (registry.entering id).names.lookup other = some name := by
  have different : other ≠ id := by
    intro same
    subst same
    rw [fresh] at known
    cases known
  exact (ComponentNames.lookup_fresh_other different).trans known

theorem Holds.entering
    (mono : ∀ {named wider : String → Option String} {id : String} {schema : Schema},
      (∀ id name, named id = some name → wider id = some name) →
        describes named id schema → describes wider id schema)
    (holds : registry.Holds describes unfinished) (fresh : registry.names.lookup id = none) :
    (registry.entering id).Holds describes (id :: unfinished) := by
  have kept := entering_names_kept fresh
  refine ⟨holds.names.with_fresh id, ?_, ?_, holds.envelope, ?_, ?_⟩
  · intro other
    by_cases same : other = id
    · subst same
      exact ⟨fun _ => ⟨_, ComponentNames.lookup_fresh_self _ _⟩, fun _ => List.mem_cons_self⟩
    · have unchanged : (registry.entering id).names.lookup other = registry.names.lookup other :=
        ComponentNames.lookup_fresh_other same
      rw [unchanged, ← holds.entered_iff]
      exact List.mem_cons.trans (or_iff_right same)
  · exact List.cons_subset_cons id holds.unfinished_entered
  · intro other name finished known
    rw [List.mem_cons, not_or] at finished
    have earlier : registry.names.lookup other = some name := by
      rwa [← ComponentNames.lookup_fresh_other finished.1]
    obtain ⟨schema, found, described⟩ := holds.finished other name finished.2 earlier
    exact ⟨schema, found, mono kept described⟩
  · intro key schema found
    apply (holds.only key schema found).imp_right
    intro parts
    rcases parts with ⟨other, finished, known⟩
    refine ⟨other, ?_, kept other key known⟩
    rw [List.mem_cons, not_or]
    refine ⟨?_, finished⟩
    intro same
    subst same
    rw [fresh] at known
    cases known

theorem Holds.register (holds : registry.Holds describes (id :: unfinished))
    (once : id ∉ unfinished) {name : String} (known : registry.names.lookup id = some name)
    {schema : Schema} (described : describes registry.names.lookup id schema) :
    Holds describes unfinished
      { registry with components := registry.components.insert name schema } := by
  have apart : ∀ other key, other ≠ id → registry.names.lookup other = some key → key ≠ name := by
    intro other key different known' same
    subst same
    exact different (holds.names.injective other id key known' known)
  have free : name ≠ Schema.errorResponseName := fun same =>
    holds.names.reserved_free id name known (List.mem_singleton.mpr same)
  refine ⟨holds.names, holds.entered_iff,
    fun other listed => holds.unfinished_entered (List.mem_cons_of_mem _ listed), ?_, ?_, ?_⟩
  · exact (SortedMap.get?_insert_other _ free.symm _).trans holds.envelope
  · intro other key finished known'
    by_cases same : other = id
    · subst same
      rw [known] at known'
      cases known'
      exact ⟨schema, SortedMap.get?_insert_self _ _ _, described⟩
    · obtain ⟨found, registered, described'⟩ := holds.finished other key
        (by rw [List.mem_cons, not_or]; exact ⟨same, finished⟩) known'
      have untouched := SortedMap.get?_insert_other registry.components
        (apart other key same known') schema
      exact ⟨found, untouched.trans registered, described'⟩
  · intro key found registered
    by_cases same : key = name
    · exact .inr ⟨id, once, same ▸ known⟩
    · have earlier : registry.components.get? key = some found := by
        rwa [← SortedMap.get?_insert_other _ same]
      apply (holds.only key found earlier).imp_right
      intro parts
      rcases parts with ⟨other, finished, known'⟩
      rw [List.mem_cons, not_or] at finished
      exact ⟨other, finished.2, known'⟩

end SchemaRegistry

end ApiCompiler

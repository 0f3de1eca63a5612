import ApiCompiler.Proofs.StrandedStructs

/-!
Which references name a component after calls that may have failed. A struct that a call has
stranded is still referred to, by its name, so a later call may give a schema whose reference leads
nowhere. That happens exactly when something unsound is asked for or registered: the refuted case
stands right after the theorem.
-/

set_option autoImplicit false

namespace ApiCompiler

namespace SchemaRegistry

def Registers (registry : SchemaRegistry) (id : String) : Prop :=
  ∃ name, registry.names.lookup id = some name ∧ name ∈ registry.components.keys

/-- Every reference in a schema and in the components names a component. -/
structure Closed (registry : SchemaRegistry) (schema : Schema) : Prop where
  answer : schema.RefersOnlyTo (· ∈ registry.components.keys)
  components : ∀ name component, registry.components.get? name = some component →
    component.RefersOnlyTo (· ∈ registry.components.keys)

end SchemaRegistry

namespace Manifest

/-- A type-id is sound, and so is every struct that has a component. -/
structure SoundCall (manifest : Manifest) (id : String) (after : SchemaRegistry) : Prop where
  asked : manifest.Sound id
  registered : ∀ struct, after.Registers struct → manifest.Sound struct

variable {manifest : Manifest} {id next : String} {unfinished calls : List String}
  {named : String → Option String} {registry after : SchemaRegistry} {schema : Schema}

theorem Sound.reached (sound : manifest.Sound id) (reaches : manifest.BodyReaches id next) :
    manifest.Sound next := fun later onward => sound later (reaches.trans onward)

theorem Translates.unfolds (translates : manifest.Translates named id schema) :
    ∃ count, manifest.Unfolds count id := by
  induction translates with
  | primitive resolved => exact ⟨1, .primitive resolved⟩
  | slice resolved _ induction =>
      obtain ⟨count, unfolds⟩ := induction
      exact ⟨count + 1, .slice resolved unfolds⟩
  | struct resolved _ => exact ⟨1, .struct resolved⟩

theorem Renders.refers_reached (renders : manifest.Renders named id schema) :
    schema.RefersOnlyTo fun name =>
      ∃ struct, manifest.BodyReaches id struct ∧ named struct = some name := by
  obtain ⟨entry, uses, resolved, each, rfl⟩ := renders
  refine (Schema.add_fields_refer_only ?_ ?_).with_description _
  · intro use listed
    have translates := (List.forall₂_iff_zip.mp each).2 listed
    refine translates.refers_reached.mono ?_
    intro name parts
    rcases parts with ⟨struct, reaches, known⟩
    exact ⟨struct, .head (.field resolved (List.of_mem_zip listed).1) reaches, known⟩
  · exact Schema.object_refers_only (by simp)

theorem closed_of_sound (strands : manifest.Strands [] registry)
    (translates : manifest.Translates registry.names.lookup id schema)
    (sound : manifest.SoundCall id registry) : registry.Closed schema := by
  obtain ⟨stranded, holds, unsounds⟩ := strands
  rw [List.append_nil] at holds
  have reachedOnly : ∀ {other : String} {shown : Schema}, manifest.Sound other →
      (shown.RefersOnlyTo fun name => ∃ struct, manifest.BodyReaches other struct ∧
        registry.names.lookup struct = some name) →
      shown.RefersOnlyTo (· ∈ registry.components.keys) := by
    intro other shown own refers
    refine refers.mono ?_
    intro name parts
    rcases parts with ⟨struct, reaches, known⟩
    have finished : struct ∉ stranded := fun listed => unsounds struct listed (own.reached reaches)
    obtain ⟨component, found, _⟩ := holds.finished struct name finished known
    exact SortedMap.mem_keys_iff.mpr ⟨component, found⟩
  refine ⟨reachedOnly sound.asked translates.refers_reached, ?_⟩
  intro name component found
  rcases holds.only name component found with rfl | ⟨struct, finished, known⟩
  · rw [holds.envelope] at found
    cases found
    exact Schema.error_response_refers_only
  · obtain ⟨own, registered, renders⟩ := holds.finished struct name finished known
    have listed := SortedMap.mem_keys_iff.mpr ⟨component, found⟩
    rw [registered] at found
    cases found
    exact reachedOnly (sound.registered struct ⟨name, known, listed⟩) renders.refers_reached

theorem sound_of_closed (distinct : manifest.DistinctBodies)
    (holds : registry.Holds manifest.Renders unfinished)
    (translates : manifest.Translates registry.names.lookup id schema)
    (closed : registry.Closed schema) : manifest.SoundCall id registry := by
  let registered : String → Option String := fun struct =>
    (registry.names.lookup struct).filter fun name => decide (name ∈ registry.components.keys)
  have keeps : ∀ struct name, registry.names.lookup struct = some name →
      name ∈ registry.components.keys → registered struct = some name := by
    intro struct name known listed
    simp [registered, known, listed]
  have described : ∀ struct name, registered struct = some name →
      ∃ component, manifest.Describes registered struct component := by
    intro struct name given
    obtain ⟨known, listed⟩ := Option.filter_eq_some_iff.mp given
    obtain ⟨component, found⟩ := SortedMap.mem_keys_iff.mp (of_decide_eq_true listed)
    rcases holds.only name component found with rfl | ⟨other, finished, known'⟩
    · exact absurd (List.mem_singleton.mpr rfl) (holds.names.reserved_free struct _ known)
    · cases holds.names.injective struct other name known known'
      obtain ⟨own, found', renders⟩ := holds.finished struct name finished known
      have describes := (renders_iff_describes distinct).mp renders
      exact ⟨own, describes.restrict keeps (closed.components name own found')⟩
  refine ⟨?_, ?_⟩
  · intro later reaches
    obtain ⟨shown, onward⟩ := (translates.restrict keeps closed.answer).reached described reaches
    exact onward.unfolds
  · intro struct parts later reaches
    rcases parts with ⟨name, known, listed⟩
    have given := keeps struct name known listed
    obtain ⟨component, entry, _, resolved, _⟩ := described struct name given
    have own : manifest.Translates registered struct (.component name) := .struct resolved given
    obtain ⟨shown, onward⟩ := own.reached described reaches
    exact onward.unfolds

/-- Calls may have failed before. Every reference that is shown then names a component, as long as the
type-id that is asked for is sound and so are the structs that have components; and no longer than
that, where no struct repeats the name of a field. -/
theorem references_closed_while_sound
    (answered : (manifest.schemaFor id).run (manifest.afterCalls calls) = (.ok schema, after)) :
    (manifest.SoundCall id after → after.Closed schema) ∧
      (manifest.DistinctBodies → after.Closed schema → manifest.SoundCall id after) := by
  obtain ⟨stranded, holds, unsounds⟩ := manifest.after_calls_strand calls
  obtain ⟨holds, _, translates⟩ := schema_at_finishes manifest _ id holds answered
  exact ⟨closed_of_sound ⟨stranded, holds, unsounds⟩ translates,
    fun distinct => sound_of_closed distinct holds translates⟩

/-- An order whose item has no type. -/
def lostItem : Manifest := { empty with
  types := .ofList [
    ("Customer", ⟨"", .struct, [⟨"Name", "name", "string", true, none⟩], none, none⟩),
    ("Order", ⟨"", .struct, [⟨"Buyer", "buyer", "Customer", true, none⟩,
      ⟨"Item", "item", "Item", true, none⟩], none, none⟩)] }

theorem lost_item_names : (lostItem.afterCalls ["Order"]).names.assigned =
    [("Customer", "Customer"), ("Order", "Order")] := rfl

theorem lost_item_keys :
    (lostItem.afterCalls ["Order"]).components.keys = ["Customer", "ErrorResponse"] := rfl

theorem lost_item_customer_sound : lostItem.Sound "Customer" := by
  have customer : lostItem.resolve "Customer" = .ok (.struct "Customer"
      ⟨"", .struct, [⟨"Name", "name", "string", true, none⟩], none, none⟩) := rfl
  have text : lostItem.resolve "string" = .ok (.primitive .string) := rfl
  intro next reaches
  rcases Relation.ReflTransGen.cases_head reaches with rfl | ⟨between, refers, onward⟩
  · exact ⟨1, .struct customer⟩
  · have same : between = "string" := by
      cases refers with
      | field resolved member =>
          rw [customer] at resolved
          cases resolved
          rw [List.mem_singleton.mp (List.mem_of_mem_filter member)]
      | elem resolved =>
          rw [customer] at resolved
          cases resolved
    subst same
    rcases Relation.ReflTransGen.cases_head onward with rfl | ⟨_, refers, _⟩
    · exact ⟨1, .primitive text⟩
    · cases refers with
      | field resolved =>
          rw [text] at resolved
          cases resolved
      | elem resolved =>
          rw [text] at resolved
          cases resolved

theorem lost_item_distinct : lostItem.DistinctBodies := by
  have each : ∀ entry ∈ lostItem.types.entries, (entry.2.body.map (·.jsonName)).Nodup := by
    decide
  intro id entry resolved
  exact each (id, entry) (SortedMap.mem_entries_iff.mpr (resolve_struct_iff.mp resolved).2.1)

theorem lost_item_customer_call :
    lostItem.SoundCall "Customer" (lostItem.afterCalls ["Order"]) := by
  refine ⟨lost_item_customer_sound, ?_⟩
  intro struct parts
  rcases parts with ⟨name, known, listed⟩
  rw [lost_item_keys] at listed
  rw [ComponentNames.lookup, lost_item_names] at known
  by_cases customer : struct = "Customer"
  · rw [customer]
    exact lost_item_customer_sound
  · have order : struct = "Order" := by
      by_contra other
      simp [List.lookup_cons, beq_eq_false_iff_ne.mpr customer, beq_eq_false_iff_ne.mpr other]
        at known
    subst order
    cases known
    exact absurd listed (by decide)

/-- The call for the order has failed, but the customer can be asked for. -/
theorem lost_item_customer_closed :
    (lostItem.schemaFor "Customer").run (lostItem.afterCalls ["Order"]) =
        (.ok (.component "Customer"), lostItem.afterCalls ["Order"]) ∧
      lostItem.SoundCall "Customer" (lostItem.afterCalls ["Order"]) ∧ lostItem.DistinctBodies ∧
        (lostItem.afterCalls ["Order"]).Closed (.component "Customer") := by
  have answered : (lostItem.schemaFor "Customer").run (lostItem.afterCalls ["Order"]) =
      (.ok (.component "Customer"), lostItem.afterCalls ["Order"]) := rfl
  exact ⟨answered, lost_item_customer_call, lost_item_distinct,
    (references_closed_while_sound answered).1 lost_item_customer_call⟩

/-- The same call once more: the order is referred to, and there is no component for it. -/
theorem lost_item_order_dangles :
    (lostItem.schemaFor "Order").run (lostItem.afterCalls ["Order"]) =
        (.ok (.component "Order"), lostItem.afterCalls ["Order"]) ∧
      ¬(lostItem.afterCalls ["Order"]).Closed (.component "Order") := by
  refine ⟨rfl, ?_⟩
  intro closed
  have listed := Schema.component_refers_only_iff.mp closed.answer
  rw [lost_item_keys] at listed
  exact absurd listed (by decide)

end Manifest

end ApiCompiler

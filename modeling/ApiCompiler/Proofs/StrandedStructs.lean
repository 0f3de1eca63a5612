import ApiCompiler.Proofs.SchemaComponents
import ApiCompiler.Proofs.WalkDepth

/-!
What walks that fail leave in the registry. A struct has its name before its body is walked, so a
walk that fails strands it: the struct keeps the name, is never entered again and gets no component.
Only unsound structs, whose bodies reach a type-id without a schema, are stranded. So references
stay registered for as long as sound types are asked for and sound structs are registered, and no
longer than that.
-/

set_option autoImplicit false

namespace ApiCompiler

namespace Manifest

open SchemaRegistry (Adds)

/-- Whatever the body of a type-id reaches unfolds to a primitive or to a struct. -/
def Sound (manifest : Manifest) (id : String) : Prop :=
  ∀ next, manifest.BodyReaches id next → ∃ count, manifest.Unfolds count next

/-- Some structs are unfinished beside the given ones, all of them unsound. -/
def Strands (manifest : Manifest) (unfinished : List String) (registry : SchemaRegistry) : Prop :=
  ∃ stranded, registry.Holds manifest.Renders (stranded ++ unfinished) ∧
    ∀ struct ∈ stranded, ¬manifest.Sound struct

/-- A walk that fails only below an unsound type-id, and strands only unsound structs then; some
structs have been entered before. -/
def FailsUnsound (manifest : Manifest) (rendered : List String) (id : String)
    (walk : SchemaWalk Schema) : Prop :=
  ∀ {unfinished : List String} {before after : SchemaRegistry} {fault : ManifestFault},
    rendered ⊆ before.rendered → before.Holds manifest.Renders unfinished →
      walk.run before = (.error fault, after) →
        ¬manifest.Sound id ∧ manifest.Strands unfinished after

variable {manifest : Manifest} {id next start : String} {unfinished rendered : List String}
  {before after : SchemaRegistry} {schema : Schema} {fault : ManifestFault}

theorem Sound.reference (sound : manifest.Sound id) (refers : manifest.BodyRefers id next) :
    manifest.Sound next := fun later reaches => sound later (.head refers reaches)

theorem Sound.unfolds (sound : manifest.Sound id) : ∃ count, manifest.Unfolds count id :=
  sound id .refl

theorem strands_nothing (holds : before.Holds manifest.Renders unfinished) :
    manifest.Strands unfinished before := ⟨[], holds, by simp⟩

theorem fields_fail {schemaOf : String → SchemaWalk Schema} {fields : List Field}
    (finish : ∀ field ∈ fields, manifest.Finishes field.typeId (schemaOf field.typeId))
    (fail : ∀ field ∈ fields, manifest.FailsUnsound rendered field.typeId (schemaOf field.typeId))
    (entered : rendered ⊆ before.rendered) (holds : before.Holds manifest.Renders unfinished)
    {object : Schema} (ran : (fields.foldlM (fun object field => do
      let schema ← schemaOf field.typeId
      return object.withProperty field.jsonName (schema.withDescription field.doc) field.required)
      object : SchemaWalk Schema).run before = (.error fault, after)) :
    (∃ field ∈ fields, ¬manifest.Sound field.typeId) ∧ manifest.Strands unfinished after := by
  induction fields generalizing before object with
  | nil => cases ran
  | cons field rest induction =>
      rw [List.forall_mem_cons] at finish fail
      rw [List.foldlM_cons] at ran
      rcases SchemaWalk.run_bind_error_iff.mp ran with failed | ⟨added, between, first, others⟩
      · rcases SchemaWalk.run_bind_error_iff.mp failed with own | ⟨_, _, _, impossible⟩
        · obtain ⟨unsound, strands⟩ := fail.1 entered holds own
          exact ⟨⟨field, List.mem_cons_self, unsound⟩, strands⟩
        · cases impossible
      · obtain ⟨use, _, asked, done⟩ := SchemaWalk.run_bind_ok_iff.mp first
        obtain ⟨rfl, rfl⟩ := SchemaWalk.run_pure_iff.mp done
        obtain ⟨onward, adds, _⟩ := finish.1 holds asked
        obtain ⟨⟨other, listed, unsound⟩, strands⟩ := induction finish.2 fail.2
          (List.Subset.trans entered (adds.rendered_kept holds onward)) onward others
        exact ⟨⟨other, List.mem_cons_of_mem _ listed, unsound⟩, strands⟩

theorem object_fails {schemaOf : String → SchemaWalk Schema} {entry : TypeEntry}
    (finish : ∀ field ∈ entry.body, manifest.Finishes field.typeId (schemaOf field.typeId))
    (fail : ∀ field ∈ entry.body,
      manifest.FailsUnsound rendered field.typeId (schemaOf field.typeId))
    (entered : rendered ⊆ before.rendered) (holds : before.Holds manifest.Renders unfinished)
    (ran : (objectSchema schemaOf entry).run before = (.error fault, after)) :
    (∃ field ∈ entry.body, ¬manifest.Sound field.typeId) ∧ manifest.Strands unfinished after := by
  rcases SchemaWalk.run_bind_error_iff.mp ran with folded | ⟨_, _, _, impossible⟩
  · exact fields_fail finish fail entered holds folded
  · cases impossible

/-- A struct whose body cannot be walked is stranded with the structs below it. -/
theorem struct_fails {schemaOf : String → SchemaWalk Schema} {entry : TypeEntry}
    (resolved : manifest.resolve id = .ok (.struct id entry))
    (finish : ∀ field ∈ entry.body, manifest.Finishes field.typeId (schemaOf field.typeId))
    (fail : id ∉ rendered → ∀ field ∈ entry.body,
      manifest.FailsUnsound (id :: rendered) field.typeId (schemaOf field.typeId)) :
    manifest.FailsUnsound rendered id (SchemaWalk.meet id (objectSchema schemaOf entry)) := by
  intro unfinished before after fault entered holds ran
  cases known : before.names.lookup id with
  | some earlier =>
      rw [SchemaWalk.run_meet_again known ((holds.entered_iff id).mpr ⟨_, known⟩)] at ran
      cases ran
  | none =>
      have notEntered := not_rendered holds known
      rw [SchemaWalk.run_meet_first known notEntered] at ran
      rcases SchemaWalk.run_bind_error_iff.mp ran with body | ⟨_, _, _, impossible⟩
      · obtain ⟨⟨field, member, unsound⟩, stranded, left, unsounds⟩ := object_fails finish
          (fail fun listed => notEntered (entered listed)) (List.cons_subset_cons id entered)
          (holds.entering Renders.mono known) body
        have own : ¬manifest.Sound id := fun sound =>
          unsound (sound.reference (.field resolved member))
        refine ⟨own, stranded ++ [id], by rwa [List.append_assoc], ?_⟩
        intro struct listed
        rcases List.mem_append.mp listed with below | last
        · exact unsounds struct below
        · rwa [List.mem_singleton.mp last]
      · cases impossible

theorem schema_at_fails {depth : Nat} (candidate : id ∈ manifest.candidates start)
    (lasts : manifest.Lasts start rendered depth id) :
    manifest.FailsUnsound rendered id (manifest.schemaAt depth id) := by
  induction depth generalizing id rendered with
  | zero =>
      intro unfinished before after fault entered holds ran
      cases ran
      refine ⟨?_, strands_nothing holds⟩
      intro sound
      obtain ⟨count, unfolds⟩ := sound.unfolds
      have enough := lasts count unfolds
      have positive := unfolds.slice_chain.positive
      omega
  | succ depth induction =>
      cases resolved : manifest.resolve id with
      | error fault' =>
          intro unfinished before after fault entered holds ran
          rw [schemaAt, resolved] at ran
          cases ran
          refine ⟨?_, strands_nothing holds⟩
          intro sound
          obtain ⟨count, unfolds⟩ := sound.unfolds
          cases unfolds <;> simp_all
      | ok target =>
          rw [schemaAt, resolved]
          cases target with
          | primitive kind =>
              intro unfinished before after fault entered holds ran
              cases ran
          | slice elem =>
              intro unfinished before after fault entered holds ran
              have refers := (references_iff_refers resolved).mp List.mem_cons_self
              rcases SchemaWalk.run_bind_error_iff.mp ran with items | ⟨_, _, _, impossible⟩
              · obtain ⟨unsound, strands⟩ := induction (candidates_closed candidate refers)
                  (lasts.slice resolved) entered holds items
                exact ⟨fun sound => unsound (sound.reference (.elem resolved)), strands⟩
              · cases impossible
          | struct name entry =>
              obtain ⟨rfl, _, _⟩ := resolve_struct_iff.mp resolved
              refine struct_fails resolved
                (fun field _ => schema_at_finishes manifest depth field.typeId) ?_
              intro fresh field member
              have refers := (references_iff_refers resolved).mp
                (List.mem_map_of_mem (List.mem_of_mem_filter member))
              have onward := candidates_closed candidate refers
              exact @induction _ _ onward (lasts.field resolved fresh onward)

theorem schema_for_fails (manifest : Manifest) (id : String) :
    manifest.FailsUnsound [] id (manifest.schemaFor id) :=
  schema_at_fails (mem_candidates_of_mentioned List.mem_cons_self) (lasts_walk_bound manifest [] id)

/-! ### Calls, one after the other -/

/-- The registry after some calls, whether they have failed or not. -/
def afterCalls (manifest : Manifest) (calls : List String) : SchemaRegistry :=
  calls.foldl (fun registry id => ((manifest.schemaFor id).run registry).2) (.start .empty)

theorem after_calls_strand (manifest : Manifest) (calls : List String) :
    manifest.Strands [] (manifest.afterCalls calls) := by
  induction calls using List.reverseRecOn with
  | nil => exact strands_nothing (SchemaRegistry.start_holds _)
  | append_singleton earlier id induction =>
      obtain ⟨stranded, holds, unsounds⟩ := induction
      rw [List.append_nil] at holds
      have called : manifest.afterCalls (earlier ++ [id]) =
          ((manifest.schemaFor id).run (manifest.afterCalls earlier)).2 := by
        simp [afterCalls]
      rw [called]
      cases ran : (manifest.schemaFor id).run (manifest.afterCalls earlier) with
      | mk outcome after =>
          cases outcome with
          | ok schema =>
              obtain ⟨holds, _, _⟩ := schema_at_finishes manifest _ id holds ran
              exact ⟨stranded, by rwa [List.append_nil], unsounds⟩
          | error fault =>
              obtain ⟨_, more, holds, others⟩ :=
                schema_for_fails manifest id (List.nil_subset _) holds ran
              refine ⟨more ++ stranded, by rwa [List.append_nil], ?_⟩
              intro struct listed
              rcases List.mem_append.mp listed with new | old
              · exact others struct new
              · exact unsounds struct old

end Manifest

end ApiCompiler

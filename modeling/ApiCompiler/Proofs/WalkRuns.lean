import ApiCompiler.Proofs.SchemaComponents
import ApiCompiler.Proofs.WalkDepth
import ApiCompiler.Proofs.WellFormed
import Mathlib.Order.WellFounded

/-!
What a walk does, said without a depth. Type-ids are walked in turn, the body of a struct is
rendered where the struct is met without a mark, and the first fault ends everything. That comes to
an end from every registry exactly where no chain of slices is infinite, and the walk with its depth
then does the same. On one registry no struct is rendered twice, however many calls are made and
whether they fail or not.
-/

set_option autoImplicit false

namespace ApiCompiler

/-- The schema of a struct from the schemas of its body fields, which may repeat a name. -/
def TypeEntry.bodySchema (entry : TypeEntry) (uses : List Schema) : Schema :=
  ((entry.body.zip uses).foldl Schema.addField .object).withDescription entry.doc

def SchemaRegistry.registering (registry : SchemaRegistry) (name : String) (schema : Schema) :
    SchemaRegistry :=
  { registry with components := registry.components.insert name schema }

namespace Manifest

/-- Walking type-ids in turn on a registry: the structs whose bodies are rendered on the way, in
order, the schemas of the type-ids up to the first fault, that fault, and the registry then. -/
inductive Walks (manifest : Manifest) : (before : SchemaRegistry) → (ids rendered : List String) →
    (given : List Schema) → (fault : Option ManifestFault) → (after : SchemaRegistry) → Prop
  | nothing {registry : SchemaRegistry} : Walks manifest registry [] [] [] none registry
  | unresolved {registry : SchemaRegistry} {id : String} {rest : List String}
      {fault : ManifestFault} (refused : manifest.resolve id = .error fault) :
      Walks manifest registry (id :: rest) [] [] (some fault) registry
  | primitive {before after : SchemaRegistry} {id : String} {rest rendered : List String}
      {given : List Schema} {fault : Option ManifestFault} {kind : Kind}
      (resolved : manifest.resolve id = .ok (.primitive kind))
      (others : Walks manifest before rest rendered given fault after) :
      Walks manifest before (id :: rest) rendered (.primitive kind :: given) fault after
  | slice {before between after : SchemaRegistry} {id elem : String}
      {rest below rendered : List String} {items : Schema} {given : List Schema}
      {fault : Option ManifestFault} (resolved : manifest.resolve id = .ok (.slice elem))
      (element : Walks manifest before [elem] below [items] none between)
      (others : Walks manifest between rest rendered given fault after) :
      Walks manifest before (id :: rest) (below ++ rendered)
        ((Schema.array items).withDescription ((manifest.types.get? id).bind (·.doc)) :: given)
        fault after
  | faultyElement {before after : SchemaRegistry} {id elem : String} {rest rendered : List String}
      {fault : ManifestFault} (resolved : manifest.resolve id = .ok (.slice elem))
      (element : Walks manifest before [elem] rendered [] (some fault) after) :
      Walks manifest before (id :: rest) rendered [] (some fault) after
  | again {before after : SchemaRegistry} {id : String} {entry : TypeEntry}
      {rest rendered : List String} {given : List Schema} {fault : Option ManifestFault}
      (resolved : manifest.resolve id = .ok (.struct id entry)) (marked : id ∈ before.rendered)
      (others : Walks manifest (before.naming id) rest rendered given fault after) :
      Walks manifest before (id :: rest) rendered
        (.component (before.names.nameOf id).1 :: given) fault after
  | first {before between after : SchemaRegistry} {id : String} {entry : TypeEntry}
      {rest below rendered : List String} {uses given : List Schema}
      {fault : Option ManifestFault} (resolved : manifest.resolve id = .ok (.struct id entry))
      (unmarked : id ∉ before.rendered)
      (body : Walks manifest (before.meeting id) (entry.body.map (·.typeId)) below uses none
        between)
      (others : Walks manifest
        (between.registering (before.names.nameOf id).1 (entry.bodySchema uses)) rest rendered
        given fault after) :
      Walks manifest before (id :: rest) (id :: below ++ rendered)
        (.component (before.names.nameOf id).1 :: given) fault after
  | faultyBody {before after : SchemaRegistry} {id : String} {entry : TypeEntry}
      {rest below : List String} {uses : List Schema} {fault : ManifestFault}
      (resolved : manifest.resolve id = .ok (.struct id entry)) (unmarked : id ∉ before.rendered)
      (body : Walks manifest (before.meeting id) (entry.body.map (·.typeId)) below uses
        (some fault) after) :
      Walks manifest before (id :: rest) (id :: below) [] (some fault) after

variable {manifest : Manifest} {id start : String} {rest rendered other more : List String}
  {before between after last : SchemaRegistry} {given given' : List Schema} {use : Schema}
  {fault fault' : Option ManifestFault}

theorem Walks.unique (first : manifest.Walks before rest rendered given fault after)
    (second : manifest.Walks before rest other given' fault' last) :
    rendered = other ∧ given = given' ∧ fault = fault' ∧ after = last := by
  induction first generalizing other given' fault' last with
  | nothing =>
      cases second
      exact ⟨rfl, rfl, rfl, rfl⟩
  | unresolved refused =>
      cases second with
      | unresolved refused' =>
          cases refused.symm.trans refused'
          exact ⟨rfl, rfl, rfl, rfl⟩
      | primitive resolved' | slice resolved' | faultyElement resolved' | again resolved'
      | first resolved' | faultyBody resolved' => cases refused.symm.trans resolved'
  | primitive resolved _ others =>
      cases second with
      | primitive resolved' others' =>
          cases resolved.symm.trans resolved'
          obtain ⟨rfl, rfl, rfl, rfl⟩ := others others'
          exact ⟨rfl, rfl, rfl, rfl⟩
      | unresolved resolved' | slice resolved' | faultyElement resolved' | again resolved'
      | first resolved' | faultyBody resolved' => cases resolved.symm.trans resolved'
  | slice resolved _ _ element others =>
      cases second with
      | slice resolved' element' others' =>
          cases resolved.symm.trans resolved'
          obtain ⟨rfl, same, _, rfl⟩ := element element'
          cases same
          obtain ⟨rfl, rfl, rfl, rfl⟩ := others others'
          exact ⟨rfl, rfl, rfl, rfl⟩
      | faultyElement resolved' element' =>
          cases resolved.symm.trans resolved'
          cases (element element').2.1
      | unresolved resolved' | primitive resolved' | again resolved' | first resolved'
      | faultyBody resolved' => cases resolved.symm.trans resolved'
  | faultyElement resolved _ element =>
      cases second with
      | slice resolved' element' =>
          cases resolved.symm.trans resolved'
          cases (element element').2.1
      | faultyElement resolved' element' =>
          cases resolved.symm.trans resolved'
          obtain ⟨rfl, _, same, rfl⟩ := element element'
          exact ⟨rfl, rfl, same, rfl⟩
      | unresolved resolved' | primitive resolved' | again resolved' | first resolved'
      | faultyBody resolved' => cases resolved.symm.trans resolved'
  | again resolved marked _ others =>
      cases second with
      | again _ _ others' =>
          obtain ⟨rfl, rfl, rfl, rfl⟩ := others others'
          exact ⟨rfl, rfl, rfl, rfl⟩
      | first _ unmarked | faultyBody _ unmarked => exact absurd marked unmarked
      | unresolved resolved' | primitive resolved' | slice resolved'
      | faultyElement resolved' => cases resolved.symm.trans resolved'
  | first resolved unmarked _ _ body others =>
      cases second with
      | again _ marked => exact absurd marked unmarked
      | first resolved' _ body' others' =>
          cases resolved.symm.trans resolved'
          obtain ⟨rfl, rfl, _, rfl⟩ := body body'
          obtain ⟨rfl, rfl, rfl, rfl⟩ := others others'
          exact ⟨rfl, rfl, rfl, rfl⟩
      | faultyBody resolved' _ body' =>
          cases resolved.symm.trans resolved'
          cases (body body').2.2.1
      | unresolved resolved' | primitive resolved' | slice resolved'
      | faultyElement resolved' => cases resolved.symm.trans resolved'
  | faultyBody resolved unmarked _ body =>
      cases second with
      | again _ marked => exact absurd marked unmarked
      | first resolved' _ body' =>
          cases resolved.symm.trans resolved'
          cases (body body').2.2.1
      | faultyBody resolved' _ body' =>
          cases resolved.symm.trans resolved'
          obtain ⟨rfl, _, same, rfl⟩ := body body'
          exact ⟨rfl, rfl, same, rfl⟩
      | unresolved resolved' | primitive resolved' | slice resolved'
      | faultyElement resolved' => cases resolved.symm.trans resolved'

theorem Walks.goes_on (first : manifest.Walks before [id] rendered [use] none between)
    (others : manifest.Walks between rest more given fault after) :
    manifest.Walks before (id :: rest) (rendered ++ more) (use :: given) fault after := by
  cases first with
  | primitive resolved nothing =>
      cases nothing
      exact .primitive resolved others
  | slice resolved element nothing =>
      cases nothing
      rw [List.append_nil]
      exact .slice resolved element others
  | again resolved marked nothing =>
      cases nothing
      exact .again resolved marked others
  | first resolved unmarked body nothing =>
      cases nothing
      rw [List.append_nil]
      exact .first resolved unmarked body others

theorem Walks.stops {cause : ManifestFault}
    (first : manifest.Walks before [id] rendered [] (some cause) after) (rest : List String) :
    manifest.Walks before (id :: rest) rendered [] (some cause) after := by
  cases first with
  | unresolved refused => exact .unresolved refused
  | faultyElement resolved element => exact .faultyElement resolved element
  | faultyBody resolved unmarked body => exact .faultyBody resolved unmarked body

/-! ### Each struct is rendered once -/

/-- Structs that were not marked before are marked afterwards, the last one first. -/
structure MarksOnce (before rendered after : List String) : Prop where
  marked : after = rendered.reverse ++ before
  distinct : rendered.Nodup
  unmarked : ∀ id ∈ rendered, id ∉ before

theorem marks_nothing (marks : List String) : MarksOnce marks [] marks :=
  ⟨rfl, List.nodup_nil, by simp⟩

theorem marks_first {marks : List String} (unmarked : id ∉ marks) :
    MarksOnce marks [id] (id :: marks) :=
  ⟨rfl, List.nodup_singleton id, by simpa using unmarked⟩

theorem MarksOnce.trans {early middle late : List String} (first : MarksOnce early rendered middle)
    (second : MarksOnce middle more late) : MarksOnce early (rendered ++ more) late := by
  obtain ⟨rfl, distinct, unmarked⟩ := first
  obtain ⟨rfl, distinct', unmarked'⟩ := second
  refine ⟨by rw [List.reverse_append, List.append_assoc], ?_, ?_⟩
  · refine List.nodup_append.mpr ⟨distinct, distinct', ?_⟩
    intro id listed other listed' same
    subst same
    exact unmarked' id listed' (List.mem_append_left _ (List.mem_reverse.mpr listed))
  · intro id listed
    rcases List.mem_append.mp listed with earlier | later
    · exact unmarked id earlier
    · exact fun marked => unmarked' id later (List.mem_append_right _ marked)

theorem Walks.marks_once (walks : manifest.Walks before rest rendered given fault after) :
    MarksOnce before.rendered rendered after.rendered := by
  induction walks with
  | nothing => exact marks_nothing _
  | unresolved => exact marks_nothing _
  | primitive _ _ others => exact others
  | slice _ _ _ element others => exact element.trans others
  | faultyElement _ _ element => exact element
  | again _ _ _ others => exact others
  | first _ unmarked _ _ body others => exact ((marks_first unmarked).trans body).trans others
  | faultyBody _ unmarked _ body => exact (marks_first unmarked).trans body

theorem Walks.keeps_marks (walks : manifest.Walks before rest rendered given fault after) :
    before.rendered ⊆ after.rendered := by
  rw [walks.marks_once.marked]
  exact List.subset_append_right _ _

theorem Walks.structs (walks : manifest.Walks before rest rendered given fault after) :
    ∀ id ∈ rendered, manifest.IsStruct id := by
  induction walks with
  | nothing => simp
  | unresolved => simp
  | primitive _ _ others => exact others
  | slice _ _ _ element others => exact List.forall_mem_append.mpr ⟨element, others⟩
  | faultyElement _ _ element => exact element
  | again _ _ _ others => exact others
  | first resolved _ _ _ body others =>
      exact List.forall_mem_append.mpr ⟨List.forall_mem_cons.mpr ⟨⟨_, resolved⟩, body⟩, others⟩
  | faultyBody resolved _ _ body => exact List.forall_mem_cons.mpr ⟨⟨_, resolved⟩, body⟩

/-- The fault of a walk is that of a type-id that does not resolve. -/
theorem Walks.fault_of_reference (walks : manifest.Walks before rest rendered given fault after)
    {cause : ManifestFault} (faulty : fault = some cause) :
    ∃ reference, manifest.resolve reference = .error cause := by
  induction walks with
  | nothing => cases faulty
  | unresolved refused =>
      cases faulty
      exact ⟨_, refused⟩
  | primitive _ _ others => exact others faulty
  | slice _ _ _ _ others => exact others faulty
  | faultyElement _ _ element => exact element faulty
  | again _ _ _ others => exact others faulty
  | first _ _ _ _ _ others => exact others faulty
  | faultyBody _ _ _ body => exact body faulty

/-! ### The depth is enough -/

/-- No chain of slices, each the element of the one before, is infinite. -/
def SliceChainsEnd (manifest : Manifest) : Prop :=
  ¬∃ chain : Nat → String, ∀ place,
    manifest.resolve (chain place) = .ok (.slice (chain (place + 1)))

theorem slice_chain_of_element
    (element : ∀ elem, manifest.resolve id = .ok (.slice elem) →
      ∃ count, manifest.SliceChain count elem) : ∃ count, manifest.SliceChain count id := by
  by_cases isSlice : ∃ elem, manifest.resolve id = .ok (.slice elem)
  · obtain ⟨elem, resolved⟩ := isSlice
    obtain ⟨count, chain⟩ := element elem resolved
    exact ⟨count + 1, .slice resolved chain⟩
  · exact ⟨1, .last fun elem resolved => isSlice ⟨elem, resolved⟩⟩

theorem SliceChainsEnd.slice_chain (ends : manifest.SliceChainsEnd) (id : String) :
    ∃ count, manifest.SliceChain count id := by
  have founded : WellFounded fun elem id => manifest.resolve id = .ok (.slice elem) := by
    rw [wellFounded_iff_isEmpty_descending_chain]
    exact ⟨fun ⟨chain, endless⟩ => ends ⟨chain, endless⟩⟩
  induction id using founded.induction with
  | _ id induction => exact slice_chain_of_element induction

theorem SliceChain.not_endless {chain : Nat → String} {count place : Nat}
    (endless : ∀ place, manifest.resolve (chain place) = .ok (.slice (chain (place + 1))))
    (ends : manifest.SliceChain count (chain place)) : False := by
  induction count generalizing place with
  | zero => exact absurd ends.positive (Nat.lt_irrefl 0)
  | succ count induction => exact induction (ends.element (endless place))

theorem slice_shorter {elem : String} (resolved : manifest.resolve id = .ok (.slice elem))
    (unnamed : id ∉ manifest.types.keys) : elem.length < id.length := by
  have refers := (references_iff_refers resolved).mp List.mem_cons_self
  cases refers with
  | field found | elem found => exact absurd (SortedMap.mem_keys_iff.mpr ⟨_, found⟩) unnamed
  | brackets _ _ element => exact sliceElement_shorter element

/-- Only named slices can go on for ever, since brackets make a type-id shorter. -/
theorem slice_chains_end_iff : manifest.SliceChainsEnd ↔
    ∀ key ∈ manifest.types.keys, ∃ count, manifest.SliceChain count key := by
  refine ⟨fun ends key _ => ends.slice_chain key, ?_⟩
  rintro named ⟨chain, endless⟩
  have shorter : ∀ place, (chain place).length + place ≤ (chain 0).length := by
    intro place
    induction place with
    | zero => exact Nat.le_refl _
    | succ place induction =>
        have less : (chain (place + 1)).length < (chain place).length := by
          refine slice_shorter (endless place) fun listed => ?_
          obtain ⟨count, ends⟩ := named _ listed
          exact ends.not_endless endless
        omega
  have impossible := shorter ((chain 0).length + 1)
  omega

theorem Within.slice_chain {depth : Nat} (within : manifest.Within depth id) :
    ∃ count, manifest.SliceChain count id := by
  induction depth generalizing id with
  | zero => exact within.elim
  | succ depth induction =>
      exact slice_chain_of_element fun elem resolved =>
        induction (within.2 elem ((references_iff_refers resolved).mp List.mem_cons_self))

/-- A manifest that passes the checks has no endless slices. -/
theorem WellFormed.slice_chains_end (wellFormed : manifest.WellFormed) : manifest.SliceChainsEnd :=
  slice_chains_end_iff.mpr fun key listed =>
    (wellFormed.types_grounded key listed).within.slice_chain

/-- The answer to the call for a type-id, and the structs that are rendered for it. -/
inductive Answers (manifest : Manifest) (before : SchemaRegistry) (id : String)
    (rendered : List String) : Except ManifestFault Schema × SchemaRegistry → Prop
  | schema {schema : Schema} {after : SchemaRegistry}
      (walks : manifest.Walks before [id] rendered [schema] none after) :
      Answers manifest before id rendered (.ok schema, after)
  | fault {cause : ManifestFault} {after : SchemaRegistry}
      (walks : manifest.Walks before [id] rendered [] (some cause) after) :
      Answers manifest before id rendered (.error cause, after)

/-- A value, unless there has been a fault before. -/
def unlessFaulty {α : Type} (fault : Option ManifestFault) (value : α) : Except ManifestFault α :=
  match fault with
  | none => .ok value
  | some cause => .error cause

/-- A walk with some marks set answers the call for a type-id. -/
def Meets (manifest : Manifest) (marks : List String) (id : String) (walk : SchemaWalk Schema) :
    Prop :=
  ∀ before : SchemaRegistry, marks ⊆ before.rendered →
    ∃ rendered, manifest.Answers before id rendered (walk.run before)

theorem fields_walks {schemaOf : String → SchemaWalk Schema} {fields : List Field}
    {marks : List String}
    (each : ∀ field ∈ fields, manifest.Meets marks field.typeId (schemaOf field.typeId))
    (marked : marks ⊆ before.rendered) (object : Schema) :
    ∃ rendered uses fault after,
      manifest.Walks before (fields.map (·.typeId)) rendered uses fault after ∧
      (fields.foldlM (fun object field => do
        let schema ← schemaOf field.typeId
        return object.withProperty field.jsonName (schema.withDescription field.doc) field.required)
        object : SchemaWalk Schema).run before =
          (unlessFaulty fault ((fields.zip uses).foldl Schema.addField object), after) := by
  induction fields generalizing before object with
  | nil => exact ⟨[], [], none, before, .nothing, rfl⟩
  | cons field rest induction =>
      rw [List.forall_mem_cons] at each
      obtain ⟨rendered, answers⟩ := each.1 before marked
      rw [List.foldlM_cons]
      cases asked : (schemaOf field.typeId).run before with
      | mk outcome between =>
          rw [asked] at answers
          cases answers with
          | @fault cause _ first =>
              refine ⟨rendered, [], some cause, between, first.stops _, ?_⟩
              exact SchemaWalk.run_bind_failed (SchemaWalk.run_bind_failed asked)
          | @schema use _ first =>
              obtain ⟨more, uses, fault, after, walks, ran⟩ := induction each.2
                (List.Subset.trans marked first.keeps_marks) (object.addField (field, use))
              refine ⟨rendered ++ more, use :: uses, fault, after, first.goes_on walks, ?_⟩
              rw [List.zip_cons_cons, List.foldl_cons, ← ran]
              apply SchemaWalk.run_bind_of
              rw [SchemaWalk.run_bind_of asked]
              rfl

theorem object_walks {schemaOf : String → SchemaWalk Schema} {entry : TypeEntry}
    {marks : List String}
    (each : ∀ field ∈ entry.body, manifest.Meets marks field.typeId (schemaOf field.typeId))
    (marked : marks ⊆ before.rendered) :
    ∃ rendered uses fault after,
      manifest.Walks before (entry.body.map (·.typeId)) rendered uses fault after ∧
      (objectSchema schemaOf entry).run before =
        (unlessFaulty fault (entry.bodySchema uses), after) := by
  obtain ⟨rendered, uses, fault, after, walks, folded⟩ := fields_walks each marked .object
  refine ⟨rendered, uses, fault, after, walks, ?_⟩
  cases fault with
  | none => exact SchemaWalk.run_bind_of folded
  | some cause => exact SchemaWalk.run_bind_failed folded

theorem struct_meets {schemaOf : String → SchemaWalk Schema} {entry : TypeEntry}
    {marks : List String} (resolved : manifest.resolve id = .ok (.struct id entry))
    (fields : id ∉ marks → ∀ field ∈ entry.body,
      manifest.Meets (id :: marks) field.typeId (schemaOf field.typeId)) :
    manifest.Meets marks id (SchemaWalk.meet id (objectSchema schemaOf entry)) := by
  intro before marked
  by_cases met : id ∈ before.rendered
  · rw [SchemaWalk.run_meet_marked met]
    exact ⟨[], .schema (.again resolved met .nothing)⟩
  · have marked' : id :: marks ⊆ (before.meeting id).rendered := List.cons_subset_cons id marked
    obtain ⟨rendered, uses, fault, after, body, ran⟩ :=
      object_walks (fields fun listed => met (marked listed)) marked'
    rw [SchemaWalk.run_meet_unmarked met]
    cases fault with
    | none =>
        rw [SchemaWalk.fill, SchemaWalk.run_bind_of ran]
        exact ⟨id :: rendered ++ [], .schema (.first resolved met body .nothing)⟩
    | some cause =>
        rw [SchemaWalk.fill, SchemaWalk.run_bind_failed ran]
        exact ⟨id :: rendered, .fault (.faultyBody resolved met body)⟩

/-- The induction is on the depth. What is left of it lasts for the slices on the way to the next
struct, and for those between the structs that have no mark. -/
theorem schema_at_meets (ends : manifest.SliceChainsEnd) {depth count : Nat} {marks : List String}
    (candidate : id ∈ manifest.candidates start) (chain : manifest.SliceChain count id)
    (enough : (manifest.unentered marks).card * manifest.reachBound start + count ≤ depth) :
    manifest.Meets marks id (manifest.schemaAt depth id) := by
  induction depth generalizing id count marks with
  | zero =>
      have positive := chain.positive
      omega
  | succ depth induction =>
      intro before marked
      rw [schemaAt]
      cases resolved : manifest.resolve id with
      | error fault => exact ⟨[], .fault (.unresolved resolved)⟩
      | ok target =>
          cases target with
          | primitive kind => exact ⟨[], .schema (.primitive resolved .nothing)⟩
          | slice elem =>
              have refers := (references_iff_refers resolved).mp List.mem_cons_self
              obtain ⟨count, rfl⟩ := Nat.exists_eq_add_one_of_ne_zero chain.positive.ne'
              obtain ⟨rendered, answers⟩ := induction (candidates_closed candidate refers)
                (chain.element resolved) (by omega) before marked
              cases asked : (manifest.schemaAt depth elem).run before with
              | mk outcome after =>
                  rw [asked] at answers
                  simp only
                  cases answers with
                  | schema element =>
                      rw [SchemaWalk.run_bind_of asked]
                      exact ⟨rendered ++ [], .schema (.slice resolved element .nothing)⟩
                  | fault element =>
                      rw [SchemaWalk.run_bind_failed asked]
                      exact ⟨rendered, .fault (.faultyElement resolved element)⟩
          | struct name entry =>
              obtain ⟨rfl, found, _⟩ := resolve_struct_iff.mp resolved
              refine struct_meets resolved ?_ before marked
              intro fresh field member
              have refers := (references_iff_refers resolved).mp
                (List.mem_map_of_mem (List.mem_of_mem_filter member))
              have onward := candidates_closed candidate refers
              obtain ⟨below, chain'⟩ := ends.slice_chain field.typeId
              have positive := chain.positive
              exact induction onward chain'
                (enough_below found fresh (by omega) (chain'.le_bound onward))

theorem schema_for_answers (ends : manifest.SliceChainsEnd) (registry : SchemaRegistry)
    (id : String) :
    ∃ rendered, manifest.Answers registry id rendered ((manifest.schemaFor id).run registry) := by
  obtain ⟨count, chain⟩ := ends.slice_chain id
  have candidate : id ∈ manifest.candidates id :=
    mem_candidates_of_mentioned List.mem_cons_self
  exact schema_at_meets ends candidate chain
    (walk_bound_enough [] (chain.le_bound candidate)) registry (List.nil_subset _)

/-! ### Where walks come to an end -/

theorem Answers.unique {log : List String}
    {answer answer' : Except ManifestFault Schema × SchemaRegistry}
    (first : manifest.Answers before id rendered answer)
    (second : manifest.Answers before id log answer') : rendered = log ∧ answer = answer' := by
  cases first with
  | schema walks =>
      cases second with
      | schema walks' =>
          obtain ⟨rfl, same, _, rfl⟩ := walks.unique walks'
          cases same
          exact ⟨rfl, rfl⟩
      | fault walks' => cases (walks.unique walks').2.1
  | fault walks =>
      cases second with
      | schema walks' => cases (walks.unique walks').2.1
      | fault walks' =>
          obtain ⟨rfl, _, same, rfl⟩ := walks.unique walks'
          cases same
          exact ⟨rfl, rfl⟩

theorem Walks.not_endless {chain : Nat → String}
    (endless : ∀ place, manifest.resolve (chain place) = .ok (.slice (chain (place + 1))))
    {ids : List String} (walks : manifest.Walks before ids rendered given fault after)
    (place : Nat) (rest : List String) : ids ≠ chain place :: rest := by
  induction walks generalizing place rest with
  | nothing => exact (List.cons_ne_nil _ _).symm
  | unresolved resolved | primitive resolved | again resolved | first resolved
  | faultyBody resolved =>
      intro same
      obtain ⟨rfl, rfl⟩ := List.cons.inj same
      cases resolved.symm.trans (endless place)
  | slice resolved _ _ element _ | faultyElement resolved _ element =>
      intro same
      obtain ⟨rfl, rfl⟩ := List.cons.inj same
      cases resolved.symm.trans (endless place)
      exact element (place + 1) [] rfl

/-- Calls for type-ids on a registry, one after the other and whether they fail or not, with the
structs whose bodies are rendered for them, in order. -/
inductive Calls (manifest : Manifest) :
    (before : SchemaRegistry) → (calls rendered : List String) → (after : SchemaRegistry) → Prop
  | nothing {registry : SchemaRegistry} : Calls manifest registry [] [] registry
  | call {before between after : SchemaRegistry} {id : String} {rest below rendered : List String}
      {outcome : Except ManifestFault Schema}
      (answers : manifest.Answers before id below (outcome, between))
      (others : Calls manifest between rest rendered after) :
      Calls manifest before (id :: rest) (below ++ rendered) after

theorem Answers.marks_once {outcome : Except ManifestFault Schema}
    (answers : manifest.Answers before id rendered (outcome, after)) :
    MarksOnce before.rendered rendered after.rendered ∧ ∀ id ∈ rendered, manifest.IsStruct id := by
  cases answers with
  | schema walks | fault walks => exact ⟨walks.marks_once, walks.structs⟩

theorem Calls.marks_once (calls : manifest.Calls before rest rendered after) :
    MarksOnce before.rendered rendered after.rendered ∧ ∀ id ∈ rendered, manifest.IsStruct id := by
  induction calls with
  | nothing => exact ⟨marks_nothing _, by simp⟩
  | call answers _ others =>
      obtain ⟨marks, structs⟩ := answers.marks_once
      exact ⟨marks.trans others.1, List.forall_mem_append.mpr ⟨structs, others.2⟩⟩

theorem calls_of_slice_chains_end (ends : manifest.SliceChainsEnd) (registry : SchemaRegistry)
    (calls : List String) : ∃ rendered, manifest.Calls registry calls rendered
      (calls.foldl (fun between id => ((manifest.schemaFor id).run between).2) registry) := by
  induction calls generalizing registry with
  | nil => exact ⟨[], .nothing⟩
  | cons id rest induction =>
      obtain ⟨below, answers⟩ := schema_for_answers ends registry id
      obtain ⟨rendered, others⟩ := induction ((manifest.schemaFor id).run registry).2
      exact ⟨below ++ rendered, .call answers others⟩

/-- Every call comes to an end, and no struct is rendered twice. -/
structure WalksEnd (manifest : Manifest) : Prop where
  /-- Walking as deep as the references go gives just what the walk with its depth computes. -/
  ends : ∀ (registry : SchemaRegistry) (id : String), ∃ rendered, ∀ log answer,
    manifest.Answers registry id log answer ↔
      log = rendered ∧ answer = (manifest.schemaFor id).run registry
  faults : ∀ (registry : SchemaRegistry) (id : String) (fault : ManifestFault)
    (after : SchemaRegistry), (manifest.schemaFor id).run registry = (.error fault, after) →
      ∃ reference, fault = .danglingType reference ∨ fault = .sliceWithoutElem reference
  calls : ∀ (registry : SchemaRegistry) (calls : List String), ∃ rendered,
    manifest.Calls registry calls rendered
      (calls.foldl (fun between id => ((manifest.schemaFor id).run between).2) registry)
  once : ∀ (registry after : SchemaRegistry) (calls rendered : List String),
    manifest.Calls registry calls rendered after → rendered.Nodup ∧
      ∀ id ∈ rendered, id ∉ registry.rendered ∧ manifest.IsStruct id

/-- Walks end on every registry, in manifests with cycles and with references to nothing as well, as
long as no chain of slices is infinite; and no longer than that. -/
theorem walks_end_iff (manifest : Manifest) : manifest.WalksEnd ↔ manifest.SliceChainsEnd := by
  constructor
  · intro walks
    rintro ⟨chain, endless⟩
    obtain ⟨rendered, answers⟩ := walks.ends default (chain 0)
    have answer := (answers rendered _).mpr ⟨rfl, rfl⟩
    generalize (manifest.schemaFor (chain 0)).run default = ran at answer
    cases answer with
    | schema walked | fault walked => exact walked.not_endless endless 0 [] rfl
  · intro ends
    refine ⟨?_, ?_, calls_of_slice_chains_end ends, ?_⟩
    · intro registry id
      obtain ⟨rendered, answers⟩ := schema_for_answers ends registry id
      refine ⟨rendered, fun log answer => ⟨fun other => other.unique answers, ?_⟩⟩
      rintro ⟨rfl, rfl⟩
      exact answers
    · intro registry id fault after ran
      obtain ⟨rendered, answers⟩ := schema_for_answers ends registry id
      rw [ran] at answers
      cases answers with
      | fault walked =>
          obtain ⟨reference, refused⟩ := walked.fault_of_reference rfl
          exact ⟨reference, resolve_error_cases refused⟩
    · intro registry after calls rendered called
      obtain ⟨marks, structs⟩ := called.marks_once
      exact ⟨marks.distinct, fun id listed => ⟨marks.unmarked id listed, structs id listed⟩⟩

/-- A club whose members know their team, and carry badges that have no type. -/
def club : Manifest := { empty with
  types := .ofList [
    ("Member", ⟨"", .struct, [⟨"Team", "team", "Team", true, none⟩,
      ⟨"Badge", "badge", "Badge", false, none⟩], none, none⟩),
    ("Members", ⟨"", .slice, [], some "Member", none⟩),
    ("Team", ⟨"", .struct, [⟨"Members", "members", "Members", true, none⟩], none, none⟩)] }

theorem club_slice_chains_end : club.SliceChainsEnd := by
  rw [slice_chains_end_iff]
  have last {id : String} {entry : TypeEntry}
      (resolved : club.resolve id = .ok (.struct id entry)) : club.SliceChain 1 id :=
    .last (by simp [resolved])
  have members : club.SliceChain 2 "Members" := .slice rfl (last rfl)
  have keys : club.types.keys = ["Member", "Members", "Team"] := rfl
  simpa [keys] using ⟨⟨1, last rfl⟩, ⟨2, members⟩, ⟨1, last rfl⟩⟩

/-- The registry when the call for a team has failed at a badge: both structs are marked and named,
and neither of them has a schema. -/
def badgesMissing : SchemaRegistry :=
  (((SchemaRegistry.start .empty).meeting "Team").meeting "Member").naming "Team"

/-- The call for the team fails at a badge. Members can be used afterwards, and nothing is rendered
once more. -/
theorem club_walks_end : club.SliceChainsEnd ∧ club.WalksEnd ∧
    ∃ after, club.Calls (.start .empty) ["Team", "[]Member", "Team"] ["Team", "Member"] after ∧
      ["Team", "Member"].Nodup := by
  have walks := (walks_end_iff club).mpr club_slice_chains_end
  have team : club.Answers (.start .empty) "Team" ["Team", "Member"]
      (.error (.danglingType "Badge"), badgesMissing) :=
    .fault (.faultyBody rfl (by decide) (.faultyElement rfl (.faultyBody rfl (by decide)
      (.again rfl (by decide) (.unresolved rfl)))))
  have member : club.Walks badgesMissing ["Member"] [] [.component "Member"] none
      (badgesMissing.naming "Member") := .again rfl (by decide) .nothing
  have members : club.Answers badgesMissing "[]Member" []
      (.ok (.array (.component "Member")), badgesMissing.naming "Member") :=
    .schema (.slice rfl member .nothing)
  have again : club.Answers (badgesMissing.naming "Member") "Team" []
      (.ok (.component "Team"), (badgesMissing.naming "Member").naming "Team") :=
    .schema (.again rfl (by decide) .nothing)
  have calls := Calls.call team (.call members (.call again .nothing))
  exact ⟨club_slice_chains_end, walks, _, calls, (walks.once _ _ _ _ calls).1⟩

end Manifest

end ApiCompiler

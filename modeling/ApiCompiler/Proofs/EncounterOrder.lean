import ApiCompiler.Proofs.DocumentSchemas

/-!
The order in which structs get their names. Walking through what the bodies of the endpoints are
made of, from the first to the last and each struct before its fields, every struct is named where
it is met for the first time.
-/

set_option autoImplicit false

namespace ApiCompiler

namespace Manifest

/-- Walking through type-ids from the first to the last, with the structs met so far, and the
structs met in the end. A struct that is met for the first time is entered at once. -/
inductive Encounters (manifest : Manifest) : (ids met final : List String) → Prop
  | nothing {met : List String} : Encounters manifest [] met met
  | primitive {id : String} {rest met final : List String} {kind : Kind}
      (resolved : manifest.resolve id = .ok (.primitive kind))
      (others : Encounters manifest rest met final) : Encounters manifest (id :: rest) met final
  | slice {id elem : String} {rest met final : List String}
      (resolved : manifest.resolve id = .ok (.slice elem))
      (onward : Encounters manifest (elem :: rest) met final) :
      Encounters manifest (id :: rest) met final
  | again {id name : String} {entry : TypeEntry} {rest met final : List String}
      (resolved : manifest.resolve id = .ok (.struct name entry)) (known : id ∈ met)
      (others : Encounters manifest rest met final) : Encounters manifest (id :: rest) met final
  | first {id name : String} {entry : TypeEntry} {rest met final : List String}
      (resolved : manifest.resolve id = .ok (.struct name entry)) (fresh : id ∉ met)
      (onward : Encounters manifest (entry.body.map (·.typeId) ++ rest) (met ++ [id]) final) :
      Encounters manifest (id :: rest) met final

variable {manifest : Manifest}

theorem Encounters.unique {ids met final other : List String}
    (encounters : manifest.Encounters ids met final)
    (encounters' : manifest.Encounters ids met other) : final = other := by
  induction encounters generalizing other with
  | nothing =>
      cases encounters'
      rfl
  | primitive resolved _ induction =>
      cases encounters' with
      | primitive _ others => exact induction others
      | slice resolved' => simp_all
      | again resolved' => simp_all
      | first resolved' => simp_all
  | slice resolved _ induction =>
      cases encounters' with
      | primitive resolved' => simp_all
      | slice resolved' onward =>
          rw [resolved] at resolved'
          cases resolved'
          exact induction onward
      | again resolved' => simp_all
      | first resolved' => simp_all
  | again resolved known _ induction =>
      cases encounters' with
      | primitive resolved' => simp_all
      | slice resolved' => simp_all
      | again _ _ others => exact induction others
      | first _ fresh => exact absurd known fresh
  | first resolved fresh _ induction =>
      cases encounters' with
      | primitive resolved' => simp_all
      | slice resolved' => simp_all
      | again _ known => exact absurd known fresh
      | first resolved' _ onward =>
          rw [resolved] at resolved'
          cases resolved'
          exact induction onward

end Manifest

/-! ### Names in the order of structs -/

/-- Nothing but the error envelope is kept away from types. -/
def componentRegistry : NameRegistry := NameRegistry.empty.reserve Schema.errorResponseName

/-- The names of structs that get them in the given order. -/
def namesInOrder (order : List String) : List String :=
  (componentRegistry.claimAll (order.map componentBase)).1

namespace ComponentNames

variable {names : ComponentNames} {order : List String} {id : String}

/-- The names have been given to some structs, in their order. -/
structure Follows (order : List String) (names : ComponentNames) : Prop where
  distinct : order.Nodup
  assigned : names.assigned = (order.zip (namesInOrder order)).reverse
  registry : names.registry = (componentRegistry.claimAll (order.map componentBase)).2

theorem names_in_order_length (order : List String) : (namesInOrder order).length = order.length :=
  (NameRegistry.claim_all_length _ _).trans (List.length_map _)

theorem follows_start : (empty.reserve Schema.errorResponseName).Follows [] :=
  ⟨.nil, rfl, rfl⟩

theorem Follows.keys (follows : names.Follows order) :
    names.assigned.map (·.1) = order.reverse := by
  rw [follows.assigned, List.map_reverse, List.map_fst_zip (names_in_order_length order).ge]

theorem Follows.with_fresh (follows : names.Follows order) (fresh : id ∉ order) :
    (names.withFresh id).Follows (order ++ [id]) := by
  have claimed := NameRegistry.claim_all_append componentRegistry (order.map componentBase)
    [componentBase id]
  have name : names.freshName id =
      (componentRegistry.claimAll (order.map componentBase)).2.freeName (componentBase id) := by
    rw [freshName, follows.registry]
  have longer : namesInOrder (order ++ [id]) = namesInOrder order ++ [names.freshName id] := by
    rw [namesInOrder, List.map_append, List.map_singleton, claimed, name]
    rfl
  refine ⟨?_, ?_, ?_⟩
  · exact List.nodup_append.mpr ⟨follows.distinct, List.nodup_singleton id, by
      intro other listed last same
      rw [List.mem_singleton.mp same]
      exact fun repeats => fresh (repeats ▸ listed)⟩
  · rw [withFresh, follows.assigned, longer, List.zip_append (names_in_order_length order).symm,
      List.reverse_append]
    rfl
  · rw [withFresh, follows.registry, List.map_append, List.map_singleton, claimed, name]
    rfl

theorem Follows.lookup_none (follows : names.Follows order) (fresh : id ∉ order) :
    names.lookup id = none := by
  rw [lookup, List.lookup_eq_none_iff]
  intro entry listed
  have known := List.mem_map_of_mem (f := (·.1)) listed
  rw [follows.keys, List.mem_reverse] at known
  exact bne_iff_ne.mpr fun same => fresh (same ▸ known)

theorem lookup_of_mem {entries : List (String × String)} {name : String}
    (distinct : (entries.map (·.1)).Nodup) (listed : (id, name) ∈ entries) :
    entries.lookup id = some name := by
  obtain ⟨before, after, rfl⟩ := List.append_of_mem listed
  rw [List.lookup_eq_some_iff]
  refine ⟨before, after, rfl, ?_⟩
  intro entry earlier
  rw [List.map_append, List.nodup_append] at distinct
  exact bne_iff_ne.mpr fun same =>
    distinct.2.2 _ (List.mem_map_of_mem earlier) _ List.mem_cons_self same.symm

/-- A struct has the name at its place. -/
theorem Follows.lookup_at (follows : names.Follows order) {index : Nat}
    (place : order[index]? = some id) : names.lookup id = (namesInOrder order)[index]? := by
  obtain ⟨inRange, here⟩ := List.getElem?_eq_some_iff.mp place
  have inRange' : index < (namesInOrder order).length := by rwa [names_in_order_length]
  have listed : (id, (namesInOrder order)[index]) ∈ names.assigned := by
    rw [follows.assigned, List.mem_reverse, List.mem_iff_getElem]
    exact ⟨index, by simpa using ⟨inRange, inRange'⟩, by simp [here]⟩
  have distinct : (names.assigned.map (·.1)).Nodup := by
    rw [follows.keys]
    exact List.nodup_reverse.mpr follows.distinct
  rw [lookup, lookup_of_mem distinct listed, List.getElem?_eq_getElem inRange']

theorem Follows.lookup_iff (follows : names.Follows order) :
    id ∈ order ↔ ∃ name, names.lookup id = some name := by
  constructor
  · intro listed
    obtain ⟨index, inRange, rfl⟩ := List.mem_iff_getElem.mp listed
    have inRange' : index < (namesInOrder order).length := by rwa [names_in_order_length]
    exact ⟨_, (follows.lookup_at (List.getElem?_eq_getElem inRange)).trans
      (List.getElem?_eq_getElem inRange')⟩
  · intro parts
    rcases parts with ⟨name, known⟩
    by_contra fresh
    rw [follows.lookup_none fresh] at known
    cases known

end ComponentNames

/-! ### Walks name what they encounter -/

/-- The structs that have been entered, in order, are those that have names. -/
structure SchemaRegistry.Ordered (order : List String) (registry : SchemaRegistry) : Prop where
  names : registry.names.Follows order
  entered : registry.rendered = order.reverse

/-- A walk that enters structs as they are encountered in some type-ids. -/
def Manifest.Lists {α : Type} (manifest : Manifest) (ids : List String) (walk : SchemaWalk α) :
    Prop :=
  ∀ (order : List String) (before after : SchemaRegistry) (value : α), before.Ordered order →
    walk.run before = (.ok value, after) → ∃ met, after.Ordered met ∧
      ∀ rest final, manifest.Encounters rest met final →
        manifest.Encounters (ids ++ rest) order final

namespace Manifest

open SchemaWalk (run_bind_ok_iff run_pure_iff run_lift_iff)

variable {manifest : Manifest} {α β : Type} {ids more : List String}

theorem lists_pure (value : α) : manifest.Lists [] (pure value) := by
  intro order before after result ordered ran
  obtain ⟨rfl, rfl⟩ := run_pure_iff.mp ran
  exact ⟨order, ordered, fun _ _ encounters => encounters⟩

theorem lists_lift (outcome : Except ManifestFault α) :
    manifest.Lists [] (ExceptT.mk (pure outcome)) := by
  intro order before after result ordered ran
  obtain ⟨_, rfl⟩ := run_lift_iff.mp ran
  exact ⟨order, ordered, fun _ _ encounters => encounters⟩

theorem lists_register (name : String) (schema : Schema) :
    manifest.Lists [] (SchemaWalk.register name schema) := by
  intro order before after result ordered ran
  rw [SchemaWalk.run_register] at ran
  cases ran
  exact ⟨order, ⟨ordered.names, ordered.entered⟩, fun _ _ encounters => encounters⟩

theorem Lists.bind {first : SchemaWalk α} {next : α → SchemaWalk β}
    (starts : manifest.Lists ids first) (continues : ∀ value, manifest.Lists more (next value)) :
    manifest.Lists (ids ++ more) (first >>= next) := by
  intro order before after result ordered ran
  obtain ⟨value, between, begun, ended⟩ := run_bind_ok_iff.mp ran
  obtain ⟨met, halfway, earlier⟩ := starts order before between value ordered begun
  obtain ⟨met', last, later⟩ := continues value met between after result halfway ended
  refine ⟨met', last, ?_⟩
  intro rest final encounters
  rw [List.append_assoc]
  exact earlier _ final (later rest final encounters)

theorem Lists.map {first : SchemaWalk α} (lists : manifest.Lists ids first) (make : α → β) :
    manifest.Lists ids (first >>= fun value => pure (make value)) := by
  rw [← List.append_nil ids]
  exact lists.bind fun value => lists_pure (make value)

theorem lists_fold {step : β → α → SchemaWalk β} {items : List α} {idsOf : α → List String}
    (each : ∀ item ∈ items, ∀ value, manifest.Lists (idsOf item) (step value item)) (start : β) :
    manifest.Lists (items.flatMap idsOf) (items.foldlM step start) := by
  induction items generalizing start with
  | nil => exact lists_pure start
  | cons item rest induction =>
      rw [List.forall_mem_cons] at each
      rw [List.foldlM_cons, List.flatMap_cons]
      exact (each.1 start).bind (induction each.2)

theorem lists_object {schemaOf : String → SchemaWalk Schema} {entry : TypeEntry}
    (each : ∀ id, manifest.Lists [id] (schemaOf id)) :
    manifest.Lists (entry.body.map (·.typeId)) (objectSchema schemaOf entry) := by
  rw [List.map_eq_flatMap]
  exact (lists_fold (fun field _ object => (each field.typeId).map _) _).map _

/-- A struct is named and entered when it is met for the first time, before its fields. -/
theorem lists_struct {id : String} {entry : TypeEntry} {walk : SchemaWalk Schema}
    (resolved : manifest.resolve id = .ok (.struct id entry))
    (body : manifest.Lists (entry.body.map (·.typeId)) walk) :
    manifest.Lists [id] (SchemaWalk.meet id walk) := by
  intro order before after schema ordered ran
  by_cases known : id ∈ order
  · obtain ⟨name, hasName⟩ := ordered.names.lookup_iff.mp known
    rw [SchemaWalk.run_meet_again hasName (by simpa [ordered.entered] using known)] at ran
    cases ran
    exact ⟨order, ordered, fun rest final encounters => .again resolved known encounters⟩
  · rw [SchemaWalk.run_meet_first (ordered.names.lookup_none known)
      (by simpa [ordered.entered] using known)] at ran
    have entering : (before.entering id).Ordered (order ++ [id]) :=
      ⟨ordered.names.with_fresh known, by simp [SchemaRegistry.entering, ordered.entered]⟩
    have onward : manifest.Lists (entry.body.map (·.typeId))
        (SchemaWalk.fill (before.names.freshName id) walk) := by
      rw [← List.append_nil (entry.body.map (·.typeId))]
      exact body.bind fun object => (lists_register _ object).map _
    obtain ⟨met, ordered', encounters'⟩ := onward _ _ _ _ entering ran
    exact ⟨met, ordered', fun rest final encounters =>
      .first resolved known (encounters' rest final encounters)⟩

theorem lists_schema_at (manifest : Manifest) (depth : Nat) (id : String) :
    manifest.Lists [id] (manifest.schemaAt depth id) := by
  induction depth generalizing id with
  | zero =>
      intro order before after schema ordered ran
      cases ran
  | succ depth induction =>
      cases resolved : manifest.resolve id with
      | error fault =>
          intro order before after schema ordered ran
          rw [schemaAt, resolved] at ran
          cases ran
      | ok target =>
          rw [schemaAt, resolved]
          cases target with
          | primitive kind =>
              intro order before after schema ordered ran
              obtain ⟨rfl, rfl⟩ := run_pure_iff.mp ran
              exact ⟨order, ordered, fun rest final encounters => .primitive resolved encounters⟩
          | slice elem =>
              intro order before after schema ordered ran
              obtain ⟨met, ordered', encounters'⟩ := (induction elem).map _ _ _ _ _ ordered ran
              exact ⟨met, ordered', fun rest final encounters =>
                .slice resolved (encounters' rest final encounters)⟩
          | struct name entry =>
              obtain ⟨rfl, _, _⟩ := resolve_struct_iff.mp resolved
              exact lists_struct resolved (lists_object induction)

theorem lists_schema_for (manifest : Manifest) (id : String) :
    manifest.Lists [id] (manifest.schemaFor id) := lists_schema_at manifest _ id

end Manifest

namespace OpenApi

variable {manifest : Manifest} {endpoint : Endpoint}

theorem request_body_lists (manifest : Manifest) (endpoint : Endpoint) :
    manifest.Lists endpoint.reqType.toList (requestBodyOf manifest endpoint) := by
  unfold requestBodyOf
  cases endpoint.reqType with
  | none => exact Manifest.lists_pure none
  | some id =>
      rw [Option.toList_some, ← List.append_nil [id]]
      refine (manifest.lists_schema_for id).bind fun schema => ?_
      cases endpoint.activeBindings with
      | none => exact Manifest.lists_pure none
      | some bindings =>
          simp only
          split_ifs
          · exact Manifest.lists_pure _
          · exact Manifest.lists_pure none

theorem success_response_lists (wellFormed : endpoint.WellFormed manifest) :
    manifest.Lists endpoint.respType.toList (successResponse manifest endpoint) := by
  have answers := wellFormed.response
  unfold successResponse
  cases answered : endpoint.respType with
  | none =>
      have silent : endpoint.shape.hasResponse = false := by simpa [answered] using answers
      rw [if_neg (by simp [silent])]
      exact Manifest.lists_pure _
  | some id =>
      have speaks : endpoint.shape.hasResponse = true := by simpa [answered] using answers
      rw [if_pos speaks]
      exact (manifest.lists_schema_for id).map _

theorem operation_lists (wellFormed : endpoint.WellFormed manifest) (operationId : String) :
    manifest.Lists endpoint.bodyTypes (operationOf manifest endpoint operationId) := by
  refine (Manifest.lists_lift (parametersOf manifest endpoint)).bind fun parameters => ?_
  exact (request_body_lists manifest endpoint).bind fun body =>
    (success_response_lists wellFormed).map _

theorem add_endpoint_lists {entry : Nat × Endpoint} (wellFormed : entry.2.WellFormed manifest)
    (ids : List String) (paths : SortedMap String PathItem) :
    manifest.Lists entry.2.bodyTypes (addEndpoint manifest ids paths entry) := by
  unfold addEndpoint
  cases ids[entry.1]? with
  | none =>
      intro order before after result ordered ran
      cases ran
  | some operationId =>
      rw [← List.append_nil entry.2.bodyTypes]
      exact (operation_lists wellFormed operationId).bind fun operation => Manifest.lists_lift _

theorem add_endpoints_lists (wellFormed : manifest.WellFormed) (ids : List String)
    (paths : SortedMap String PathItem) :
    manifest.Lists (manifest.canonicalEndpoints.flatMap Endpoint.bodyTypes)
      ((indexed manifest.canonicalEndpoints).foldlM (addEndpoint manifest ids) paths) := by
  rw [← indexed_body_types]
  apply Manifest.lists_fold
  intro entry position between
  have member := Manifest.mem_endpoints_of_indexed position
  exact add_endpoint_lists (wellFormed.endpoints entry.2 member) ids between

/-- The structs of a document are the given ones, and all that is said of them says so by these
names. -/
structure Document.NamesStructs (manifest : Manifest) (order : List String)
    (named : String → Option String) (document : Document) : Prop where
  keys : ∀ key, key ∈ document.schemas.keys ↔
    key = Schema.errorResponseName ∨ ∃ id ∈ order, named id = some key
  described : ∀ id ∈ order, ∃ name schema, named id = some name ∧
    document.schemas.get? name = some schema ∧ manifest.Describes named id schema
  operations : ∃ operations, document.HasOperations manifest named operations

/-- The structs of the document of an accepted manifest are those that the walk through its bodies
encounters, and each has the name that it gets when names are claimed in that order. -/
theorem names_follow_encounters (manifest : Manifest) (validated : manifest.validate = .ok ())
    (config : Config) :
    ∃ (document : Document) (order : List String) (named : String → Option String),
      documentOf manifest config manifest.canonicalEndpoints
        (.ofEndpoints manifest.canonicalEndpoints) = .ok document ∧
      (∀ final, manifest.Encounters (manifest.canonicalEndpoints.flatMap Endpoint.bodyTypes) []
        final ↔ final = order) ∧
      (∀ (index : Nat) (id : String), order[index]? = some id →
        named id = (componentRegistry.claimAll (order.map componentBase)).1[index]?) ∧
      document.NamesStructs manifest order named := by
  have wellFormed := Manifest.well_formed_of_validate validated
  obtain ⟨document, built⟩ := document_succeeds wellFormed config
  obtain ⟨registry, ran, schemas⟩ := document_run built
  obtain ⟨walked, operations, has⟩ := run_walk wellFormed ran
  have consistent := walked.grows.consistent
  obtain ⟨order, ordered, encounters⟩ := add_endpoints_lists wellFormed _ _ [] _ _ _
    ⟨ComponentNames.follows_start, rfl⟩ ran
  have encountered := encounters [] order .nothing
  rw [List.append_nil] at encountered
  refine ⟨document, order, registry.names.lookup, built, ?_, ?_, ?_, ?_, operations, has⟩
  · intro final
    constructor
    · exact fun other => other.unique encountered
    · intro same
      subst same
      exact encountered
  · exact fun index id => ordered.names.lookup_at
  · intro key
    rw [schemas, component_key_iff consistent]
    constructor
    · exact fun known => known.imp_right fun ⟨id, given⟩ =>
        ⟨id, ordered.names.lookup_iff.mpr ⟨key, given⟩, given⟩
    · exact fun known => known.imp_right fun ⟨id, _, given⟩ => ⟨id, given⟩
  · intro id listed
    obtain ⟨name, given⟩ := ordered.names.lookup_iff.mp listed
    obtain ⟨schema, found, describes⟩ := consistent.finished id name List.not_mem_nil given
    exact ⟨name, schema, given, by rw [schemas, found], describes⟩

/-- Loans are listed, each with its book. Both are entries of a list. -/
def lending : Manifest := { Manifest.empty with
  endpoints := [⟨.get, "/loans", ⟨"loans", "list"⟩, .noReqResp, none,
    some "[]loans::Entry", none, []⟩]
  types := .ofList [
    ("books::Entry", ⟨"", .struct, [⟨"Title", "title", "string", true, none⟩], none, none⟩),
    ("loans::Entry", ⟨"", .struct, [⟨"Days", "days", "uint8", true, none⟩,
      ⟨"Books", "books", "[]books::Entry", true, none⟩,
      ⟨"Last", "last", "books::Entry", false, none⟩], none, none⟩)] }

theorem lending_valid : lending.validate = .ok () := by decide +kernel

theorem lending_starts : lending.canonicalEndpoints.flatMap Endpoint.bodyTypes =
    ["[]loans::Entry"] := by decide +kernel

theorem lending_names : lending.validate = .ok () ∧ ∃ (document : Document)
    (named : String → Option String), documentOf lending {} lending.canonicalEndpoints
      (.ofEndpoints lending.canonicalEndpoints) = .ok document ∧
    named "loans::Entry" = some "Entry" ∧ named "books::Entry" = some "Entry2" ∧
    document.NamesStructs lending ["loans::Entry", "books::Entry"] named := by
  obtain ⟨document, order, named, built, encounters, places, names⟩ :=
    names_follow_encounters lending lending_valid {}
  have order_eq : ["loans::Entry", "books::Entry"] = order := by
    rw [← encounters, lending_starts]
    exact .slice rfl (.first rfl (by decide) (.primitive rfl
      (.slice rfl (.first rfl (by decide) (.primitive rfl (.again rfl (by decide) .nothing))))))
  subst order_eq
  have claimed : (componentRegistry.claimAll
      (["loans::Entry", "books::Entry"].map componentBase)).1 =
      ["Entry", "Entry2"] := by decide +kernel
  rw [claimed] at places
  exact ⟨lending_valid, document, named, built, places 0 _ rfl, places 1 _ rfl, names⟩

end OpenApi

end ApiCompiler

import ApiCompiler.Names.BuildContext
import ApiCompiler.Proofs.NameRegistry

/-!
The names of a build cover the endpoints that it is for: every handler package is imported once, in
the order in which the packages first occur and under a local name of its own, and every position
has its operation id.
-/

set_option autoImplicit false

namespace ApiCompiler

/-- The items of a list without repetitions, in the order in which they first occur there. -/
structure FirstOccurrences (items all : List String) : Prop where
  mem_iff : ∀ item, item ∈ items ↔ item ∈ all
  in_order : items.Pairwise fun earlier later => all.idxOf earlier < all.idxOf later

namespace FirstOccurrences

variable {items all : List String} {item : String}

theorem nodup (first : FirstOccurrences items all) : items.Nodup :=
  first.in_order.imp fun before same => by
    subst same
    exact Nat.lt_irrefl _ before

/-- What stands behind a list does not change where its items first occur. -/
theorem in_order_append (first : FirstOccurrences items all) (more : List String) :
    items.Pairwise fun earlier later =>
      (all ++ more).idxOf earlier < (all ++ more).idxOf later := by
  apply first.in_order.imp_of_mem
  intro earlier later listed listed' before
  rwa [List.idxOf_append_of_mem ((first.mem_iff earlier).mp listed),
    List.idxOf_append_of_mem ((first.mem_iff later).mp listed')]

theorem again (first : FirstOccurrences items all) (known : item ∈ items) :
    FirstOccurrences items (all ++ [item]) := by
  refine ⟨?_, first.in_order_append [item]⟩
  intro other
  rw [List.mem_append, List.mem_singleton, ← first.mem_iff, or_iff_left_of_imp]
  rintro rfl
  exact known

theorem new (first : FirstOccurrences items all) (fresh : item ∉ items) :
    FirstOccurrences (items ++ [item]) (all ++ [item]) := by
  refine ⟨fun other => by simp [first.mem_iff], ?_⟩
  rw [List.pairwise_append]
  refine ⟨first.in_order_append [item], List.pairwise_singleton _ _, ?_⟩
  intro earlier listed later own
  rw [List.mem_singleton.mp own]
  have known := (first.mem_iff earlier).mp listed
  have unknown : item ∉ all := fun occurs => fresh ((first.mem_iff item).mpr occurs)
  rw [List.idxOf_append_of_mem known, List.idxOf_append_of_notMem unknown]
  exact Nat.lt_add_right _ (List.idxOf_lt_length_of_mem known)

end FirstOccurrences

namespace BuildContext

/-- What has been imported once some packages have been met. No name that is handed out later is one
of those in use or reserved. -/
structure Imports (met : List String) (state : List Import × NameRegistry) : Prop where
  packages : FirstOccurrences (state.1.map (·.package)) met
  names_derived : ∀ item ∈ state.1, ∃ registry : NameRegistry,
    item.localName = registry.freeName (defaultLocalName item.package)
  names_distinct : (state.1.map (·.localName)).Nodup
  names_unreserved : ∀ item ∈ state.1, item.localName ∉ reservedLocalNames
  taken : ∀ item ∈ state.1, item.localName ∈ state.2.taken
  reserved_taken : reservedLocalNames ⊆ state.2.taken

variable {met : List String} {state : List Import × NameRegistry} {package name : String}

/-- A package that is new comes behind the others, under a free name that is then in use. -/
theorem Imports.import_new (imports : Imports met state)
    (fresh : package ∉ state.1.map (·.package))
    (derived : ∃ registry : NameRegistry, name = registry.freeName (defaultLocalName package))
    (free : name ∉ state.2.taken) :
    Imports (met ++ [package]) (state.1 ++ [⟨package, name⟩], state.2.reserve name) := by
  have still : ∀ {other : String}, other ∈ state.2.taken → other ∈ (state.2.reserve name).taken :=
    fun known => NameRegistry.mem_reserve_iff.mpr (.inr known)
  have unreserved : name ∉ reservedLocalNames :=
    fun reserved => free (imports.reserved_taken reserved)
  have own : name ∈ (state.2.reserve name).taken := NameRegistry.mem_reserve_iff.mpr (.inl rfl)
  refine ⟨?_, ?_, ?_, ?_, ?_, fun other reserved => still (imports.reserved_taken reserved)⟩
  · simpa using imports.packages.new fresh
  · exact List.forall_mem_append.mpr
      ⟨imports.names_derived, List.forall_mem_singleton.mpr derived⟩
  · rw [List.map_append, List.map_singleton, List.nodup_append]
    refine ⟨imports.names_distinct, List.nodup_singleton _, ?_⟩
    intro other known given listed same
    obtain ⟨item, listed', rfl⟩ := List.mem_map.mp known
    have again : item.localName = name := same.trans (List.mem_singleton.mp listed)
    exact free (again ▸ imports.taken item listed')
  · exact List.forall_mem_append.mpr
      ⟨imports.names_unreserved, List.forall_mem_singleton.mpr unreserved⟩
  · exact List.forall_mem_append.mpr
      ⟨fun item listed => still (imports.taken item listed), List.forall_mem_singleton.mpr own⟩

theorem Imports.add_import (imports : Imports met state) (package : String) :
    Imports (met ++ [package]) (addImport state package) := by
  have occurs_iff : (state.1.any fun item => item.package == package) = true ↔
      package ∈ state.1.map (·.package) := by
    simp [List.any_eq_true, List.mem_map]
  unfold addImport
  split_ifs with known
  · exact { imports with packages := imports.packages.again (occurs_iff.mp known) }
  · exact imports.import_new (fun occurs => known (occurs_iff.mpr occurs)) ⟨state.2, rfl⟩
      (state.2.free_name_not_taken _)

theorem Imports.add_imports (imports : Imports met state) (packages : List String) :
    Imports (met ++ packages) (packages.foldl addImport state) := by
  induction packages generalizing met state with
  | nil => simpa using imports
  | cons package rest induction => simpa using induction (imports.add_import package)

theorem imports_of_packages (packages : List String) :
    Imports packages (packages.foldl addImport ([], localNameRegistry)) := by
  have none : Imports [] ([], localNameRegistry) :=
    ⟨⟨by simp, .nil⟩, by simp, List.nodup_nil, by simp, by simp, by decide⟩
  exact none.add_imports packages

theorem import_names_nodup (packages : List String) :
    ((importsOf packages).map (·.localName)).Nodup := (imports_of_packages packages).names_distinct

variable {endpoints : List Endpoint} {endpoint : Endpoint} {context : BuildContext}
  {localName : String}

theorem local_name_import (known : context.localNameOf package = some localName) :
    ∃ item ∈ context.imports, item.package = package ∧ item.localName = localName := by
  obtain ⟨item, found, named⟩ := Option.map_eq_some_iff.mp known
  exact ⟨item, List.mem_of_find?_eq_some found, by simpa using List.find?_some found, named⟩

theorem local_name_given_iff :
    (context.localNameOf package).isSome ↔ package ∈ context.imports.map (·.package) := by
  simp [localNameOf, List.find?_isSome, List.mem_map]

/-- Where no package is imported twice, each import names its package. -/
theorem local_name_iff (distinct : (context.imports.map (·.package)).Nodup) :
    context.localNameOf package = some localName ↔ ⟨package, localName⟩ ∈ context.imports := by
  constructor
  · intro known
    obtain ⟨item, listed, rfl, rfl⟩ := local_name_import known
    exact listed
  · intro listed
    have known := local_name_given_iff.mpr (List.mem_map_of_mem listed)
    obtain ⟨own, named⟩ := Option.isSome_iff_exists.mp known
    obtain ⟨item, listed', same, rfl⟩ := local_name_import named
    have isItem := List.inj_on_of_nodup_map distinct listed' listed same
    rw [named, isItem]

theorem import_packages (endpoints : List Endpoint) :
    FirstOccurrences ((ofEndpoints endpoints).imports.map (·.package))
      (endpoints.map (·.handler.package)) := (imports_of_packages _).packages

theorem local_name_known (listed : endpoint ∈ endpoints) :
    ∃ localName, (ofEndpoints endpoints).localNameOf endpoint.handler.package = some localName := by
  apply Option.isSome_iff_exists.mp
  rw [local_name_given_iff, (import_packages endpoints).mem_iff]
  exact List.mem_map_of_mem listed

theorem operation_ids_length (endpoints : List Endpoint) :
    (ofEndpoints endpoints).operationIds.length = endpoints.length := by
  rw [ofEndpoints, NameRegistry.claim_all_length, List.length_map]

theorem operation_ids_nodup (endpoints : List Endpoint) :
    (ofEndpoints endpoints).operationIds.Nodup := (NameRegistry.empty.claim_all_fresh _).1

theorem operation_id_known {index : Nat} (inRange : index < endpoints.length) :
    ∃ id, (ofEndpoints endpoints).operationIds[index]? = some id := by
  rw [← operation_ids_length] at inRange
  exact ⟨_, List.getElem?_eq_getElem inRange⟩

/-- Names for endpoints: one import for each handler package, and one operation id for each
position. -/
structure Names (endpoints : List Endpoint) (context : BuildContext) : Prop where
  packages : FirstOccurrences (context.imports.map (·.package))
    (endpoints.map (·.handler.package))
  packages_distinct : (context.imports.map (·.package)).Nodup
  names_distinct : (context.imports.map (·.localName)).Nodup
  names_unreserved : ∀ item ∈ context.imports, item.localName ∉
    ["axum", "core", "crate", "self", "serde_json", "std", "super"]
  local_name_iff : ∀ package localName,
    context.localNameOf package = some localName ↔ ⟨package, localName⟩ ∈ context.imports
  local_name_given_iff : ∀ package, (context.localNameOf package).isSome ↔
    ∃ endpoint ∈ endpoints, endpoint.handler.package = package
  operation_id_given_iff : ∀ index, (context.operationId index).isSome ↔ index < endpoints.length
  operation_ids_distinct : ∀ index other id, context.operationId index = some id →
    context.operationId other = some id → index = other

theorem of_endpoints_names (endpoints : List Endpoint) :
    Names endpoints (ofEndpoints endpoints) := by
  have imports := imports_of_packages (endpoints.map (·.handler.package))
  have distinct := imports.packages.nodup
  refine ⟨imports.packages, distinct, imports.names_distinct, imports.names_unreserved, ?_, ?_, ?_,
    ?_⟩
  · exact fun package localName => local_name_iff distinct
  · intro package
    rw [local_name_given_iff, (import_packages endpoints).mem_iff, List.mem_map]
  · intro index
    rw [operationId, isSome_getElem?, operation_ids_length]
  · intro index other id given given'
    obtain ⟨inRange, _⟩ := List.getElem?_eq_some_iff.mp given
    exact (List.getElem?_inj inRange (operation_ids_nodup endpoints)).mp (given.trans given'.symm)

example : importsOf ["a::pets", "b::pets", "a::pets", "pets2", "c::axum"] =
    [⟨"a::pets", "pets"⟩, ⟨"b::pets", "pets2"⟩, ⟨"pets2", "pets22"⟩, ⟨"c::axum", "axum2"⟩] := by
  decide +kernel

end BuildContext

end ApiCompiler

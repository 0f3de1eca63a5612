import ApiCompiler.Proofs.ExposedRoutes
import ApiCompiler.Proofs.ModuleText

/-!
A routes module is closed: whatever its text uses by name stands in it or is imported by it, once.
The parts of the text are computed apart from each other, the parsers from the manifest, the helpers
from the bindings, the imports from the routes and from the names of the build, and they fit.
-/

set_option autoImplicit false

namespace ApiCompiler

open RoutesModule (Declaration Extractor BindingContext EndpointContext Helper)

namespace RoutesModule

/-- The function that a declaration is of. -/
def Declaration.function : Declaration → Option String
  | .bindingTypes => none
  | .helper lookup => some lookup.name
  | .parser kind => some kind.parserName
  | .binder name _ => some name
  | .dispatcher endpoint => some endpoint.dispatchFunction

/-- The bindings that a declaration reads. -/
def Declaration.bindings : Declaration → List BindingContext
  | .binder _ endpoint => endpoint.bindings
  | _ => []

/-- The functions of the module that a declaration calls. -/
def Declaration.calls : Declaration → List String
  | .helper .requiredMany => [Helper.optionalMany.name]
  | .binder _ endpoint =>
      endpoint.bindings.flatMap fun binding => [binding.helper.name, binding.parserName]
  | .dispatcher endpoint => endpoint.bindFunction.toList
  | _ => []

namespace Context

def functions (module : Context) : List String := module.declarations.filterMap Declaration.function

/-- The bindings that the binders of a module read. -/
def bindings (module : Context) : List BindingContext :=
  module.declarations.flatMap Declaration.bindings

/-- The import lines of the standard library and of the framework. -/
def libraryImports (module : Context) : List String := (module.importGroups.take 2).flatten

end Context

/-- What the types for binding need from outside, besides what every module imports. -/
def bindingImports : List String := [
  "use std::collections::HashMap;", "use axum::body::Bytes;",
  "use axum::http::\x7bHeaderMap, StatusCode\x7d;"]

/-- A line that imports a function of the router. -/
inductive ImportsRouting (name : String) : String → Prop
  | single : ImportsRouting name ("use axum::routing::" ++ name ++ ";")
  | several {names : List String} (listed : name ∈ names) :
      ImportsRouting name ("use axum::routing::\x7b" ++ ", ".intercalate names ++ "\x7d;")

/-- The source that a part of the request is to a binding. -/
def Extractor.source : Extractor → Option String
  | path => some Location.path.variant
  | query => some Location.query.variant
  | headers => some Location.header.variant
  | body => none

/-- A dispatch function extracts what its binder reads, and leaves no part out unless it says so. -/
structure EndpointContext.Extracts (endpoint : EndpointContext) : Prop where
  sources : ∀ binding ∈ endpoint.bindings,
    ∃ extractor ∈ endpoint.extractors, extractor.source = some binding.source
  body_iff : .body ∈ endpoint.extractors ↔ endpoint.hasJsonBody = true
  once : endpoint.extractors.Nodup
  body_last : .body ∈ endpoint.extractors → endpoint.extractors.getLast? = some .body
  complete_iff : endpoint.partsComplete = true ↔
    endpoint.extractors = [.path, .query, .headers, .body]

end RoutesModule

/-- The name that the import line of a package binds. -/
def Import.boundName (item : Import) : String :=
  if item.needsRename then item.localName else Text.lastSegment item.package

namespace RoutesModule

/-- A handler is called in its package, by a name that one import line binds. -/
def EndpointContext.CallsImported (imports : List Import) (endpoint : Endpoint)
    (context : EndpointContext) : Prop :=
  ∃ item ∈ imports, item.package = endpoint.handler.package ∧
    context.handlerCall = item.boundName ++ "::" ++ Text.sourceIdentifier endpoint.handler.name ∧
    (imports.map Import.boundName).count item.boundName = 1

/-- What a module uses by name, it declares or imports, and it declares nothing that is unused. -/
structure Context.Closed (module : Context) (endpoints : List Endpoint) : Prop where
  calls_declared : ∀ declaration ∈ module.declarations, ∀ name ∈ declaration.calls,
    module.functions.count name = 1
  links_declared : ∀ route ∈ module.routes, ∀ link ∈ route.chain,
    module.functions.count link.2 = 1
  parser_declared : ∀ binding ∈ module.bindings,
    ∃ kind, .parser kind ∈ module.declarations ∧ binding.parserName = kind.parserName
  parser_used : ∀ kind, .parser kind ∈ module.declarations →
    ∃ binding ∈ module.bindings, binding.parserName = kind.parserName
  helper_iff : ∀ lookup, .helper lookup ∈ module.declarations ↔
    ∃ binding ∈ module.bindings, binding.helper = lookup ∨
      lookup = .optionalMany ∧ binding.helper = .requiredMany
  types_iff : .bindingTypes ∈ module.declarations ↔
    ∃ endpoint ∈ module.endpoints, endpoint.bindFunction.isSome
  types_imported : ∀ line ∈ bindingImports, line ∈ module.libraryImports ↔
    ∃ endpoint ∈ module.endpoints, endpoint.bindFunction.isSome
  extracts : ∀ endpoint ∈ module.endpoints, endpoint.Extracts
  routing_imported : ∀ route ∈ module.routes, ∃ link rest, route.chain = link :: rest ∧
    ∃ line ∈ module.libraryImports, ImportsRouting link.1.routerName line
  handlers_imported :
    List.Forall₂ (EndpointContext.CallsImported module.imports) endpoints module.endpoints

/-! ### One endpoint -/

section Endpoint

variable {manifest : Manifest} {endpoint : Endpoint} {context : EndpointContext}

theorem EndpointContext.Presents.bound (presents : context.Presents manifest endpoint) :
    List.Forall₂ (fun entry binding => BindingContext.ofBinding entry.1 entry.2 = .ok binding)
      (EndpointContext.bindingsOf endpoint).located context.bindings := by
  obtain ⟨site, rfl, own⟩ := presents
  obtain ⟨bindings, bindFunction, bound, _, rfl⟩ := of_site_ok_iff.mp own
  exact map_each_ok_iff.mp bound

theorem EndpointContext.Presents.binder_named (presents : context.Presents manifest endpoint) :
    context.bindFunction ≠ some "" := by
  obtain ⟨site, rfl, own⟩ := presents
  intro unnamed
  have named := bind_function_of_site own unnamed
  have letters := congrArg String.length named
  rw [String.length_append] at letters
  have start : "bind_".length = 5 := rfl
  have none : "".length = 0 := rfl
  omega

/-- Nothing is bound without a binder. -/
theorem EndpointContext.Presents.binds (presents : context.Presents manifest endpoint)
    (bound : context.bindings ≠ []) : context.bindFunction.isSome := by
  apply presents.bind_function_iff.mpr
  by_contra inactive
  have none : endpoint.activeBindings = none := by
    simpa [Endpoint.requiresBinding] using inactive
  have located := presents.bound.length_eq
  rw [EndpointContext.bindingsOf, none] at located
  exact bound (List.eq_nil_of_length_eq_zero located.symm)

theorem binding_of_ok {location : Location} {binding : FieldBinding} {bound : BindingContext}
    (made : BindingContext.ofBinding location binding = .ok bound) :
    ∃ kind, binding.parseKind = .ok kind ∧ bound.parserName = kind.parserName ∧
      bound.source = location.variant := by
  obtain ⟨kind, parses, same⟩ := bind_ok_iff.mp made
  cases same
  exact ⟨kind, parses, rfl, rfl⟩

theorem source_extracted {bindings : Bindings} {location : Location} {binding : FieldBinding}
    (listed : (location, binding) ∈ bindings.located) :
    ∃ extractor ∈ Extractor.ofBindings bindings, extractor.source = some location.variant := by
  simp only [Bindings.located, List.mem_append, List.mem_map, Prod.mk.injEq] at listed
  rcases listed with (⟨binding, listed, rfl, _⟩ | ⟨binding, listed, rfl, _⟩) |
    ⟨binding, listed, rfl, _⟩
  · exact ⟨.path, by simp [Extractor.ofBindings, List.ne_nil_of_mem listed], rfl⟩
  · exact ⟨.query, by simp [Extractor.ofBindings, List.ne_nil_of_mem listed], rfl⟩
  · exact ⟨.headers, by simp [Extractor.ofBindings, List.ne_nil_of_mem listed], rfl⟩

theorem extractors_placed (bindings : Bindings) :
    (Extractor.ofBindings bindings).Nodup ∧
      (.body ∈ Extractor.ofBindings bindings →
        (Extractor.ofBindings bindings).getLast? = some .body) ∧
      ((Extractor.ofBindings bindings).length = 4 ↔
        Extractor.ofBindings bindings = [.path, .query, .headers, .body]) := by
  unfold Extractor.ofBindings
  split_ifs <;> decide

theorem EndpointContext.Presents.extracts (presents : context.Presents manifest endpoint) :
    context.Extracts := by
  have bound := presents.bound
  obtain ⟨site, rfl, own⟩ := presents
  obtain ⟨bindings, bindFunction, _, _, rfl⟩ := of_site_ok_iff.mp own
  have placed := extractors_placed (EndpointContext.bindingsOf site.endpoint)
  refine ⟨?_, by simp [Extractor.ofBindings], placed.1, placed.2.1, ?_⟩
  · intro binding listed
    obtain ⟨entry, located, made⟩ := mem_of_forall₂ bound listed
    obtain ⟨kind, _, _, source⟩ := binding_of_ok made
    rw [source]
    exact source_extracted located
  · exact beq_iff_eq.trans placed.2.2

end Endpoint

/-! ### The declarations of a module -/

section Declarations

variable {module : Context} {lookup : Helper} {kind : Kind} {name : String}
  {endpoint : EndpointContext}

@[simp]
theorem helper_mem_iff :
    .helper lookup ∈ module.declarations ↔ module.helpers.has lookup = true := by
  have listed : lookup ∈ Helper.all := by cases lookup <;> decide
  simp [Context.declarations, HelperFlags.declaration, EndpointContext.binder, listed]

@[simp]
theorem parser_mem_iff : .parser kind ∈ module.declarations ↔ kind ∈ module.parsers := by
  simp [Context.declarations, HelperFlags.declaration, EndpointContext.binder]

@[simp]
theorem binder_mem_iff : .binder name endpoint ∈ module.declarations ↔
    endpoint ∈ module.endpoints ∧ endpoint.bindFunction = some name := by
  simp [Context.declarations, HelperFlags.declaration, EndpointContext.binder]

@[simp]
theorem dispatcher_mem_iff :
    .dispatcher endpoint ∈ module.declarations ↔ endpoint ∈ module.endpoints := by
  simp [Context.declarations, HelperFlags.declaration, EndpointContext.binder]

theorem functions_eq (module : Context) : module.functions =
    (Helper.all.filter module.helpers.has).map Helper.name
      ++ module.parsers.map Kind.parserName
      ++ module.endpoints.filterMap (·.bindFunction)
      ++ module.endpoints.map (·.dispatchFunction) := by
  have types : (if module.needsBinding then [Declaration.bindingTypes] else []).filterMap
      Declaration.function = [] := by
    split_ifs <;> rfl
  have helpers : (Helper.all.filterMap module.helpers.declaration).filterMap
      Declaration.function = (Helper.all.filter module.helpers.has).map Helper.name := by
    rw [← List.filterMap_eq_map, ← List.filterMap_eq_filter, List.filterMap_filterMap,
      List.filterMap_filterMap]
    apply List.filterMap_congr
    intro lookup _
    cases has : module.helpers.has lookup <;>
      simp [HelperFlags.declaration, has, Declaration.function, Option.guard]
  have binders : (module.endpoints.filterMap EndpointContext.binder).filterMap
      Declaration.function = module.endpoints.filterMap (·.bindFunction) := by
    rw [List.filterMap_filterMap]
    apply List.filterMap_congr
    intro endpoint _
    cases binds : endpoint.bindFunction <;>
      simp [EndpointContext.binder, binds, Declaration.function]
  have parsers : module.parsers.filterMap (Declaration.function ∘ .parser) =
      module.parsers.map Kind.parserName := congrFun List.filterMap_eq_map module.parsers
  have dispatchers : module.endpoints.filterMap (Declaration.function ∘ .dispatcher) =
      module.endpoints.map (·.dispatchFunction) :=
    congrFun List.filterMap_eq_map module.endpoints
  simp only [Context.functions, Context.declarations, List.filterMap_append, List.filterMap_map,
    types, helpers, parsers, binders, dispatchers, List.nil_append]

end Declarations

section Module

variable {manifest : Manifest} {endpoints : List Endpoint} {module : Context}

theorem helper_initial (lookup : Helper) :
    lookup.name.toList.head? = some 'r' ∨ lookup.name.toList.head? = some 'o' := by
  cases lookup <;> decide

theorem parser_initial (kind : Kind) : kind.parserName.toList.head? = some 'p' := by
  rw [Kind.parserName, String.toList_append]
  rfl

theorem binder_initial
    (made : contextOf manifest endpoints (.ofEndpoints endpoints) = .ok module) {name : String}
    (listed : name ∈ module.endpoints.filterMap (·.bindFunction)) :
    name.toList.head? = some 'b' := by
  obtain ⟨suffix, _, rfl⟩ := List.mem_map.mp ((module_bind_functions made).subset listed)
  rw [String.toList_append]
  rfl

theorem dispatcher_initial
    (made : contextOf manifest endpoints (.ofEndpoints endpoints) = .ok module) {name : String}
    (listed : name ∈ module.endpoints.map (·.dispatchFunction)) :
    name.toList.head? = some 'd' := by
  rw [module_dispatch_functions made] at listed
  obtain ⟨suffix, _, rfl⟩ := List.mem_map.mp listed
  rw [String.toList_append]
  rfl

theorem parser_names_nodup
    (made : contextOf manifest endpoints (.ofEndpoints endpoints) = .ok module) :
    (module.parsers.map Kind.parserName).Nodup := by
  obtain ⟨_, _, parsers, _, _, used, rfl⟩ := context_of_ok_iff.mp made
  obtain ⟨kinds, _, same⟩ := bind_ok_iff.mp used
  cases same
  have all : (Kind.all.map Kind.parserName).Nodup := by decide
  exact all.sublist (List.filter_sublist.map _)

/-- No function is declared twice: those of one family have different names, and the families have
different initials. -/
theorem functions_nodup
    (made : contextOf manifest endpoints (.ofEndpoints endpoints) = .ok module) :
    module.functions.Nodup := by
  obtain ⟨_, dispatchers, binders⟩ := module_names_distinct made
  have helpers : ((Helper.all.filter module.helpers.has).map Helper.name).Nodup := by
    have all : (Helper.all.map Helper.name).Nodup := by decide
    exact all.sublist (List.filter_sublist.map _)
  have binder : ∀ name ∈ _, _ := fun name => binder_initial made
  have dispatcher : ∀ name ∈ _, _ := fun name => dispatcher_initial made
  rw [functions_eq]
  simp only [List.nodup_append, List.forall_mem_append]
  refine ⟨⟨⟨helpers, parser_names_nodup made, ?_⟩, binders, ?_, ?_⟩, dispatchers, ⟨?_, ?_⟩, ?_⟩
  all_goals
    intro name listed name' listed' same
    grind [helper_initial, parser_initial]

theorem mem_bindings_iff
    (made : contextOf manifest endpoints (.ofEndpoints endpoints) = .ok module)
    {binding : BindingContext} :
    binding ∈ module.bindings ↔ ∃ endpoint ∈ module.endpoints, binding ∈ endpoint.bindings := by
  unfold Context.bindings
  rw [List.mem_flatMap]
  constructor
  · intro parts
    rcases parts with ⟨declaration, declared, listed⟩
    cases declaration with
    | binder name endpoint => exact ⟨endpoint, (binder_mem_iff.mp declared).1, listed⟩
    | _ => cases listed
  · intro parts
    rcases parts with ⟨endpoint, member, listed⟩
    obtain ⟨origin, _, presents⟩ := mem_of_forall₂ (module_presents made) member
    obtain ⟨name, binds⟩ := Option.isSome_iff_exists.mp
      (presents.binds (List.ne_nil_of_mem listed))
    exact ⟨.binder name endpoint, binder_mem_iff.mpr ⟨member, binds⟩, listed⟩

theorem helper_flags_of_module
    (made : contextOf manifest endpoints (.ofEndpoints endpoints) = .ok module) :
    ∃ used, module.helpers = helperFlags used ∧
      ∀ lookup, lookup ∈ used ↔ ∃ binding ∈ module.bindings, binding.helper = lookup := by
  refine ⟨(module.endpoints.flatMap (·.bindings)).map (·.helper), ?_, ?_⟩
  · obtain ⟨_, contexts, _, _, _, _, rfl⟩ := context_of_ok_iff.mp made
    rfl
  · intro lookup
    simp only [List.mem_map, List.mem_flatMap, mem_bindings_iff made]

theorem has_helper_iff
    (made : contextOf manifest endpoints (.ofEndpoints endpoints) = .ok module) (lookup : Helper) :
    module.helpers.has lookup = true ↔ ∃ binding ∈ module.bindings,
      binding.helper = lookup ∨ lookup = .optionalMany ∧ binding.helper = .requiredMany := by
  obtain ⟨used, flags, named⟩ := helper_flags_of_module made
  simp only [and_or_left, exists_or, ← named, and_left_comm (a := _ ∈ module.bindings),
    exists_and_left, flags]
  cases lookup <;> simp [HelperFlags.has, helperFlags]

/-- The parsers are those of the kinds that the manifest binds. -/
theorem mem_parsers_iff
    (made : contextOf manifest endpoints (.ofEndpoints endpoints) = .ok module) {kind : Kind} :
    kind ∈ module.parsers ↔ ∃ endpoint ∈ endpoints,
      ∃ entry ∈ (EndpointContext.bindingsOf endpoint).located,
        entry.2.parseKind = .ok kind := by
  obtain ⟨_, _, parsers, _, _, used, rfl⟩ := context_of_ok_iff.mp made
  obtain ⟨kinds, parsed, same⟩ := bind_ok_iff.mp used
  cases same
  have listed : kind ∈ Kind.all := by cases kind <;> decide
  simp only [List.mem_filter, listed, true_and, List.contains_iff_mem]
  constructor
  · intro member
    obtain ⟨entry, located, parses⟩ := mem_of_map_each parsed member
    obtain ⟨endpoint, listed, bound⟩ := List.mem_flatMap.mp located
    exact ⟨endpoint, listed, entry, bound, parses⟩
  · intro parts
    rcases parts with ⟨endpoint, listed, entry, bound, parses⟩
    obtain ⟨kind', member, parses'⟩ := result_of_forall₂ (map_each_ok_iff.mp parsed)
      (List.mem_flatMap.mpr ⟨endpoint, listed, bound⟩)
    cases parses.symm.trans parses'
    exact member

theorem parser_listed
    (made : contextOf manifest endpoints (.ofEndpoints endpoints) = .ok module)
    {binding : BindingContext} (listed : binding ∈ module.bindings) :
    ∃ kind ∈ module.parsers, binding.parserName = kind.parserName := by
  obtain ⟨context, member, own⟩ := (mem_bindings_iff made).mp listed
  obtain ⟨endpoint, member', presents⟩ := mem_of_forall₂ (module_presents made) member
  obtain ⟨entry, located, bound⟩ := mem_of_forall₂ presents.bound own
  obtain ⟨kind, parses, named, _⟩ := binding_of_ok bound
  exact ⟨kind, (mem_parsers_iff made).mpr ⟨endpoint, member', entry, located, parses⟩, named⟩

/-! ### What a module calls -/

theorem count_function
    (made : contextOf manifest endpoints (.ofEndpoints endpoints) = .ok module)
    {declaration : Declaration} {name : String} (declared : declaration ∈ module.declarations)
    (named : declaration.function = some name) : module.functions.count name = 1 :=
  List.count_eq_one_of_mem (functions_nodup made) (List.mem_filterMap.mpr ⟨_, declared, named⟩)

theorem calls_declared
    (made : contextOf manifest endpoints (.ofEndpoints endpoints) = .ok module)
    {declaration : Declaration} {name : String} (declared : declaration ∈ module.declarations)
    (called : name ∈ declaration.calls) : module.functions.count name = 1 := by
  cases declaration with
  | bindingTypes => cases called
  | parser kind => cases called
  | helper lookup =>
      cases lookup with
      | requiredMany =>
          cases List.mem_singleton.mp called
          obtain ⟨binding, listed, reads⟩ := (has_helper_iff made .requiredMany).mp
            (helper_mem_iff.mp declared)
          have many : Declaration.helper .optionalMany ∈ module.declarations :=
            helper_mem_iff.mpr ((has_helper_iff made .optionalMany).mpr
              ⟨binding, listed, .inr ⟨rfl, by simpa using reads⟩⟩)
          exact count_function made many rfl
      | _ => cases called
  | binder name' endpoint =>
      obtain ⟨binding, own, either⟩ := List.mem_flatMap.mp called
      have listed : binding ∈ module.bindings := List.mem_flatMap.mpr ⟨_, declared, own⟩
      rcases List.mem_pair.mp either with rfl | rfl
      · have declared' : .helper binding.helper ∈ module.declarations :=
          helper_mem_iff.mpr ((has_helper_iff made _).mpr ⟨binding, listed, .inl rfl⟩)
        exact count_function made declared' rfl
      · obtain ⟨kind, member, named⟩ := parser_listed made listed
        exact count_function made (parser_mem_iff.mpr member) (congrArg some named.symm)
  | dispatcher endpoint =>
      have binds : endpoint.bindFunction = some name := Option.mem_toList.mp called
      exact count_function made
        (binder_mem_iff.mpr ⟨dispatcher_mem_iff.mp declared, binds⟩) rfl

theorem links_declared
    (made : contextOf manifest endpoints (.ofEndpoints endpoints) = .ok module) {route : Route}
    {link : Method × String} (listed : route ∈ module.routes) (chained : link ∈ route.chain) :
    module.functions.count link.2 = 1 := by
  have registered : (route.pathLiteral, link.1.routerName, link.2) ∈ module.registrations :=
    List.mem_flatMap.mpr ⟨route, listed, List.mem_map.mpr ⟨link, chained, rfl⟩⟩
  rw [module_registrations made] at registered
  obtain ⟨entry, paired, same⟩ := List.mem_map.mp registered
  have called : entry.2.dispatchFunction = link.2 := congrArg (·.2.2) same
  exact count_function made (dispatcher_mem_iff.mpr (List.of_mem_zip paired).2)
    (congrArg some called)

/-! ### What a module imports -/

theorem library_imports_eq (module : Context) : module.libraryImports =
    (if module.needsBinding then ["use std::collections::HashMap;"] else [])
      ++ module.axumImports := by
  simp [Context.libraryImports, Context.importGroups]

theorem routing_line_letter {functions : List String} {line : String}
    (listed : line ∈ Context.routingImports functions) : line.toList[10]? = some 'r' := by
  unfold Context.routingImports at listed
  split at listed
  · cases listed
  all_goals
    cases List.mem_singleton.mp listed
    simp only [String.append_assoc, String.toList_append]
    rfl

theorem types_imported {line : String} (needed : line ∈ bindingImports) :
    line ∈ module.libraryImports ↔ module.needsBinding = true := by
  have notExtract : line ∉ module.extractImports := by
    unfold Context.extractImports
    split <;> revert line <;> decide
  have letters : ∀ line ∈ bindingImports, line.toList[10]? ≠ some 'r' := by decide
  have notRouting : line ∉ Context.routingImports module.routingFunctions :=
    fun listed => letters line needed (routing_line_letter listed)
  rw [library_imports_eq, Context.axumImports]
  simp only [List.mem_append, notExtract, notRouting]
  clear notExtract notRouting
  cases module.needsBinding <;> revert line <;> decide

theorem routing_imported {route : Route} {link : Method × String}
    (listed : route ∈ module.routes) (opens : route.chain.head? = some link) :
    ∃ line ∈ module.libraryImports, ImportsRouting link.1.routerName line := by
  have known : link.1.routerName ∈ module.routingFunctions :=
    SortedMap.mem_keys_of_list_iff.mpr ⟨(link.1.routerName, ()), List.mem_map.mpr ⟨link,
      List.mem_filterMap.mpr ⟨route, listed, opens⟩, rfl⟩, rfl⟩
  have line : ∃ line ∈ Context.routingImports module.routingFunctions,
      ImportsRouting link.1.routerName line := by
    generalize module.routingFunctions = functions at known
    match functions with
    | [] => cases known
    | [single] =>
        cases List.mem_singleton.mp known
        exact ⟨_, List.mem_singleton_self _, .single⟩
    | first :: second :: others => exact ⟨_, List.mem_singleton_self _, .several known⟩
  obtain ⟨line, member, imports⟩ := line
  refine ⟨line, ?_, imports⟩
  rw [library_imports_eq, Context.axumImports]
  simp [member]

theorem site_names_import {context : BuildContext} {endpoint : Endpoint}
    {operationId suffix : String} {site : Site}
    (made : siteOf context endpoint operationId suffix = .ok site) :
    context.localNameOf site.endpoint.handler.package = some site.localName := by
  unfold siteOf at made
  split at made
  · rename_i localName known
    cases made
    exact known
  · cases made

theorem sites_name_imports {context : BuildContext} {sites : List Site}
    (made : sitesOf context endpoints = .ok sites) :
    ∀ site ∈ sites, context.localNameOf site.endpoint.handler.package = some site.localName := by
  obtain ⟨operationIds, _, each⟩ := bind_ok_iff.mp made
  intro site listed
  obtain ⟨entry, _, own⟩ := mem_of_map_each each listed
  exact site_names_import own

theorem bound_name_eq (item : Import) : item.boundName = item.localName := by
  unfold Import.boundName Import.needsRename
  split_ifs with renamed
  · rfl
  · simpa using renamed

theorem handlers_imported
    (made : contextOf manifest endpoints (.ofEndpoints endpoints) = .ok module) :
    List.Forall₂ (EndpointContext.CallsImported module.imports) endpoints module.endpoints := by
  obtain ⟨sites, contexts, _, located, each, _, rfl⟩ := context_of_ok_iff.mp made
  have named := (List.forall₂_and_left sites contexts).mpr
    ⟨sites_name_imports located, map_each_ok_iff.mp each⟩
  have calls : List.Forall₂
      (EndpointContext.CallsImported (BuildContext.ofEndpoints endpoints).imports)
      (sites.map (·.endpoint)) contexts := by
    rw [List.forall₂_map_left_iff]
    apply named.imp
    intro site context parts
    rcases parts with ⟨known, own⟩
    obtain ⟨item, listed, same, localName⟩ := BuildContext.local_name_import known
    obtain ⟨_, _, _, _, rfl⟩ := of_site_ok_iff.mp own
    refine ⟨item, listed, same, by rw [bound_name_eq, localName], ?_⟩
    apply List.count_eq_one_of_mem
    · rw [funext bound_name_eq]
      exact BuildContext.import_names_nodup _
    · exact List.mem_map_of_mem listed
  rwa [(sites_parts located).1] at calls

end Module

end RoutesModule

end ApiCompiler

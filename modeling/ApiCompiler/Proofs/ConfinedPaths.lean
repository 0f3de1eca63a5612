import ApiCompiler.Proofs.Compilation
import ApiCompiler.Proofs.ModulePassages
import ApiCompiler.Proofs.ViewerRoutes

/-!
Two runs on endpoints that differ in their paths only. As long as distinct paths stay distinct, the
two modules have the same code, and what differs is inside comments and string literals.
-/

set_option autoImplicit false

namespace ApiCompiler

/-- An endpoint at another path. -/
def Endpoint.moved (place : String → String) (endpoint : Endpoint) : Endpoint :=
  { endpoint with path := place endpoint.path }

/-- Distinct paths of endpoints have distinct places. -/
def KeepsApart (place : String → String) (endpoints : List Endpoint) : Prop :=
  ∀ first ∈ endpoints, ∀ second ∈ endpoints,
    place first.path = place second.path → first.path = second.path

/-! ### Groups -/

def PathGroup.moved (place : String → String) (group : PathGroup) : PathGroup :=
  ⟨place group.path, group.members.map fun entry => (entry.1, entry.2.moved place)⟩

variable {place : String → String}

theorem indexed_moved (place : String → String) (endpoints : List Endpoint) :
    indexed (endpoints.map (Endpoint.moved place)) =
      (indexed endpoints).map fun entry => (entry.1, entry.2.moved place) := by
  simp only [indexed, List.zipIdx_map, List.map_map]
  rfl

theorem group_by_path_moved {entries : List (Nat × Endpoint)}
    (apart : KeepsApart place (entries.map Prod.snd)) :
    groupByPath (entries.map fun entry => (entry.1, entry.2.moved place)) =
      (groupByPath entries).map (PathGroup.moved place) := by
  induction entries with
  | nil => rfl
  | cons entry rest induction =>
      have later : KeepsApart place (rest.map Prod.snd) := by
        intro first listed second listed'
        exact apart first (List.mem_cons_of_mem _ listed) second (List.mem_cons_of_mem _ listed')
      have moved := induction later
      obtain ⟨index, endpoint⟩ := entry
      rw [List.map_cons, groupByPath, groupByPath, moved]
      cases behind : groupByPath rest with
      | nil => rfl
      | cons group groups =>
          have present : group.path ∈ (groupByPath rest).map (·.path) := by
            rw [behind]
            exact List.mem_cons_self
          obtain ⟨member, inRest, same⟩ := mem_group_paths_iff.mp present
          have listed : member.2 ∈ rest.map Prod.snd := List.mem_map_of_mem inRest
          have agree : place group.path = place endpoint.path ↔ group.path = endpoint.path := by
            constructor
            · intro together
              rw [← same] at together ⊢
              exact apart _ (List.mem_cons_of_mem _ listed) _ List.mem_cons_self together
            · exact congrArg place
          simp only [List.map_cons, PathGroup.moved, Endpoint.moved, agree]
          split_ifs <;> rfl

namespace RoutesModule

variable {manifest : Manifest} {endpoints : List Endpoint} {context : BuildContext}

/-! ### Sites -/

def Site.moved (place : String → String) (site : Site) : Site :=
  { site with endpoint := site.endpoint.moved place }

theorem sites_of_moved {sites : List Site} (located : sitesOf context endpoints = .ok sites) :
    sitesOf context (endpoints.map (Endpoint.moved place)) =
      .ok (sites.map (Site.moved place)) := by
  unfold sitesOf at located ⊢
  obtain ⟨operationIds, known, located⟩ := bind_ok_iff.mp located
  rw [List.length_map, known]
  apply map_each_ok_iff.mpr
  rw [List.zip_map_left, List.forall₂_map_left_iff, List.forall₂_map_right_iff]
  apply (map_each_ok_iff.mp located).imp
  intro entry site own
  obtain ⟨endpoint, operationId, suffix⟩ := entry
  change siteOf context endpoint operationId suffix = .ok site at own
  change siteOf context (endpoint.moved place) operationId suffix = .ok (site.moved place)
  unfold siteOf at own ⊢
  have package : (endpoint.moved place).handler.package = endpoint.handler.package := rfl
  rw [package]
  split at own
  · cases own
    rfl
  · cases own

/-- The context of a moved endpoint names another route, and nothing else differs. -/
theorem of_site_moved {site : Site} {own : EndpointContext}
    (made : EndpointContext.ofSite manifest site = .ok own) :
    EndpointContext.ofSite manifest (site.moved place) =
      .ok { own with route := (site.endpoint.moved place).routeLabel } := by
  obtain ⟨bindings, bindFunction, bound, named, rfl⟩ := of_site_ok_iff.mp made
  apply of_site_ok_iff.mpr
  refine ⟨bindings, bindFunction, bound, ?_, rfl⟩
  change EndpointContext.bindFunctionOf (site.endpoint.moved place) site.suffix = .ok bindFunction
  have active : (site.endpoint.moved place).activeBindings = site.endpoint.activeBindings := rfl
  have request : (site.endpoint.moved place).reqType = site.endpoint.reqType := rfl
  unfold EndpointContext.bindFunctionOf at named ⊢
  rw [active, request]
  split at named
  · exact named
  · cases named
  · exact named

theorem contexts_of_moved (place : String → String) {sites : List Site}
    {contexts : List EndpointContext}
    (made : sites.mapM (EndpointContext.ofSite manifest) = .ok contexts) :
    ∃ contexts', (sites.map (Site.moved place)).mapM (EndpointContext.ofSite manifest) =
        .ok contexts' ∧
      contexts'.map EndpointContext.unrouted = contexts.map EndpointContext.unrouted := by
  have each := map_each_ok_iff.mp made
  have succeeds : ∀ site ∈ sites.map (Site.moved place),
      ∃ own, EndpointContext.ofSite manifest site = .ok own := by
    rw [List.forall_mem_map]
    intro site listed
    obtain ⟨own, _, kept⟩ := result_of_forall₂ each listed
    exact ⟨_, of_site_moved kept⟩
  obtain ⟨contexts', made'⟩ := map_each_succeeds succeeds
  refine ⟨contexts', made', ?_⟩
  have each' := map_each_ok_iff.mp made'
  rw [List.forall₂_map_left_iff] at each'
  apply map_of_forall₂ (forall₂_join each each')
  intro own own' parts
  rcases parts with ⟨site, kept, moved⟩
  rw [of_site_moved kept] at moved
  cases moved
  rfl

theorem routes_of_moved (apart : KeepsApart place endpoints)
    {contexts contexts' : List EndpointContext}
    (alike : contexts'.map EndpointContext.unrouted = contexts.map EndpointContext.unrouted) :
    ((groupByPath (indexed (endpoints.map (Endpoint.moved place)))).map
        (routeOf contexts')).map Route.unrouted =
      ((groupByPath (indexed endpoints)).map (routeOf contexts)).map Route.unrouted := by
  have function : ∀ index : Nat, (contexts'[index]?).map (·.dispatchFunction) =
      (contexts[index]?).map (·.dispatchFunction) := by
    intro index
    have same := congrArg (fun all : List EndpointContext => (all[index]?).map (·.dispatchFunction))
      alike
    simp only [List.getElem?_map, Option.map_map] at same
    exact same
  have listed : KeepsApart place ((indexed endpoints).map Prod.snd) := by
    rw [indexed_endpoints]
    exact apart
  rw [indexed_moved, group_by_path_moved listed, List.map_map, List.map_map, List.map_map]
  apply List.map_congr_left
  intro group _
  simp only [Function.comp_def, routeOf, Route.unrouted, PathGroup.moved, List.map_map, function]
  rfl

theorem used_kinds_moved (endpoints : List Endpoint) :
    usedKinds (endpoints.map (Endpoint.moved place)) = usedKinds endpoints := by
  unfold usedKinds
  rw [List.flatMap_map]
  rfl

/-- Moving the endpoints changes the routes of a module, and nothing else. -/
theorem context_of_moved {module : Context} (apart : KeepsApart place endpoints)
    (made : contextOf manifest endpoints context = .ok module) :
    ∃ module', contextOf manifest (endpoints.map (Endpoint.moved place)) context = .ok module' ∧
      module'.unrouted = module.unrouted := by
  obtain ⟨sites, contexts, parsers, located, each, used, rfl⟩ := context_of_ok_iff.mp made
  obtain ⟨contexts', each', alike⟩ := contexts_of_moved place each
  refine ⟨_, context_of_ok_iff.mpr ⟨_, contexts', parsers, sites_of_moved located, each', ?_, rfl⟩,
    ?_⟩
  · rw [used_kinds_moved, used]
  · have bindings : contexts'.flatMap (·.bindings) = contexts.flatMap (·.bindings) := by
      have same := congrArg (fun all : List EndpointContext => all.flatMap (·.bindings)) alike
      simpa only [List.flatMap_map, EndpointContext.unrouted] using same
    simp only [Context.unrouted, bindings, alike, routes_of_moved apart alike]

/-! ### What is promised of the two modules -/

/-- The paths of endpoints are outside the code of their module, and their comments are closed just
when no path and no handler has a line break. -/
structure Context.Confines (manifest : Manifest) (endpoints : List Endpoint) (module : Context) :
    Prop where
  same_code : ∀ place, KeepsApart place endpoints →
    ∃ module', contextOf manifest (endpoints.map (Endpoint.moved place))
        (.ofEndpoints (endpoints.map (Endpoint.moved place))) = .ok module' ∧
      module'.passages.map Passage.blank = module.passages.map Passage.blank
  closed_iff : (∀ passage ∈ module.passages, passage.Closed) ↔ ∀ endpoint ∈ endpoints,
    '\n' ∉ endpoint.path.toList ∧ '\n' ∉ endpoint.handler.qualifiedName.toList

theorem of_endpoints_moved (endpoints : List Endpoint) :
    BuildContext.ofEndpoints (endpoints.map (Endpoint.moved place)) = .ofEndpoints endpoints := by
  simp only [BuildContext.ofEndpoints, List.map_map, Function.comp_def, Endpoint.moved]

theorem EndpointContext.Presents.comment {endpoint : Endpoint} {own : EndpointContext}
    (presents : own.Presents manifest endpoint) :
    ('\n' ∉ own.route.toList ↔ '\n' ∉ endpoint.path.toList) ∧
      own.handler = endpoint.handler.qualifiedName := by
  obtain ⟨site, rfl, made⟩ := presents
  obtain ⟨bindings, bindFunction, _, _, rfl⟩ := of_site_ok_iff.mp made
  have method : '\n' ∉ site.endpoint.method.name.toList := by
    cases site.endpoint.method <;> decide
  refine ⟨?_, rfl⟩
  simp [Endpoint.routeLabel, method]

theorem module_confines {module : Context}
    (made : contextOf manifest endpoints (.ofEndpoints endpoints) = .ok module) :
    module.Confines manifest endpoints := by
  have presents := module_presents made
  constructor
  case same_code =>
    intro place apart
    obtain ⟨module', made', alike⟩ := context_of_moved apart made
    refine ⟨module', by rw [of_endpoints_moved, made'], ?_⟩
    rw [← blank_passages_unrouted module', alike, blank_passages_unrouted]
  case closed_iff =>
    have routes : ∀ route ∈ module.routes,
        ∃ path, route.pathLiteral = Text.stringLiteral path := by
      rw [module_routes made, List.forall_mem_map]
      exact fun group _ => ⟨group.path, rfl⟩
    have literals : ∀ written, .literal written ∈ module.passages →
        ∃ path, written = Text.stringLiteral path := by
      intro written listed
      obtain ⟨route, member, rfl⟩ := literal_mem_passages_iff.mp listed
      exact routes route member
    rw [Passage.closed_iff literals, comments_one_line_iff]
    constructor
    · intro oneLine endpoint listed
      obtain ⟨own, member, presented⟩ := result_of_forall₂ presents listed
      obtain ⟨route, handler⟩ := presented.comment
      rw [← route, ← handler]
      exact oneLine own member
    · intro oneLine own member
      obtain ⟨endpoint, listed, presented⟩ := mem_of_forall₂ presents member
      obtain ⟨route, handler⟩ := presented.comment
      rw [route, handler]
      exact oneLine endpoint listed

theorem passages_of_source {text : String}
    (written : source manifest endpoints (.ofEndpoints endpoints) = .ok text) :
    ∃ module, contextOf manifest endpoints (.ofEndpoints endpoints) = .ok module ∧
      text = Passage.join module.passages := by
  obtain ⟨module, made, filled⟩ := bind_ok_iff.mp written
  have named : ∀ endpoint ∈ module.endpoints, endpoint.bindFunction ≠ some "" := by
    intro endpoint listed
    obtain ⟨origin, _, own⟩ := mem_of_forall₂ (module_presents made) listed
    exact own.binder_named
  rw [fill_routes named, ← passages_text] at filled
  exact ⟨module, made, (Except.ok.inj filled).symm⟩

end RoutesModule

/-- The two paths of a configuration are outside the code of the viewer's module, and their comment
is closed just when they have no line breaks. Each line break adds a line. -/
structure Docs.Confines (config : Config) : Prop where
  same_code : (passages config).map Passage.blank = frame
  closed_iff : (∀ passage ∈ passages config, passage.Closed) ↔
    '\n' ∉ (jsonPath config).toList ∧ '\n' ∉ config.docsPath.toList
  line_breaks : lineBreaks (Passage.join (passages config)) =
    lineBreaks (Passage.join frame) + lineBreaks (jsonPath config) + lineBreaks config.docsPath

theorem Docs.module_confines (config : Config) : Docs.Confines config :=
  ⟨blank_passages config, passages_closed_iff config, line_breaks_module config⟩

/-- What a manifest and a configuration compile to has their paths in comments and literals only. -/
theorem compiled_paths_confined {manifest : Manifest} {given config : Config}
    (validated : manifest.validate = .ok ()) (accepted : given.validated = .ok config) :
    ∃ (artifacts : Artifacts) (module : RoutesModule.Context),
      compile manifest given = .ok artifacts ∧
      artifacts.source = Passage.join module.passages ∧
      module.Confines manifest manifest.canonicalEndpoints ∧
      (config.docsUiEnabled = true → ∃ page,
        artifacts.docs = some (Docs.filesOf (Passage.join (Docs.passages config)) page) ∧
          Docs.Confines config) := by
  obtain ⟨source, document, docs, makes, compiled⟩ := compile_makes accepted validated
  obtain ⟨module, made, text⟩ := RoutesModule.passages_of_source makes.source
  refine ⟨_, module, compiled, text, RoutesModule.module_confines made, ?_⟩
  intro enabled
  obtain ⟨page, bundled⟩ := Docs.bundle_module enabled
  have same := makes.docs.symm.trans bundled
  exact ⟨page, Except.ok.inj same, Docs.module_confines config⟩

theorem order_desk_paths_confined : Manifest.orderDesk.validate = .ok () ∧
    Config.plainViewer.validated = .ok Config.plainViewer ∧
    ∃ (artifacts : Artifacts) (module : RoutesModule.Context),
      compile .orderDesk .plainViewer = .ok artifacts ∧
      artifacts.source = Passage.join module.passages ∧
      module.Confines .orderDesk Manifest.orderDesk.canonicalEndpoints ∧
      ∃ page, artifacts.docs =
          some (Docs.filesOf (Passage.join (Docs.passages .plainViewer)) page) ∧
        Docs.Confines .plainViewer := by
  refine ⟨Manifest.order_desk_valid, Config.plain_viewer_validated, ?_⟩
  obtain ⟨artifacts, module, compiled, text, confines, viewer⟩ :=
    compiled_paths_confined Manifest.order_desk_valid Config.plain_viewer_validated
  exact ⟨artifacts, module, compiled, text, confines, viewer rfl⟩

/-- An endpoint whose path has a line break. -/
def Manifest.brokenPath : Manifest :=
  { empty with
    endpoints := [⟨.get, "/a\nb", ⟨"crate::a", "b"⟩, .noReqNoResp, none, none, none, []⟩] }

def Config.brokenViewer : Config := { plainViewer with docsPath := "/docs\nviewer" }

theorem comments_not_always_closed :
    (¬∀ (manifest : Manifest) (module : RoutesModule.Context), manifest.validate = .ok () →
      RoutesModule.contextOf manifest manifest.canonicalEndpoints
        (.ofEndpoints manifest.canonicalEndpoints) = .ok module →
          ∀ passage ∈ module.passages, passage.Closed) ∧
    (¬∀ given config : Config, given.docsUiEnabled = true → given.validated = .ok config →
      ∀ passage ∈ Docs.passages config, passage.Closed) ∧
    ¬∀ given config given' config' : Config,
      given.docsUiEnabled = true → given.validated = .ok config →
        given'.docsUiEnabled = true → given'.validated = .ok config' →
          lineBreaks (Passage.join (Docs.passages config)) =
            lineBreaks (Passage.join (Docs.passages config')) := by
  have accepted : Config.brokenViewer.validated = .ok Config.brokenViewer := by decide
  refine ⟨?_, ?_, ?_⟩
  · intro closed
    have validated : Manifest.brokenPath.validate = .ok () := by cbv
    obtain ⟨module, made⟩ :=
      RoutesModule.context_succeeds (Manifest.well_formed_of_validate validated).canonical
    have oneLine := (RoutesModule.module_confines made).closed_iff.mp
      (closed Manifest.brokenPath module validated made)
    have listed : ∀ endpoint ∈ Manifest.brokenPath.endpoints, '\n' ∉ endpoint.path.toList :=
      fun endpoint member => (oneLine endpoint (Manifest.mem_canonical_iff.mpr member)).1
    exact absurd (listed _ List.mem_cons_self) (by decide)
  · intro closed
    have oneLine := (Docs.passages_closed_iff Config.brokenViewer).mp
      (closed Config.brokenViewer Config.brokenViewer rfl accepted)
    exact absurd oneLine.2 (by decide)
  · intro same
    have lines := same Config.plainViewer Config.plainViewer Config.brokenViewer
      Config.brokenViewer rfl Config.plain_viewer_validated rfl accepted
    rw [Docs.line_breaks_module, Docs.line_breaks_module] at lines
    have counts : lineBreaks Config.plainViewer.docsPath = 0 ∧
        lineBreaks Config.brokenViewer.docsPath = 1 ∧
        lineBreaks (Docs.jsonPath Config.plainViewer) = 0 ∧
        lineBreaks (Docs.jsonPath Config.brokenViewer) = 0 := by decide
    obtain ⟨plain, broken, json, json'⟩ := counts
    rw [plain, broken, json, json'] at lines
    omega

end ApiCompiler

import ApiCompiler.Proofs.ModuleClosure
import ApiCompiler.Proofs.Passages

/-!
The routes module as passages. The path of an endpoint stands in the comment of its dispatch
function, and in the literal of its route; what else the module says is code that is the same for
all paths.
-/

set_option autoImplicit false

namespace ApiCompiler.RoutesModule

/-! ### The passages -/

namespace EndpointContext

def binderComment (endpoint : EndpointContext) : String :=
  String.join ["Binds the request of `", endpoint.handler, "`"]

def dispatcherComment (endpoint : EndpointContext) : String :=
  String.join ["`", endpoint.route, "`, handled by `", endpoint.handler, "`"]

def binderPassages (name : String) (endpoint : EndpointContext) : List Passage := [
  .code "\n\n",
  .comment endpoint.binderComment,
  .code (String.join [
    "fn ", name, "(parts: &RequestParts) -> Result<", endpoint.requestText, ", BindError> \x7b",
    endpoint.startText, String.join (endpoint.bindings.map BindingContext.text),
    "\n    Ok(req)\n\x7d"])]

def dispatcherPassages (endpoint : EndpointContext) : List Passage := [
  .code "\n\n",
  .comment endpoint.dispatcherComment,
  .code (String.join [
    "async fn ", endpoint.dispatchFunction, "(",
    ", ".intercalate (endpoint.extractors.map Extractor.parameter), ") -> Response \x7b",
    endpoint.callText, "\n    match result \x7b", "\n".intercalate endpoint.successArm.lines,
    "\n        Err(err) => handler_error_response(err),\n    \x7d\n\x7d"])]

end EndpointContext

def Declaration.passages : Declaration → List Passage
  | .binder name endpoint => endpoint.binderPassages name
  | .dispatcher endpoint => endpoint.dispatcherPassages
  | declaration => [.code declaration.text]

def Route.passages (route : Route) : List Passage := [
  .code "\n        .route(", .literal route.pathLiteral,
  .code (String.join [", ", route.chainText, ")"])]

def Context.passages (module : Context) : List Passage :=
  [.code module.headText] ++ module.declarations.flatMap Declaration.passages
    ++ [.code (Template.openingText (Template.routesTemplate.drop 13))]
    ++ module.routes.flatMap Route.passages ++ [.code "\n\x7d\n"]

/-! ### Their text -/

theorem binder_passages_text (name : String) (endpoint : EndpointContext) :
    Passage.join (endpoint.binderPassages name) = endpoint.binderText name := by
  have opening : "\n\n/// Binds the request of `" = "\n\n" ++ ("/// " ++ "Binds the request of `") :=
    rfl
  have ending : "`\nfn " = "`" ++ "\n" ++ "fn " := rfl
  rw [EndpointContext.binderText, opening, ending]
  simp only [EndpointContext.binderPassages, EndpointContext.binderComment, Passage.join,
    List.map_cons, List.map_nil, Passage.text, String.join_cons, String.join_nil,
    String.append_assoc, String.append_empty]

theorem dispatcher_passages_text (endpoint : EndpointContext) :
    Passage.join endpoint.dispatcherPassages = endpoint.dispatcherText := by
  have opening : "\n\n/// `" = "\n\n" ++ ("/// " ++ "`") := rfl
  have ending : "`\nasync fn " = "`" ++ "\n" ++ "async fn " := rfl
  rw [EndpointContext.dispatcherText, opening, ending]
  simp only [EndpointContext.dispatcherPassages, EndpointContext.dispatcherComment, Passage.join,
    List.map_cons, List.map_nil, Passage.text, String.join_cons, String.join_nil,
    String.append_assoc, String.append_empty]

theorem declaration_passages_text (declaration : Declaration) :
    Passage.join declaration.passages = declaration.text := by
  cases declaration with
  | binder name endpoint => exact binder_passages_text name endpoint
  | dispatcher endpoint => exact dispatcher_passages_text endpoint
  | bindingTypes | helper | parser => exact Passage.join_code _

theorem route_passages_text (route : Route) : Passage.join route.passages = route.text := by
  simp only [Route.passages, Route.text, Passage.join, List.map_cons, List.map_nil, Passage.text,
    String.join_cons, String.join_nil, String.append_empty]

theorem passages_text (module : Context) : Passage.join module.passages = module.text := by
  simp only [Context.passages, Context.text, Context.routerText, Passage.join_append,
    Passage.join_code, Passage.join_flat_map, declaration_passages_text, route_passages_text, String.join_cons,
    String.join_nil, String.append_assoc, String.append_empty]

/-! ### Comments and literals -/

variable {module : Context}

/-- The comment that stands above a declaration. -/
def Declaration.comment? : Declaration → Option String
  | .binder _ endpoint => some endpoint.binderComment
  | .dispatcher endpoint => some endpoint.dispatcherComment
  | _ => none

theorem module_comments (module : Context) :
    module.passages.filterMap Passage.line? =
      module.declarations.filterMap Declaration.comment? := by
  have declaration : ∀ declaration : Declaration,
      declaration.passages.filterMap Passage.line? = declaration.comment?.toList := by
    intro declaration
    cases declaration <;> rfl
  have route : ∀ route : Route, route.passages.filterMap Passage.line? = [] := fun _ => rfl
  have code : ∀ text, [Passage.code text].filterMap Passage.line? = [] := fun _ => rfl
  have routes : module.routes.flatMap (fun _ => ([] : List String)) = [] := by simp
  simp only [Context.passages, List.filterMap_append, List.filterMap_flatMap, declaration, route,
    code, routes, List.nil_append, List.append_nil]
  rw [List.filterMap_eq_flatMap_toList]

/-- The literals of the module are those of its routes. -/
theorem literal_mem_passages_iff {written : String} :
    .literal written ∈ module.passages ↔ ∃ route ∈ module.routes, written = route.pathLiteral := by
  have declaration : ∀ declaration : Declaration, .literal written ∉ declaration.passages := by
    intro declaration
    cases declaration <;>
      simp [Declaration.passages, EndpointContext.binderPassages, EndpointContext.dispatcherPassages]
  simp [Context.passages, Route.passages, declaration]

/-- Comments of the module stay on their lines just when no route and no handler is broken. -/
theorem comments_one_line_iff : (∀ line ∈ module.passages.filterMap Passage.line?,
    '\n' ∉ line.toList) ↔ ∀ endpoint ∈ module.endpoints,
      '\n' ∉ endpoint.route.toList ∧ '\n' ∉ endpoint.handler.toList := by
  have dispatcher : ∀ endpoint : EndpointContext, '\n' ∉ endpoint.dispatcherComment.toList ↔
      '\n' ∉ endpoint.route.toList ∧ '\n' ∉ endpoint.handler.toList := by
    intro endpoint
    simp [EndpointContext.dispatcherComment, String.join_cons]
  rw [module_comments]
  constructor
  · intro oneLine endpoint listed
    apply (dispatcher endpoint).mp
    apply oneLine
    exact List.mem_filterMap.mpr ⟨.dispatcher endpoint, dispatcher_mem_iff.mpr listed, rfl⟩
  · intro oneLine line listed
    obtain ⟨declaration, declared, same⟩ := List.mem_filterMap.mp listed
    cases declaration with
    | bindingTypes | helper | parser => cases same
    | binder name endpoint =>
        cases same
        have handler := (oneLine endpoint (binder_mem_iff.mp declared).1).2
        simpa [EndpointContext.binderComment, String.join_cons] using handler
    | dispatcher endpoint =>
        cases same
        exact (dispatcher endpoint).mpr (oneLine endpoint (dispatcher_mem_iff.mp declared))

/-! ### What does not depend on paths -/

def EndpointContext.unrouted (endpoint : EndpointContext) : EndpointContext :=
  { endpoint with route := "" }

def Route.unrouted (route : Route) : Route := { route with pathLiteral := "" }

/-- A module without the paths of its endpoints. -/
def Context.unrouted (module : Context) : Context :=
  { module with
    endpoints := module.endpoints.map EndpointContext.unrouted
    routes := module.routes.map Route.unrouted }

def Declaration.unrouted : Declaration → Declaration
  | .binder name endpoint => .binder name endpoint.unrouted
  | .dispatcher endpoint => .dispatcher endpoint.unrouted
  | declaration => declaration

theorem needs_binding_unrouted (module : Context) :
    module.unrouted.needsBinding = module.needsBinding := by
  rw [Context.needsBinding, Context.unrouted, List.any_map]
  rfl

theorem head_text_unrouted (module : Context) : module.unrouted.headText = module.headText := by
  have extracts : module.unrouted.extractImports = module.extractImports := by
    simp only [Context.extractImports, Context.unrouted, List.any_map]
    rfl
  have routing : module.unrouted.routingFunctions = module.routingFunctions := by
    simp only [Context.routingFunctions, Context.unrouted, List.filterMap_map]
    rfl
  have groups : module.unrouted.importGroups = module.importGroups := by
    simp only [Context.importGroups, Context.axumImports, needs_binding_unrouted, extracts, routing]
    rfl
  rw [Context.headText, Context.importBlock, groups]
  rfl

theorem declarations_unrouted (module : Context) :
    module.unrouted.declarations = module.declarations.map Declaration.unrouted := by
  have types : (if module.needsBinding then [Declaration.bindingTypes] else []).map
      Declaration.unrouted = if module.needsBinding then [.bindingTypes] else [] := by
    split_ifs <;> rfl
  have helper : ∀ lookup, (module.helpers.declaration lookup).map Declaration.unrouted =
      module.helpers.declaration lookup := by
    intro lookup
    unfold HelperFlags.declaration
    split_ifs <;> rfl
  have binder : ∀ endpoint : EndpointContext,
      endpoint.binder.map Declaration.unrouted = endpoint.unrouted.binder := by
    intro endpoint
    exact Option.map_map _ _ _
  simp only [Context.declarations, needs_binding_unrouted, List.map_append, types,
    List.map_filterMap, helper, binder, List.map_map]
  simp only [Context.unrouted, List.filterMap_map, List.map_map]
  rfl

theorem declaration_passages_unrouted (declaration : Declaration) :
    declaration.unrouted.passages.map Passage.blank = declaration.passages.map Passage.blank := by
  cases declaration <;> rfl

/-- The module says the same but for the paths, whatever they are. -/
theorem blank_passages_unrouted (module : Context) :
    module.unrouted.passages.map Passage.blank = module.passages.map Passage.blank := by
  have routes : module.unrouted.routes = module.routes.map Route.unrouted := rfl
  simp only [Context.passages, head_text_unrouted, declarations_unrouted, routes, List.map_append,
    List.map_flatMap, List.flatMap_map, declaration_passages_unrouted]
  rfl

end ApiCompiler.RoutesModule

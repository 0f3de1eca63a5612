import ApiCompiler.Proofs.AnsweredStatuses

/-!
The text of a routes module as its declarations: behind the imports and the fixed functions stand
the types for binding, the helpers, the parsers, the binders and the dispatch functions, and then
the router. What each of them calls can be read off its text here.
-/

set_option autoImplicit false

namespace ApiCompiler

open Template (Part Scope Condition renderAll)

namespace RoutesModule

def Helper.all : List Helper := [.requiredOne, .optionalOne, .optionalMany, .requiredMany]

def Helper.part : Helper → Part
  | requiredOne => Template.requiredOne
  | optionalOne => Template.optionalOne
  | requiredMany => Template.requiredMany
  | optionalMany => Template.optionalMany

def HelperFlags.has (flags : HelperFlags) : Helper → Bool
  | .requiredOne => flags.requiredOne
  | .optionalOne => flags.optionalOne
  | .requiredMany => flags.requiredMany
  | .optionalMany => flags.optionalMany

/-- What a routes module declares for its endpoints. -/
inductive Declaration
  | bindingTypes
  | helper (lookup : Helper)
  | parser (kind : Kind)
  | binder (name : String) (endpoint : EndpointContext)
  | dispatcher (endpoint : EndpointContext)
  deriving DecidableEq

def HelperFlags.declaration (flags : HelperFlags) (lookup : Helper) : Option Declaration :=
  if flags.has lookup then some (.helper lookup) else none

def EndpointContext.binder (endpoint : EndpointContext) : Option Declaration :=
  endpoint.bindFunction.map (Declaration.binder · endpoint)

/-- The declarations of a module, in the order of its text. -/
def Context.declarations (module : Context) : List Declaration :=
  (if module.needsBinding then [.bindingTypes] else [])
    ++ Helper.all.filterMap module.helpers.declaration
    ++ module.parsers.map .parser
    ++ module.endpoints.filterMap EndpointContext.binder
    ++ module.endpoints.map .dispatcher

/-! ### The text of a declaration -/

def parserBody (kind : Kind) : String :=
  match kind.family with
  | .text => "\n    Ok(raw.to_owned())"
  | .boolean => "\n".intercalate [
      "",
      "    match raw \x7b",
      "        \"true\" | \"1\" => Ok(true),",
      "        \"false\" | \"0\" => Ok(false),",
      "        _ => Err(format!(\"expected true, false, 1 or 0, got \x7b:?\x7d\", raw)),",
      "    \x7d"]
  | .integer | .float =>
      String.join ["\n    raw.parse::<", kind.rustType, ">().map_err(|err| err.to_string())"]

def parserText (kind : Kind) : String :=
  String.join [
    "\n\nfn ", kind.parserName, "(raw: &str) -> Result<", kind.rustType, ", String> \x7b",
    parserBody kind, "\n\x7d"]

/-- A field is set to what a helper makes of the binding with a parser. -/
def BindingContext.text (binding : BindingContext) : String :=
  String.join [
    "\n    req.", binding.field, " = ", binding.helper.name,
    "(\n        parts,\n        &Binding \x7b\n            field: ", binding.fieldLiteral,
    ",\n            tag: ", binding.tagLiteral,
    ",\n            source: Source::", binding.source,
    ",\n        \x7d,\n        ", binding.parserName, ",\n    )?;"]

namespace EndpointContext

def requestText (endpoint : EndpointContext) : String := endpoint.requestType.getD ""

/-- A request is read from the body, or else it starts with its defaults. -/
def startText (endpoint : EndpointContext) : String :=
  if endpoint.hasJsonBody then
    String.join [
      "\n    let ", if !endpoint.bindings.isEmpty then "mut " else "", "req: ",
      endpoint.requestText, " = serde_json::from_slice(&parts.body)\n"
        ++ "        .map_err(|err| BindError::MalformedBody(err.to_string()))?;"]
  else String.join ["\n    let mut req: ", endpoint.requestText, " = Default::default();"]

def binderText (name : String) (endpoint : EndpointContext) : String :=
  String.join [
    "\n\n/// Binds the request of `", endpoint.handler, "`\nfn ", name,
    "(parts: &RequestParts) -> Result<", endpoint.requestText, ", BindError> \x7b",
    endpoint.startText, String.join (endpoint.bindings.map BindingContext.text),
    "\n    Ok(req)\n\x7d"]

/-- The fields of the parts are the extracted values; those that are left out have defaults. -/
def callText (endpoint : EndpointContext) : String :=
  match endpoint.bindFunction with
  | some name =>
      String.join [
        "\n    let parts = RequestParts \x7b",
        String.join ((endpoint.extractors.map Extractor.fieldName).map fun field =>
          String.join ["\n        ", field, ","]),
        if !endpoint.partsComplete then "\n        ..RequestParts::default()" else "",
        "\n    \x7d;\n    let req = match ", name,
        "(&parts) \x7b\n        Ok(req) => req,\n        Err(err) => return err.into_response(),\n"
          ++ "    \x7d;\n    let result = ",
        endpoint.handlerCall, "(req).await;"]
  | none =>
      String.join [
        "\n    let result = ", endpoint.handlerCall,
        if endpoint.hasRequest then "(Default::default()).await;" else "().await;"]

def dispatcherText (endpoint : EndpointContext) : String :=
  String.join [
    "\n\n/// `", endpoint.route, "`, handled by `", endpoint.handler, "`\nasync fn ",
    endpoint.dispatchFunction, "(", ", ".intercalate (endpoint.extractors.map Extractor.parameter),
    ") -> Response \x7b", endpoint.callText, "\n    match result \x7b",
    "\n".intercalate endpoint.successArm.lines,
    "\n        Err(err) => handler_error_response(err),\n    \x7d\n\x7d"]

end EndpointContext

def Declaration.text : Declaration → String
  | .bindingTypes => Template.openingText Template.bindingPreamble.body
  | .helper lookup => Template.openingText lookup.part.body
  | .parser kind => parserText kind
  | .binder name endpoint => endpoint.binderText name
  | .dispatcher endpoint => endpoint.dispatcherText

def Route.text (route : Route) : String :=
  String.join ["\n        .route(", route.pathLiteral, ", ", route.chainText, ")"]

/-- The imports of a module with the functions that every module has. -/
def Context.headText (module : Context) : String :=
  String.join [
    "// Code generated by ", generatorName, Template.openingText (Template.routesTemplate.drop 2),
    module.importBlock, Template.openingText (Template.routesTemplate.drop 4)]

def Context.routerText (module : Context) : String :=
  String.join [
    Template.openingText (Template.routesTemplate.drop 13),
    String.join (module.routes.map Route.text), "\n\x7d\n"]

def Context.text (module : Context) : String :=
  module.headText ++ String.join (module.declarations.map Declaration.text) ++ module.routerText

/-! ### The template writes these texts -/

theorem render_parser_function (kind : Kind) (scope : Scope) :
    renderAll (("parser", parserToJson kind) :: scope) Template.parserFunctions.body =
      .ok (parserText kind) := by
  have family : ∀ name, (Condition.equals ["parser", "family"] name).decide
      (("parser", parserToJson kind) :: scope) = .ok (kind.family.name == name) := fun _ => rfl
  apply Template.render_all_pieces
  refine .cons rfl (.cons rfl (.cons rfl (.cons rfl (.cons rfl (.cons ?_ (.cons rfl .nil))))))
  rw [Template.render_choose (family "text"), parserBody]
  cases same : kind.family with
  | text => exact Template.render_all_single _
  | boolean =>
      refine (Template.render_all_single _).trans ?_
      rw [Template.render_choose (family "boolean"), same]
      exact Template.render_all_single _
  | integer | float =>
      refine (Template.render_all_single _).trans ?_
      rw [Template.render_choose (family "boolean"), same]
      apply Template.render_all_pieces
      exact .cons rfl (.cons rfl (.cons rfl .nil))

theorem render_route (route : Route) (scope : Scope) :
    renderAll (("route", route.toJson) :: scope) Template.routeLines.body = .ok route.text := by
  apply Template.render_all_pieces
  repeat' apply List.Forall₂.cons
  all_goals first | exact .nil | rfl

section Endpoint

variable {endpoint : EndpointContext} {scope : Scope}

theorem render_request_type (endpoint : EndpointContext) (scope : Scope) :
    (Part.value ["e", "request_type"]).render (("e", endpoint.toJson) :: scope) =
      .ok endpoint.requestText := by
  have found : (Part.value ["e", "request_type"]).render (("e", endpoint.toJson) :: scope) =
      .ok (Template.display (.ofOption .string endpoint.requestType)) := rfl
  rw [found, EndpointContext.requestText]
  cases endpoint.requestType <;> rfl

theorem render_bind_function {name : String} (binds : endpoint.bindFunction = some name) :
    (Part.value ["e", "bind_fn"]).render (("e", endpoint.toJson) :: scope) = .ok name := by
  have found : (Part.value ["e", "bind_fn"]).render (("e", endpoint.toJson) :: scope) =
      .ok (Template.display (.ofOption .string endpoint.bindFunction)) := rfl
  rw [found, binds]
  rfl

/-- A binder has a name, so the name counts as true. -/
theorem decide_binds (named : endpoint.bindFunction ≠ some "") :
    (Condition.holds ["e", "bind_fn"]).decide (("e", endpoint.toJson) :: scope) =
      .ok endpoint.bindFunction.isSome := by
  have found : (Condition.holds ["e", "bind_fn"]).decide (("e", endpoint.toJson) :: scope) =
      .ok (Template.isTrue (.ofOption .string endpoint.bindFunction)) := rfl
  rw [found]
  cases binds : endpoint.bindFunction with
  | none => rfl
  | some name =>
      rw [binds] at named
      have letters : name ≠ "" := fun empty => named (congrArg some empty)
      simpa [Json.Value.ofOption, Template.isTrue] using letters

theorem render_binder (named : endpoint.bindFunction ≠ some "") :
    renderAll (("e", endpoint.toJson) :: scope) Template.bindFunctions.body =
      .ok ((endpoint.binder.map Declaration.text).getD "") := by
  have type := render_request_type endpoint scope
  have read : (Condition.holds ["e", "has_json_body"]).decide (("e", endpoint.toJson) :: scope) =
      .ok endpoint.hasJsonBody := rfl
  have bound : (Condition.holds ["e", "bindings"]).decide (("e", endpoint.toJson) :: scope) =
      .ok !(endpoint.bindings.map BindingContext.toJson).isEmpty := rfl
  rw [List.isEmpty_map] at bound
  refine (Template.render_all_single _).trans ?_
  rw [Part.when, Template.render_choose (decide_binds named)]
  unfold EndpointContext.binder
  cases binds : endpoint.bindFunction with
  | none => rfl
  | some name =>
      apply Template.render_all_pieces
      refine .cons rfl (.cons rfl (.cons rfl (.cons (render_bind_function binds) (.cons rfl
        (.cons type (.cons rfl (.cons ?start (.cons (Template.render_each rfl ?binding)
          (.cons rfl .nil)))))))))
      case start =>
        rw [Template.render_choose read, EndpointContext.startText]
        cases endpoint.hasJsonBody with
        | true =>
            apply Template.render_all_pieces
            exact .cons rfl (.cons (Template.render_when bound) (.cons rfl (.cons type
              (.cons rfl .nil))))
        | false =>
            apply Template.render_all_pieces
            exact .cons rfl (.cons type (.cons rfl .nil))
      case binding =>
        intro binding _
        apply Template.render_all_pieces
        repeat' apply List.Forall₂.cons
        all_goals first | exact .nil | rfl

theorem render_extractors (endpoint : EndpointContext) (scope : Scope) :
    (Part.print ["e", "extractors"] (.join ", ")).render (("e", endpoint.toJson) :: scope) =
      .ok (", ".intercalate (endpoint.extractors.map Extractor.parameter)) := by
  have found : (Part.print ["e", "extractors"] (.join ", ")).render
      (("e", endpoint.toJson) :: scope) = .ok (", ".intercalate
        (((endpoint.extractors.map Extractor.parameter).map Json.Value.string).map
          Template.display)) := rfl
  rw [found, List.map_map]
  exact congrArg (Except.ok <| ", ".intercalate ·) (List.map_id _)

theorem render_dispatcher (named : endpoint.bindFunction ≠ some "") :
    renderAll (("e", endpoint.toJson) :: scope) Template.dispatchFunctions.body =
      .ok endpoint.dispatcherText := by
  have complete : (Condition.fails ["e", "parts_complete"]).decide
      (("e", endpoint.toJson) :: scope) = .ok !endpoint.partsComplete := rfl
  have asked : (Condition.holds ["e", "has_request"]).decide (("e", endpoint.toJson) :: scope) =
      .ok endpoint.hasRequest := rfl
  have field : ∀ name, renderAll (("field", .string name) :: ("e", endpoint.toJson) :: scope)
      [.text ["", "        "], .value ["field"], .text [","]] =
        .ok (String.join ["\n        ", name, ","]) := by
    intro name
    apply Template.render_all_pieces
    exact .cons rfl (.cons rfl (.cons rfl .nil))
  apply Template.render_all_pieces
  refine .cons rfl (.cons rfl (.cons rfl (.cons rfl (.cons rfl (.cons rfl (.cons rfl
    (.cons (render_extractors endpoint scope) (.cons rfl (.cons ?call (.cons rfl
      (.cons (Template.success_arm_text endpoint scope) (.cons rfl .nil))))))))))))
  rw [Template.render_choose (decide_binds named), EndpointContext.callText]
  cases binds : endpoint.bindFunction with
  | some name =>
      apply Template.render_all_pieces
      exact .cons rfl (.cons (Template.render_each rfl fun name _ => field name)
        (.cons (Template.render_when complete) (.cons rfl (.cons (render_bind_function binds)
          (.cons rfl (.cons rfl (.cons rfl .nil)))))))
  | none =>
      refine (Template.render_all_single _).trans ?_
      rw [Template.render_choose asked]
      cases endpoint.hasRequest with
      | true =>
          apply Template.render_all_pieces
          exact .cons rfl (.cons rfl (.cons rfl .nil))
      | false =>
          apply Template.render_all_pieces
          exact .cons rfl (.cons rfl (.cons rfl .nil))

end Endpoint

theorem join_chosen {α : Type} (choose : α → Option String) (items : List α) :
    String.join (items.map fun item => (choose item).getD "") =
      String.join (items.filterMap choose) := by
  induction items with
  | nil => rfl
  | cons item rest induction =>
      rw [List.map_cons, String.join_cons, induction, List.filterMap_cons]
      cases choose item with
      | none => exact String.empty_append
      | some text => exact String.join_cons.symm

variable {module : Context}

def Context.scope (module : Context) : Scope := [
  ("generator", .string generatorName), ("use_block", .string module.importBlock),
  ("needs_binding", .bool module.needsBinding), ("helpers", module.helpers.toJson),
  ("parsers", .array (module.parsers.map parserToJson)),
  ("endpoints", .array (module.endpoints.map EndpointContext.toJson)),
  ("routes", .array (module.routes.map Route.toJson))]

theorem render_preamble (module : Context) :
    Template.bindingPreamble.render module.scope =
      .ok (String.join ((if module.needsBinding then [Declaration.bindingTypes] else []).map
        Declaration.text)) := by
  have decided : (Condition.holds ["needs_binding"]).decide module.scope =
      .ok module.needsBinding := rfl
  refine (Template.render_when decided).trans ?_
  cases module.needsBinding with
  | false => rfl
  | true => exact congrArg Except.ok (String.join_cons.trans String.append_empty).symm

theorem render_helper (module : Context) (lookup : Helper) :
    lookup.part.render module.scope =
      .ok (((module.helpers.declaration lookup).map Declaration.text).getD "") := by
  have written : lookup.part.render module.scope =
      .ok (if module.helpers.has lookup then (Declaration.helper lookup).text else "") := by
    cases lookup <;> exact Template.render_when rfl
  rw [written, HelperFlags.declaration]
  cases module.helpers.has lookup <;> rfl

theorem render_helpers (module : Context) :
    renderAll module.scope (Helper.all.map Helper.part) =
      .ok (String.join ((Helper.all.filterMap module.helpers.declaration).map
        Declaration.text)) := by
  rw [List.map_filterMap, ← join_chosen]
  apply Template.render_all_pieces
  rw [List.forall₂_map_left_iff, List.forall₂_map_right_iff]
  exact List.forall₂_same.mpr fun lookup _ => render_helper module lookup

theorem render_declarations
    (named : ∀ endpoint ∈ module.endpoints, endpoint.bindFunction ≠ some "") :
    renderAll module.scope ([Template.bindingPreamble] ++ Helper.all.map Helper.part
      ++ [Template.parserFunctions] ++ [Template.bindFunctions] ++ [Template.dispatchFunctions]) =
        .ok (String.join (module.declarations.map Declaration.text)) := by
  have preamble := (Template.render_all_single _).trans (render_preamble module)
  have parsers : renderAll module.scope [Template.parserFunctions] =
      .ok (String.join ((module.parsers.map Declaration.parser).map Declaration.text)) := by
    simp only [List.map_map, Function.comp_def, Declaration.text]
    exact (Template.render_all_single _).trans
      (Template.render_each rfl fun kind _ => render_parser_function kind _)
  have binders : renderAll module.scope [Template.bindFunctions] =
      .ok (String.join ((module.endpoints.filterMap EndpointContext.binder).map
        Declaration.text)) := by
    rw [List.map_filterMap, ← join_chosen]
    exact (Template.render_all_single _).trans
      (Template.render_each rfl fun endpoint listed => render_binder (named endpoint listed))
  have dispatchers : renderAll module.scope [Template.dispatchFunctions] =
      .ok (String.join ((module.endpoints.map Declaration.dispatcher).map Declaration.text)) := by
    simp only [List.map_map, Function.comp_def, Declaration.text]
    exact (Template.render_all_single _).trans
      (Template.render_each rfl fun endpoint listed => render_dispatcher (named endpoint listed))
  rw [Context.declarations]
  simp only [List.map_append, String.join_append]
  exact Template.render_all_append (Template.render_all_append (Template.render_all_append
    (Template.render_all_append preamble (render_helpers module)) parsers) binders) dispatchers

/-- The template writes the declarations between the imports and the router. -/
theorem fill_routes (named : ∀ endpoint ∈ module.endpoints, endpoint.bindFunction ≠ some "") :
    Template.fill Template.routesName module.toJson = .ok module.text := by
  have head : renderAll module.scope (Template.routesTemplate.take 5) = .ok module.headText := by
    apply Template.render_all_pieces
    exact .cons rfl (.cons rfl (.cons rfl (.cons rfl (.cons rfl .nil))))
  have router : renderAll module.scope (Template.routesTemplate.drop 13) =
      .ok module.routerText := by
    apply Template.render_all_pieces
    exact .cons rfl (.cons (Template.render_each rfl fun route _ => render_route route _)
      (.cons rfl .nil))
  have rendered := Template.render_all_append
    (Template.render_all_append head (render_declarations named)) router
  have parted : Template.routesTemplate = Template.routesTemplate.take 5
      ++ ([Template.bindingPreamble] ++ Helper.all.map Helper.part
        ++ [Template.parserFunctions] ++ [Template.bindFunctions] ++ [Template.dispatchFunctions])
      ++ Template.routesTemplate.drop 13 := rfl
  rw [← parted] at rendered
  exact Template.fill_of_render rfl rendered

end RoutesModule

end ApiCompiler

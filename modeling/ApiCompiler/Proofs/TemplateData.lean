import ApiCompiler.Docs.Bundle
import ApiCompiler.Proofs.TemplateTypes

/-!
The data that the templates are filled with have the types that the templates need. So the files of
the viewer can always be made, and so can the text of a routes module once its context is known.
-/

set_option autoImplicit false

namespace ApiCompiler

open Json (Value)
open Template (DataType HasType HaveTypes Typing)

theorem Template.array_typed {α : Type} {items : List α} {write : α → Value} {type : DataType}
    (typed : ∀ item, HasType (write item) type) :
    HasType (.array (items.map write)) (.list type) := by
  refine .list fun value listed => ?_
  obtain ⟨item, _, rfl⟩ := List.mem_map.mp listed
  exact typed item

namespace RoutesModule

def bindingTyping : Typing := [
  ("field", .text), ("field_lit", .text), ("tag_lit", .text), ("source", .text), ("helper", .text),
  ("parser_fn", .text)]

def endpointTyping : Typing := [
  ("operation_id", .text), ("route", .text), ("handler", .text), ("handler_call", .text),
  ("bind_fn", .any), ("dispatch_fn", .text), ("has_request", .any), ("has_response", .any),
  ("resp_is_slice", .any), ("request_type", .any), ("has_json_body", .any),
  ("bindings", .list (.record bindingTyping)), ("extractors", .list .text),
  ("parts_fields", .list .text), ("parts_complete", .any)]

def parserTyping : Typing := [
  ("fn_name", .text), ("rust_type", .text), ("family", .text), ("kind", .text)]

def routeTyping : Typing := [("path_lit", .text), ("chain", .text)]

/-- Flags are only asked for, never printed, so nothing is said of them. -/
def contextTyping : Typing := [
  ("generator", .text), ("use_block", .text), ("needs_binding", .any), ("helpers", .any),
  ("parsers", .list (.record parserTyping)), ("endpoints", .list (.record endpointTyping)),
  ("routes", .list (.record routeTyping))]

theorem binding_typed (binding : BindingContext) :
    HasType binding.toJson (.record bindingTyping) := by
  refine .record ?_
  repeat' constructor

theorem parser_typed (kind : Kind) : HasType (parserToJson kind) (.record parserTyping) := by
  refine .record ?_
  repeat' constructor

theorem route_typed (route : Route) : HasType route.toJson (.record routeTyping) := by
  refine .record ?_
  repeat' constructor

theorem endpoint_typed (endpoint : EndpointContext) :
    HasType endpoint.toJson (.record endpointTyping) := by
  have bindings : HasType (.array (endpoint.bindings.map BindingContext.toJson))
      (.list (.record bindingTyping)) := Template.array_typed binding_typed
  have texts : ∀ texts : List String, HasType (Value.strings texts) (.list .text) :=
    fun _ => Template.array_typed .text
  refine .record ?_
  repeat' first | exact bindings | exact texts _ | constructor

theorem routes_template_checks : Template.checksAll contextTyping Template.routesTemplate = true :=
  rfl

theorem fill_routes_succeeds (context : Context) :
    ∃ text, Template.fill Template.routesName context.toJson = .ok text := by
  have parsers : HasType (.array (context.parsers.map parserToJson))
      (.list (.record parserTyping)) := Template.array_typed parser_typed
  have endpoints : HasType (.array (context.endpoints.map EndpointContext.toJson))
      (.list (.record endpointTyping)) := Template.array_typed endpoint_typed
  have routes : HasType (.array (context.routes.map Route.toJson))
      (.list (.record routeTyping)) := Template.array_typed route_typed
  refine Template.fill_succeeds rfl routes_template_checks ?_
  repeat' first | exact parsers | exact endpoints | exact routes | constructor

end RoutesModule

namespace Docs

def contextTyping : Typing := [
  ("generator", .text), ("title", .text), ("docs_path", .text), ("openapi_json_path", .text),
  ("assets_path", .text), ("openapi_file_lit", .text), ("index_file_lit", .text),
  ("css_file_lit", .text), ("js_file_lit", .text), ("openapi_json_path_lit", .text),
  ("docs_path_lit", .text), ("css_route_lit", .text), ("js_route_lit", .text)]

theorem docs_templates_check :
    Template.checksAll contextTyping Template.docsModuleTemplate = true ∧
      Template.checksAll contextTyping Template.docsPageTemplate = true := ⟨rfl, rfl⟩

theorem fill_docs_succeeds (config : Config) (name : String) {parts : List Template.Part}
    (known : Template.library.lookup name = some parts)
    (checks : Template.checksAll contextTyping parts = true) :
    ∃ text, Template.fill name (context config) = .ok text := by
  refine Template.fill_succeeds known checks ?_
  repeat' constructor

/-- The files of the viewer, given the texts of its two templates. -/
def filesOf (module page : String) : List BundleFile := [
  ⟨moduleFile, module⟩,
  ⟨pageFile, page⟩,
  ⟨styleFile, "\n".intercalate viewerStyle⟩,
  ⟨scriptFile, "\n".intercalate viewerScript⟩]

theorem bundle_eq (config : Config) : ∃ module page,
    Template.fill Template.docsModuleName (context config) = .ok module ∧
      bundle config = .ok (if config.docsUiEnabled then some (filesOf module page) else none) := by
  obtain ⟨module, moduleFilled⟩ :=
    fill_docs_succeeds config Template.docsModuleName rfl docs_templates_check.1
  obtain ⟨page, pageFilled⟩ :=
    fill_docs_succeeds config Template.docsPageName rfl docs_templates_check.2
  refine ⟨module, page, moduleFilled, ?_⟩
  unfold bundle files
  split_ifs
  · simp only [moduleFilled, pageFilled, bind, Except.bind, pure, Except.pure, Except.map]
    rfl
  · rfl

theorem bundle_succeeds (config : Config) : ∃ files, bundle config = .ok files := by
  obtain ⟨_, _, _, made⟩ := bundle_eq config
  exact ⟨_, made⟩

end Docs

end ApiCompiler

import ApiCompiler.Config.Validated
import ApiCompiler.Proofs.Passages
import ApiCompiler.Proofs.TemplateData
import ApiCompiler.Proofs.TemplateText

/-!
The module that serves the viewer, as passages. It names the routes of a configuration in one
comment, and registers four of them, each with the function that answers.
-/

set_option autoImplicit false

namespace ApiCompiler

namespace Docs

/-- The lines of a fixed part of the module's template. -/
def fixedLines (index : Nat) : List String :=
  match Template.docsModuleTemplate[index]? with
  | some (.text lines) => lines
  | _ => []

def fixedText (index : Nat) : String := "\n".intercalate (fixedLines index)

/-- The routes that the module registers, and the functions that answer them. -/
def registrations (config : Config) : List (String × String) := [
  (jsonPath config, "openapi_json"),
  (config.docsPath, "index_html"),
  (assetsPath config ++ "/viewer.css", "viewer_css"),
  (assetsPath config ++ "/viewer.js", "viewer_js")]

def registrationPassages (entry : String × String) : List Passage := [
  .code "        .route(",
  .literal (Text.stringLiteral entry.1),
  .code (", get(" ++ entry.2 ++ "))\n")]

/-- The files that are included, with the constants that hold them. -/
def includePassages (config : Config) : List Passage := [
  .code (String.join ["// Code generated by ", generatorName, fixedText 2]),
  .literal (Text.stringLiteral config.openapiOutput),
  .code (fixedText 4),
  .literal (Text.stringLiteral pageFile),
  .code (fixedText 6),
  .literal (Text.stringLiteral styleFile),
  .code (fixedText 8),
  .literal (Text.stringLiteral scriptFile),
  .code ("\n".intercalate ((fixedLines 10).dropLast ++ [""]))]

def routesComment (config : Config) : String :=
  String.join [
    "Routes serving the OpenAPI document at ", jsonPath config, " and the viewer at ",
    config.docsPath]

def passages (config : Config) : List Passage :=
  includePassages config
    ++ [.comment (routesComment config),
      .code "pub fn docs_routes() -> Router \x7b\n    Router::new()\n"]
    ++ (registrations config).flatMap registrationPassages
    ++ [.code ("\n".intercalate (fixedLines 22).tail)]

/-- Where a comment and a registration begin inside the fixed parts of the template. -/
theorem fixed_parts :
    fixedText 10 = "\n".intercalate ((fixedLines 10).dropLast ++ [""]) ++
      ("/// " ++ "Routes serving the OpenAPI document at ") ∧
    fixedText 14 = "\n" ++ "pub fn docs_routes() -> Router \x7b\n    Router::new()\n" ++
      "        .route(" ∧
    fixedText 16 = ", get(" ++ "openapi_json" ++ "))\n" ++ "        .route(" ∧
    fixedText 18 = ", get(" ++ "index_html" ++ "))\n" ++ "        .route(" ∧
    fixedText 20 = ", get(" ++ "viewer_css" ++ "))\n" ++ "        .route(" ∧
    fixedText 22 = ", get(" ++ "viewer_js" ++ "))\n" ++ "\n".intercalate (fixedLines 22).tail := by
  refine ⟨rfl, rfl, rfl, rfl, rfl, ?_⟩
  have broken : ∀ (line : String) (lines : List String), lines ≠ [] →
      "\n".intercalate (line :: lines) = line ++ "\n" ++ "\n".intercalate lines := by
    intro line lines filled
    cases lines with
    | nil => exact absurd rfl filled
    | cons next rest => exact String.intercalate_cons_cons
  have lines : fixedLines 22 = ", get(viewer_js))" :: (fixedLines 22).tail := rfl
  have ends : ", get(" ++ "viewer_js" ++ "))\n" = ", get(viewer_js))" ++ "\n" := rfl
  rw [ends, fixedText, lines]
  exact broken _ _ (List.cons_ne_nil _ _)

/-- The template writes these passages. -/
theorem fill_module (config : Config) :
    Template.fill Template.docsModuleName (context config) =
      .ok (Passage.join (passages config)) := by
  obtain ⟨comment, router, json, page, style, script⟩ := fixed_parts
  have pieces : Passage.join (passages config) = String.join [
      "// Code generated by ", generatorName, fixedText 2,
      Text.stringLiteral config.openapiOutput, fixedText 4, Text.stringLiteral pageFile,
      fixedText 6, Text.stringLiteral styleFile, fixedText 8, Text.stringLiteral scriptFile,
      fixedText 10, jsonPath config, " and the viewer at ", config.docsPath, fixedText 14,
      Text.stringLiteral (jsonPath config), fixedText 16, Text.stringLiteral config.docsPath,
      fixedText 18, Text.stringLiteral (assetsPath config ++ "/viewer.css"), fixedText 20,
      Text.stringLiteral (assetsPath config ++ "/viewer.js"), fixedText 22] := by
    rw [comment, router, json, page, style, script]
    simp only [Passage.join, passages, includePassages, routesComment, registrations,
      registrationPassages, List.flatMap_cons, List.flatMap_nil, List.cons_append, List.nil_append,
      List.map_cons, List.map_nil, Passage.text, String.join_cons, String.join_nil,
      String.append_assoc, String.append_empty]
  rw [pieces]
  apply Template.fill_of_render rfl
  apply Template.render_all_pieces
  repeat' apply List.Forall₂.cons
  all_goals first | exact .nil | rfl

theorem bundle_module {config : Config} (enabled : config.docsUiEnabled = true) :
    ∃ page, bundle config = .ok (some (filesOf (Passage.join (passages config)) page)) := by
  obtain ⟨module, page, filled, made⟩ := bundle_eq config
  rw [fill_module] at filled
  have written := Except.ok.inj filled
  exact ⟨page, by rw [made, if_pos enabled, written]⟩

/-- What the module has besides the text of the configuration. -/
def frame : List Passage := (passages {}).map Passage.blank

theorem blank_passages (config : Config) : (passages config).map Passage.blank = frame := by
  simp only [frame, passages, includePassages, registrations, registrationPassages,
    List.flatMap_cons, List.flatMap_nil, List.map_append, List.map_cons, List.map_nil,
    Passage.blank]

theorem comments (config : Config) :
    (passages config).filterMap Passage.line? = [routesComment config] := rfl

theorem literals_written (config : Config) {written : String}
    (listed : .literal written ∈ passages config) : ∃ text, written = Text.stringLiteral text := by
  simp only [passages, includePassages, registrations, registrationPassages, List.flatMap_cons,
    List.flatMap_nil, List.cons_append, List.nil_append, List.mem_cons, List.not_mem_nil,
    Passage.literal.injEq, reduceCtorEq, false_or, or_false] at listed
  rcases listed with same | same | same | same | same | same | same | same <;> exact ⟨_, same⟩

theorem passages_closed_iff (config : Config) :
    (∀ passage ∈ passages config, passage.Closed) ↔
      '\n' ∉ (jsonPath config).toList ∧ '\n' ∉ config.docsPath.toList := by
  rw [Passage.closed_iff fun written => literals_written config, comments]
  simp [routesComment, String.join_cons]

theorem line_breaks_module (config : Config) :
    lineBreaks (Passage.join (passages config)) =
      lineBreaks (Passage.join frame) + lineBreaks (jsonPath config) +
        lineBreaks config.docsPath := by
  have oneLine : ∀ written, .literal written ∈ passages config → lineBreaks written = 0 := by
    intro written listed
    obtain ⟨text, rfl⟩ := literals_written config listed
    exact Text.literal_one_line text
  have fixed : lineBreaks "Routes serving the OpenAPI document at " = 0 ∧
      lineBreaks " and the viewer at " = 0 ∧ lineBreaks "" = 0 := by decide
  rw [Passage.line_breaks_join oneLine, blank_passages, comments]
  simp only [routesComment, List.map_cons, List.map_nil, List.sum_cons, List.sum_nil,
    String.join_cons, String.join_nil, line_breaks_append, fixed]
  omega

end Docs

end ApiCompiler

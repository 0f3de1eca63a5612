import ApiCompiler.Proofs.MarkupText
import ApiCompiler.Proofs.ViewerModule

/-!
The page of the viewer. Its tags are the same for all configurations, and the routes and the title
that it shows are those of the module that serves it.
-/

set_option autoImplicit false

namespace ApiCompiler

namespace Docs

open Markup (Piece)
open Text (escapeHtml)

/-! ### The page as its template has it -/

/-- A page as its template writes it: fixed text, and the images of values. -/
inductive Span
  | fixed (text : String)
  /-- A value as it is written. -/
  | image (written : String)
  deriving DecidableEq

namespace Span

def text : Span → String
  | fixed text => text
  | image written => written

def join (spans : List Span) : String := String.join (spans.map text)

def fixed? : Span → Option String
  | fixed text => some text
  | image _ => none

def image? : Span → Option String
  | fixed _ => none
  | image written => some written

end Span

/-- The values that the page shows, by their names in the template. -/
def shown (config : Config) : List String → String
  | ["title"] => config.openapiTitle
  | ["assets_path"] => assetsPath config
  | ["openapi_json_path"] => jsonPath config
  | _ => ""

def spanOf (config : Config) : Template.Part → Span
  | .text lines => .fixed ("\n".intercalate lines)
  | .print path _ => .image (escapeHtml (shown config path))
  | _ => .fixed ""

def pageSpans (config : Config) : List Span := Template.docsPageTemplate.map (spanOf config)

/-- The page without the images of values. -/
def pageFrame : List String := (pageSpans {}).filterMap Span.fixed?

theorem page_frame (config : Config) : (pageSpans config).filterMap Span.fixed? = pageFrame := by
  have each : ∀ part, (spanOf config part).fixed? = (spanOf {} part).fixed? := by
    intro part
    cases part <;> rfl
  rw [pageFrame, pageSpans, pageSpans, List.filterMap_map, List.filterMap_map]
  exact List.filterMap_congr fun part _ => each part

theorem fill_page (config : Config) :
    Template.fill Template.docsPageName (context config) = .ok (Span.join (pageSpans config)) := by
  apply Template.fill_of_render rfl
  apply Template.render_all_pieces
  repeat' apply List.Forall₂.cons
  all_goals first | exact .nil | rfl

/-! ### The page as its reader has it -/

def pagePieces (config : Config) : List Piece :=
  let title := escapeHtml config.openapiTitle
  let assets := escapeHtml (assetsPath config)
  let json := escapeHtml (jsonPath config)
  [⟨.declaration "doctype html", "\n"⟩,
    ⟨.opening "html" [⟨"lang", "en"⟩], "\n"⟩,
    ⟨.opening "head" [], "\n  "⟩,
    ⟨.opening "meta" [⟨"charset", "utf-8"⟩], "\n  "⟩,
    ⟨.opening "meta" [⟨"name", "viewport"⟩,
      ⟨"content", "width=device-width, initial-scale=1"⟩], "\n  "⟩,
    ⟨.opening "title" [], title⟩,
    ⟨.closing "title", "\n  "⟩,
    ⟨.opening "link" [⟨"rel", "stylesheet"⟩, ⟨"href", assets ++ "/viewer.css"⟩], "\n"⟩,
    ⟨.closing "head", "\n"⟩,
    ⟨.opening "body" [], "\n  "⟩,
    ⟨.opening "header" [⟨"class", "apigen-header"⟩], "\n    "⟩,
    ⟨.opening "h1" [], title⟩,
    ⟨.closing "h1", "\n    "⟩,
    ⟨.opening "a" [⟨"class", "apigen-raw"⟩, ⟨"href", json⟩], json⟩,
    ⟨.closing "a", "\n  "⟩,
    ⟨.closing "header", "\n  "⟩,
    ⟨.opening "main" [⟨"id", "apigen-docs"⟩, ⟨"data-spec-url", json⟩], "\n    "⟩,
    ⟨.opening "p" [⟨"class", "apigen-loading"⟩], "Loading API description&hellip;"⟩,
    ⟨.closing "p", "\n  "⟩,
    ⟨.closing "main", "\n  "⟩,
    ⟨.opening "script" [⟨"src", assets ++ "/viewer.js"⟩], ""⟩,
    ⟨.closing "script", "\n"⟩,
    ⟨.closing "body", "\n"⟩,
    ⟨.closing "html", "\n"⟩]

/-- Both are the same page. -/
theorem page_written (config : Config) :
    Span.join (pageSpans config) = Markup.write (pagePieces config) := by
  apply String.toList_inj.mp
  simp only [Span.join, pageSpans, Template.docsPageTemplate, List.map_cons, spanOf,
    String.intercalate_cons_cons, String.intercalate_singleton, shown, String.append_empty,
    List.map_nil, Span.text, String.join_cons, String.join_nil, String.toList_append,
    String.reduceToList, List.cons_append, List.nil_append, Markup.write, pagePieces, Piece.written,
    Markup.Tag.inner, Markup.Attribute.written, List.append_assoc]

/-- A tag whose last attribute has the value of a configuration. -/
theorem proper_opening {name label value text : String} (others : List Markup.Attribute)
    (named : Text.Spelled Char.isAlpha Markup.isNameChar name)
    (labelled : Text.Spelled Char.isAlpha Markup.isNameChar label)
    (each : ∀ given ∈ others, given.Proper) (quoted : '"' ∉ value.toList)
    (bare : '<' ∉ text.toList) : Piece.Proper ⟨.opening name (others ++ [⟨label, value⟩]), text⟩ :=
  ⟨⟨named, List.forall_mem_append.mpr ⟨each, List.forall_mem_singleton.mpr ⟨labelled, quoted⟩⟩⟩,
    bare⟩

theorem pieces_proper (config : Config) : ∀ piece ∈ pagePieces config, piece.Proper := by
  have clean : ∀ (value : String), ∀ sign ∈ Text.markupSigns, sign ∉ (escapeHtml value).toList :=
    fun value sign listed inside => Text.escaped_no_sign value sign inside listed
  have bare : ∀ value, '<' ∉ (escapeHtml value).toList := fun value => clean value _ (by decide)
  have quoted : ∀ value, '"' ∉ (escapeHtml value).toList := fun value => clean value _ (by decide)
  have below : ∀ value rest, '"' ∉ rest.toList → '"' ∉ (escapeHtml value ++ rest).toList := by
    intro value rest kept
    rw [String.toList_append, List.mem_append, not_or]
    exact ⟨quoted value, kept⟩
  have titled : ∀ name value, Text.Spelled Char.isAlpha Markup.isNameChar name →
      Piece.Proper ⟨.opening name [], escapeHtml value⟩ :=
    fun name value named => ⟨⟨named, List.forall_mem_nil _⟩, bare value⟩
  simp only [pagePieces, List.forall_mem_cons]
  refine ⟨by decide, by decide, by decide, by decide, by decide, titled _ _ (by decide), by decide,
    ?link, by decide, by decide, by decide, titled _ _ (by decide), by decide, ?raw, by decide,
    by decide, ?main, by decide, by decide, by decide, ?script, by decide, by decide, by decide,
    List.forall_mem_nil _⟩
  case link =>
    exact proper_opening [⟨"rel", "stylesheet"⟩] (by decide) (by decide) (by decide)
      (below _ _ (by decide)) (by decide)
  case raw =>
    exact proper_opening [⟨"class", "apigen-raw"⟩] (by decide) (by decide) (by decide) (quoted _)
      (bare _)
  case main =>
    exact proper_opening [⟨"id", "apigen-docs"⟩] (by decide) (by decide) (by decide) (quoted _)
      (by decide)
  case script =>
    exact proper_opening [] (by decide) (by decide) (by decide) (below _ _ (by decide)) (by decide)

/-! ### The routes of the module -/

/-- What stands behind the route of a function. -/
def answerOf (function : String) : String := ", get(" ++ function ++ "))\n"

/-- The functions that answer, in the order in which they are registered. -/
def answering : List String := ["openapi_json", "index_html", "viewer_css", "viewer_js"]

/-- Where a function answers, as the literal of its registration says. -/
def registered (function : String) : List Passage → Option String
  | .literal written :: .code answer :: rest =>
      if answer = answerOf function then Text.readLiteral written else registered function rest
  | _ :: rest => registered function rest
  | [] => none

variable {entries : List (String × String)} {entry : String × String} {rest : List Passage}

/-- The first registration of a function counts, so each counts if no function has two. -/
theorem registered_listed
    (apart : entries.Pairwise fun own other => answerOf own.2 ≠ answerOf other.2)
    (listed : entry ∈ entries) :
    registered entry.2 (entries.flatMap registrationPassages ++ rest) = some entry.1 := by
  induction entries with
  | nil => cases listed
  | cons own others induction =>
      have step : registered entry.2 ((own :: others).flatMap registrationPassages ++ rest) =
          if answerOf own.2 = answerOf entry.2 then Text.readLiteral (Text.stringLiteral own.1)
          else registered entry.2 (others.flatMap registrationPassages ++ rest) := rfl
      obtain ⟨differs, apart⟩ := List.pairwise_cons.mp apart
      rw [step]
      rcases List.mem_cons.mp listed with rfl | later
      · rw [if_pos rfl, Text.read_string_literal]
      · rw [if_neg (differs entry later), induction apart later]

/-- The literals in front of the routes name files, and no function stands behind them. -/
theorem registered_behind_includes (config : Config) {function : String}
    (known : function ∈ answering) :
    registered function (includePassages config ++ rest) = registered function rest := by
  have others : ∀ function ∈ answering,
      fixedText 4 ≠ answerOf function ∧ fixedText 6 ≠ answerOf function ∧
        fixedText 8 ≠ answerOf function ∧
        "\n".intercalate ((fixedLines 10).dropLast ++ [""]) ≠ answerOf function := by decide
  obtain ⟨document, page, style, script⟩ := others function known
  simp only [includePassages, List.cons_append, List.nil_append, registered, document, page, style,
    script, if_false]

theorem registered_routes {config : Config} (listed : entry ∈ registrations config) :
    registered entry.2 (passages config) = some entry.1 := by
  have functions : (registrations config).map Prod.snd = answering := rfl
  have known : entry.2 ∈ answering := functions ▸ List.mem_map_of_mem listed
  have apart : (registrations config).Pairwise fun own other =>
      answerOf own.2 ≠ answerOf other.2 := by
    have distinct : answering.Pairwise fun own other => answerOf own ≠ answerOf other := by decide
    rwa [← functions, List.pairwise_map] at distinct
  rw [passages, List.append_assoc, List.append_assoc, registered_behind_includes config known]
  exact registered_listed apart listed

/-! ### The page and the module -/

/-- The tags of the page, without what they say. -/
def pageOutline : List Markup.Tag := (pagePieces {}).map fun piece => piece.tag.outline

theorem pieces_outline (config : Config) :
    (pagePieces config).map (fun piece => piece.tag.outline) = pageOutline := by
  simp only [pageOutline, pagePieces, List.map_cons, List.map_nil, Markup.Tag.outline]

/-- A page loads and shows what its module serves, and the text of the configuration stays inside
the values and the texts of its tags. -/
structure Agrees (config : Config) (module : List Passage) (page : List Span)
    (pieces : List Piece) : Prop where
  read : Markup.read (Span.join page) = some pieces
  /-- Both name the route of the style sheet, once each. -/
  style : registered "viewer_css" module = some (assetsPath config ++ "/viewer.css") ∧
    Markup.values "link" "href" pieces = [assetsPath config ++ "/viewer.css"]
  script : registered "viewer_js" module = some (assetsPath config ++ "/viewer.js") ∧
    Markup.values "script" "src" pieces = [assetsPath config ++ "/viewer.js"]
  document : registered "openapi_json" module = some (jsonPath config) ∧
    Markup.values "main" "data-spec-url" pieces = [jsonPath config]
  link : Markup.values "a" "href" pieces = [jsonPath config] ∧
    Markup.texts "a" pieces = [jsonPath config]
  title : Markup.texts "title" pieces = [config.openapiTitle] ∧
    Markup.texts "h1" pieces = [config.openapiTitle]
  outline : pieces.map (fun piece => piece.tag.outline) = pageOutline
  frame : page.filterMap Span.fixed? = pageFrame
  images : page.filterMap Span.image? = [config.openapiTitle, assetsPath config,
    config.openapiTitle, jsonPath config, jsonPath config, jsonPath config,
    assetsPath config].map escapeHtml
  clean : ∀ written ∈ page.filterMap Span.image?, ∀ letter ∈ written.toList,
    letter ∉ Text.markupSigns

theorem bundle_page {config : Config} (enabled : config.docsUiEnabled = true) :
    bundle config =
      .ok (some (filesOf (Passage.join (passages config)) (Span.join (pageSpans config)))) := by
  rw [bundle, if_pos enabled, files, fill_module, fill_page]
  rfl

theorem page_images (config : Config) : (pageSpans config).filterMap Span.image? =
    [config.openapiTitle, assetsPath config, config.openapiTitle, jsonPath config, jsonPath config,
      jsonPath config, assetsPath config].map escapeHtml := rfl

/-- The page that is generated beside the module that serves it agrees with that module. -/
theorem page_agrees_with_module {config : Config} (enabled : config.docsUiEnabled = true) :
    bundle config =
        .ok (some (filesOf (Passage.join (passages config)) (Span.join (pageSpans config)))) ∧
      ∃ pieces, Agrees config (passages config) (pageSpans config) pieces := by
  have serves : ∀ entry ∈ registrations config,
      registered entry.2 (passages config) = some entry.1 := fun _ listed => registered_routes listed
  simp only [registrations, List.forall_mem_cons] at serves
  obtain ⟨document, _, style, script, _⟩ := serves
  have whole : ∀ value, Text.unescapeHtml (escapeHtml value) = value := Text.unescape_html_escaped
  have below : ∀ value rest, '&' ∉ rest.toList →
      Text.unescapeHtml (escapeHtml value ++ rest) = value ++ rest :=
    fun value _ => Text.unescape_html_append value
  refine ⟨bundle_page enabled, (pagePieces config).map Piece.unescaped, ?_⟩
  constructor
  case read =>
    rw [page_written]
    exact Markup.read_page_written (List.cons_ne_nil _ _) (pieces_proper config)
  case style => exact ⟨style, congrArg ([·]) (below _ _ (by decide))⟩
  case script => exact ⟨script, congrArg ([·]) (below _ _ (by decide))⟩
  case document => exact ⟨document, congrArg ([·]) (whole _)⟩
  case link => exact ⟨congrArg ([·]) (whole _), congrArg ([·]) (whole _)⟩
  case title => exact ⟨congrArg ([·]) (whole _), congrArg ([·]) (whole _)⟩
  case outline =>
    rw [List.map_map, ← pieces_outline config]
    exact List.map_congr_left fun piece _ => Markup.outline_unescaped piece.tag
  case frame => exact page_frame config
  case images => exact page_images config
  case clean =>
    rw [page_images]
    intro written listed
    obtain ⟨value, _, rfl⟩ := List.mem_map.mp listed
    exact Text.escaped_no_sign value

/-- A checked configuration whose title and routes have signs of both notations. -/
def markedViewer : Config :=
  { openapiEnabled := true
    openapiTitle := "Pets & <\"Friends\">"
    openapiJsonPath := some "/it's/&lt;pets&gt;.json"
    docsUiEnabled := true
    docsPath := "/docs\\\"v1\"" }

theorem marked_viewer_page : markedViewer.docsUiEnabled = true ∧
    markedViewer.validated = .ok markedViewer ∧
    bundle markedViewer = .ok (some (filesOf (Passage.join (passages markedViewer))
      (Span.join (pageSpans markedViewer)))) ∧
    ∃ pieces, Agrees markedViewer (passages markedViewer) (pageSpans markedViewer) pieces :=
  ⟨rfl, by decide, page_agrees_with_module rfl⟩

end Docs

end ApiCompiler

import ApiCompiler.Template.Syntax

/-!
The templates of the documentation: the module that serves it, and its page.
-/

set_option autoImplicit false

namespace ApiCompiler.Template

def docsModuleTemplate : List Part := [
  .text ["// Code generated by "],
  .value ["generator"],
  .text [
    ". DO NOT EDIT.",
    "//",
    "// Serves the OpenAPI document and the bundled docs viewer.",
    "",
    "use axum::http::header::\x7bCACHE_CONTROL, CONTENT_TYPE\x7d;",
    "use axum::response::IntoResponse;",
    "use axum::routing::get;",
    "use axum::Router;",
    "",
    "const OPENAPI_JSON: &str = include_str!("],
  .value ["openapi_file_lit"],
  .text [");", "const INDEX_HTML: &str = include_str!("],
  .value ["index_file_lit"],
  .text [");", "const VIEWER_CSS: &str = include_str!("],
  .value ["css_file_lit"],
  .text [");", "const VIEWER_JS: &str = include_str!("],
  .value ["js_file_lit"],
  .text [
    ");",
    "",
    "const NO_STORE: &str = \"no-store\";",
    "const NO_CACHE: &str = \"no-cache\";",
    "const IMMUTABLE: &str = \"public, max-age=31536000, immutable\";",
    "",
    "/// Routes serving the OpenAPI document at "],
  .value ["openapi_json_path"],
  .text [" and the viewer at "],
  .value ["docs_path"],
  .text ["", "pub fn docs_routes() -> Router \x7b", "    Router::new()", "        .route("],
  .value ["openapi_json_path_lit"],
  .text [", get(openapi_json))", "        .route("],
  .value ["docs_path_lit"],
  .text [", get(index_html))", "        .route("],
  .value ["css_route_lit"],
  .text [", get(viewer_css))", "        .route("],
  .value ["js_route_lit"],
  .text [
    ", get(viewer_js))",
    "\x7d",
    "",
    "async fn openapi_json() -> impl IntoResponse \x7b",
    "    (",
    "        [(CONTENT_TYPE, \"application/json\"), (CACHE_CONTROL, NO_STORE)],",
    "        OPENAPI_JSON,",
    "    )",
    "\x7d",
    "",
    "async fn index_html() -> impl IntoResponse \x7b",
    "    (",
    "        [(CONTENT_TYPE, \"text/html; charset=utf-8\"), (CACHE_CONTROL, NO_CACHE)],",
    "        INDEX_HTML,",
    "    )",
    "\x7d",
    "",
    "async fn viewer_css() -> impl IntoResponse \x7b",
    "    (",
    "        [(CONTENT_TYPE, \"text/css; charset=utf-8\"), (CACHE_CONTROL, IMMUTABLE)],",
    "        VIEWER_CSS,",
    "    )",
    "\x7d",
    "",
    "async fn viewer_js() -> impl IntoResponse \x7b",
    "    (",
    "        [",
    "            (CONTENT_TYPE, \"application/javascript; charset=utf-8\"),",
    "            (CACHE_CONTROL, IMMUTABLE),",
    "        ],",
    "        VIEWER_JS,",
    "    )",
    "\x7d",
    ""]]

def docsPageTemplate : List Part := [
  .text [
    "<!doctype html>",
    "<html lang=\"en\">",
    "<head>",
    "  <meta charset=\"utf-8\">",
    "  <meta name=\"viewport\" content=\"width=device-width, initial-scale=1\">",
    "  <title>"],
  .print ["title"] .escape,
  .text ["</title>", "  <link rel=\"stylesheet\" href=\""],
  .print ["assets_path"] .escape,
  .text ["/viewer.css\">", "</head>", "<body>", "  <header class=\"apigen-header\">", "    <h1>"],
  .print ["title"] .escape,
  .text ["</h1>", "    <a class=\"apigen-raw\" href=\""],
  .print ["openapi_json_path"] .escape,
  .text ["\">"],
  .print ["openapi_json_path"] .escape,
  .text ["</a>", "  </header>", "  <main id=\"apigen-docs\" data-spec-url=\""],
  .print ["openapi_json_path"] .escape,
  .text [
    "\">",
    "    <p class=\"apigen-loading\">Loading API description&hellip;</p>",
    "  </main>",
    "  <script src=\""],
  .print ["assets_path"] .escape,
  .text ["/viewer.js\"></script>", "</body>", "</html>", ""]]

end ApiCompiler.Template

import ApiCompiler.Template.Syntax

/-!
The template of the routes module: binders, dispatch functions and the router.
-/

set_option autoImplicit false

namespace ApiCompiler.Template

/-- The types that binders work with. -/
def bindingPreamble : Part :=
  .when (.holds ["needs_binding"]) [
    .text [
      "",
      "",
      "/// Where a bound value is read from",
      "#[derive(Debug, Clone, Copy, PartialEq, Eq)]",
      "pub enum Source \x7b",
      "    Path,",
      "    Query,",
      "    Header,",
      "\x7d",
      "",
      "impl Source \x7b",
      "    pub fn as_str(self) -> &'static str \x7b",
      "        match self \x7b",
      "            Source::Path => \"path\",",
      "            Source::Query => \"query\",",
      "            Source::Header => \"header\",",
      "        \x7d",
      "    \x7d",
      "\x7d",
      "",
      "/// One request field bound from the transport",
      "#[derive(Debug, Clone, Copy)]",
      "pub struct Binding \x7b",
      "    pub field: &'static str,",
      "    pub tag: &'static str,",
      "    pub source: Source,",
      "\x7d",
      "",
      "impl Binding \x7b",
      "    fn missing(&self) -> BindError \x7b",
      "        BindError::Missing \x7b",
      "            field: self.field,",
      "            tag: self.tag,",
      "            source: self.source,",
      "        \x7d",
      "    \x7d",
      "",
      "    fn invalid(&self, reason: String) -> BindError \x7b",
      "        BindError::Invalid \x7b",
      "            field: self.field,",
      "            tag: self.tag,",
      "            source: self.source,",
      "            reason,",
      "        \x7d",
      "    \x7d",
      "\x7d",
      "",
      "/// Request decoding failure, answered with 400",
      "#[derive(Debug)]",
      "pub enum BindError \x7b",
      "    /// A required value is absent",
      "    Missing \x7b",
      "        field: &'static str,",
      "        tag: &'static str,",
      "        source: Source,",
      "    \x7d,",
      "    /// A value is present but does not parse",
      "    Invalid \x7b",
      "        field: &'static str,",
      "        tag: &'static str,",
      "        source: Source,",
      "        reason: String,",
      "    \x7d,",
      "    /// The body is not valid JSON for the request type",
      "    MalformedBody(String),",
      "\x7d",
      "",
      "impl BindError \x7b",
      "    pub fn code(&self) -> &'static str \x7b",
      "        match self \x7b",
      "            BindError::Missing \x7b .. \x7d => \"missing_parameter\",",
      "            BindError::Invalid \x7b .. \x7d => \"invalid_parameter\",",
      "            BindError::MalformedBody(_) => \"malformed_body\",",
      "        \x7d",
      "    \x7d",
      "\x7d",
      "",
      "impl std::fmt::Display for BindError \x7b",
      "    fn fmt(&self, f: &mut std::fmt::Formatter<'_>) -> std::fmt::Result \x7b",
      "        match self \x7b",
      "            BindError::Missing \x7b field, tag, source \x7d => write!(",
      "                f,",
      "                \"missing \x7b\x7d parameter \x7b:?\x7d (field \x7b\x7d)\",",
      "                source.as_str(),",
      "                tag,",
      "                field",
      "            ),",
      "            BindError::Invalid \x7b",
      "                field,",
      "                tag,",
      "                source,",
      "                reason,",
      "            \x7d => write!(",
      "                f,",
      "                \"invalid \x7b\x7d parameter \x7b:?\x7d (field \x7b\x7d): \x7b\x7d\",",
      "                source.as_str(),",
      "                tag,",
      "                field,",
      "                reason",
      "            ),",
      "            BindError::MalformedBody(reason) => write!(f, \"malformed JSON body: \x7b\x7d\", reason),",
      "        \x7d",
      "    \x7d",
      "\x7d",
      "",
      "impl IntoResponse for BindError \x7b",
      "    fn into_response(self) -> Response \x7b",
      "        error_response(StatusCode::BAD_REQUEST, self.code(), self.to_string())",
      "    \x7d",
      "\x7d",
      "",
      "/// Raw transport inputs a binder reads from",
      "#[derive(Debug, Default)]",
      "pub struct RequestParts \x7b",
      "    pub path: HashMap<String, String>,",
      "    pub query: Vec<(String, String)>,",
      "    pub headers: HeaderMap,",
      "    pub body: Bytes,",
      "\x7d",
      "",
      "impl RequestParts \x7b",
      "    /// The path parameter, every query value, or the first header value",
      "    fn values(&self, binding: &Binding) -> Vec<&str> \x7b",
      "        match binding.source \x7b",
      "            Source::Path => self",
      "                .path",
      "                .get(binding.tag)",
      "                .map(String::as_str)",
      "                .into_iter()",
      "                .collect(),",
      "            Source::Query => self",
      "                .query",
      "                .iter()",
      "                .filter(|(key, _)| key.as_str() == binding.tag)",
      "                .map(|(_, value)| value.as_str())",
      "                .collect(),",
      "            Source::Header => self",
      "                .headers",
      "                .get(binding.tag)",
      "                .and_then(|value| value.to_str().ok())",
      "                .into_iter()",
      "                .collect(),",
      "        \x7d",
      "    \x7d",
      "\x7d"]]

def requiredOne : Part :=
  .when (.holds ["helpers", "required_one"]) [
    .text [
      "",
      "",
      "fn required_one<T>(",
      "    parts: &RequestParts,",
      "    binding: &Binding,",
      "    parse: fn(&str) -> Result<T, String>,",
      ") -> Result<T, BindError> \x7b",
      "    let raw = parts",
      "        .values(binding)",
      "        .into_iter()",
      "        .next()",
      "        .ok_or_else(|| binding.missing())?;",
      "    parse(raw).map_err(|reason| binding.invalid(reason))",
      "\x7d"]]

def optionalOne : Part :=
  .when (.holds ["helpers", "optional_one"]) [
    .text [
      "",
      "",
      "fn optional_one<T>(",
      "    parts: &RequestParts,",
      "    binding: &Binding,",
      "    parse: fn(&str) -> Result<T, String>,",
      ") -> Result<Option<T>, BindError> \x7b",
      "    match parts.values(binding).into_iter().next() \x7b",
      "        Some(raw) => parse(raw).map(Some).map_err(|reason| binding.invalid(reason)),",
      "        None => Ok(None),",
      "    \x7d",
      "\x7d"]]

def optionalMany : Part :=
  .when (.holds ["helpers", "optional_many"]) [
    .text [
      "",
      "",
      "fn optional_many<T>(",
      "    parts: &RequestParts,",
      "    binding: &Binding,",
      "    parse: fn(&str) -> Result<T, String>,",
      ") -> Result<Option<Vec<T>>, BindError> \x7b",
      "    let raw = parts.values(binding);",
      "    if raw.is_empty() \x7b",
      "        return Ok(None);",
      "    \x7d",
      "    raw.into_iter()",
      "        .map(|value| parse(value).map_err(|reason| binding.invalid(reason)))",
      "        .collect::<Result<Vec<T>, BindError>>()",
      "        .map(Some)",
      "\x7d"]]

def requiredMany : Part :=
  .when (.holds ["helpers", "required_many"]) [
    .text [
      "",
      "",
      "fn required_many<T>(",
      "    parts: &RequestParts,",
      "    binding: &Binding,",
      "    parse: fn(&str) -> Result<T, String>,",
      ") -> Result<Vec<T>, BindError> \x7b",
      "    optional_many(parts, binding, parse)?.ok_or_else(|| binding.missing())",
      "\x7d"]]

def parserFunctions : Part :=
  .each "parser" ["parsers"] [
    .text ["", "", "fn "],
    .value ["parser", "fn_name"],
    .text ["(raw: &str) -> Result<"],
    .value ["parser", "rust_type"],
    .text [", String> \x7b"],
    .choose (.equals ["parser", "family"] "text") [
      .text ["", "    Ok(raw.to_owned())"]] [
      .choose (.equals ["parser", "family"] "boolean") [
        .text [
          "",
          "    match raw \x7b",
          "        \"true\" | \"1\" => Ok(true),",
          "        \"false\" | \"0\" => Ok(false),",
          "        _ => Err(format!(\"expected true, false, 1 or 0, got \x7b:?\x7d\", raw)),",
          "    \x7d"]] [
        .text ["", "    raw.parse::<"],
        .value ["parser", "rust_type"],
        .text [">().map_err(|err| err.to_string())"]]],
    .text ["", "\x7d"]]

def bindFunctions : Part :=
  .each "e" ["endpoints"] [
    .when (.holds ["e", "bind_fn"]) [
      .text ["", "", "/// Binds the request of `"],
      .value ["e", "handler"],
      .text ["`", "fn "],
      .value ["e", "bind_fn"],
      .text ["(parts: &RequestParts) -> Result<"],
      .value ["e", "request_type"],
      .text [", BindError> \x7b"],
      .choose (.holds ["e", "has_json_body"]) [
        .text ["", "    let "],
        .when (.holds ["e", "bindings"]) [
          .text ["mut "]],
        .text ["req: "],
        .value ["e", "request_type"],
        .text [
          " = serde_json::from_slice(&parts.body)",
          "        .map_err(|err| BindError::MalformedBody(err.to_string()))?;"]] [
        .text ["", "    let mut req: "],
        .value ["e", "request_type"],
        .text [" = Default::default();"]],
      .each "b" ["e", "bindings"] [
        .text ["", "    req."],
        .value ["b", "field"],
        .text [" = "],
        .value ["b", "helper"],
        .text ["(", "        parts,", "        &Binding \x7b", "            field: "],
        .value ["b", "field_lit"],
        .text [",", "            tag: "],
        .value ["b", "tag_lit"],
        .text [",", "            source: Source::"],
        .value ["b", "source"],
        .text [",", "        \x7d,", "        "],
        .value ["b", "parser_fn"],
        .text [",", "    )?;"]],
      .text ["", "    Ok(req)", "\x7d"]]]

/-- The ways in which a dispatch function answers when its handler succeeds. -/
inductive SuccessArm
  | noContent
  /-- A list is never written as null. -/
  | guardedJson
  | json
  deriving DecidableEq, Repr

def SuccessArm.lines : SuccessArm → List String
  | noContent => ["", "        Ok(_) => StatusCode::NO_CONTENT.into_response(),"]
  | guardedJson => [
      "",
      "        Ok(resp) => \x7b",
      "            // A list is never written as null",
      "            let mut value = match serde_json::to_value(&resp) \x7b",
      "                Ok(value) => value,",
      "                Err(err) => \x7b",
      "                    return error_response(",
      "                        StatusCode::INTERNAL_SERVER_ERROR,",
      "                        \"internal_error\",",
      "                        err.to_string(),",
      "                    )",
      "                \x7d",
      "            \x7d;",
      "            if value.is_null() \x7b",
      "                value = serde_json::Value::Array(Vec::new());",
      "            \x7d",
      "            (StatusCode::OK, Json(value)).into_response()",
      "        \x7d"]
  | json => ["", "        Ok(resp) => (StatusCode::OK, Json(resp)).into_response(),"]

def successArm : Part :=
  .choose (.fails ["e", "has_response"]) [.text SuccessArm.noContent.lines] [
    .choose (.holds ["e", "resp_is_slice"]) [.text SuccessArm.guardedJson.lines] [
      .text SuccessArm.json.lines]]

def dispatchFunctions : Part :=
  .each "e" ["endpoints"] [
    .text ["", "", "/// `"],
    .value ["e", "route"],
    .text ["`, handled by `"],
    .value ["e", "handler"],
    .text ["`", "async fn "],
    .value ["e", "dispatch_fn"],
    .text ["("],
    .print ["e", "extractors"] (.join ", "),
    .text [") -> Response \x7b"],
    .choose (.holds ["e", "bind_fn"]) [
      .text ["", "    let parts = RequestParts \x7b"],
      .each "field" ["e", "parts_fields"] [
        .text ["", "        "],
        .value ["field"],
        .text [","]],
      .when (.fails ["e", "parts_complete"]) [
        .text ["", "        ..RequestParts::default()"]],
      .text ["", "    \x7d;", "    let req = match "],
      .value ["e", "bind_fn"],
      .text [
        "(&parts) \x7b",
        "        Ok(req) => req,",
        "        Err(err) => return err.into_response(),",
        "    \x7d;",
        "    let result = "],
      .value ["e", "handler_call"],
      .text ["(req).await;"]] [
      .choose (.holds ["e", "has_request"]) [
        .text ["", "    let result = "],
        .value ["e", "handler_call"],
        .text ["(Default::default()).await;"]] [
        .text ["", "    let result = "],
        .value ["e", "handler_call"],
        .text ["().await;"]]],
    .text ["", "    match result \x7b"],
    successArm,
    .text ["", "        Err(err) => handler_error_response(err),", "    \x7d", "\x7d"]]

def routeLines : Part :=
  .each "route" ["routes"] [
    .text ["", "        .route("],
    .value ["route", "path_lit"],
    .text [", "],
    .value ["route", "chain"],
    .text [")"]]

def routesTemplate : List Part := [
  .text ["// Code generated by "],
  .value ["generator"],
  .text [
    ". DO NOT EDIT.",
    "//",
    "// Request binders, dispatch handlers and the router for every endpoint of the",
    "// API manifest.",
    "",
    "#![allow(dead_code)]",
    "",
    ""],
  .value ["use_block"],
  .text [
    "",
    "",
    "/// Writes the shared JSON error envelope with the given status.",
    "pub fn error_response(status: StatusCode, code: &str, message: impl Into<String>) -> Response \x7b",
    "    let message: String = message.into();",
    "    let body = serde_json::json!(\x7b \"error\": \x7b \"code\": code, \"message\": message \x7d \x7d);",
    "    (status, Json(body)).into_response()",
    "\x7d",
    "",
    "/// Errors returned by handlers.",
    "///",
    "/// Responses default to 500 with code `internal_error`; override `status` and",
    "/// `code` to classify an error.",
    "pub trait HandlerError: std::fmt::Display \x7b",
    "    fn status(&self) -> StatusCode \x7b",
    "        StatusCode::INTERNAL_SERVER_ERROR",
    "    \x7d",
    "",
    "    fn code(&self) -> &str \x7b",
    "        \"internal_error\"",
    "    \x7d",
    "\x7d",
    "",
    "fn handler_error_response<E: HandlerError>(err: E) -> Response \x7b",
    "    error_response(err.status(), err.code(), err.to_string())",
    "\x7d"],
  bindingPreamble,
  requiredOne,
  optionalOne,
  optionalMany,
  requiredMany,
  parserFunctions,
  bindFunctions,
  dispatchFunctions,
  .text [
    "",
    "",
    "/// Router with every generated route registered",
    "pub fn routes() -> Router \x7b",
    "    Router::new()"],
  routeLines,
  .text ["", "\x7d", ""]]

end ApiCompiler.Template

/-!
The script of the documentation viewer. It reads the document that the page names and shows its
operations.
-/

set_option autoImplicit false

namespace ApiCompiler.Docs

def viewerScript : List String := [
  "// Minimal OpenAPI 3 viewer bundled with generated docs routes.",
  "(function () \x7b",
  "  \"use strict\";",
  "",
  "  var METHODS = [\"get\", \"put\", \"post\", \"delete\", \"options\", \"head\", \"patch\"];",
  "  var REF_PREFIX = \"#/components/schemas/\";",
  "",
  "  function el(tag, className, text) \x7b",
  "    var node = document.createElement(tag);",
  "    if (className) \x7b",
  "      node.className = className;",
  "    \x7d",
  "    if (text !== undefined && text !== null) \x7b",
  "      node.textContent = String(text);",
  "    \x7d",
  "    return node;",
  "  \x7d",
  "",
  "  function schemaLabel(schema) \x7b",
  "    if (!schema) \x7b",
  "      return \"\";",
  "    \x7d",
  "    if (schema.$ref) \x7b",
  "      return schema.$ref.slice(REF_PREFIX.length);",
  "    \x7d",
  "    if (schema.allOf && schema.allOf.length === 1) \x7b",
  "      return schemaLabel(schema.allOf[0]);",
  "    \x7d",
  "    if (schema.type === \"array\") \x7b",
  "      return schemaLabel(schema.items) + \"[]\";",
  "    \x7d",
  "    return schema.format ? schema.type + \" (\" + schema.format + \")\" : schema.type || \"object\";",
  "  \x7d",
  "",
  "  function table(headers, rows) \x7b",
  "    var tableEl = el(\"table\", \"apigen-table\");",
  "    var head = el(\"tr\");",
  "    headers.forEach(function (h) \x7b",
  "      head.appendChild(el(\"th\", null, h));",
  "    \x7d);",
  "    tableEl.appendChild(head);",
  "    rows.forEach(function (row) \x7b",
  "      var tr = el(\"tr\");",
  "      row.forEach(function (cell) \x7b",
  "        tr.appendChild(el(\"td\", null, cell));",
  "      \x7d);",
  "      tableEl.appendChild(tr);",
  "    \x7d);",
  "    return tableEl;",
  "  \x7d",
  "",
  "  function mediaSchema(content) \x7b",
  "    var media = content && content[\"application/json\"];",
  "    return media ? media.schema : null;",
  "  \x7d",
  "",
  "  function renderOperation(path, method, op, spec) \x7b",
  "    var details = el(\"details\", \"apigen-op\");",
  "    var summary = el(\"summary\");",
  "    summary.appendChild(el(\"span\", \"apigen-method \" + method, method));",
  "    summary.appendChild(el(\"span\", \"apigen-path\", path));",
  "    if (op.summary) \x7b",
  "      summary.appendChild(el(\"span\", \"apigen-summary\", op.summary));",
  "    \x7d",
  "    details.appendChild(summary);",
  "",
  "    var body = el(\"div\", \"apigen-body\");",
  "    if (op.description) \x7b",
  "      body.appendChild(el(\"p\", null, op.description));",
  "    \x7d",
  "    body.appendChild(el(\"p\", \"apigen-summary\", \"operationId: \" + op.operationId));",
  "",
  "    if (op.parameters && op.parameters.length) \x7b",
  "      body.appendChild(el(\"h4\", null, \"Parameters\"));",
  "      body.appendChild(",
  "        table(",
  "          [\"Name\", \"In\", \"Type\", \"Required\", \"Description\"],",
  "          op.parameters.map(function (p) \x7b",
  "            return [p.name, p[\"in\"], schemaLabel(p.schema), p.required ? \"yes\" : \"no\", p.description || \"\"];",
  "          \x7d)",
  "        )",
  "      );",
  "    \x7d",
  "",
  "    if (op.requestBody) \x7b",
  "      body.appendChild(el(\"h4\", null, \"Request body\"));",
  "      body.appendChild(schemaBlock(mediaSchema(op.requestBody.content), spec));",
  "    \x7d",
  "",
  "    body.appendChild(el(\"h4\", null, \"Responses\"));",
  "    body.appendChild(",
  "      table(",
  "        [\"Status\", \"Description\", \"Body\"],",
  "        Object.keys(op.responses || \x7b\x7d).map(function (status) \x7b",
  "          var response = op.responses[status];",
  "          return [status, response.description || \"\", schemaLabel(mediaSchema(response.content))];",
  "        \x7d)",
  "      )",
  "    );",
  "",
  "    details.appendChild(body);",
  "    return details;",
  "  \x7d",
  "",
  "  function resolve(schema, spec) \x7b",
  "    if (schema && schema.$ref) \x7b",
  "      var name = schema.$ref.slice(REF_PREFIX.length);",
  "      return (spec.components && spec.components.schemas && spec.components.schemas[name]) || schema;",
  "    \x7d",
  "    return schema;",
  "  \x7d",
  "",
  "  function schemaBlock(schema, spec) \x7b",
  "    return el(\"pre\", \"apigen-schema\", JSON.stringify(resolve(schema, spec), null, 2));",
  "  \x7d",
  "",
  "  function render(root, spec) \x7b",
  "    root.textContent = \"\";",
  "    if (spec.info && spec.info.description) \x7b",
  "      root.appendChild(el(\"p\", null, spec.info.description));",
  "    \x7d",
  "",
  "    var byTag = \x7b\x7d;",
  "    var tagOrder = [];",
  "    Object.keys(spec.paths || \x7b\x7d).forEach(function (path) \x7b",
  "      var item = spec.paths[path];",
  "      METHODS.forEach(function (method) \x7b",
  "        var op = item[method];",
  "        if (!op) \x7b",
  "          return;",
  "        \x7d",
  "        var tag = (op.tags && op.tags[0]) || \"default\";",
  "        if (!byTag[tag]) \x7b",
  "          byTag[tag] = [];",
  "          tagOrder.push(tag);",
  "        \x7d",
  "        byTag[tag].push(renderOperation(path, method, op, spec));",
  "      \x7d);",
  "    \x7d);",
  "",
  "    tagOrder.sort().forEach(function (tag) \x7b",
  "      var section = el(\"section\", \"apigen-tag\");",
  "      section.appendChild(el(\"h2\", null, tag));",
  "      byTag[tag].forEach(function (node) \x7b",
  "        section.appendChild(node);",
  "      \x7d);",
  "      root.appendChild(section);",
  "    \x7d);",
  "  \x7d",
  "",
  "  function load() \x7b",
  "    var root = document.getElementById(\"apigen-docs\");",
  "    if (!root) \x7b",
  "      return;",
  "    \x7d",
  "    var url = root.getAttribute(\"data-spec-url\");",
  "    fetch(url, \x7b headers: \x7b Accept: \"application/json\" \x7d \x7d)",
  "      .then(function (response) \x7b",
  "        if (!response.ok) \x7b",
  "          throw new Error(\"HTTP \" + response.status);",
  "        \x7d",
  "        return response.json();",
  "      \x7d)",
  "      .then(function (spec) \x7b",
  "        render(root, spec);",
  "      \x7d)",
  "      .catch(function (err) \x7b",
  "        root.textContent = \"\";",
  "        root.appendChild(el(\"p\", \"apigen-error\", \"Failed to load \" + url + \": \" + err.message));",
  "      \x7d);",
  "  \x7d",
  "",
  "  if (document.readyState === \"loading\") \x7b",
  "    document.addEventListener(\"DOMContentLoaded\", load);",
  "  \x7d else \x7b",
  "    load();",
  "  \x7d",
  "\x7d)();",
  ""]

end ApiCompiler.Docs

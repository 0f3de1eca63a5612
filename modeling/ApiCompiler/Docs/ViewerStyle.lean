/-!
The style sheet of the documentation viewer.
-/

set_option autoImplicit false

namespace ApiCompiler.Docs

def viewerStyle : List String := [
  ":root \x7b",
  "  --apigen-fg: #1f2328;",
  "  --apigen-muted: #59636e;",
  "  --apigen-border: #d1d9e0;",
  "  --apigen-bg: #ffffff;",
  "  --apigen-panel: #f6f8fa;",
  "  --apigen-get: #0969da;",
  "  --apigen-post: #1a7f37;",
  "  --apigen-put: #9a6700;",
  "  --apigen-patch: #8250df;",
  "  --apigen-delete: #cf222e;",
  "  --apigen-other: #59636e;",
  "\x7d",
  "",
  "* \x7b",
  "  box-sizing: border-box;",
  "\x7d",
  "",
  "body \x7b",
  "  margin: 0;",
  "  font-family: -apple-system, BlinkMacSystemFont, \"Segoe UI\", Helvetica, Arial, sans-serif;",
  "  color: var(--apigen-fg);",
  "  background: var(--apigen-bg);",
  "  line-height: 1.5;",
  "\x7d",
  "",
  ".apigen-header \x7b",
  "  display: flex;",
  "  align-items: baseline;",
  "  justify-content: space-between;",
  "  padding: 1rem 2rem;",
  "  border-bottom: 1px solid var(--apigen-border);",
  "  background: var(--apigen-panel);",
  "\x7d",
  "",
  ".apigen-header h1 \x7b",
  "  margin: 0;",
  "  font-size: 1.5rem;",
  "\x7d",
  "",
  ".apigen-raw \x7b",
  "  color: var(--apigen-muted);",
  "  font-family: ui-monospace, SFMono-Regular, Menlo, monospace;",
  "  font-size: 0.875rem;",
  "\x7d",
  "",
  "main \x7b",
  "  max-width: 64rem;",
  "  margin: 0 auto;",
  "  padding: 1rem 2rem 4rem;",
  "\x7d",
  "",
  ".apigen-loading,",
  ".apigen-error \x7b",
  "  color: var(--apigen-muted);",
  "\x7d",
  "",
  ".apigen-error \x7b",
  "  color: var(--apigen-delete);",
  "\x7d",
  "",
  ".apigen-tag h2 \x7b",
  "  margin: 2rem 0 0.75rem;",
  "  font-size: 1.25rem;",
  "  text-transform: capitalize;",
  "\x7d",
  "",
  "details.apigen-op \x7b",
  "  margin-bottom: 0.5rem;",
  "  border: 1px solid var(--apigen-border);",
  "  border-radius: 6px;",
  "\x7d",
  "",
  "details.apigen-op > summary \x7b",
  "  display: flex;",
  "  gap: 0.75rem;",
  "  align-items: center;",
  "  padding: 0.5rem 0.75rem;",
  "  cursor: pointer;",
  "  list-style: none;",
  "\x7d",
  "",
  "details.apigen-op[open] > summary \x7b",
  "  border-bottom: 1px solid var(--apigen-border);",
  "\x7d",
  "",
  ".apigen-method \x7b",
  "  min-width: 4.5rem;",
  "  padding: 0.125rem 0.5rem;",
  "  border-radius: 4px;",
  "  color: #ffffff;",
  "  font-size: 0.75rem;",
  "  font-weight: 600;",
  "  text-align: center;",
  "  text-transform: uppercase;",
  "  background: var(--apigen-other);",
  "\x7d",
  "",
  ".apigen-method.get \x7b background: var(--apigen-get); \x7d",
  ".apigen-method.post \x7b background: var(--apigen-post); \x7d",
  ".apigen-method.put \x7b background: var(--apigen-put); \x7d",
  ".apigen-method.patch \x7b background: var(--apigen-patch); \x7d",
  ".apigen-method.delete \x7b background: var(--apigen-delete); \x7d",
  "",
  ".apigen-path \x7b",
  "  font-family: ui-monospace, SFMono-Regular, Menlo, monospace;",
  "\x7d",
  "",
  ".apigen-summary \x7b",
  "  color: var(--apigen-muted);",
  "\x7d",
  "",
  ".apigen-body \x7b",
  "  padding: 0.75rem;",
  "\x7d",
  "",
  ".apigen-body h4 \x7b",
  "  margin: 1rem 0 0.5rem;",
  "  font-size: 0.875rem;",
  "  text-transform: uppercase;",
  "  color: var(--apigen-muted);",
  "\x7d",
  "",
  "table.apigen-table \x7b",
  "  width: 100%;",
  "  border-collapse: collapse;",
  "  font-size: 0.875rem;",
  "\x7d",
  "",
  "table.apigen-table th,",
  "table.apigen-table td \x7b",
  "  padding: 0.25rem 0.5rem;",
  "  border-bottom: 1px solid var(--apigen-border);",
  "  text-align: left;",
  "  vertical-align: top;",
  "\x7d",
  "",
  "pre.apigen-schema \x7b",
  "  margin: 0;",
  "  padding: 0.75rem;",
  "  overflow-x: auto;",
  "  border-radius: 6px;",
  "  background: var(--apigen-panel);",
  "  font-size: 0.8125rem;",
  "\x7d",
  ""]

end ApiCompiler.Docs

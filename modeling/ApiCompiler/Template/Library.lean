import ApiCompiler.Error
import ApiCompiler.Template.Docs
import ApiCompiler.Template.Render
import ApiCompiler.Template.Routes

/-!
The templates by name.
-/

set_option autoImplicit false

namespace ApiCompiler.Template

def routesName : String := "rust_axum/routes.rs.tera"

def docsModuleName : String := "rust_axum/docs.rs.tera"

def docsPageName : String := "docs/index.html.tera"

/-- All templates, in the order of their names. -/
def library : List (String × List Part) := [
  (docsPageName, docsPageTemplate),
  (docsModuleName, docsModuleTemplate),
  (routesName, routesTemplate)]

/-- Fills a template with the members of an object. -/
def fill (name : String) (context : Json.Value) : Except Error String :=
  match context with
  | .object members =>
      match library.lookup name with
      | none => .error (.template (.rendering name))
      | some parts =>
          match renderAll members parts with
          | .ok text => .ok text
          | .error _ => .error (.template (.rendering name))
  | _ => .error (.template .contextNotObject)

end ApiCompiler.Template

/-!
Text templates: fixed text, printed variables, choices and loops. A variable is a path of names into
the data.
-/

set_option autoImplicit false

namespace ApiCompiler.Template

inductive Filter
  | plain
  /-- Escapes the characters that have a meaning in HTML. -/
  | escape
  | join (separator : String)
  deriving Repr

/-- A variable that does not exist counts as false. -/
inductive Condition
  | holds (path : List String)
  | fails (path : List String)
  | equals (path : List String) (text : String)
  deriving Repr

inductive Part
  /-- Lines of fixed text, joined by line breaks. -/
  | text (lines : List String)
  | print (path : List String) (filter : Filter)
  | choose (condition : Condition) (body otherwise : List Part)
  | each (name : String) (path : List String) (body : List Part)
  deriving Repr

def Part.value (path : List String) : Part := .print path .plain

def Part.when (condition : Condition) (body : List Part) : Part := .choose condition body []

end ApiCompiler.Template

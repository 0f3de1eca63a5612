import ApiCompiler.Kind

/-!
JSON schemas, as far as the document uses them.
-/

set_option autoImplicit false

namespace ApiCompiler

structure Schema where
  reference : Option String := none
  allOf : List Schema := []
  type : Option String := none
  format : Option String := none
  description : Option String := none
  items : Option Schema := none
  /-- In the order in which they were declared. -/
  properties : Option (List (String × Schema)) := none
  required : List String := []
  deriving Repr, Inhabited

namespace Schema

/-- The name of the error envelope's component. -/
def errorResponseName : String := "ErrorResponse"

def referenceTo (name : String) : String := "#/components/schemas/" ++ name

def component (name : String) : Schema := { reference := some (referenceTo name) }

def primitive (kind : Kind) : Schema :=
  { type := some kind.schemaType.1, format := kind.schemaType.2 }

def array (items : Schema) : Schema := { type := some "array", items := some items }

def object : Schema := { type := some "object", properties := some [] }

/-- Attaches a description. What stands beside a reference is ignored, so a reference is wrapped. -/
def withDescription (schema : Schema) : Option String → Schema
  | none => schema
  | some text =>
      if schema.reference.isSome then { allOf := [schema], description := some text }
      else { schema with description := some text }

/-- Puts a property at its place; one of the same name is replaced where it stands. -/
def putProperty (name : String) (schema : Schema) :
    List (String × Schema) → List (String × Schema)
  | [] => [(name, schema)]
  | (other, old) :: rest =>
      if other = name then (name, schema) :: rest else (other, old) :: putProperty name schema rest

def withProperty (object : Schema) (name : String) (schema : Schema) (required : Bool) : Schema :=
  { object with
    properties := some (putProperty name schema (object.properties.getD []))
    required := if required then object.required ++ [name] else object.required }

/-- The body of every error answer: an error with a code and a message. -/
def errorResponse : Schema :=
  let detail := (object.withProperty "code" (primitive .string) true).withProperty "message"
    (primitive .string) true
  (object.withProperty "error" detail true).withDescription
    (some "Error envelope returned by every failing request")

end Schema

end ApiCompiler

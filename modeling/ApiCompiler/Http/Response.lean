import ApiCompiler.Json.Printer
import ApiCompiler.Manifest.Basic

/-!
Responses, with the headers that tell the type of their bodies and the methods of their routes.
-/

set_option autoImplicit false

namespace ApiCompiler.Http

open Json (Value)

structure Response where
  status : Nat
  contentType : Option String
  allow : Option String
  body : String
  deriving DecidableEq, Repr, Inhabited

namespace Response

def empty (status : Nat) : Response := ⟨status, none, none, ""⟩

def json (status : Nat) (value : Value) : Response :=
  ⟨status, some "application/json", none, value.compact⟩

def plainText (status : Nat) (text : String) : Response :=
  ⟨status, some "text/plain; charset=utf-8", none, text⟩

def error (status : Nat) (code message : String) : Response :=
  json status (.object [("error", .object [("code", .string code), ("message", .string message)])])

def noContent : Response := empty 204

def ok (value : Value) : Response := json 200 value

/-- A list is never written as null. -/
def okList : Option (List Value) → Response
  | some items => ok (.array items)
  | none => ok (.array [])

def notFound : Response := empty 404

def methodNotAllowed (methods : List Method) : Response :=
  ⟨405, none, some (",".intercalate (methods.map Method.name)), ""⟩

/-- What is answered to one who asks for the head only. -/
def withoutBody (response : Response) : Response := { response with body := "" }

end Response

end ApiCompiler.Http

import ApiCompiler.Binding.Value
import ApiCompiler.Http.Response
import ApiCompiler.Json.Fault

/-!
Requests that cannot be bound.
-/

set_option autoImplicit false

namespace ApiCompiler

/-- One field of a request, and where its value is read. -/
structure Slot where
  location : Location
  tag : String
  field : String
  deriving DecidableEq, Repr, Inhabited

def Slot.describe (slot : Slot) : String :=
  slot.location.name ++ " parameter " ++ Text.stringLiteral slot.tag
    ++ " (field " ++ slot.field ++ ")"

inductive BindFault
  | missing (slot : Slot)
  | invalid (slot : Slot) (fault : ParseFault)
  | malformedBody (fault : Json.Fault)
  deriving DecidableEq, Repr

namespace BindFault

def code : BindFault → String
  | missing _ => "missing_parameter"
  | invalid .. => "invalid_parameter"
  | malformedBody _ => "malformed_body"

def message : BindFault → String
  | missing slot => "missing " ++ slot.describe
  | invalid slot fault => "invalid " ++ slot.describe ++ ": " ++ fault.message
  | malformedBody fault => "malformed JSON body: " ++ fault.message

def respond (fault : BindFault) : Http.Response := .error 400 fault.code fault.message

end BindFault

end ApiCompiler

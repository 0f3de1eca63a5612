import ApiCompiler.Binding.Fault
import ApiCompiler.Http.Form
import ApiCompiler.Http.Request
import ApiCompiler.Json.Bytes

/-!
The parts of a request that fields are bound from, and the ways of binding: one value or every
value, which must be there or may be absent.
-/

set_option autoImplicit false

namespace ApiCompiler

structure RequestParts where
  path : List (String × String)
  query : List (String × String)
  headers : List (String × String)
  body : List UInt8
  deriving DecidableEq, Repr, Inhabited

namespace RequestParts

def ofRequest (path : List (String × String)) (request : Http.Request) : RequestParts :=
  ⟨path, Http.Form.pairs (request.target.query.getD ""), request.headers, request.body⟩

def valuesOf (key : String) (pairs : List (String × String)) : List String :=
  (pairs.filter fun pair => pair.1 == key).map Prod.snd

def isNamed (name : String) (header : String × String) : Bool :=
  lowerAscii header.1.toList == lowerAscii name.toList

/-- The value of the first header of a name. A value that cannot be shown counts as absent. -/
def header? (parts : RequestParts) (name : String) : Option String :=
  ((parts.headers.find? (isNamed name)).map Prod.snd).filter Http.isVisible

/-- The values for a slot: every one of a query, and at most one of a path or of a header. -/
def values (parts : RequestParts) (slot : Slot) : List String :=
  match slot.location with
  | .path => (valuesOf slot.tag parts.path).take 1
  | .query => valuesOf slot.tag parts.query
  | .header => (parts.header? slot.tag).toList

def bodyAs {α : Type} (parts : RequestParts) (read : Json.Node → Except Json.Fault α) :
    Except BindFault α :=
  (Json.readBytes read parts.body).mapError .malformedBody

end RequestParts

namespace Slot

variable (slot : Slot) (kind : Kind) (parts : RequestParts)

def parse (text : String) : Except BindFault kind.family.Value :=
  (kind.parse text).mapError (.invalid slot)

def optionalOne : Except BindFault (Option kind.family.Value) :=
  match (parts.values slot).head? with
  | some text => return some (← slot.parse kind text)
  | none => return none

def requiredOne : Except BindFault kind.family.Value :=
  match (parts.values slot).head? with
  | some text => slot.parse kind text
  | none => .error (.missing slot)

/-- Every value, if there is any. -/
def optionalMany : Except BindFault (Option (List kind.family.Value)) :=
  match parts.values slot with
  | [] => return none
  | texts => return some (← texts.mapM (slot.parse kind))

def requiredMany : Except BindFault (List kind.family.Value) := do
  match ← slot.optionalMany kind parts with
  | some values => return values
  | none => .error (.missing slot)

end Slot

end ApiCompiler

import ApiCompiler.Http.Target
import ApiCompiler.Text.Utf8

/-!
Requests. Methods, and the names and values of headers, are made of certain characters only. Headers
keep the order in which they were given; their names are told apart without regard to case. A body
is any bytes.
-/

set_option autoImplicit false

namespace ApiCompiler.Http

def isTokenChar (character : Char) : Bool :=
  character.isAlphanum || "!#$%&'*+-.^_`|~".toList.contains character

/-- Whether a text can be a method or the name of a header. -/
def isToken (text : String) : Bool := !text.isEmpty && text.toList.all isTokenChar

def isControl (character : Char) : Bool := character.toNat < 32 || character.toNat = 127

/-- Whether a text can be the value of a header. -/
def isHeaderValue (text : String) : Bool :=
  text.toList.all fun character => character = '\t' || !isControl character

/-- Whether a text is made of visible ASCII characters, spaces and tabs. -/
def isVisible (text : String) : Bool :=
  text.toList.all fun character =>
    character = '\t' || decide (32 ≤ character.toNat) && decide (character.toNat ≤ 126)

structure Request where
  method : String
  target : Target
  headers : List (String × String)
  body : List UInt8
  deriving DecidableEq, Repr, Inhabited

/-- The part of a request that is not well-formed. -/
inductive RequestFault
  | method
  | target
  | headers
  deriving DecidableEq, Repr

namespace Request

def isHeader (header : String × String) : Bool := isToken header.1 && isHeaderValue header.2

/-- A request from its parts, with a text for its body. -/
def read (method target : String) (headers : List (String × String)) (body : String) :
    Except RequestFault Request :=
  if !isToken method then .error .method
  else
    match Target.read? target with
    | none => .error .target
    | some target =>
        if headers.all isHeader then .ok ⟨method, target, headers, Text.toUtf8 body⟩
        else .error .headers

end Request

end ApiCompiler.Http

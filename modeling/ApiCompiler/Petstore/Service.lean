import ApiCompiler.Petstore.Binders

/-!
The store as a service. What cannot be bound is answered before any handler is asked.
-/

set_option autoImplicit false

namespace ApiCompiler.Petstore

open Http (Request Response)
open Json (Value)

inductive Route
  | health
  | counters
  | pets
  /-- One pet, by the encoded id. -/
  | pet (id : String)
  deriving DecidableEq, Repr

namespace Route

def ofSegments? : List String → Option Route
  | ["", "health"] => some health
  | ["", "counters"] => some counters
  | ["", "pets"] => some pets
  | ["", "pets", id] => if id.isEmpty then none else some (pet id)
  | _ => none

def ofPath? (path : String) : Option Route :=
  ofSegments? ((Text.pieces (· = '/') path.toList).map String.ofList)

def methods : Route → List Method
  | health => [.get, .head]
  | counters => [.get, .head]
  | pets => [.get, .head, .post]
  | pet _ => [.get, .head]

end Route

def answer {α : Type} (bound : Except BindFault α) (handle : α → Response) : Response :=
  match bound with
  | .ok request => handle request
  | .error fault => fault.respond

def respond (result : Except PetFault Value) : Response :=
  match result with
  | .ok value => .ok value
  | .error fault => fault.respond

/-- A parameter of a path that is no text is refused. -/
def withParameter (name encoded : String) (respond : String → Response) : Response :=
  match Text.ofUtf8? (Text.percentDecode (Text.toUtf8 encoded)) with
  | some text => respond text
  | none => .plainText 400 ("Invalid URL: Invalid UTF-8 in `" ++ name ++ "`")

def answerGetPet (encodedId : String) (request : Request) : Response :=
  withParameter "id" encodedId fun id =>
    answer (bindGetPet (.ofRequest [("id", id)] request)) fun bound =>
      respond ((getPet bound).map Pet.toJson)

def bodyLimit : Nat := 2097152

/-- A body that is too long is not read. -/
def withBody (request : Request) (respond : Response) : Response :=
  if bodyLimit < request.body.length then
    .plainText 413 "Failed to buffer the request body: length limit exceeded"
  else respond

def answerCreatePet (request : Request) : Response :=
  withBody request <|
    answer (bindCreatePet (.ofRequest [] request)) fun bound => .ok (createPet bound).toJson

def answerCounters (request : Request) : Response :=
  answer (bindCounters (.ofRequest [] request)) fun bound => .ok bound.toJson

def answerListPets : Response := .okList (listPets.map fun pets => pets.map Pet.toJson)

/-- The answer of a route to a method that it has. -/
def dispatch? (request : Request) : Route → Method → Option Response
  | .health, .get => some .noContent
  | .counters, .get => some (answerCounters request)
  | .pets, .get => some answerListPets
  | .pets, .post => some (answerCreatePet request)
  | .pet id, .get => some (answerGetPet id request)
  | _, _ => none

/-- A route that answers to GET answers to HEAD with the same head. -/
def answerAt (request : Request) (route : Route) : Response :=
  let found := match Method.ofName? request.method with
    | some .head => (dispatch? request route .get).map Response.withoutBody
    | some method => dispatch? request route method
    | none => none
  found.getD (.methodNotAllowed route.methods)

def serve (request : Request) : Response :=
  match Route.ofPath? request.target.path with
  | some route => answerAt request route
  | none => .notFound

end ApiCompiler.Petstore

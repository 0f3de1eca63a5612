import ApiCompiler.Binding.Parts
import ApiCompiler.Json.Member

/-!
A store of pets: what its handlers take, do and give. The store is empty, and every pet that is
asked for is made up, but for a few.
-/

set_option autoImplicit false

namespace ApiCompiler.Petstore

open Json (Value)

structure Pet where
  id : Int
  name : String
  tags : List Int
  verbose : Option Bool
  deriving DecidableEq, Repr, Inhabited

def Pet.toJson (pet : Pet) : Value :=
  .object [("id", .ofInt pet.id), ("name", .string pet.name),
    ("tags", .array (pet.tags.map .ofInt)), ("verbose", .ofOption .bool pet.verbose)]

structure GetPet where
  id : Int
  tags : List Int
  verbose : Option Bool
  deriving DecidableEq, Repr, Inhabited

structure CreatePet where
  name : String
  /-- Not part of the body. -/
  dryRun : Option Bool
  deriving DecidableEq, Repr, Inhabited

structure Counters where
  small : Int
  medium : Int
  large : Int
  ratio : Option BinaryNumber
  label : Option String
  tenant : String
  deriving DecidableEq, Repr, Inhabited

/-- Infinities and what is no number are written as null. -/
def ratioToJson : BinaryNumber → Value
  | .finite negative magnitude => .number (.single (.finite negative magnitude))
  | _ => .null

def Counters.toJson (counters : Counters) : Value :=
  .object [("small", .ofInt counters.small), ("medium", .ofInt counters.medium),
    ("large", .ofInt counters.large), ("ratio", .ofOption ratioToJson counters.ratio),
    ("label", .ofOption .string counters.label), ("tenant", .string counters.tenant)]

inductive PetFault
  | notFound (id : Int)
  | storage
  deriving DecidableEq, Repr

namespace PetFault

def status : PetFault → Nat
  | notFound _ => 404
  | storage => 500

def code : PetFault → String
  | notFound _ => "not_found"
  | storage => "internal_error"

def message : PetFault → String
  | notFound id => "pet " ++ toString id ++ " not found"
  | storage => "storage unavailable"

def respond (fault : PetFault) : Http.Response := .error fault.status fault.code fault.message

end PetFault

/-- There is no list, as there are no pets. -/
def listPets : Option (List Pet) := none

/-- A dry run makes no pet, and gives the id zero. -/
def createPet (request : CreatePet) : Pet :=
  { id := if request.dryRun = some true then 0 else 1
    name := request.name
    tags := []
    verbose := none }

def getPet (request : GetPet) : Except PetFault Pet :=
  if request.id = 0 then .error (.notFound 0)
  else if request.id = 13 then .error .storage
  else .ok ⟨request.id, "Rex", request.tags, request.verbose⟩

end ApiCompiler.Petstore

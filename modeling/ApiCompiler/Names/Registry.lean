/-!
A registry of names in use. A name that is wanted again gets the first free number behind it.
-/

set_option autoImplicit false

namespace ApiCompiler

structure NameRegistry where
  taken : List String
  deriving Inhabited

namespace NameRegistry

def empty : NameRegistry := ⟨[]⟩

def isTaken (registry : NameRegistry) (name : String) : Bool := registry.taken.contains name

/-- Marks a name as used without handing it out. -/
def reserve (registry : NameRegistry) (name : String) : NameRegistry :=
  if registry.isTaken name then registry else ⟨name :: registry.taken⟩

def numbered (base : String) (number : Nat) : String := base ++ toString number

/-- The first free name among as many numbered ones as the budget says. -/
def firstFree (registry : NameRegistry) (base : String) : (budget number : Nat) → String
  | 0, number => numbered base number
  | budget + 1, number =>
      if registry.isTaken (numbered base number) then registry.firstFree base budget (number + 1)
      else numbered base number

/-- The name that a base gets. Among one more numbers than there are names taken, one is free. -/
def freeName (registry : NameRegistry) (base : String) : String :=
  if registry.isTaken base then registry.firstFree base registry.taken.length 2 else base

/-- Hands out a name for a base, and marks it as used. -/
def claim (registry : NameRegistry) (base : String) : String × NameRegistry :=
  let name := registry.freeName base
  (name, registry.reserve name)

def claimAll (registry : NameRegistry) : List String → List String × NameRegistry
  | [] => ([], registry)
  | base :: rest =>
      let (name, registry) := registry.claim base
      let (names, registry) := registry.claimAll rest
      (name :: names, registry)

end NameRegistry

end ApiCompiler

import ApiCompiler.Manifest.Resolve

/-!
The graph of type references. A depth-first search finds a reference that does not resolve, or a
type that refers to itself.
-/

set_option autoImplicit false

namespace ApiCompiler

def TypeRef.references : TypeRef → List String
  | .primitive _ => []
  | .struct _ entry => entry.fields.map (·.typeId)
  | .slice elem => [elem]

namespace Manifest

/-- Searches from one type-id. The path holds the ids on the way from the start, and `done` those
whose references are all in order. A path longer than the depth repeats an id. -/
def visit (manifest : Manifest) :
    (depth : Nat) → (path : List String) → (done : List String) → (typeId : String) →
      Except ManifestFault (List String)
  | depth, path, done, typeId =>
      if done.contains typeId then .ok done
      else if path.contains typeId then .error (.cycle (path ++ [typeId]))
      else
        match depth with
        | 0 => .error (.cycle (path ++ [typeId]))
        | depth + 1 => do
            let target ← manifest.resolve typeId
            let done ← target.references.foldlM (manifest.visit depth (path ++ [typeId])) done
            return typeId :: done

/-- Searches from one start, with the ids already found to be in order. -/
def search (manifest : Manifest) (done : List String) (start : String) :
    Except ManifestFault (List String) :=
  manifest.visit (manifest.reachBound start + 1) [] done start

def searchAll (manifest : Manifest) (starts : List String) : Except ManifestFault Unit := do
  let _ ← starts.foldlM manifest.search []
  return ()

end Manifest

end ApiCompiler

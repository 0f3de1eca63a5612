import ApiCompiler.Manifest.Basic

/-!
The canonical order of endpoints: by path, method, handler package and handler name, each compared
by code points. It keeps the endpoints of a path together.
-/

set_option autoImplicit false

namespace ApiCompiler

/-- Compares two endpoints by their place in the canonical order. -/
def Endpoint.order (left right : Endpoint) : Ordering :=
  (compare left.path right.path).then <|
    (compare left.method.name right.method.name).then <|
      (compare left.handler.package right.handler.package).then <|
        compare left.handler.name right.handler.name

/-- Endpoints in canonical order; those that tie stay as listed. -/
def Manifest.canonicalEndpoints (manifest : Manifest) : List Endpoint :=
  manifest.endpoints.mergeSort fun left right => (left.order right).isLE

def indexed (endpoints : List Endpoint) : List (Nat × Endpoint) :=
  endpoints.zipIdx.map fun entry => (entry.2, entry.1)

/-- Consecutive endpoints of one path, with their positions. -/
structure PathGroup where
  path : String
  members : List (Nat × Endpoint)

/-- Groups consecutive endpoints that share a path. -/
def groupByPath : List (Nat × Endpoint) → List PathGroup
  | [] => []
  | (index, endpoint) :: rest =>
      match groupByPath rest with
      | [] => [⟨endpoint.path, [(index, endpoint)]⟩]
      | group :: groups =>
          if group.path = endpoint.path then
            ⟨group.path, (index, endpoint) :: group.members⟩ :: groups
          else ⟨endpoint.path, [(index, endpoint)]⟩ :: group :: groups

end ApiCompiler

import ApiCompiler.Text.Casing

/-!
Qualified names: segments separated by `::`, `/` or `.`, of which empty ones do not count.
-/

set_option autoImplicit false

namespace ApiCompiler.Text

/-- The runs of characters between separators. -/
def qualifiedPieces : List Char → List (List Char)
  | [] => [[]]
  | ':' :: ':' :: rest => [] :: qualifiedPieces rest
  | character :: rest =>
      if character = '/' ∨ character = '.' then [] :: qualifiedPieces rest
      else
        match qualifiedPieces rest with
        | [] => [[character]]
        | piece :: others => (character :: piece) :: others

def qualifiedSegments (name : String) : List String :=
  ((qualifiedPieces name.toList).filter fun piece => !piece.isEmpty).map String.ofList

/-- The last segment; a name made of separators only is its own last segment. -/
def lastSegment (name : String) : String := (qualifiedSegments name).getLast?.getD name

end ApiCompiler.Text

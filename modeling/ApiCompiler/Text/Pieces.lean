/-!
Text cut at some of its characters.
-/

set_option autoImplicit false

namespace ApiCompiler.Text

/-- The runs of characters between those that satisfy a test. -/
def pieces (isBreak : Char → Bool) : List Char → List (List Char)
  | [] => [[]]
  | character :: rest =>
      if isBreak character then [] :: pieces isBreak rest
      else
        match pieces isBreak rest with
        | [] => [[character]]
        | piece :: others => (character :: piece) :: others

end ApiCompiler.Text

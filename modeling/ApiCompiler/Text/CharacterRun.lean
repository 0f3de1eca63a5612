/-!
Sets of code points, and maps between code points, as lists of runs.
-/

set_option autoImplicit false

namespace ApiCompiler.Text

/-- The code points `first`, `first + step`, … up to `last`. -/
structure Run where
  first : Nat
  last : Nat
  step : Nat

def Run.contains (run : Run) (code : Nat) : Bool :=
  decide (run.first ≤ code) && decide (code ≤ run.last) && (code - run.first) % run.step == 0

def inRuns (runs : List Run) (code : Nat) : Bool := runs.any fun run => run.contains code

/-- The code points of a run, moved so that the first one goes to `image`. -/
structure Shift where
  run : Run
  image : Nat

def Shift.apply (shift : Shift) (code : Nat) : Nat := code - shift.run.first + shift.image

def applyShifts (shifts : List Shift) (code : Nat) : Option Nat :=
  (shifts.find? fun shift => shift.run.contains code).map fun shift => shift.apply code

end ApiCompiler.Text

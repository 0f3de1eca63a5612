import ApiCompiler.Text.Pieces

/-!
Paths of files, as text with slashes. Empty pieces and dots between slashes mean nothing.
-/

set_option autoImplicit false

namespace ApiCompiler.Path

/-- The parts of a path between slashes. -/
def pieces (path : String) : List String :=
  (Text.pieces (· = '/') path.toList).map String.ofList

def isRooted (path : String) : Bool := path.toList.head? = some '/'

/-- A path below another one, unless it is rooted itself. -/
def join (base path : String) : String :=
  if isRooted path then path
  else if base.isEmpty || base.toList.getLast? = some '/' then base ++ path
  else base ++ "/" ++ path

def isVoid (piece : String) : Bool := piece = "" || piece = "."

/-- The most bytes that a name can have. -/
def nameLimit : Nat := 255

def isLong (piece : String) : Bool := decide (nameLimit < piece.utf8ByteSize)

def holdsNul (piece : String) : Bool := piece.toList.contains '\x00'

/-- Whether a file can have a name. -/
def isStorable (name : String) : Bool := !holdsNul name && !isLong name

/-- The pieces without those at the end that mean nothing; the first one stays. -/
def trimmed (pieces : List String) : List String :=
  match pieces with
  | [] => []
  | first :: rest => first :: (rest.reverse.dropWhile isVoid).reverse

def ofPieces (pieces : List String) : String :=
  if pieces = [""] then "/" else "/".intercalate pieces

/-- The path of the directory that a path lies in, if it names anything. -/
def parent? (path : String) : Option String :=
  match trimmed (pieces path) with
  | [] => none
  | [only] => if only.isEmpty then none else some ""
  | several => some (ofPieces (trimmed several.dropLast))

/-- The last name of a path, unless it goes upward there. -/
def fileName? (path : String) : Option String :=
  ((pieces path).filter fun piece => !isVoid piece).getLast?.filter (· ≠ "..")

/-- What stands behind the last dot of the last name, if anything stands before the dot. -/
def extension? (path : String) : Option String := do
  let name ← fileName? path
  let reversed := name.toList.reverse
  match reversed.dropWhile (· ≠ '.') with
  | '.' :: _ :: _ => some (String.ofList (reversed.takeWhile (· ≠ '.')).reverse)
  | _ => none

end ApiCompiler.Path

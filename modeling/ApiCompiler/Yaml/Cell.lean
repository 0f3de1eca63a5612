/-!
YAML text as characters with their places. A carriage return, or one with a line feed, counts as a
line feed.
-/

set_option autoImplicit false

namespace ApiCompiler.Yaml

structure Cell where
  char : Char
  line : Nat
  column : Nat
  deriving DecidableEq, Repr

def byteOrderMark : Char := Char.ofNat 0xFEFF

def nextLine : Char := Char.ofNat 0x85

def lineSeparator : Char := Char.ofNat 0x2028

def paragraphSeparator : Char := Char.ofNat 0x2029

def isAllowed (character : Char) : Bool :=
  let code := character.toNat
  character = '\t' || character = '\n' || character = '\r' || character = nextLine
    || decide (0x20 ≤ code) && decide (code ≤ 0x7E)
    || decide (0xA0 ≤ code) && decide (code ≤ 0xFFFD)
    || decide (0x10000 ≤ code)

/-- Writes line breaks as line feeds. The two separators stay what they are. -/
def unifyBreaks : List Char → List Char
  | '\r' :: '\n' :: rest => '\n' :: unifyBreaks rest
  | character :: rest =>
      (if character = '\r' ∨ character = nextLine then '\n' else character) :: unifyBreaks rest
  | [] => []

def isBreak (character : Char) : Bool :=
  character = '\n' || character = lineSeparator || character = paragraphSeparator

def isBlank (character : Char) : Bool := character = ' ' || character = '\t'

def placeFrom : (line column : Nat) → List Char → List Cell
  | _, _, [] => []
  | line, column, character :: rest =>
      ⟨character, line, column⟩ ::
        (if isBreak character then placeFrom (line + 1) 0 rest
        else placeFrom line (column + 1) rest)

/-- A byte order mark at the very start is no part of a text. -/
def dropMark : List Char → List Char
  | character :: rest => if character = byteOrderMark then rest else character :: rest
  | [] => []

def cellsOf? (text : String) : Option (List Cell) :=
  let characters := dropMark text.toList
  if characters.all isAllowed then some (placeFrom 0 0 (unifyBreaks characters)) else none

namespace Cell

def isBreak (cell : Cell) : Bool := Yaml.isBreak cell.char

def isBlank (cell : Cell) : Bool := Yaml.isBlank cell.char

end Cell

def textOf (cells : List Cell) : String := String.ofList (cells.map (·.char))

/-- Whether a blank, a line break or the end comes next. -/
def endsWord : List Cell → Bool
  | [] => true
  | cell :: _ => cell.isBlank || cell.isBreak

def startsWith (character : Char) : List Cell → Bool
  | [] => false
  | cell :: _ => cell.char = character

/-- Whether three of a character come next at the start of a line, as a word. -/
def isMarker (character : Char) : List Cell → Bool
  | first :: second :: third :: rest =>
      first.column == 0 && first.char = character && second.char = character
        && third.char = character && endsWord rest
  | _ => false

/-- Whether the start or the end of a document comes next. -/
def isDocumentMarker (cells : List Cell) : Bool := isMarker '-' cells || isMarker '.' cells

end ApiCompiler.Yaml

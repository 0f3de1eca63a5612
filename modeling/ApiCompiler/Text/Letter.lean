import ApiCompiler.Text.CaseTable
import ApiCompiler.Text.LetterTable
import ApiCompiler.Text.PrintTable

/-!
Letters, their classes and their case maps, and white space at the ends of a text. ASCII is decided
directly, other characters by table.
-/

set_option autoImplicit false

namespace ApiCompiler.Text

def isAscii (character : Char) : Bool := character.toNat < 128

def isUppercase (character : Char) : Bool :=
  if isAscii character then character.isUpper else inRuns uppercaseRuns character.toNat

def isLowercase (character : Char) : Bool :=
  if isAscii character then character.isLower else inRuns lowercaseRuns character.toNat

/-- Letters, marks that count as letters, and numbers. -/
def isAlphanumeric (character : Char) : Bool :=
  if isAscii character then character.isAlphanum else inRuns alphanumericRuns character.toNat

/-- The image of a character under a case map, which may be several characters. -/
def caseImage (shifts : List Shift) (sequences : List (Nat × List Nat)) (character : Char) :
    List Char :=
  match sequences.lookup character.toNat with
  | some codes => codes.map Char.ofNat
  | none =>
      match applyShifts shifts character.toNat with
      | some code => [Char.ofNat code]
      | none => [character]

def lowercase (character : Char) : List Char :=
  if isAscii character then [character.toLower]
  else caseImage lowerShifts lowerSequences character

def uppercase (character : Char) : List Char :=
  if isAscii character then [character.toUpper]
  else caseImage upperShifts upperSequences character

def isSpace (character : Char) : Bool :=
  if isAscii character then
    decide (9 ≤ character.toNat) && decide (character.toNat ≤ 13) || character = ' '
  else inRuns spaceRuns character.toNat

def trimStart (text : List Char) : List Char := text.dropWhile isSpace

def trimEnd (text : List Char) : List Char := (text.reverse.dropWhile isSpace).reverse

def trim (text : List Char) : List Char := trimEnd (trimStart text)

end ApiCompiler.Text

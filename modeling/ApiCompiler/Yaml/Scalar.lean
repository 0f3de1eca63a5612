import ApiCompiler.Text.Radix
import ApiCompiler.Yaml.Cell

/-!
The texts of scalars: plain, in quotes, and as blocks. Texts under construction are held last
character first.
-/

set_option autoImplicit false

namespace ApiCompiler.Yaml

/-- Blanks and line breaks inside a scalar, until it is known what follows them. -/
inductive Gap
  | none
  | blanks (characters : List Char)
  /-- The first line break, unless it was escaped, and those behind it. -/
  | breaks (first : Option Char) (others : List Char)
  deriving DecidableEq, Repr

namespace Gap

def isBroken : Gap → Bool
  | breaks .. => true
  | _ => false

def addBlank (character : Char) : Gap → Gap
  | none => blanks [character]
  | blanks characters => blanks (character :: characters)
  | breaks first others => breaks first others

def addBreak (character : Char) : Gap → Gap
  | breaks first others => breaks first (character :: others)
  | _ => breaks (some character) []

/-- Puts a gap behind a text. One line feed becomes a space, and before others it is left out. -/
def fill (text : List Char) : Gap → List Char
  | none => text
  | blanks characters => characters ++ text
  | breaks first others =>
      if first = some '\n' then if others.isEmpty then ' ' :: text else others ++ text
      else others ++ (first.toList ++ text)

end Gap

/-! ### Plain scalars -/

def isFlowIndicator (character : Char) : Bool :=
  character = ',' || character = '[' || character = ']' || character = '{' || character = '}'

/-- A colon that would be a key's in one reading and part of the text in another. -/
def isDoubtfulColon : List Cell → Bool
  | first :: second :: _ =>
      first.char = ':' && (isFlowIndicator second.char || second.char = '?')
  | _ => false

def endsPlain (inFlow : Bool) (cells : List Cell) : Bool :=
  match cells with
  | [] => true
  | cell :: rest =>
      cell.char = ':' && endsWord rest || inFlow && isFlowIndicator cell.char

/-- Whether a plain scalar does not go on behind a gap. -/
def stopsAtGap (inFlow : Bool) (indent : Nat) (cells : List Cell) : Bool :=
  match cells with
  | [] => true
  | cell :: _ =>
      !inFlow && decide (cell.column < indent) || isDocumentMarker cells || cell.char = '#'

/-- A scalar's text, whether lines broke behind it, and what follows. -/
structure PlainText where
  text : List Char
  broken : Bool
  rest : List Cell

def plainText (inFlow : Bool) (indent : Nat) : List Char → Gap → List Cell → Option PlainText
  | text, gap, [] => some ⟨text, gap.isBroken, []⟩
  | text, gap, cell :: rest =>
      if cell.isBreak then plainText inFlow indent text (gap.addBreak cell.char) rest
      else if cell.isBlank then
        if gap.isBroken && decide (cell.column < indent) && cell.char = '\t' then none
        else plainText inFlow indent text (gap.addBlank cell.char) rest
      else if gap ≠ .none ∧ stopsAtGap inFlow indent (cell :: rest) then
        some ⟨text, gap.isBroken, cell :: rest⟩
      else if inFlow && isDoubtfulColon (cell :: rest) then none
      else if endsPlain inFlow (cell :: rest) then some ⟨text, gap.isBroken, cell :: rest⟩
      else plainText inFlow indent (cell.char :: gap.fill text) .none rest

/-! ### Scalars in quotes -/

def singleQuotedText : List Char → Gap → List Cell → Option (List Char × List Cell)
  | _, _, [] => none
  | text, gap, cell :: rest =>
      if cell.isBreak then singleQuotedText text (gap.addBreak cell.char) rest
      else if cell.isBlank then singleQuotedText text (gap.addBlank cell.char) rest
      else if isDocumentMarker (cell :: rest) then none
      else if cell.char = '\'' then
        match rest with
        | [] => some (gap.fill text, [])
        | next :: behind =>
            if next.char = '\'' then singleQuotedText ('\'' :: gap.fill text) .none behind
            else some (gap.fill text, next :: behind)
      else singleQuotedText (cell.char :: gap.fill text) .none rest

inductive Escape
  | char (character : Char)
  | digits (count : Nat)
  deriving DecidableEq, Repr

def escapeOf? : Char → Option Escape
  | '0' => some (.char (Char.ofNat 0))
  | 'a' => some (.char (Char.ofNat 7))
  | 'b' => some (.char (Char.ofNat 8))
  | 't' => some (.char '\t')
  | '\t' => some (.char '\t')
  | 'n' => some (.char '\n')
  | 'v' => some (.char (Char.ofNat 11))
  | 'f' => some (.char (Char.ofNat 12))
  | 'r' => some (.char '\r')
  | 'e' => some (.char (Char.ofNat 27))
  | ' ' => some (.char ' ')
  | '"' => some (.char '"')
  | '/' => some (.char '/')
  | '\\' => some (.char '\\')
  | 'N' => some (.char nextLine)
  | '_' => some (.char (Char.ofNat 0xA0))
  | 'L' => some (.char lineSeparator)
  | 'P' => some (.char paragraphSeparator)
  | 'x' => some (.digits 2)
  | 'u' => some (.digits 4)
  | 'U' => some (.digits 8)
  | _ => none

/-- A character that is written with digits, of which some are still to come. -/
structure CodeDigits where
  missing : Nat
  value : Nat

def doubleQuotedText :
    Option CodeDigits → List Char → Gap → List Cell → Option (List Char × List Cell)
  | _, _, _, [] => none
  | some digits, text, gap, cell :: rest =>
      match Text.hexValue? cell.char with
      | none => none
      | some digit =>
          let value := digits.value * 16 + digit
          if 1 < digits.missing then
            doubleQuotedText (some ⟨digits.missing - 1, value⟩) text gap rest
          else if value.isValidChar then
            doubleQuotedText none (Char.ofNat value :: text) gap rest
          else none
  | none, text, gap, cell :: rest =>
      if cell.isBreak then doubleQuotedText none text (gap.addBreak cell.char) rest
      else if cell.isBlank then doubleQuotedText none text (gap.addBlank cell.char) rest
      else if isDocumentMarker (cell :: rest) then none
      else if cell.char = '"' then some (gap.fill text, rest)
      else if cell.char = '\\' then
        match rest with
        | [] => none
        | next :: behind =>
            if next.isBreak then doubleQuotedText none (gap.fill text) (.breaks none []) behind
            else
              match escapeOf? next.char with
              | none => none
              | some (.char character) =>
                  doubleQuotedText none (character :: gap.fill text) .none behind
              | some (.digits count) =>
                  doubleQuotedText (some ⟨count, 0⟩) (gap.fill text) .none behind
      else doubleQuotedText none (cell.char :: gap.fill text) .none rest

/-! ### Blocks -/

/-- Which line breaks at the end of a block belong to it. -/
inductive Chomping
  | strip
  | clip
  | keep
  deriving DecidableEq, Repr

structure BlockHeader where
  chomping : Chomping
  /-- The indentation relative to the block around it, if it is given. -/
  indent : Option Nat
  deriving DecidableEq, Repr

def chomping? : Char → Option Chomping
  | '+' => some .keep
  | '-' => some .strip
  | _ => none

def indentDigit? (character : Char) : Option Nat :=
  if character.isDigit ∧ character ≠ '0' then some (character.toNat - '0'.toNat) else none

/-- Blanks, perhaps a comment, and a line break or the end. -/
def restOfLine? (cells : List Cell) : Option (List Cell) :=
  let behind := cells.dropWhile Cell.isBlank
  let behind :=
    if startsWith '#' behind then behind.dropWhile fun cell => !cell.isBreak else behind
  match behind with
  | [] => some []
  | cell :: rest => if cell.isBreak then some rest else none

/-- The signs behind the indicator of a block, in any order. -/
def blockHeader? (cells : List Cell) : Option (BlockHeader × List Cell) := do
  let chompingFirst := (cells.head?.bind fun cell => chomping? cell.char)
  let behindChomping := if chompingFirst.isSome then cells.drop 1 else cells
  let digit := behindChomping.head?.filter fun cell => cell.char.isDigit
  let indent ← match digit with
    | some cell => (indentDigit? cell.char).map some
    | none => some none
  let behindIndent := if digit.isSome then behindChomping.drop 1 else behindChomping
  let chompingLast :=
    if chompingFirst.isNone && digit.isSome then
      behindIndent.head?.bind fun cell => chomping? cell.char
    else none
  let behind := if chompingLast.isSome then behindIndent.drop 1 else behindIndent
  let rest ← restOfLine? behind
  return (⟨(chompingFirst.or chompingLast).getD .clip, indent⟩, rest)

structure BlockText where
  text : List Char := []
  /-- The break behind the last line with text. -/
  lastBreak : Option Char := none
  /-- Whether that line began with a blank. -/
  startedBlank : Bool := false
  /-- The breaks of the empty lines behind it. -/
  emptyLines : List Char := []
  deriving Repr

namespace BlockText

/-- Starts a line with text. In a folded block the break between two lines that start with no
blank becomes a space, or is left out before empty lines. -/
def startLine (folded startsBlank : Bool) (block : BlockText) : BlockText :=
  let text :=
    if folded && block.lastBreak = some '\n' && !block.startedBlank && !startsBlank then
      if block.emptyLines.isEmpty then ' ' :: block.text else block.text
    else block.lastBreak.toList ++ block.text
  { text := block.emptyLines ++ text, startedBlank := startsBlank }

def chomp (block : BlockText) : Chomping → List Char
  | .strip => block.text
  | .clip => block.lastBreak.toList ++ block.text
  | .keep => block.emptyLines ++ (block.lastBreak.toList ++ block.text)

end BlockText

structure BlockPlace where
  indent : Option Nat
  /-- The greatest indentation of an empty line. -/
  widest : Nat
  inLine : Bool

def BlockPlace.isIndentation (place : BlockPlace) (cell : Cell) : Bool :=
  match place.indent with
  | none => true
  | some indent => decide (cell.column < indent)

/-- Reads the lines of a block whose indentation is at least a number. -/
def blockText (folded : Bool) (least : Nat) :
    BlockPlace → BlockText → List Cell → Option (BlockText × List Cell)
  | _, block, [] => some (block, [])
  | place, block, cell :: rest =>
      if place.inLine then
        if cell.isBreak then
          blockText folded least { place with inLine := false }
            { block with lastBreak := some cell.char } rest
        else blockText folded least place { block with text := cell.char :: block.text } rest
      else if place.isIndentation cell && cell.char = ' ' then
        let widest := max place.widest (cell.column + 1)
        blockText folded least { place with widest } block rest
      else if place.isIndentation cell && cell.char = '\t' then none
      else if cell.isBreak then
        blockText folded least place { block with emptyLines := cell.char :: block.emptyLines } rest
      else
        let indent := place.indent.getD (max place.widest least)
        if cell.column = indent then
          let started := block.startLine folded cell.isBlank
          blockText folded least ⟨some indent, place.widest, true⟩
            { started with text := cell.char :: started.text } rest
        else some (block, cell :: rest)

/-- The text of a block behind its indicator, inside a block with an indentation of one less than
`outer`. -/
def blockScalar? (folded : Bool) (outer : Nat) (cells : List Cell) :
    Option (List Char × List Cell) := do
  let (header, rest) ← blockHeader? cells
  let indent := header.indent.map fun given => outer - 1 + given
  let (block, behind) ← blockText folded (max outer 1) ⟨indent, 0, false⟩ {} rest
  return (block.chomp header.chomping, behind)

end ApiCompiler.Yaml

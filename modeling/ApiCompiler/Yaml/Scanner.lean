import ApiCompiler.Yaml.Property

/-!
From text to tokens. Indentation opens and closes blocks. A key is recognized only by the colon
behind it, so its token, and that of the block it opens, are put in afterwards.
-/

set_option autoImplicit false

namespace ApiCompiler.Yaml

/-- A place at which a key may turn out to begin. -/
structure KeyPlace where
  /-- How many tokens come before it. -/
  position : Nat
  line : Nat
  column : Nat
  /-- Nothing but a key may stand there. -/
  required : Bool
  deriving DecidableEq, Repr

structure Scanner where
  /-- The tokens so far, last first. -/
  tokens : List Token := []
  /-- The columns of the blocks around, innermost first. -/
  indents : List Nat := []
  place : Option KeyPlace := none
  /-- The same for the flow collections around, innermost first. -/
  outerPlaces : List (Option KeyPlace) := []
  keyAllowed : Bool := true

def keyLength : Nat := 1024

namespace Scanner

def inFlow (scanner : Scanner) : Bool := !scanner.outerPlaces.isEmpty

def count (scanner : Scanner) : Nat := scanner.tokens.length

def emit (token : Token) (scanner : Scanner) : Scanner :=
  { scanner with tokens := token :: scanner.tokens }

/-- Puts a token behind as many as a position says. -/
def emitAt (position : Nat) (token : Token) (scanner : Scanner) : Scanner :=
  { scanner with tokens := scanner.tokens.insertIdx (scanner.count - position) token }

/-- The column from which on text belongs to the innermost block. -/
def contentColumn (scanner : Scanner) : Nat :=
  match scanner.indents with
  | [] => 0
  | indent :: _ => indent + 1

/-! ### Blocks -/

/-- Opens a block at a column, unless one is open there. -/
def openBlock (column position : Nat) (token : Token) (scanner : Scanner) : Scanner :=
  if scanner.inFlow || decide (column < scanner.contentColumn) then scanner
  else { scanner with indents := column :: scanner.indents }.emitAt position token

def closeBlocksFrom (column : Nat) : List Nat → List Token → List Nat × List Token
  | [], tokens => ([], tokens)
  | indent :: indents, tokens =>
      if column < indent then closeBlocksFrom column indents (.blockEnd :: tokens)
      else (indent :: indents, tokens)

/-- Closes the blocks that are indented more than a column. -/
def closeBlocks (column : Nat) (scanner : Scanner) : Scanner :=
  if scanner.inFlow then scanner
  else
    let (indents, tokens) := closeBlocksFrom column scanner.indents scanner.tokens
    { scanner with indents, tokens }

def closeAllBlocks (scanner : Scanner) : Scanner :=
  if scanner.inFlow then scanner
  else
    { scanner with
      indents := []
      tokens := scanner.indents.map (fun _ => Token.blockEnd) ++ scanner.tokens }

/-! ### Keys -/

def isStale (line column : Nat) (place : KeyPlace) : Bool :=
  decide (place.line < line) || decide (place.column + keyLength < column)

/-- Forgets a place that lies too far back. -/
def freshPlace (line column : Nat) (place : Option KeyPlace) : Option (Option KeyPlace) :=
  match place with
  | none => some none
  | some found =>
      if isStale line column found then if found.required then none else some none
      else some (some found)

def dropStale (line column : Nat) (scanner : Scanner) : Option Scanner := do
  let place ← freshPlace line column scanner.place
  let outerPlaces ← scanner.outerPlaces.mapM (freshPlace line column)
  return { scanner with place, outerPlaces }

/-- Gives up the key that may have begun. -/
def dropPlace (scanner : Scanner) : Option Scanner :=
  if scanner.place.any (·.required) then none else some { scanner with place := none }

/-- A key may begin at a cell. -/
def savePlace (cell : Cell) (scanner : Scanner) : Option Scanner :=
  if scanner.keyAllowed then do
    let required := !scanner.inFlow && scanner.indents.head? == some cell.column
    let dropped ← scanner.dropPlace
    return { dropped with place := some ⟨scanner.count, cell.line, cell.column, required⟩ }
  else some scanner

def allowKey (allowed : Bool) (scanner : Scanner) : Scanner :=
  { scanner with keyAllowed := allowed }

/-! ### Tokens -/

/-- A scanner behind a token, and what it has not read. -/
abbrev Outcome := Option (Scanner × List Cell)

def documentMarker (token : Token) (rest : List Cell) (scanner : Scanner) : Outcome := do
  let scanner ← scanner.closeAllBlocks.dropPlace
  return ((scanner.allowKey false).emit token, rest)

def directive (rest : List Cell) (scanner : Scanner) : Outcome := do
  let scanner ← scanner.closeAllBlocks.dropPlace
  let (found, rest) ← directive? rest
  return ((scanner.allowKey false).emit (.directive found), rest)

def openFlow (token : Token) (cell : Cell) (rest : List Cell) (scanner : Scanner) : Outcome := do
  let scanner ← scanner.savePlace cell
  let inner := { scanner with
    place := none
    outerPlaces := scanner.place :: scanner.outerPlaces }
  return ((inner.allowKey true).emit token, rest)

/-- The place that was noted before the flow collection. -/
def leaveFlow (scanner : Scanner) : Scanner :=
  match scanner.outerPlaces with
  | [] => scanner
  | place :: outerPlaces => { scanner with place, outerPlaces }

def closeFlow (token : Token) (rest : List Cell) (scanner : Scanner) : Outcome := do
  let scanner ← scanner.dropPlace
  return ((scanner.leaveFlow.allowKey false).emit token, rest)

def flowEntry (rest : List Cell) (scanner : Scanner) : Outcome := do
  let scanner ← scanner.dropPlace
  return ((scanner.allowKey true).emit .flowEntry, rest)

/-- Opens a block for an indicator, where a block may begin. -/
def openFor (token : Token) (cell : Cell) (scanner : Scanner) : Option Scanner :=
  if scanner.inFlow then some scanner
  else if scanner.keyAllowed then some (scanner.openBlock cell.column scanner.count token)
  else none

def blockEntry (cell : Cell) (rest : List Cell) (scanner : Scanner) : Outcome := do
  let scanner ← scanner.openFor .blockSequenceStart cell
  let scanner ← scanner.dropPlace
  return ((scanner.allowKey true).emit .blockEntry, rest)

def key (cell : Cell) (rest : List Cell) (scanner : Scanner) : Outcome := do
  let scanner ← scanner.openFor .blockMappingStart cell
  let scanner ← scanner.dropPlace
  return ((scanner.allowKey !scanner.inFlow).emit .key, rest)

/-- A colon makes a key of what may have been one. -/
def value (cell : Cell) (rest : List Cell) (scanner : Scanner) : Outcome :=
  match scanner.place with
  | some place =>
      let keyed := scanner.emitAt place.position .key
      let opened := keyed.openBlock place.column place.position .blockMappingStart
      some (({ opened with place := none }.allowKey false).emit .value, rest)
  | none => do
      let scanner ← scanner.openFor .blockMappingStart cell
      return ((scanner.allowKey !scanner.inFlow).emit .value, rest)

def content (cell : Cell) (token : Token) (rest : List Cell) (scanner : Scanner) : Outcome := do
  let scanner ← scanner.savePlace cell
  return ((scanner.allowKey false).emit token, rest)

def textToken (style : ScalarStyle) (text : List Char) : Token :=
  .scalar style (String.ofList text.reverse)

def block (style : ScalarStyle) (rest : List Cell) (scanner : Scanner) : Outcome := do
  let dropped ← scanner.dropPlace
  let (text, rest) ← blockScalar? (style == .folded) scanner.contentColumn rest
  return ((dropped.allowKey true).emit (textToken style text), rest)

def quoted (cell : Cell) (rest : List Cell) (scanner : Scanner) : Outcome := do
  if cell.char = '"' then
    let (text, rest) ← doubleQuotedText none [] .none rest
    scanner.content cell (textToken .doubleQuoted text) rest
  else
    let (text, rest) ← singleQuotedText [] .none rest
    scanner.content cell (textToken .singleQuoted text) rest

def plain (cell : Cell) (rest : List Cell) (scanner : Scanner) : Outcome := do
  let found ← plainText scanner.inFlow scanner.contentColumn [] .none (cell :: rest)
  let (scanner, rest) ← scanner.content cell (textToken .plain found.text) found.rest
  return (scanner.allowKey found.broken, rest)

def isIndicator (character : Char) : Bool :=
  "-?:,[]\x7b\x7d#&*!|>'\"%@\x60".toList.contains character

def startsPlain (inFlow : Bool) (cell : Cell) (rest : List Cell) : Bool :=
  !(cell.isBlank || isIndicator cell.char)
    || cell.char = '-' && !(rest.head?.any Cell.isBlank)
    || !inFlow && (cell.char = '?' || cell.char = ':') && !endsWord rest

def token (cell : Cell) (rest : List Cell) (scanner : Scanner) : Outcome :=
  let here := cell :: rest
  let separate := endsWord rest
  if cell.column = 0 ∧ cell.char = '%' then scanner.directive rest
  else if isMarker '-' here then scanner.documentMarker .documentStart (rest.drop 2)
  else if isMarker '.' here then scanner.documentMarker .documentEnd (rest.drop 2)
  else
    match cell.char with
    | '[' => scanner.openFlow .flowSequenceStart cell rest
    | '{' => scanner.openFlow .flowMappingStart cell rest
    | ']' => scanner.closeFlow .flowSequenceEnd rest
    | '}' => scanner.closeFlow .flowMappingEnd rest
    | ',' => scanner.flowEntry rest
    | '*' => do
        let (name, rest) ← nodeName? rest
        scanner.content cell (.reference name) rest
    | '&' => do
        let (name, rest) ← nodeName? rest
        scanner.content cell (.anchor name) rest
    | '!' => do
        let ((handle, ending), rest) ← tag? scanner.inFlow rest
        scanner.content cell (.tag handle ending) rest
    | '\'' => scanner.quoted cell rest
    | '"' => scanner.quoted cell rest
    | character =>
        if character = '-' ∧ separate then scanner.blockEntry cell rest
        else if character = '?' ∧ (scanner.inFlow ∨ separate) then scanner.key cell rest
        else if character = ':' ∧ (scanner.inFlow ∨ separate) then scanner.value cell rest
        else if character = '|' ∧ !scanner.inFlow then scanner.block .literal rest
        else if character = '>' ∧ !scanner.inFlow then scanner.block .folded rest
        else if startsPlain scanner.inFlow cell rest then scanner.plain cell rest
        else none

/-- A byte order mark may begin a line. -/
def isLineMark (cell : Cell) : Bool := cell.column == 0 && cell.char = byteOrderMark

/-- Passes over blanks, line breaks and comments. Where a key may begin, a tab is no blank, and
outside of flow collections one may begin on every new line. -/
def skipBlanks (inFlow : Bool) : (inComment keyAllowed : Bool) → List Cell → Bool × List Cell
  | _, keyAllowed, [] => (keyAllowed, [])
  | inComment, keyAllowed, cell :: rest =>
      if cell.isBreak then skipBlanks inFlow false (keyAllowed || !inFlow) rest
      else if inComment || cell.char = '#' then skipBlanks inFlow true keyAllowed rest
      else if isLineMark cell || cell.char = ' ' || cell.char = '\t' && (inFlow || !keyAllowed)
      then
        skipBlanks inFlow false keyAllowed rest
      else (keyAllowed, cell :: rest)

def finish (scanner : Scanner) : Option (List Token) := do
  let scanner ← scanner.closeAllBlocks.dropPlace
  return scanner.tokens.reverse

/-- Reads tokens up to the end; each is made of one character at least. -/
def scanFrom : (characters : Nat) → List Cell → Scanner → Option (List Token)
  | 0, _, _ => none
  | characters + 1, cells, scanner =>
      match skipBlanks scanner.inFlow false scanner.keyAllowed cells with
      | (_, []) => scanner.finish
      | (keyAllowed, cell :: rest) => do
          let scanner ← (scanner.allowKey keyAllowed).dropStale cell.line cell.column
          let (scanner, rest) ← (scanner.closeBlocks cell.column).token cell rest
          scanFrom characters rest scanner

end Scanner

/-- The tokens of a text, if it is well-formed so far. -/
def tokens? (text : String) : Option (List Token) := do
  let cells ← cellsOf? text
  Scanner.scanFrom (cells.length + 1) cells {}

end ApiCompiler.Yaml

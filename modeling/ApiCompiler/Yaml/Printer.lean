import ApiCompiler.Number.Parse
import ApiCompiler.Yaml.Format

/-!
Texts as YAML scalars. A text that a reader could take for something else is put in quotes, one of
several lines becomes a literal block, and what cannot be written so is escaped between double
quotes. Lines that follow the first are indented by two spaces.
-/

set_option autoImplicit false

namespace ApiCompiler.Yaml

/-! ### Texts that look like something else -/

/-- The spellings of flags, also old ones. -/
def isFlagWord (text : String) : Bool :=
  ["y", "yes", "n", "no", "true", "false", "on", "off"].any fun word =>
    text = word || text = word.capitalize || text = word.toUpper

def numberBits : Nat := 128

/-- Behind a minus the mark of a radix may stand too. -/
def isNegative (text : List Char) : Bool :=
  match text with
  | '-' :: '0' :: 'x' :: digits => (digitsValue? 16 digits).any (· ≤ Nat.pow 2 (numberBits - 1))
  | '-' :: '0' :: 'o' :: digits => (digitsValue? 8 digits).any (· ≤ Nat.pow 2 (numberBits - 1))
  | '-' :: '0' :: 'b' :: digits => (digitsValue? 2 digits).any (· ≤ Nat.pow 2 (numberBits - 1))
  | '-' :: digits => !isZeroPadded digits && (digitsValue? 10 digits).isSome
  | _ => false

def isInteger (text : String) : Bool :=
  (natural? text).any (· < Nat.pow 2 numberBits) || isNegative text.toList

def unsignedText (text : List Char) : List Char :=
  match text with
  | '+' :: rest => rest
  | characters => characters

def isFinite : BinaryNumber → Bool
  | .finite .. => true
  | _ => false

def isSpecialReal (text : String) : Bool :=
  [".inf", ".Inf", ".INF"].contains (String.ofList (unsignedText text.toList))
    || ["-.inf", "-.Inf", "-.INF", ".nan", ".NaN", ".NAN"].contains text

def isReal (text : String) : Bool :=
  let unsigned := unsignedText text.toList
  if unsigned.length < text.length && unsigned.head?.any fun sign => sign = '+' || sign = '-' then
    false
  else
    isSpecialReal text ||
      match BinaryNumber.parse .double (String.ofList unsigned) with
      | .ok number => isFinite number
      | .error _ => false

def isSigned (character : Char) : Bool := character = '-' || character = '+'

/-- Digits behind a needless zero, perhaps with a sign. -/
def isPadded (text : List Char) : Bool :=
  match text with
  | first :: rest => if isSigned first then isZeroPadded rest else isZeroPadded (first :: rest)
  | [] => false

/-- Whether a plain scalar would not be read as a text. -/
def looksOther (text : String) : Bool :=
  text.isEmpty || isNull text || isFlagWord text || isInteger text || isPadded text.toList
    || isReal text

/-! ### Which forms a text can have -/

def isPrintable (character : Char) : Bool :=
  let code := character.toNat
  character = '\n' || decide (0x20 ≤ code) && decide (code ≤ 0x7E)
    || decide (0xA0 ≤ code) && character ≠ byteOrderMark && code ≠ 0xFFFE && code ≠ 0xFFFF

/-- The characters that end a line in some reading. -/
def isAnyBreak (character : Char) : Bool :=
  isBreak character || character = '\r' || character = nextLine

def isSeparator (character : Char) : Bool := isBlank character || isAnyBreak character

def separates : List Char → Bool
  | [] => true
  | character :: _ => isSeparator character || character.toNat = 0

def startsIndicated (text : List Char) : Bool :=
  match text with
  | [] => false
  | '-' :: '-' :: '-' :: _ => true
  | '.' :: '.' :: '.' :: _ => true
  | first :: rest =>
      "#,[]\x7b\x7d&*!|>'\"%@\x60".toList.contains first
        || (first = '?' || first = ':' || first = '-') && separates rest

/-- Whether a colon or a number sign inside of a text would end it. -/
def isInterrupted : (afterSeparator : Bool) → List Char → Bool
  | _, [] => false
  | afterSeparator, character :: rest =>
      character = ':' && separates rest || character = '#' && afterSeparator
        || isInterrupted (separates (character :: rest)) rest

/-- Whether two characters of some kinds stand next to each other. -/
def hasPair (isFirst isSecond : Char → Bool) : List Char → Bool
  | first :: second :: rest =>
      isFirst first && isSecond second || hasPair isFirst isSecond (second :: rest)
  | _ => false

def isSpaceChar (character : Char) : Bool := character = ' '

/-- Whether every character can be written as it is, with no space before a line break. -/
def isVerbatim (text : List Char) : Bool :=
  text.all isPrintable && !hasPair isSpaceChar isAnyBreak text

def edgesAre (kind : Char → Bool) (text : List Char) : Bool :=
  text.head?.any kind || text.getLast?.any kind

def canBePlain (text : List Char) : Bool :=
  isVerbatim text && !text.any isAnyBreak && !edgesAre isSpaceChar text && !startsIndicated text
    && !isInterrupted true text

def canBeSingleQuoted (text : List Char) : Bool :=
  isVerbatim text && !hasPair isAnyBreak isSpaceChar text

def canBeBlock (text : List Char) : Bool :=
  isVerbatim text && !text.isEmpty && !(text.getLast?.any isSpaceChar)

/-! ### The forms -/

def indentation : List Char := [' ', ' ']

/-- Indents the lines behind the first that have any text. -/
def indentLines : (atStart : Bool) → List Char → List Char
  | _, [] => []
  | atStart, character :: rest =>
      if isAnyBreak character then character :: indentLines true rest
      else (if atStart then indentation else []) ++ character :: indentLines false rest

def doubleApostrophe (character : Char) : List Char :=
  if character = '\'' then ['\'', '\''] else [character]

def singleQuoted (text : List Char) : List Char :=
  let ending := if text.getLast?.any isAnyBreak then indentation else []
  ['\''] ++ indentLines false (text.flatMap doubleApostrophe) ++ ending ++ ['\'']

def codeEscape (code : Nat) : List Char :=
  if code ≤ 0xFF then 'x' :: Text.upperHex 2 code
  else if code ≤ 0xFFFF then 'u' :: Text.upperHex 4 code
  else 'U' :: Text.upperHex 8 code

def escapeName (character : Char) : List Char :=
  match character.toNat with
  | 0x00 => ['0']
  | 0x07 => ['a']
  | 0x08 => ['b']
  | 0x09 => ['t']
  | 0x0A => ['n']
  | 0x0B => ['v']
  | 0x0C => ['f']
  | 0x0D => ['r']
  | 0x1B => ['e']
  | 0x22 => ['"']
  | 0x5C => ['\\']
  | 0x85 => ['N']
  | 0xA0 => ['_']
  | 0x2028 => ['L']
  | 0x2029 => ['P']
  | code => codeEscape code

def needsEscape (character : Char) : Bool :=
  !isPrintable character || isAnyBreak character || character = '"' || character = '\\'

def doubleQuoted (text : List Char) : List Char :=
  ['"'] ++ text.flatMap (fun character =>
    if needsEscape character then '\\' :: escapeName character else [character]) ++ ['"']

/-- How the line breaks at the end of a block are kept. -/
def chompingSign (text : List Char) : List Char :=
  match text.reverse with
  | [] => ['-']
  | [last] => if isAnyBreak last then ['+'] else ['-']
  | last :: before :: _ =>
      if !isAnyBreak last then ['-'] else if isAnyBreak before then ['+'] else []

/-- A block whose indentation is stated where its first line does not show it. -/
def literalBlock (text : List Char) : List Char :=
  let isHidden := text.head?.any fun first => isSpaceChar first || isAnyBreak first
  ['|'] ++ (if isHidden then ['2'] else []) ++ chompingSign text ++ ['\n'] ++ indentLines true text

def quotedScalar (text : List Char) : List Char :=
  if canBeSingleQuoted text then singleQuoted text else doubleQuoted text

def scalar (text : String) : String :=
  let characters := text.toList
  String.ofList (
    if text.contains '\n' then
      if canBeBlock characters then literalBlock characters
      else doubleQuoted characters
    else if looksOther text || !canBePlain characters then quotedScalar characters
    else characters)

def endLine (text : String) : String :=
  if text.toList.getLast?.any isAnyBreak then text else text ++ "\n"

def flagText (flag : Bool) : String := if flag then "true" else "false"

def memberLines (key value : String) : String := endLine (key ++ ": " ++ value)

/-- A list is not indented more than its key. -/
def listLines (key : String) : List String → String
  | [] => memberLines key "[]"
  | items => key ++ ":\n" ++ String.join (items.map fun item => endLine ("- " ++ scalar item))

end ApiCompiler.Yaml

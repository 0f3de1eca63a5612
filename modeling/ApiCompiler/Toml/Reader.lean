import ApiCompiler.Number.Parse
import ApiCompiler.Text.Radix
import ApiCompiler.Toml.Table

/-!
From text to statements. Every reader returns what it has not read.
-/

set_option autoImplicit false

namespace ApiCompiler.Toml

abbrev Reader (α : Type) := StateT (List Char) Option α

namespace Reader

def fail {α : Type} : Reader α := fun _ => none

def peek : Reader (Option Char) := return (← get).head?

def accept (text : String) : Reader Bool := fun rest =>
  if text.toList.isPrefixOf rest then some (true, rest.drop text.length) else some (false, rest)

def expect (text : String) : Reader Unit := do
  if !(← accept text) then fail

def takeWhile (condition : Char → Bool) : Reader (List Char) := fun rest =>
  some (rest.takeWhile condition, rest.dropWhile condition)

def attempt {α : Type} (reader : Reader α) : Reader (Option α) := fun rest =>
  match reader rest with
  | some (found, behind) => some (some found, behind)
  | none => some (none, rest)

def ofOption {α : Type} : Option α → Reader α
  | some found => return found
  | none => fail

/-! ### Blanks and comments -/

def isBlank (character : Char) : Bool := character = ' ' || character = '\t'

/-- The characters that stand for themselves in comments and texts, apart from delimiters. -/
def isText (character : Char) : Bool :=
  character = '\t' || decide (0x20 ≤ character.toNat) && character.toNat != 0x7F

def blanks : Reader Unit := do let _ ← takeWhile isBlank

def newline : Reader Bool := do
  if ← accept "\n" then return true else accept "\r\n"

def comment : Reader Unit := do
  if ← accept "#" then let _ ← takeWhile isText

def endOfLine : Reader Unit := do
  blanks
  comment
  if (← peek).isSome then if !(← newline) then fail

def spaces : (characters : Nat) → Reader Unit
  | 0 => return
  | characters + 1 => do
      blanks
      if (← peek) = some '#' then
        comment
        if !(← newline) then fail
        spaces characters
      else if ← newline then spaces characters

def remaining : Reader Nat := return (← get).length

def allSpaces : Reader Unit := do spaces ((← remaining) + 1)

/-! ### Texts -/

def codePoint (digits : Nat) : Reader Char := fun rest => do
  let code ← Text.numeral? 16 (rest.take digits)
  if digits ≤ rest.length ∧ code.isValidChar then some (Char.ofNat code, rest.drop digits) else none

def escape : Reader Char := do
  match ← peek with
  | none => fail
  | some character =>
      modify (·.drop 1)
      match character with
      | 'b' => return Char.ofNat 8
      | 't' => return '\t'
      | 'n' => return '\n'
      | 'f' => return Char.ofNat 12
      | 'r' => return '\r'
      | '"' => return '"'
      | '\\' => return '\\'
      | 'u' => codePoint 4
      | 'U' => codePoint 8
      | _ => fail

/-- A text up to a closing quotation mark, on one line. -/
def basicText : (characters : Nat) → Reader (List Char)
  | 0 => fail
  | characters + 1 => do
      let front ← takeWhile fun character => isText character && character ≠ '"' && character ≠ '\\'
      if ← accept "\"" then return front
      else
        expect "\\"
        let character ← escape
        return front ++ character :: (← basicText characters)

def emptyLines : (characters : Nat) → Reader Unit
  | 0 => return
  | characters + 1 => do
      blanks
      if ← newline then emptyLines characters

def lineEnd : Reader Unit := do
  blanks
  if !(← newline) then fail

/-- A backslash at the end of a line takes away the break and the blanks behind it. -/
def continued : Reader Bool := do
  match ← attempt lineEnd with
  | none => return false
  | some () => do
      emptyLines ((← remaining) + 1)
      return true

/-- Quotation marks at the end belong to the text up to two. -/
def closingQuotes (quote : Char) : Reader (Option (List Char)) := fun rest =>
  let count := (rest.takeWhile (· = quote)).length
  if count < 3 then some (none, rest)
  else if 5 < count then none
  else some (some (List.replicate (count - 3) quote), rest.drop count)

def isInside (quote character : Char) : Bool :=
  isText character && character ≠ quote && character ≠ '\\'

/-- A text of several lines up to three quotation marks. -/
def longBasicText : (characters : Nat) → Reader (List Char)
  | 0 => fail
  | characters + 1 => do
      let front ← takeWhile (isInside '"')
      match ← closingQuotes '"' with
      | some quotes => return front ++ quotes
      | none =>
          if ← newline then return front ++ '\n' :: (← longBasicText characters)
          else if ← accept "\\" then
            if ← continued then return front ++ (← longBasicText characters)
            else
              let character ← escape
              return front ++ character :: (← longBasicText characters)
          else
            expect "\""
            return front ++ '"' :: (← longBasicText characters)

def literalText : Reader (List Char) := do
  let text ← takeWhile fun character => isText character && character ≠ '\''
  expect "'"
  return text

def longLiteralText : (characters : Nat) → Reader (List Char)
  | 0 => fail
  | characters + 1 => do
      let front ← takeWhile fun character => isText character && character ≠ '\''
      match ← closingQuotes '\'' with
      | some quotes => return front ++ quotes
      | none =>
          if ← newline then return front ++ '\n' :: (← longLiteralText characters)
          else
            expect "'"
            return front ++ '\'' :: (← longLiteralText characters)

/-- A text in quotes, or none. A line break behind three quotation marks does not count. -/
def quoted? (long : Bool) : Reader (Option String) := do
  let bound := (← remaining) + 1
  if long && (← accept "\"\"\"") then
    let _ ← newline
    return some (String.ofList (← longBasicText bound))
  else if long && (← accept "'''") then
    let _ ← newline
    return some (String.ofList (← longLiteralText bound))
  else if ← accept "\"" then return some (String.ofList (← basicText bound))
  else if ← accept "'" then return some (String.ofList (← literalText))
  else return none

/-! ### Keys -/

def isKeyChar (character : Char) : Bool :=
  character.isAlphanum || character = '-' || character = '_'

def keyPart : Reader String := do
  blanks
  match ← quoted? false with
  | some text => do
      blanks
      return text
  | none => do
      let bare ← takeWhile isKeyChar
      blanks
      if bare.isEmpty then fail else return String.ofList bare

def keyParts : (characters : Nat) → Reader (List String)
  | 0 => fail
  | characters + 1 => do
      let part ← keyPart
      if ← accept "." then return part :: (← keyParts characters) else return [part]

/-- How deep keys, lists and tables in braces may be nested, and one. -/
def depthLimit : Nat := 80

/-- The parts of a key before the last one, and that. -/
def key : Reader (List String × String) := do
  let parts ← keyParts ((← remaining) + 1)
  match parts.getLast? with
  | some last => if parts.length < depthLimit then return (parts.dropLast, last) else fail
  | none => fail

/-! ### Numbers and moments -/

/-- Digits, with single underscores between them. -/
def digitsWith (isDigit : Char → Bool) : List Char → Option (List Char)
  | [] => none
  | [digit] => if isDigit digit then some [digit] else none
  | digit :: '_' :: rest =>
      if isDigit digit then (digitsWith isDigit rest).map (digit :: ·) else none
  | digit :: rest =>
      if isDigit digit then (digitsWith isDigit rest).map (digit :: ·) else none

def integerBits : Nat := 63

/-- A decimal number without needless zeros. -/
def decimal? (text : List Char) : Option (List Char) :=
  match text with
  | '0' :: _ :: _ => none
  | digits => digitsWith Char.isDigit digits

def integer? (text : List Char) : Option Int :=
  let below := fun (limit : Nat) (value : Nat) => if value < limit then some value else none
  let ofRadix := fun (radix : Nat) (digits : List Char) => do
    let digits ← digitsWith (fun digit => (Text.digitOf? radix digit).isSome) digits
    let value ← Text.numeral? radix digits
    (below (Nat.pow 2 integerBits) value).map Int.ofNat
  match text with
  | '0' :: 'x' :: digits => ofRadix 16 digits
  | '0' :: 'o' :: digits => ofRadix 8 digits
  | '0' :: 'b' :: digits => ofRadix 2 digits
  | '-' :: digits => do
      let value ← Text.numeral? 10 (← decimal? digits)
      (below (Nat.pow 2 integerBits + 1) value).map fun value => -Int.ofNat value
  | '+' :: digits => do
      let value ← Text.numeral? 10 (← decimal? digits)
      (below (Nat.pow 2 integerBits) value).map Int.ofNat
  | digits => do
      let value ← Text.numeral? 10 (← decimal? digits)
      (below (Nat.pow 2 integerBits) value).map Int.ofNat

def unsigned (text : List Char) : List Char :=
  match text with
  | '+' :: rest => rest
  | '-' :: rest => rest
  | characters => characters

def isExponentMark (character : Char) : Bool := character = 'e' || character = 'E'

/-- Whether a text is a number with a fraction, an exponent, or both, or is not finite. -/
def isReal (text : List Char) : Bool :=
  let digits := unsigned text
  if digits = "inf".toList ∨ digits = "nan".toList then true
  else
    let front := digits.takeWhile fun character => !isExponentMark character
    let behind := digits.dropWhile fun character => !isExponentMark character
    let whole := front.takeWhile (· ≠ '.')
    let fraction := front.dropWhile (· ≠ '.')
    (decimal? whole).isSome && (digits.contains '.' || !behind.isEmpty)
      && (fraction.isEmpty || (digitsWith Char.isDigit (fraction.drop 1)).isSome)
      && (behind.isEmpty || (digitsWith Char.isDigit (unsigned (behind.drop 1))).isSome)

/-- A number is not too great to be told from infinity; a negative one may be. -/
def isInRange (text : List Char) : Bool :=
  match BinaryNumber.parse .double (String.ofList (text.filter (· ≠ '_'))) with
  | .ok (.finite ..) => true
  | .ok _ => text.head? = some '-' || (unsigned text).head?.any Char.isAlpha
  | .error _ => false

def fixedDigits (count : Nat) : Reader Nat := fun rest =>
  let digits := rest.take count
  if digits.length = count ∧ digits.all Char.isDigit then
    some (digitsToNat digits, rest.drop count)
  else none

def isLeapYear (year : Nat) : Bool := year % 4 == 0 && (year % 100 != 0 || year % 400 == 0)

def daysIn (year month : Nat) : Nat :=
  if month = 2 then if isLeapYear year then 29 else 28
  else if [4, 6, 9, 11].contains month then 30
  else 31

def date : Reader Unit := do
  let year ← fixedDigits 4
  expect "-"
  let month ← fixedDigits 2
  expect "-"
  let day ← fixedDigits 2
  if !(1 ≤ month ∧ month ≤ 12 ∧ 1 ≤ day ∧ day ≤ daysIn year month) then fail

def clock : Reader Unit := do
  let hour ← fixedDigits 2
  expect ":"
  let minute ← fixedDigits 2
  expect ":"
  let second ← fixedDigits 2
  if !(hour ≤ 23 ∧ minute ≤ 59 ∧ second ≤ 60) then fail
  if ← accept "." then
    let fraction ← takeWhile Char.isDigit
    if fraction.isEmpty then fail

def offset : Reader Unit := do
  if (← accept "Z") || (← accept "z") then return
  else if (← accept "+") || (← accept "-") then
    let hour ← fixedDigits 2
    expect ":"
    let minute ← fixedDigits 2
    if !(hour ≤ 23 ∧ minute ≤ 59) then fail

def dayClock : Reader Unit := do
  if !((← accept "T") || (← accept "t") || (← accept " ")) then fail
  clock
  offset

def moment : Reader Unit := do
  match ← attempt date with
  | some () => do let _ ← attempt dayClock
  | none => clock

def isNumberChar (character : Char) : Bool :=
  character.isAlphanum || character = '+' || character = '-' || character = '.' || character = '_'

def number : Reader Value := do
  let text ← takeWhile isNumberChar
  match integer? text with
  | some value => return .integer value
  | none => if isReal text && isInRange text then return .real (String.ofList text) else fail

def momentOrNumber : Reader Value := fun rest =>
  match moment rest with
  | some ((), behind) =>
      some (.moment (String.ofList (rest.take (rest.length - behind.length))), behind)
  | none => number rest

/-! ### Values -/

mutual

/-- A value; the depth says how many lists and tables may still be opened. -/
def value : (steps depth : Nat) → Reader Value
  | 0, _ => fail
  | steps + 1, depth => do
      match ← quoted? true with
      | some text => return .string text
      | none =>
          if ← accept "[" then
            match depth with
            | 0 => fail
            | depth + 1 => return .list (← items steps depth)
          else if ← accept "\x7b" then
            match depth with
            | 0 => fail
            | depth + 1 => inlineMembers steps depth
          else if ← accept "true" then return .bool true
          else if ← accept "false" then return .bool false
          else momentOrNumber

/-- The items of a list behind its opening bracket. -/
def items : (steps depth : Nat) → Reader (List Value)
  | 0, _ => fail
  | steps + 1, depth => do
      allSpaces
      if ← accept "]" then return []
      else
        let item ← value steps depth
        allSpaces
        if ← accept "," then return item :: (← items steps depth)
        else
          expect "]"
          return [item]

/-- The members of a table behind its opening brace. -/
def inlineMembers : (steps depth : Nat) → Reader Value
  | 0, _ => fail
  | steps + 1, depth => do
      blanks
      if ← accept "\x7d" then return .table .inline []
      else ofOption (inlineTable (← members steps depth))

def members : (steps depth : Nat) → Reader (List (List String × String × Value))
  | 0, _ => fail
  | steps + 1, depth => do
      let (path, name) ← key
      expect "="
      blanks
      let given ← value steps depth
      blanks
      if ← accept "," then return (path, name, given) :: (← members steps depth)
      else
        expect "\x7d"
        return [(path, name, given)]

end

/-! ### Statements -/

def assignment : Reader Statement := do
  let (path, name) ← key
  expect "="
  blanks
  let given ← value (2 * (← remaining) + 2) (depthLimit - 1)
  endOfLine
  return .assign path name given

def heading : Reader Statement := do
  if ← accept "[[" then
    let (path, name) ← key
    expect "]]"
    endOfLine
    return .listHeader path name
  else
    expect "["
    let (path, name) ← key
    expect "]"
    endOfLine
    return .header path name

/-- The statements up to the end; each takes a character at least. -/
def statements : (characters : Nat) → Reader (List Statement)
  | 0 => fail
  | characters + 1 => do
      blanks
      match ← peek with
      | none => return []
      | some '[' => return (← heading) :: (← statements characters)
      | some '#' => do
          endOfLine
          statements characters
      | some '\n' => do
          endOfLine
          statements characters
      | some '\r' => do
          endOfLine
          statements characters
      | some _ => return (← assignment) :: (← statements characters)

end Reader

def byteOrderMark : Char := Char.ofNat 0xFEFF

def document? (text : String) : Option Members := do
  let characters := match text.toList with
    | first :: rest => if first = byteOrderMark then rest else first :: rest
    | [] => []
  let (statements, _) ← (Reader.statements (characters.length + 1)).run characters
  ofStatements statements

end ApiCompiler.Toml

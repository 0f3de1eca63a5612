import ApiCompiler.Text.Percent
import ApiCompiler.Yaml.Node
import ApiCompiler.Yaml.Scalar

/-!
Names of nodes, tags, and directives. A tag is a handle, which a directive gives a meaning, and an
ending in the characters of a URI.
-/

set_option autoImplicit false

namespace ApiCompiler.Yaml

/-- The characters of anchors and handles. -/
def isWordChar (character : Char) : Bool :=
  character.isAlphanum || character = '_' || character = '-'

def takeWord (cells : List Cell) : String × List Cell :=
  (textOf (cells.takeWhile fun cell => isWordChar cell.char),
    cells.dropWhile fun cell => isWordChar cell.char)

def endsName (cells : List Cell) : Bool :=
  endsWord cells || "?:,]\x7d%@\x60".toList.any fun character => startsWith character cells

def nodeName? (cells : List Cell) : Option (String × List Cell) :=
  let (name, rest) := takeWord cells
  if name.isEmpty || !endsName rest then none else some (name, rest)

/-! ### Tags -/

def isTagChar (verbatim : Bool) (character : Char) : Bool :=
  isWordChar character || ";/?:@&=+$.!~*'()".toList.contains character
    || verbatim && ",[]".toList.contains character

/-- Reads the characters of a tag as bytes, with percent signs for any byte. -/
def tagBytes (verbatim : Bool) : List Cell → Option (List UInt8 × List Cell)
  | [] => some ([], [])
  | cell :: rest =>
      if cell.char = '%' then
        match rest with
        | high :: low :: behind => do
            let high ← Text.hexValue? high.char
            let low ← Text.hexValue? low.char
            let (bytes, rest) ← tagBytes verbatim behind
            return (UInt8.ofNat (high * 16 + low) :: bytes, rest)
        | _ => none
      else if isTagChar verbatim cell.char then do
        let (bytes, rest) ← tagBytes verbatim rest
        return (UInt8.ofNat cell.char.toNat :: bytes, rest)
      else some ([], cell :: rest)

/-- The characters of a tag; percent signs spell UTF-8. -/
def tagText? (verbatim : Bool) (cells : List Cell) : Option (String × List Cell) := do
  let (bytes, rest) ← tagBytes verbatim cells
  let text ← Text.ofUtf8? bytes
  return (text, rest)

/-- A handle behind its first sign: a word between two signs, or less. -/
def takeHandle (cells : List Cell) : String × Bool × List Cell :=
  let (word, rest) := takeWord cells
  if startsWith '!' rest then ("!" ++ word ++ "!", true, rest.drop 1)
  else ("!" ++ word, false, rest)

def endsTag (inFlow : Bool) (cells : List Cell) : Bool :=
  endsWord cells || inFlow && startsWith ',' cells

/-- A handle and an ending behind the first sign. A tag in angle brackets has no handle. -/
def tagParts? (cells : List Cell) : Option ((String × String) × List Cell) := do
  if startsWith '<' cells then
    let (text, rest) ← tagText? true (cells.drop 1)
    if text.isEmpty || !startsWith '>' rest then none else return (("", text), rest.drop 1)
  else
    let (handle, closed, rest) := takeHandle cells
    let (text, behind) ← tagText? false rest
    if closed then
      if text.isEmpty then none else return ((handle, text), behind)
    else
      let ending := String.ofList (handle.toList.drop 1) ++ text
      return (if ending.isEmpty then ("", "!") else ("!", ending), behind)

def tag? (inFlow : Bool) (cells : List Cell) : Option ((String × String) × List Cell) := do
  let (parts, rest) ← tagParts? cells
  if endsTag inFlow rest then return (parts, rest) else none

/-! ### Directives -/

def dropBlanks (cells : List Cell) : List Cell := cells.dropWhile Cell.isBlank

def versionDigits : Nat := 9

def versionNumber? (cells : List Cell) : Option (Nat × List Cell) :=
  let digits := cells.takeWhile fun cell => cell.char.isDigit
  if digits.isEmpty || decide (versionDigits < digits.length) then none
  else
    some (digits.foldl (fun sum cell => sum * 10 + (cell.char.toNat - '0'.toNat)) 0,
      cells.dropWhile fun cell => cell.char.isDigit)

def versionDirective? (cells : List Cell) : Option (Directive × List Cell) := do
  let (major, rest) ← versionNumber? (dropBlanks cells)
  if !startsWith '.' rest then none
  else
    let (minor, rest) ← versionNumber? (rest.drop 1)
    return (.version major minor, rest)

def tagDirective? (cells : List Cell) : Option (Directive × List Cell) := do
  let start := dropBlanks cells
  if !startsWith '!' start then none
  else
    let (handle, closed, rest) := takeHandle (start.drop 1)
    if !closed && handle ≠ "!" then none
    else if !(rest.head?.any Cell.isBlank) then none
    else
      let (meaning, rest) ← tagText? true (dropBlanks rest)
      if meaning.isEmpty || !endsWord rest then none else return (.tag handle meaning, rest)

def directive? (cells : List Cell) : Option (Directive × List Cell) := do
  let (name, rest) := takeWord cells
  let (directive, rest) ←
    if !endsWord rest then none
    else if name = "YAML" then versionDirective? rest
    else if name = "TAG" then tagDirective? rest
    else none
  let rest ← restOfLine? rest
  return (directive, rest)

end ApiCompiler.Yaml

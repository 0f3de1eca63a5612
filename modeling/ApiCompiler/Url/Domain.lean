import ApiCompiler.Text.Letter
import ApiCompiler.Text.Literal
import ApiCompiler.Text.Percent
import ApiCompiler.Text.Pieces
import ApiCompiler.Url.Punycode

/-!
Domain names: labels between dots, in any script. Characters that are written wide or small count
as the plain ones, and letters without regard to case. Other characters that stand for plain ones
are not mapped, marks are not joined with their letters, and the rule about labels that are written
from right to left is left out; names in which these matter may be judged otherwise by resolvers.
-/

set_option autoImplicit false

namespace ApiCompiler.Domain

/-- ASCII characters that no domain name has. -/
def isForbidden (character : Char) : Bool :=
  character.toNat ≤ 32 || character.toNat = 127 || "%#/:<>?@[\\]^|".toList.contains character

def isIdeographicStop (code : Nat) : Bool := code = 0x3002 || code = 0xFF61

def isFullwidth (code : Nat) : Bool := decide (0xFF01 ≤ code) && decide (code ≤ 0xFF5E)

/-- Soft hyphens, joiners of words, and variation selectors. -/
def isIgnored (code : Nat) : Bool :=
  code = 0xAD || code = 0x34F || code = 0x200B || code = 0x2060 || code = 0xFEFF
    || (decide (0x180B ≤ code) && decide (code ≤ 0x180F))
    || (decide (0xFE00 ≤ code) && decide (code ≤ 0xFE0F))

def isJoiner (code : Nat) : Bool := code = 0x200C || code = 0x200D

/-- The characters that count in place of one. -/
def fold (character : Char) : List Char :=
  let code := character.toNat
  if code < 0x80 then [character.toLower]
  else if isIgnored code then []
  else if isIdeographicStop code then ['.']
  else if isFullwidth code then [(Char.ofNat (code - 0xFEE0)).toLower]
  else Text.lowercase character

def isAllowed (character : Char) : Bool :=
  if Text.isAscii character then !isForbidden character
  else isJoiner character.toNat || Text.isPrintable character && !Text.isSpace character

/-- A joiner stands behind a mark. -/
def areJoinersPlaced : (behindMark : Bool) → List Char → Bool
  | _, [] => true
  | behindMark, character :: rest =>
      (behindMark || !isJoiner character.toNat)
        && areJoinersPlaced (Text.isCombining character) rest

def labels (text : List Char) : List (List Char) := Text.pieces (· = '.') text

/-- A label of characters that a name may have, not beginning with a mark. -/
def isWellFormed (label : List Char) : Bool :=
  label.all isAllowed && areJoinersPlaced false label && !(label.head?.any Text.isCombining)

/-- What an encoded label stands for must be worth encoding, and be folded already. -/
def isWellEncoded (encoded : List Char) : Bool :=
  match Punycode.decode encoded with
  | none => false
  | some label =>
      isWellFormed label && label.any (fun character => !Text.isAscii character)
        && label.flatMap fold == label

def isLabel (label : List Char) : Bool :=
  match label with
  | 'x' :: 'n' :: '-' :: '-' :: encoded => encoded.all isAllowed && isWellEncoded encoded
  | _ => isWellFormed label

/-- The folded name that percent-encoded text stands for. -/
def ofEncoded? (text : String) : Option (List Char) := do
  let decoded ← Text.ofUtf8? (Text.percentDecode (Text.toUtf8 text))
  let name := decoded.toList.flatMap fold
  if (labels name).all isLabel then some name else none

end ApiCompiler.Domain

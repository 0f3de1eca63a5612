/-!
UTF-8. Bytes that belong to no character are kept as gaps: as many bytes as could begin a character
make one gap.
-/

set_option autoImplicit false

namespace ApiCompiler.Text

/-- A character of several bytes of which some are still to come. -/
structure PartialChar where
  bits : Nat
  missing : Nat
  /-- The least and the greatest byte that may come next. -/
  least : Nat
  greatest : Nat
  deriving DecidableEq, Repr

/-- What a reader has found, and what it is in the middle of. -/
abbrev Utf8Step := List (Option Char) × Option PartialChar

def leadByte (byte : Nat) : Utf8Step :=
  if byte < 0x80 then ([some (Char.ofNat byte)], none)
  else if byte < 0xC2 then ([none], none)
  else if byte < 0xE0 then ([], some ⟨byte - 0xC0, 1, 0x80, 0xBF⟩)
  else if byte = 0xE0 then ([], some ⟨0, 2, 0xA0, 0xBF⟩)
  else if byte = 0xED then ([], some ⟨0xD, 2, 0x80, 0x9F⟩)
  else if byte < 0xF0 then ([], some ⟨byte - 0xE0, 2, 0x80, 0xBF⟩)
  else if byte = 0xF0 then ([], some ⟨0, 3, 0x90, 0xBF⟩)
  else if byte < 0xF4 then ([], some ⟨byte - 0xF0, 3, 0x80, 0xBF⟩)
  else if byte = 0xF4 then ([], some ⟨4, 3, 0x80, 0x8F⟩)
  else ([none], none)

def nextByte (state : Option PartialChar) (byte : Nat) : Utf8Step :=
  match state with
  | none => leadByte byte
  | some part =>
      if part.least ≤ byte ∧ byte ≤ part.greatest then
        let bits := part.bits * 64 + (byte - 0x80)
        if part.missing ≤ 1 then ([some (Char.ofNat bits)], none)
        else ([], some ⟨bits, part.missing - 1, 0x80, 0xBF⟩)
      else
        let (found, state) := leadByte byte
        (none :: found, state)

/-- The characters of bytes, with gaps. -/
def decodeUtf8From : Option PartialChar → List UInt8 → List (Option Char)
  | none, [] => []
  | some _, [] => [none]
  | state, byte :: rest =>
      let (found, state) := nextByte state byte.toNat
      found ++ decodeUtf8From state rest

def decodeUtf8 (bytes : List UInt8) : List (Option Char) := decodeUtf8From none bytes

/-- The text of bytes without a gap. -/
def ofUtf8? (bytes : List UInt8) : Option String :=
  ((decodeUtf8 bytes).mapM id).map String.ofList

def replacementCharacter : Char := Char.ofNat 0xFFFD

/-- The text of bytes with a replacement character for every gap. -/
def ofUtf8Replacing (bytes : List UInt8) : String :=
  String.ofList ((decodeUtf8 bytes).map fun found => found.getD replacementCharacter)

/-- The character that bytes begin with. -/
def firstChar? (bytes : List UInt8) : Option Char :=
  [1, 2, 3, 4].findSome? fun size =>
    match decodeUtf8 (bytes.take size) with
    | [found] => found
    | _ => none

/-- The characters of bytes behind some that were taken already, with a filler for every single byte
that belongs to no character. -/
def decodeFilling (filler : Char) : (taken : Nat) → List UInt8 → List Char
  | _, [] => []
  | taken + 1, _ :: rest => decodeFilling filler taken rest
  | 0, byte :: rest =>
      match firstChar? (byte :: rest) with
      | some character => character :: decodeFilling filler (character.utf8Size - 1) rest
      | none => filler :: decodeFilling filler 0 rest

def toUtf8 (text : String) : List UInt8 := text.toUTF8.toList

end ApiCompiler.Text

import ApiCompiler.Json.Fault
import ApiCompiler.Text.Radix

/-!
Strings in JSON text, from behind the opening quote. Skipping a string only finds its end; reading
it also asks that surrogate escapes come in pairs.
-/

set_option autoImplicit false

namespace ApiCompiler.Json

open Text (hexValue?)

/-- Whether at least `count` bytes of UTF-8 follow. -/
def hasBytes : (count : Nat) → List Char → Bool
  | 0, _ => true
  | _, [] => false
  | count + 1, character :: rest => hasBytes (count + 1 - character.utf8Size) rest
termination_by _ text => text.length

/-- Four hexadecimal digits; fewer than four bytes are an unfinished string. -/
def readHex (text : List Char) : Except SyntaxFault (Nat × List Char) :=
  match text with
  | a :: b :: c :: d :: rest =>
      match hexValue? a, hexValue? b, hexValue? c, hexValue? d with
      | some a', some b', some c', some d' => .ok (((a' * 16 + b') * 16 + c') * 16 + d', rest)
      | _, _, _, _ => .error (if hasBytes 4 text then .invalidEscape else .endInString)
  | _ => .error (if hasBytes 4 text then .invalidEscape else .endInString)

theorem readHex_length {text : List Char} {value : Nat} {rest : List Char}
    (read : readHex text = .ok (value, rest)) : rest.length < text.length := by
  unfold readHex at read
  split at read
  · split at read
    · simp only [Except.ok.injEq, Prod.mk.injEq] at read
      obtain ⟨_, rfl⟩ := read
      simp only [List.length_cons]
      omega
    · simp at read
  · simp at read

def simpleEscape? (character : Char) : Option Char :=
  match character with
  | '"' => some '"'
  | '\\' => some '\\'
  | '/' => some '/'
  | 'b' => some (Char.ofNat 8)
  | 'f' => some (Char.ofNat 12)
  | 'n' => some '\n'
  | 'r' => some '\r'
  | 't' => some '\t'
  | _ => none

def isControl (character : Char) : Bool := character.toNat < 32

/-- Finds the closing quote: the characters before it, and what follows it. -/
def skipString (text : List Char) : List Char × Except SyntaxFault (List Char) :=
  match text with
  | [] => ([], .error .endInString)
  | '"' :: rest => ([], .ok rest)
  | '\\' :: 'u' :: rest =>
      match read : readHex rest with
      | .ok (_, after) =>
          have : after.length < rest.length + 1 + 1 := by
            have := readHex_length read
            omega
          let (lexeme, result) := skipString after
          ('\\' :: 'u' :: rest.take 4 ++ lexeme, result)
      | .error fault => (['\\', 'u'], .error fault)
  | ['\\'] => (['\\'], .error .endInString)
  | '\\' :: character :: rest =>
      match simpleEscape? character with
      | some _ =>
          let (lexeme, result) := skipString rest
          ('\\' :: character :: lexeme, result)
      | none => (['\\', character], .error .invalidEscape)
  | character :: rest =>
      if isControl character then ([character], .error .controlCharacter)
      else
        let (lexeme, result) := skipString rest
        (character :: lexeme, result)
termination_by text.length

theorem skipString_length (text : List Char) (rest : List Char)
    (read : (skipString text).2 = .ok rest) : rest.length < text.length := by
  fun_induction skipString text generalizing rest with
  | case1 => simp at read
  | case2 tail =>
    simp only [Except.ok.injEq] at read
    subst read
    simp
  | case3 tail value after hex _ lexeme result equation induction =>
    have below := induction rest (by rw [equation]; exact read)
    have := readHex_length hex
    simp only [List.length_cons]
    omega
  | case4 => simp at read
  | case5 => simp at read
  | case6 character tail _ _ _ lexeme result equation induction =>
    have below := induction rest (by rw [equation]; exact read)
    simp only [List.length_cons]
    omega
  | case7 => simp at read
  | case8 => simp at read
  | case9 character tail _ _ _ _ _ lexeme result equation induction =>
    have below := induction rest (by rw [equation]; exact read)
    simp only [List.length_cons]
    omega

/-- Reads the second half of a surrogate pair, behind the first half `high`. -/
def readLowSurrogate (high : Nat) (text : List Char) : Except SyntaxFault (Char × List Char) :=
  match text with
  | [] => .error .endInString
  | ['\\'] => .error .endInString
  | '\\' :: 'u' :: rest => do
      let (low, after) ← readHex rest
      if low < 0xDC00 ∨ 0xDFFF < low then .error .loneSurrogate
      else .ok (Char.ofNat (0x10000 + (high - 0xD800) * 0x400 + (low - 0xDC00)), after)
  | _ => .error .unfinishedSurrogatePair

/-- The code point of an escape, behind `\u`. -/
def readUnicodeEscape (text : List Char) : Except SyntaxFault (Char × List Char) := do
  let (unit, rest) ← readHex text
  if 0xDC00 ≤ unit ∧ unit ≤ 0xDFFF then .error .loneSurrogate
  else if 0xD800 ≤ unit ∧ unit ≤ 0xDBFF then readLowSurrogate unit rest
  else .ok (Char.ofNat unit, rest)

/-- Reads the characters of a string up to its closing quote. Every step takes at least one
character, so a budget of the text's length is enough. -/
def readCharacters : (budget : Nat) → List Char → Except SyntaxFault (List Char)
  | 0, _ => .error .endInString
  | _, [] => .error .endInString
  | _, '"' :: _ => .ok []
  | budget + 1, '\\' :: 'u' :: rest => do
      let (character, after) ← readUnicodeEscape rest
      let characters ← readCharacters budget after
      .ok (character :: characters)
  | _, ['\\'] => .error .endInString
  | budget + 1, '\\' :: character :: rest =>
      match simpleEscape? character with
      | some meant => do
          let characters ← readCharacters budget rest
          .ok (meant :: characters)
      | none => .error .invalidEscape
  | budget + 1, character :: rest =>
      if isControl character then .error .controlCharacter
      else do
        let characters ← readCharacters budget rest
        .ok (character :: characters)

/-- A string token: its characters as written, what they mean, and whether it ends at all. -/
structure StringReading where
  lexeme : List Char
  text : Except SyntaxFault String
  rest : Except SyntaxFault (List Char)

def readString (text : List Char) : StringReading :=
  let (lexeme, rest) := skipString text
  ⟨lexeme, (readCharacters (lexeme.length + 1) text).map String.ofList, rest⟩

end ApiCompiler.Json

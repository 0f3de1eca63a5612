import ApiCompiler.Json.Format
import ApiCompiler.Text.Utf8

/-!
JSON that is given as bytes. Bytes that belong to no character are a fault of the string in which
they stand, for one who reads the string and not for one who skips it.
-/

set_option autoImplicit false

namespace ApiCompiler.Json

/-- A string that depends on what stands in for stray bytes is no text. -/
def Token.settle : Token → Token → Token
  | .string key skipping, .string other _ =>
      if key.lexeme = other.lexeme then .string key skipping
      else .string ⟨key.lexeme, key.text.bind fun _ => .error .invalidCodePoint⟩ skipping
  | token, _ => token

/-- The tokens of bytes. Stray bytes are filled in twice, with characters that JSON has no use
for. -/
def tokenizeBytes (bytes : List UInt8) : List Token :=
  match Text.ofUtf8? bytes with
  | some text => tokenize text.toList
  | none =>
      List.zipWith Token.settle (tokenize (Text.decodeFilling '~' 0 bytes))
        (tokenize (Text.decodeFilling '^' 0 bytes))

/-- Bytes as a tree, and whether anything follows it. -/
def Source.readBytes (bytes : List UInt8) : Source × Bool :=
  let (source, rest) := build (tokenizeBytes bytes) .value []
  (source, !rest.isEmpty)

def readBytes {α : Type} (read : Node → Except Fault α) (bytes : List UInt8) : Except Fault α := do
  let (source, followed) := Source.readBytes bytes
  let result ← read ⟨source, depthLimit⟩
  if followed then .error (.malformed .trailingCharacters) else .ok result

end ApiCompiler.Json

import ApiCompiler.Text.Percent
import ApiCompiler.Text.Pieces
import ApiCompiler.Text.Utf8

/-!
Form-encoded text: pairs of keys and values. A plus sign is a space, bytes are percent-encoded, and
bytes that are no text are replaced.
-/

set_option autoImplicit false

namespace ApiCompiler.Http.Form

def plusSign : UInt8 := 0x2B

def space : UInt8 := 0x20

/-- A plus sign becomes a space before anything is decoded, so an encoded plus sign stays. -/
def spaced (bytes : List UInt8) : List UInt8 :=
  bytes.map fun byte => if byte = plusSign then space else byte

def decode (text : List Char) : String :=
  Text.ofUtf8Replacing (Text.percentDecode (spaced (Text.toUtf8 (String.ofList text))))

/-- A pair is cut at its first equals sign; without one its value is empty. -/
def pair (text : List Char) : String × String :=
  (decode (text.takeWhile (· ≠ '=')), decode ((text.dropWhile (· ≠ '=')).drop 1))

/-- The pairs between ampersands; nothing between two of them is no pair. -/
def pairs (text : String) : List (String × String) :=
  ((Text.pieces (· = '&') text.toList).filter fun piece => !piece.isEmpty).map pair

end ApiCompiler.Http.Form

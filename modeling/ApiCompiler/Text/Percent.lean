import ApiCompiler.Text.Utf8

/-!
Percent-encoded text: a percent sign with two hexadecimal digits stands for a byte. A percent sign
without them stands for itself.
-/

set_option autoImplicit false

namespace ApiCompiler.Text

def hexByte? (byte : UInt8) : Option UInt8 :=
  if 0x30 ≤ byte ∧ byte ≤ 0x39 then some (byte - 0x30)
  else if 0x41 ≤ byte ∧ byte ≤ 0x46 then some (byte - 0x41 + 10)
  else if 0x61 ≤ byte ∧ byte ≤ 0x66 then some (byte - 0x61 + 10)
  else none

def percentSign : UInt8 := 0x25

/-- The bytes that percent-encoded bytes stand for. -/
def percentDecode : List UInt8 → List UInt8
  | first :: high :: low :: rest =>
      if first = percentSign then
        match hexByte? high, hexByte? low with
        | some high, some low => (high * 16 + low) :: percentDecode rest
        | _, _ => first :: percentDecode (high :: low :: rest)
      else first :: percentDecode (high :: low :: rest)
  | first :: rest => first :: percentDecode rest
  | [] => []

end ApiCompiler.Text

import ApiCompiler.Http.Form
import ApiCompiler.Proofs.ByteOrder
import ApiCompiler.Proofs.TextPieces
import ApiCompiler.Text.Radix

/-!
Text that is read back from its bytes, and pairs that are read back from a form. A character of a
form stands for its own bytes, a plus sign for a blank, and a percent sign with two hexadecimal
digits for one byte.
-/

set_option autoImplicit false

namespace ApiCompiler

namespace Text

/-! ### UTF-8 -/

theorem lead_two {byte : Nat} (lower : 0xC2 ≤ byte) (upper : byte < 0xE0) :
    leadByte byte = ([], some ⟨byte - 0xC0, 1, 0x80, 0xBF⟩) := by
  rw [leadByte, if_neg (by omega), if_neg (by omega), if_pos upper]

theorem lead_three {byte : Nat} (lower : 0xE0 ≤ byte) (upper : byte < 0xF0) :
    leadByte byte = ([], some ⟨byte - 0xE0, 2, if byte = 0xE0 then 0xA0 else 0x80,
      if byte = 0xED then 0x9F else 0xBF⟩) := by
  rw [leadByte, if_neg (by omega), if_neg (by omega), if_neg (by omega)]
  split_ifs <;> simp_all

theorem lead_four {byte : Nat} (lower : 0xF0 ≤ byte) (upper : byte < 0xF5) :
    leadByte byte = ([], some ⟨byte - 0xF0, 3, if byte = 0xF0 then 0x90 else 0x80,
      if byte = 0xF4 then 0x8F else 0xBF⟩) := by
  rw [leadByte, if_neg (by omega), if_neg (by omega), if_neg (by omega), if_neg (by omega),
    if_neg (by omega), if_neg (by omega)]
  split_ifs <;> simp_all
  omega

theorem decode_lead {byte : UInt8} {found : List (Option Char)} {state : Option PartialChar}
    (lead : leadByte byte.toNat = (found, state)) (rest : List UInt8) :
    decodeUtf8From none (byte :: rest) = found ++ decodeUtf8From state rest := by
  simp only [decodeUtf8From, nextByte, lead]

/-- A byte behind the first one of a character, where six more bits of its code are read. -/
theorem decode_next {bits missing least greatest code : Nat} (lower : least ≤ code % 64 + 128)
    (upper : code % 64 + 128 ≤ greatest) (whole : bits * 64 + code % 64 = code)
    (rest : List UInt8) :
    decodeUtf8From (some ⟨bits, missing, least, greatest⟩) (UInt8.ofNat (code % 64 + 128) :: rest) =
      if missing ≤ 1 then some (Char.ofNat code) :: decodeUtf8From none rest
      else decodeUtf8From (some ⟨code, missing - 1, 0x80, 0xBF⟩) rest := by
  have byte : (UInt8.ofNat (code % 64 + 128)).toNat = code % 64 + 128 := by
    rw [UInt8.toNat_ofNat']
    omega
  have inside : least ≤ code % 64 + 128 ∧ code % 64 + 128 ≤ greatest := ⟨lower, upper⟩
  simp only [decodeUtf8From, nextByte, byte, if_pos inside, Nat.add_sub_cancel, whole]
  split_ifs <;> rfl

/-- One character is read off its bytes, whatever stands behind them. -/
theorem decode_char (character : Char) (rest : List UInt8) :
    decodeUtf8From none (String.utf8EncodeChar character ++ rest) =
      some character :: decodeUtf8From none rest := by
  -- No character is a surrogate, so the bounds on the second byte are kept.
  have valid : character.val.toNat < 0xD800 ∨ 0xDFFF < character.val.toNat ∧
      character.val.toNat < 0x110000 := character.valid
  have same : Char.ofNat character.val.toNat = character := Char.ofNat_toNat character
  unfold String.utf8EncodeChar
  simp only
  generalize character.val.toNat = code at *
  have byte : ∀ number, number < 256 → (UInt8.ofNat number).toNat = number := by
    intro number small
    rw [UInt8.toNat_ofNat']
    omega
  split_ifs with one two three
  · have lead : leadByte code = ([some (Char.ofNat code)], none) := by
      rw [leadByte, if_pos (by omega)]
    rw [← byte code (by omega)] at lead
    rw [List.singleton_append, decode_lead lead, byte code (by omega), same]
    rfl
  · have first := byte (code / 64 % 32 + 192) (by omega)
    have lead : leadByte (code / 64 % 32 + 192) = _ := lead_two (by omega) (by omega)
    rw [← first] at lead
    simp only [List.cons_append, List.nil_append]
    rw [decode_lead lead, List.nil_append, first, decode_next (by omega) (by omega) (by omega),
      same]
    rfl
  · have first := byte (code / 4096 % 16 + 224) (by omega)
    have lead : leadByte (code / 4096 % 16 + 224) = _ := lead_three (by omega) (by omega)
    rw [← first] at lead
    simp only [List.cons_append, List.nil_append]
    rw [decode_lead lead, List.nil_append, first,
      decode_next (by split_ifs <;> omega) (by split_ifs <;> omega) (by omega), if_neg (by omega),
      decode_next (by omega) (by omega) (by omega), same]
    rfl
  · have first := byte (code / 262144 % 8 + 240) (by omega)
    have lead : leadByte (code / 262144 % 8 + 240) = _ := lead_four (by omega) (by omega)
    rw [← first] at lead
    simp only [List.cons_append, List.nil_append]
    rw [decode_lead lead, List.nil_append, first,
      decode_next (by split_ifs <;> omega) (by split_ifs <;> omega) (by omega), if_neg (by omega),
      decode_next (by omega) (by omega) (by omega), if_neg (by omega),
      decode_next (by omega) (by omega) (by omega), same]
    rfl

theorem decode_utf8_encoded (text : String) : decodeUtf8 (toUtf8 text) = text.toList.map some := by
  rw [to_utf8_eq, decodeUtf8]
  induction text.toList with
  | nil => rfl
  | cons character rest induction =>
      rw [List.flatMap_cons, decode_char, induction, List.map_cons]

theorem of_utf8_encoded (text : String) : ofUtf8? (toUtf8 text) = some text := by
  have whole : (text.toList.map some).mapM id = some text.toList := by
    induction text.toList with
    | nil => rfl
    | cons character rest induction => simp [induction]
  rw [ofUtf8?, decode_utf8_encoded, whole, Option.map_some, String.ofList_toList]

theorem of_utf8_replacing_encoded (text : String) : ofUtf8Replacing (toUtf8 text) = text := by
  have whole : ((text.toList.map some).map fun found => found.getD replacementCharacter) =
      text.toList := by
    simp [Function.comp_def]
  rw [ofUtf8Replacing, decode_utf8_encoded, whole, String.ofList_toList]

/-! ### Percent signs -/

theorem percent_decode_plain {byte : UInt8} (plain : byte ≠ percentSign) (rest : List UInt8) :
    percentDecode (byte :: rest) = byte :: percentDecode rest := by
  rcases rest with _ | ⟨second, _ | ⟨third, rest⟩⟩
  · rfl
  · rfl
  · rw [percentDecode, if_neg plain]

theorem percent_decode_escape {high low first second : UInt8} (upper : hexByte? high = some first)
    (lower : hexByte? low = some second) (rest : List UInt8) :
    percentDecode (percentSign :: high :: low :: rest) =
      (first * 16 + second) :: percentDecode rest := by
  simp only [percentDecode, upper, lower, if_true]

theorem hex_byte_eq : ∀ code : Fin 128,
    hexByte? (UInt8.ofNat code) = (hexValue? (Char.ofNat code)).map UInt8.ofNat := by
  decide

theorem hex_value_bounds {digit : Char} {value : Nat} (known : hexValue? digit = some value) :
    digit.toNat < 128 ∧ value < 16 := by
  have zero : '0'.toNat = 48 := rfl
  have lowerA : 'a'.toNat = 97 := rfl
  have upperA : 'A'.toNat = 65 := rfl
  unfold hexValue? at known
  split_ifs at known with decimal lower upper <;> cases known
  · simp only [Char.isDigit, Bool.and_eq_true, decide_eq_true_eq] at decimal
    have least : 48 ≤ digit.toNat := decimal.1
    have greatest : digit.toNat ≤ 57 := decimal.2
    omega
  · have least : 97 ≤ digit.toNat := lower.1
    have greatest : digit.toNat ≤ 102 := lower.2
    omega
  · have least : 65 ≤ digit.toNat := upper.1
    have greatest : digit.toNat ≤ 70 := upper.2
    omega

theorem encode_ascii {character : Char} (ascii : character.toNat < 128) :
    String.utf8EncodeChar character = [UInt8.ofNat character.toNat] := by
  have small : character.val.toNat ≤ 127 := Nat.le_of_lt_succ ascii
  rw [String.utf8EncodeChar, if_pos small]
  rfl

/-- A hexadecimal digit is one byte, and means the same as a byte. -/
theorem encode_hex_digit {digit : Char} {value : Nat} (known : hexValue? digit = some value) :
    String.utf8EncodeChar digit = [UInt8.ofNat digit.toNat] ∧
      hexByte? (UInt8.ofNat digit.toNat) = some (UInt8.ofNat value) := by
  have ascii := (hex_value_bounds known).1
  have means := hex_byte_eq ⟨digit.toNat, ascii⟩
  rw [Char.ofNat_toNat, known] at means
  exact ⟨encode_ascii ascii, means⟩

/-- No byte of a character is one of an ASCII character, unless it is that character. -/
theorem encode_avoids {character : Char} {mark : Nat} (ascii : mark < 128)
    (other : character.toNat ≠ mark) :
    ∀ byte ∈ String.utf8EncodeChar character, byte ≠ UInt8.ofNat mark := by
  intro byte listed same
  have number : byte.toNat = mark := by
    rw [same, UInt8.toNat_ofNat']
    omega
  have apart : character.val.toNat ≠ mark := other
  unfold String.utf8EncodeChar at listed
  simp only at listed
  split_ifs at listed <;> simp only [List.mem_cons, List.not_mem_nil, or_false] at listed
  · rw [listed, UInt8.toNat_ofNat'] at number
    omega
  · rcases listed with rfl | rfl <;> rw [UInt8.toNat_ofNat'] at number <;> omega
  · rcases listed with rfl | rfl | rfl <;> rw [UInt8.toNat_ofNat'] at number <;> omega
  · rcases listed with rfl | rfl | rfl | rfl <;> rw [UInt8.toNat_ofNat'] at number <;> omega

end Text

/-! ### Forms -/

namespace Http.Form

/-- Characters of a form, and the bytes that they stand for. -/
inductive Writes : List Char → List UInt8 → Prop
  | done : Writes [] []
  | plain {character : Char} {written : List Char} {bytes : List UInt8}
      (mark : character ≠ '&' ∧ character ≠ '+' ∧ character ≠ '%') (rest : Writes written bytes) :
      Writes (character :: written) (String.utf8EncodeChar character ++ bytes)
  | blank {written : List Char} {bytes : List UInt8} (rest : Writes written bytes) :
      Writes ('+' :: written) (space :: bytes)
  | escaped {high low : Char} {first second : Nat} {written : List Char} {bytes : List UInt8}
      (upper : Text.hexValue? high = some first) (lower : Text.hexValue? low = some second)
      (rest : Writes written bytes) :
      Writes ('%' :: high :: low :: written) (UInt8.ofNat (first * 16 + second) :: bytes)

/-- A key and a value with an equals sign between them, which may be left out with an empty
value. -/
inductive WritesPair : List Char → String × String → Prop
  | both {key value : List Char} {pair : String × String} (name : Writes key (Text.toUtf8 pair.1))
      (text : Writes value (Text.toUtf8 pair.2)) (apart : '=' ∉ key) :
      WritesPair (key ++ '=' :: value) pair
  | key {key : List Char} {name : String} (some : key ≠ []) (writes : Writes key (Text.toUtf8 name))
      (apart : '=' ∉ key) : WritesPair key (name, "")

/-- A form in which every pair stands between ampersands. -/
def Spells (query : String) (pairs : List (String × String)) : Prop :=
  ∃ rows, List.Forall₂ WritesPair rows pairs ∧ query.toList = ['&'].intercalate rows

/-- Bytes that are neither plus nor percent signs stand for themselves. -/
theorem decode_clean {row : List UInt8}
    (clean : ∀ byte ∈ row, byte ≠ plusSign ∧ byte ≠ Text.percentSign) (rest : List UInt8) :
    Text.percentDecode (spaced (row ++ rest)) = row ++ Text.percentDecode (spaced rest) := by
  induction row with
  | nil => rfl
  | cons byte row induction =>
      obtain ⟨own, others⟩ := List.forall_mem_cons.mp clean
      have same : spaced (byte :: row ++ rest) = byte :: spaced (row ++ rest) := by
        simp [spaced, own.1]
      rw [same, Text.percent_decode_plain own.2, induction others, List.cons_append]

theorem spaced_hex_byte {byte value : UInt8} (known : Text.hexByte? byte = some value)
    (rest : List UInt8) : spaced (byte :: rest) = byte :: spaced rest := by
  have apart : byte ≠ plusSign := by
    intro same
    rw [same] at known
    cases known
  simp [spaced, apart]

theorem Writes.decoded {written : List Char} {bytes : List UInt8} (writes : Writes written bytes) :
    Text.percentDecode (spaced (written.flatMap String.utf8EncodeChar)) = bytes := by
  induction writes with
  | done => rfl
  | plain mark rest induction =>
      rw [List.flatMap_cons, decode_clean, induction]
      intro byte listed
      constructor
      · apply Text.encode_avoids (by decide : 0x2B < 128) _ byte listed
        exact fun same => mark.2.1 (Char.toNat_inj.mp same)
      · apply Text.encode_avoids (by decide : 0x25 < 128) _ byte listed
        exact fun same => mark.2.2 (Char.toNat_inj.mp same)
  | @blank written bytes rest induction =>
      have first : spaced (('+' :: written).flatMap String.utf8EncodeChar) =
          space :: spaced (written.flatMap String.utf8EncodeChar) := rfl
      rw [first, Text.percent_decode_plain (by decide), induction]
  | @escaped high low first second written bytes upper lower rest induction =>
      obtain ⟨highByte, highValue⟩ := Text.encode_hex_digit upper
      obtain ⟨lowByte, lowValue⟩ := Text.encode_hex_digit lower
      have shape : spaced (('%' :: high :: low :: written).flatMap String.utf8EncodeChar) =
          Text.percentSign :: UInt8.ofNat high.toNat :: UInt8.ofNat low.toNat ::
            spaced (written.flatMap String.utf8EncodeChar) := by
        rw [← spaced_hex_byte lowValue, ← spaced_hex_byte highValue, List.flatMap_cons,
          List.flatMap_cons, List.flatMap_cons, highByte, lowByte]
        rfl
      have value : UInt8.ofNat first * 16 + UInt8.ofNat second =
          UInt8.ofNat (first * 16 + second) := by
        simp [UInt8.ofNat_add, UInt8.ofNat_mul]
      rw [shape, Text.percent_decode_escape highValue lowValue, induction, value]

theorem Writes.decode {written : List Char} {text : String}
    (writes : Writes written (Text.toUtf8 text)) : decode written = text := by
  rw [Form.decode, Text.to_utf8_eq, String.toList_ofList, writes.decoded,
    Text.of_utf8_replacing_encoded]

theorem Writes.no_break {written : List Char} {bytes : List UInt8} (writes : Writes written bytes) :
    '&' ∉ written := by
  induction writes with
  | done => exact List.not_mem_nil
  | plain mark rest induction => simp [induction, Ne.symm mark.1]
  | blank rest induction => simp [induction]
  | escaped upper lower rest induction =>
      have notHex : ∀ {digit : Char} {value : Nat}, Text.hexValue? digit = some value →
          '&' ≠ digit := by
        intro digit value known same
        rw [← same] at known
        cases known
      simp [induction, notHex upper, notHex lower]

theorem WritesPair.read {row : List Char} {named : String × String}
    (writes : WritesPair row named) : pair row = named ∧ '&' ∉ row ∧ row ≠ [] := by
  have upTo : ∀ {key : List Char}, '=' ∉ key → ∀ rest,
      (key ++ rest).takeWhile (· ≠ '=') = key ++ rest.takeWhile (· ≠ '=') ∧
        (key ++ rest).dropWhile (· ≠ '=') = rest.dropWhile (· ≠ '=') := by
    intro key apart rest
    have clean : ∀ character ∈ key, decide (character ≠ '=') = true := by
      intro character listed
      have other : character ≠ '=' := fun same => apart (same ▸ listed)
      simp [other]
    exact ⟨List.takeWhile_append_of_pos clean, List.dropWhile_append_of_pos clean⟩
  cases writes with
  | @both key value named name text apart =>
      obtain ⟨before, behind⟩ := upTo apart ('=' :: value)
      refine ⟨?_, ?_, by simp⟩
      · rw [pair, before, behind]
        simp [name.decode, text.decode]
      · simp [name.no_break, text.no_break]
  | @key key name some writes apart =>
      obtain ⟨before, behind⟩ := upTo apart []
      rw [List.append_nil] at before behind
      refine ⟨?_, writes.no_break, some⟩
      have nothing : decode [] = "" := by
        apply Writes.decode
        rw [Text.to_utf8_eq]
        exact .done
      rw [pair, before, behind]
      simp [writes.decode, nothing]

theorem pieces_joined {rows : List (List Char)} (some : rows ≠ [])
    (whole : ∀ row ∈ rows, '&' ∉ row) :
    Text.pieces (· = '&') (['&'].intercalate rows) = rows := by
  have unbroken : ∀ {row : List Char}, '&' ∉ row → Text.pieces (· = '&') row = [row] := by
    intro row apart
    apply Text.pieces_whole
    intro character listed
    have other : character ≠ '&' := fun same => apart (same ▸ listed)
    simp [other]
  induction rows with
  | nil => exact absurd rfl some
  | cons row rows induction =>
      obtain ⟨own, others⟩ := List.forall_mem_cons.mp whole
      cases rows with
      | nil => simp [List.intercalate, unbroken own]
      | cons next rows =>
          have shape : ['&'].intercalate (row :: next :: rows) =
              row ++ '&' :: ['&'].intercalate (next :: rows) := by
            simp [List.intercalate, List.intersperse]
          rw [shape, Text.pieces_append_break (by simp), unbroken own,
            induction (List.cons_ne_nil _ _) others, List.singleton_append]

/-- A form is read as the pairs that it spells. -/
theorem pairs_of_spells {query : String} {named : List (String × String)}
    (spells : Spells query named) : pairs query = named := by
  obtain ⟨rows, writes, written⟩ := spells
  have each : rows.map pair = named ∧ ∀ row ∈ rows, '&' ∉ row ∧ row ≠ [] := by
    clear written
    induction writes with
    | nil => simp
    | cons first others induction =>
        obtain ⟨means, clean⟩ := first.read
        exact ⟨by simp [means, induction.1], List.forall_mem_cons.mpr ⟨clean, induction.2⟩⟩
  have stays : rows.filter (fun row => !row.isEmpty) = rows := by
    apply List.filter_eq_self.mpr
    intro row listed
    simp [(each.2 row listed).2]
  by_cases some : rows = []
  · subst some
    rw [← each.1, pairs, written]
    rfl
  · rw [pairs, written, pieces_joined some fun row listed => (each.2 row listed).1, stays, each.1]

end Http.Form

end ApiCompiler

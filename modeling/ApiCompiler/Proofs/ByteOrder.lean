import ApiCompiler.Text.Utf8
import Mathlib.Data.String.Basic

/-!
The order of texts by code points is the order of their bytes.
-/

set_option autoImplicit false

namespace ApiCompiler.Text

theorem to_list_loop (bytes : ByteArray) (index : Nat) (read : List UInt8) :
    ByteArray.toList.loop bytes index read = read.reverse ++ bytes.data.toList.drop index := by
  fun_induction ByteArray.toList.loop bytes index read with
  | case1 index read inside induction =>
      have next : bytes.data.toList.drop index =
          bytes.get! index :: bytes.data.toList.drop (index + 1) := by
        have bound : index < bytes.data.toList.length := by simpa using inside
        rw [List.drop_eq_getElem_cons bound]
        simp [ByteArray.get!, inside]
      rw [induction, next, List.reverse_cons, List.append_assoc, List.singleton_append]
  | case2 index read outside =>
      have nothing : bytes.data.toList.drop index = [] := by
        apply List.drop_of_length_le
        simpa using outside
      rw [nothing, List.append_nil]

theorem to_utf8_eq (text : String) : toUtf8 text = text.toList.flatMap String.utf8EncodeChar := by
  have bytes : text.toByteArray = (text.toList.flatMap String.utf8EncodeChar).toByteArray :=
    String.utf8Encode_toList.symm
  rw [toUtf8, String.toUTF8_eq_toByteArray, ByteArray.toList, to_list_loop, bytes,
    List.toList_data_toByteArray]
  rfl

/-- The bytes of a lesser character come first at the first place where they differ. -/
theorem encode_lt {left right : Char} (less : left < right) (before after : List UInt8) :
    String.utf8EncodeChar left ++ before < String.utf8EncodeChar right ++ after := by
  have values : left.val.toNat < right.val.toNat := less
  have top : right.val.toNat < 0x110000 := by
    have valid : right.val.toNat < 0xD800 ∨ 0xDFFF < right.val.toNat ∧
        right.val.toNat < 0x110000 := right.valid
    omega
  unfold String.utf8EncodeChar
  simp only
  -- One case for each pair of lengths; the bytes are compared as numbers, none of them cut off.
  split_ifs <;>
    simp only [List.cons_append, List.nil_append, List.cons_lt_cons_iff, UInt8.lt_iff_toNat_lt,
      ← UInt8.toNat_inj, UInt8.toNat_ofNat'] <;>
    simp (disch := omega) only [Nat.mod_eq_of_lt] <;>
    omega

theorem encode_all_lt {left right : List Char} (less : left < right) :
    left.flatMap String.utf8EncodeChar < right.flatMap String.utf8EncodeChar := by
  induction left generalizing right with
  | nil =>
      cases right with
      | nil => exact absurd less (List.lt_irrefl [])
      | cons character rest =>
          obtain ⟨byte, bytes, encoded⟩ :=
            List.exists_cons_of_ne_nil (String.utf8EncodeChar_ne_nil (c := character))
          rw [List.flatMap_nil, List.flatMap_cons, encoded]
          exact List.nil_lt_cons _ _
  | cons character rest induction =>
      cases right with
      | nil => exact absurd less (List.not_lt_nil _)
      | cons other others =>
          rw [List.flatMap_cons, List.flatMap_cons]
          rcases List.cons_lt_cons_iff.mp less with first | ⟨same, later⟩
          · exact encode_lt first _ _
          · subst same
            exact List.append_left_lt (induction later)

theorem to_utf8_lt {left right : String} (less : left < right) : toUtf8 left < toUtf8 right := by
  rw [to_utf8_eq, to_utf8_eq]
  exact encode_all_lt (String.lt_iff.mp less)

theorem to_utf8_injective : Function.Injective toUtf8 := by
  intro left right same
  rcases lt_trichotomy left right with less | equal | greater
  · exact absurd (same ▸ to_utf8_lt less) (List.lt_irrefl _)
  · exact equal
  · exact absurd (same ▸ to_utf8_lt greater) (List.lt_irrefl _)

theorem to_utf8_lt_iff {left right : String} : toUtf8 left < toUtf8 right ↔ left < right := by
  refine ⟨fun less => ?_, to_utf8_lt⟩
  by_contra notLess
  rcases eq_or_lt_of_not_gt notLess with same | greater
  · exact List.lt_irrefl _ (same ▸ less)
  · exact List.lt_asymm less (to_utf8_lt greater)

end ApiCompiler.Text

import Mathlib

/-! # ASCII text

A string of ASCII characters and its UTF-8 bytes, one for each character; so every list of ASCII bytes is the text of
a string.
-/

namespace Libobsbot.Foundations
set_option autoImplicit false

/-- `s.as_bytes()`. -/
def utf8Bytes (s : String) : List UInt8 := s.toUTF8.data.toList

theorem utf8EncodeChar_ascii {c : Char} (h : c.toNat < 128) : String.utf8EncodeChar c = [c.toUInt8] := by
  have hsize : c.utf8Size = 1 := by
    rw [Char.utf8Size_eq_one_iff, UInt32.le_iff_toNat_le]
    exact Nat.le_of_lt_succ h
  rw [String.utf8EncodeChar_eq_singleton hsize]
  rfl

theorem utf8Bytes_ofList {cs : List Char} (h : ∀ c ∈ cs, c.toNat < 128) :
    utf8Bytes (String.ofList cs) = cs.map Char.toUInt8 := by
  have hencode : cs.utf8Encode.data.toList = cs.map Char.toUInt8 := by
    induction cs with
    | nil => rfl
    | cons c cs ih =>
      obtain ⟨hc, hcs⟩ := List.forall_mem_cons.mp h
      rw [List.utf8Encode_cons, List.utf8Encode_singleton, utf8EncodeChar_ascii hc, ByteArray.data_append,
        Array.toList_append, List.toList_data_toByteArray, ih hcs]
      rfl
  rw [utf8Bytes, String.toUTF8_eq_toByteArray, String.toByteArray_ofList, hencode]

theorem toNat_ofUInt8 (b : UInt8) : (Char.ofUInt8 b).toNat = b.toNat := rfl

theorem toUInt8_ofUInt8 (b : UInt8) : (Char.ofUInt8 b).toUInt8 = b := by
  apply UInt8.toNat_inj.mp
  show b.toNat % 2 ^ 8 = b.toNat
  exact Nat.mod_eq_of_lt b.toNat_lt

/-- ASCII bytes are the text of a string. -/
theorem fromUTF8?_ascii {bytes : List UInt8} (h : ∀ b ∈ bytes, b.toNat < 128) :
    ∃ s, String.fromUTF8? ⟨bytes.toArray⟩ = some s ∧ utf8Bytes s = bytes := by
  have hchars : ∀ c ∈ bytes.map Char.ofUInt8, c.toNat < 128 := by
    intro c hc
    obtain ⟨b, hb, rfl⟩ := List.mem_map.mp hc
    rw [toNat_ofUInt8]
    exact h b hb
  have hbytes : utf8Bytes (String.ofList (bytes.map Char.ofUInt8)) = bytes := by
    rw [utf8Bytes_ofList hchars, List.map_map]
    exact List.map_id'' toUInt8_ofUInt8 bytes
  have harray : (String.ofList (bytes.map Char.ofUInt8)).toUTF8 = ⟨bytes.toArray⟩ := by
    apply ByteArray.ext
    apply Array.toList_inj.mp
    exact hbytes
  have hvalid : ByteArray.IsValidUTF8 ⟨bytes.toArray⟩ :=
    harray ▸ (String.ofList (bytes.map Char.ofUInt8)).isValidUTF8
  refine ⟨_, dif_pos hvalid, rfl⟩

end Libobsbot.Foundations

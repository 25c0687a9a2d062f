import Libobsbot.Foundations.Ascii
import Libobsbot.Rpc.Parsing

/-! # The serial in a reply

`decode_serial_reply` takes the declared payload up to its first NUL and lets it through where every byte is ASCII
graphic. `decodeSerialReply_text` puts it in one line: the text is the string of these bytes.
-/

namespace Libobsbot.Meet2
open Foundations
set_option autoImplicit false
set_option maxRecDepth 4000

theorem isAsciiGraphic_lt {b : UInt8} (h : isAsciiGraphic b = true) : b.toNat < 128 := by
  unfold isAsciiGraphic at h
  rw [Bool.and_eq_true, decide_eq_true_eq, decide_eq_true_eq, UInt8.le_iff_toNat_le, UInt8.le_iff_toNat_le] at h
  exact Nat.lt_of_le_of_lt h.2 (by decide)

theorem IsGraphic.ne_zero {bytes : List UInt8} (h : IsGraphic bytes) : ∀ b ∈ bytes, b ≠ 0 := by
  rintro b hb rfl
  exact absurd (h 0 hb) (by decide)

theorem IsGraphic.text {bytes : List UInt8} (h : IsGraphic bytes) :
    ∃ s, String.fromUTF8? ⟨bytes.toArray⟩ = some s ∧ utf8Bytes s = bytes :=
  fromUTF8?_ascii fun b hb => isAsciiGraphic_lt (h b hb)

theorem serialText_eq (payload : List UInt8) :
    ShortReads.serialText payload = payload.takeWhile (· != 0) := by
  induction payload with
  | nil => rfl
  | cons b payload ih =>
    unfold ShortReads.serialText at ih ⊢
    rw [List.findIdx?_cons]
    by_cases hb : b = 0
    · rw [hb]
      rfl
    · have hbeq : (b == 0) = false := beq_eq_false_iff_ne.mpr hb
      have hbne : (b != 0) = true := bne_iff_ne.mpr hb
      rw [List.takeWhile_cons, if_pos hbne, ← ih, hbeq]
      cases payload.findIdx? (· == 0) with
      | none => rfl
      | some i => rfl

/-- A run of nonzero bytes that ends its list, or is ended by a NUL, is what stands before the first NUL. -/
theorem takeWhile_terminated {serial payload : List UInt8} (hserial : ∀ b ∈ serial, b ≠ 0)
    (h : payload = serial ∨ ∃ rest, payload = serial ++ 0 :: rest) :
    payload.takeWhile (· != 0) = serial := by
  have hwhole : serial.takeWhile (· != 0) = serial :=
    List.takeWhile_eq_self_iff.mpr fun b hb => bne_iff_ne.mpr (hserial b hb)
  obtain rfl | ⟨rest, rfl⟩ := h
  · exact hwhole
  · rw [List.takeWhile_append_of_pos fun b hb => bne_iff_ne.mpr (hserial b hb)]
    exact List.append_nil serial

theorem decodeSerialReply_text (buf : List UInt8) :
    (∃ s, decodeSerialReply buf = .ok (some s) ∧ utf8Bytes s = (payloadOf buf).takeWhile (· != 0) ∧
      IsReply buf ∧ commandAt buf = rpcGetSerial ∧ IsGraphic ((payloadOf buf).takeWhile (· != 0))) ∨
    (decodeSerialReply buf = .ok none ∧
      ¬ (IsReply buf ∧ commandAt buf = rpcGetSerial ∧ IsGraphic ((payloadOf buf).takeWhile (· != 0)))) := by
  rw [decodeSerialReply_eq, serialText_eq]
  by_cases h : IsReply buf ∧ commandAt buf = rpcGetSerial ∧ IsGraphic ((payloadOf buf).takeWhile (· != 0))
  · obtain ⟨s, hs, hbytes⟩ := h.2.2.text
    rw [if_pos h, hs]
    exact .inl ⟨s, rfl, hbytes, h⟩
  · rw [if_neg h]
    exact .inr ⟨rfl, h⟩

/-- A serial comes back from every reply that carries it; what comes back is the payload up to its first NUL and
graphic; nothing comes back exactly where the frame is another one or a byte before that NUL is not graphic; and graphic
bytes are always text. -/
theorem serial_decoding_inverts :
    (∀ (serial buf : List UInt8), IsGraphic serial → IsReply buf → commandAt buf = (0xC8, 0x18) →
      (payloadOf buf = serial ∨ ∃ rest, payloadOf buf = serial ++ 0 :: rest) →
      ∃ s, decodeSerialReply buf = .ok (some s) ∧ utf8Bytes s = serial) ∧
    (∀ (buf : List UInt8) (s : String), decodeSerialReply buf = .ok (some s) →
      IsGraphic (utf8Bytes s) ∧ utf8Bytes s = (payloadOf buf).takeWhile (· != 0)) ∧
    (∀ buf : List UInt8, decodeSerialReply buf = .ok none ↔
      ¬ (IsReply buf ∧ commandAt buf = (0xC8, 0x18)) ∨
        ∃ b ∈ (payloadOf buf).takeWhile (· != 0), isAsciiGraphic b = false) ∧
    ∀ bytes : List UInt8, IsGraphic bytes → String.fromUTF8? ⟨bytes.toArray⟩ ≠ none := by
  refine ⟨?_, ?_, ?_, ?_⟩
  · intro serial buf hgraphic hreply hids hpayload
    have htext := takeWhile_terminated hgraphic.ne_zero hpayload
    obtain ⟨s, hs, hbytes, -⟩ | ⟨-, hno⟩ := decodeSerialReply_text buf
    · exact ⟨s, hs, hbytes.trans htext⟩
    · exact absurd ⟨hreply, hids, htext ▸ hgraphic⟩ hno
  · intro buf s h
    obtain ⟨s', hs, hbytes, -, -, hgraphic⟩ | ⟨hnone, -⟩ := decodeSerialReply_text buf
    · rw [h] at hs
      cases hs
      exact ⟨hbytes ▸ hgraphic, hbytes⟩
    · rw [h] at hnone
      cases hnone
  · intro buf
    have hrefused : (¬ (IsReply buf ∧ commandAt buf = (0xC8, 0x18)) ∨
        ∃ b ∈ (payloadOf buf).takeWhile (· != 0), isAsciiGraphic b = false) ↔
        ¬ (IsReply buf ∧ commandAt buf = rpcGetSerial ∧ IsGraphic ((payloadOf buf).takeWhile (· != 0))) := by
      rw [← and_assoc]
      refine (or_congr Iff.rfl ?_).trans not_and_or.symm
      simp only [IsGraphic, not_forall, Bool.not_eq_true, exists_prop]
    rw [hrefused]
    obtain ⟨s, hs, -, haccepted⟩ | ⟨hnone, hno⟩ := decodeSerialReply_text buf
    · refine iff_of_false (fun h => ?_) (not_not.mpr haccepted)
      rw [hs] at h
      cases h
    · exact iff_of_true hnone hno
  · intro bytes h
    obtain ⟨s, hs, -⟩ := h.text
    rw [hs]
    exact Option.some_ne_none s

/-- A serial that ends in front of other bytes, and one with a byte that is no text. -/
theorem serial_decoding_inverts_terminated :
    (∃ s, decodeSerialReply ([0xAA, 1, 0, 0, 12, 0, 0, 0, 0x0D, 0x0A, 0xC8, 0x18, 6, 0, 0, 0] ++
      [0x52, 0x4D, 0x31, 0, 0xFF, 0x41]) = .ok (some s) ∧ utf8Bytes s = [0x52, 0x4D, 0x31]) ∧
    decodeSerialReply ([0xAA, 1, 0, 0, 12, 0, 0, 0, 0x0D, 0x0A, 0xC8, 0x18, 3, 0, 0, 0] ++
      [0x52, 0x80, 0]) = .ok none := by
  obtain ⟨hforward, -, hnone, -⟩ := serial_decoding_inverts
  constructor
  · exact hforward [0x52, 0x4D, 0x31] _ (by decide) (by decide) rfl (.inr ⟨[0xFF, 0x41], rfl⟩)
  · exact (hnone _).mpr (.inr ⟨0x80, by decide, rfl⟩)

end Libobsbot.Meet2

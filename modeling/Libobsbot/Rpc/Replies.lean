import Libobsbot.Rpc.Frame

/-! # What the reply decoders accept

`parseRpcReply_eq` is the parser's specification: it never panics and takes apart exactly the buffers in
reply form. A decoder accepts only replies with its own command pair, and the frames `build_rpc_frame`
builds are not in reply form, so no buffer is accepted by two decoders and no request by any.
-/

namespace Libobsbot.Meet2
open Foundations
set_option autoImplicit false

/-- Magic, direction marker, and a declared payload inside the buffer. -/
def IsReply (buf : List UInt8) : Prop :=
  rpcPayloadOffset ≤ buf.length ∧ buf.getD 0 0 = 0xAA ∧ buf.getD 8 0 = 0x0D ∧ buf.getD 9 0 = 0x0A ∧
    rpcPayloadOffset + u16At buf rpcLenOffset ≤ buf.length

instance (buf : List UInt8) : Decidable (IsReply buf) :=
  inferInstanceAs (Decidable (_ ∧ _ ∧ _ ∧ _ ∧ _))

/-- `(cmd_id, sub_cmd_id)`, in requests and replies alike. -/
def commandAt (buf : List UInt8) : UInt8 × UInt8 :=
  (buf.getD rpcCmdIdOffset 0, buf.getD rpcSubCmdIdOffset 0)

def payloadOf (buf : List UInt8) : List UInt8 :=
  (buf.drop rpcPayloadOffset).take (u16At buf rpcLenOffset)

theorem index_getD {buf : List UInt8} {i : ℕ} (h : i < buf.length) :
    index buf i = .ok (buf.getD i 0) := by
  rw [index_of_lt h, List.getD_eq_getElem _ _ h]

theorem getElem?_getD {buf : List UInt8} {i : ℕ} (h : i < buf.length) : buf[i]? = some (buf.getD i 0) := by
  rw [List.getD_eq_getElem _ _ h, List.getElem?_eq_getElem h]

/-- Of a byte that is not zero, the default says as much as the bound. -/
theorem getElem?_eq_some_iff_getD {buf : List UInt8} {i : ℕ} {b : UInt8} (hb : b ≠ 0) :
    buf[i]? = some b ↔ buf.getD i 0 = b := by
  rw [List.getD_eq_getElem?_getD]
  cases buf[i]? with
  | none => simp [hb.symm]
  | some c => simp

theorem u16At_eq {buf : List UInt8} {i : ℕ} (h : i + 1 < buf.length) :
    u16At buf i = fromLe [buf.getD i 0, buf.getD (i + 1) 0] := by
  rw [u16At, List.drop_eq_getElem_cons (by omega), List.drop_eq_getElem_cons h,
    List.getD_eq_getElem _ _ (by omega), List.getD_eq_getElem _ _ h]
  rfl

theorem u16At_lt (buf : List UInt8) (i : ℕ) : u16At buf i < 65536 := by
  have h := fromLe_lt ((buf.drop i).take 2)
  have hlen : ((buf.drop i).take 2).length ≤ 2 := List.length_take_le _ _
  calc u16At buf i < 256 ^ ((buf.drop i).take 2).length := h
    _ ≤ 256 ^ 2 := Nat.pow_le_pow_right (by omega) hlen

/-- The parser takes apart the buffers in reply form, refuses the others and never panics. -/
theorem parseRpcReply_eq (buf : List UInt8) : parseRpcReply buf =
    .ok (if IsReply buf then some ((commandAt buf).1, (commandAt buf).2, payloadOf buf)
      else none) := by
  by_cases hlen : buf.length < rpcPayloadOffset
  · rw [if_neg (by unfold IsReply; omega), parseRpcReply, if_pos hlen]
    rfl
  · unfold rpcPayloadOffset at hlen
    have hadd : checkedAdd rpcPayloadOffset (u16At buf rpcLenOffset) =
        some (rpcPayloadOffset + u16At buf rpcLenOffset) := by
      have := u16At_lt buf rpcLenOffset
      exact if_pos (by unfold rpcPayloadOffset; omega)
    unfold parseRpcReply
    rw [if_neg (by unfold rpcPayloadOffset; omega), index_getD (by omega), index_getD (by omega),
      index_getD (by omega), index_getD (by unfold rpcCmdIdOffset; omega),
      index_getD (by unfold rpcSubCmdIdOffset; omega), index_getD (by unfold rpcLenOffset; omega),
      index_getD (by unfold rpcLenOffset; omega)]
    simp only [bind, Except.bind]
    rw [← u16At_eq (by unfold rpcLenOffset; omega), hadd]
    by_cases hmagic : buf.getD 0 0 ≠ 0xAA
    · have hno : ¬ IsReply buf := fun h => hmagic h.2.1
      rw [if_neg hno, if_pos hmagic]
      rfl
    rw [if_neg hmagic]
    by_cases hfirst : buf.getD 8 0 ≠ 0x0D
    · have hno : ¬ IsReply buf := fun h => hfirst h.2.2.1
      rw [if_neg hno, if_pos hfirst]
      rfl
    rw [if_neg hfirst]
    by_cases hsecond : buf.getD 9 0 ≠ 0x0A
    · have hno : ¬ IsReply buf := fun h => hsecond h.2.2.2.1
      rw [if_neg hno, if_pos hsecond]
      rfl
    rw [if_neg hsecond]
    by_cases hend : buf.length < rpcPayloadOffset + u16At buf rpcLenOffset
    · have hno : ¬ IsReply buf := fun h => absurd h.2.2.2.2 (by omega)
      rw [if_neg hno]
      exact if_pos hend
    · have hreply : IsReply buf := ⟨by unfold rpcPayloadOffset; omega, not_not.mp hmagic,
        not_not.mp hfirst, not_not.mp hsecond, by omega⟩
      have hslice : slice buf rpcPayloadOffset (rpcPayloadOffset + u16At buf rpcLenOffset) =
          .ok (payloadOf buf) := by
        rw [slice_of_le (by omega) (by omega), payloadOf, List.drop_take, Nat.add_sub_cancel_left]
      rw [if_pos hreply]
      apply (if_neg hend).trans
      rw [hslice]
      rfl

theorem parseRpcReply_of_isReply {buf : List UInt8} (h : IsReply buf) :
    parseRpcReply buf = .ok (some ((commandAt buf).1, (commandAt buf).2, payloadOf buf)) := by
  rw [parseRpcReply_eq, if_pos h]

theorem parseRpcReply_of_not_isReply {buf : List UInt8} (h : ¬ IsReply buf) :
    parseRpcReply buf = .ok none := by
  rw [parseRpcReply_eq, if_neg h]

/-- `decode` accepts `buf` only as a reply to the command `ids`. -/
def AcceptsOnly {α : Type} (decode : List UInt8 → Checked (Option α)) (ids : UInt8 × UInt8) : Prop :=
  ∀ buf v, decode buf = .ok (some v) → IsReply buf ∧ commandAt buf = ids

theorem acceptsOnly_of {α : Type} {decode : List UInt8 → Checked (Option α)} {ids : UInt8 × UInt8}
    (hform : ∀ buf, ¬ IsReply buf → decode buf = .ok none)
    (hids : ∀ buf, IsReply buf → commandAt buf ≠ ids → decode buf = .ok none) :
    AcceptsOnly decode ids := by
  intro buf v h
  by_cases hreply : IsReply buf
  · refine ⟨hreply, ?_⟩
    by_contra hother
    rw [hids buf hreply hother] at h
    cases h
  · rw [hform buf hreply] at h
    cases h

theorem decodeFirmwareReply_acceptsOnly : AcceptsOnly decodeFirmwareReply rpcGetFirmware := by
  apply acceptsOnly_of
  · intro buf h
    rw [decodeFirmwareReply, parseRpcReply_of_not_isReply h]
    rfl
  · intro buf h hother
    rw [decodeFirmwareReply, parseRpcReply_of_isReply h]
    exact if_pos (.inl hother)

theorem decodeSerialReply_acceptsOnly : AcceptsOnly decodeSerialReply rpcGetSerial := by
  apply acceptsOnly_of
  · intro buf h
    rw [decodeSerialReply, parseRpcReply_of_not_isReply h]
    rfl
  · intro buf h hother
    rw [decodeSerialReply, parseRpcReply_of_isReply h]
    exact if_pos hother

theorem decodeMacQueryReply_acceptsOnly : AcceptsOnly decodeMacQueryReply rpcGetDeviceHash := by
  apply acceptsOnly_of
  · intro buf h
    rw [decodeMacQueryReply, parseRpcReply_of_not_isReply h]
    rfl
  · intro buf h hother
    rw [decodeMacQueryReply, parseRpcReply_of_isReply h]
    exact if_pos (.inl hother)

/-- A frame the builder returns carries its command and is not in reply form. -/
theorem buildRpcFrame_request {seqByte subSeq cmdSet cmdId subCmdId : UInt8} {payload : List UInt8}
    {tailOffset : ℕ} {tail : List UInt8} (h : AdmitsFrame payload tailOffset tail) :
    ∃ frame, buildRpcFrame seqByte subSeq cmdSet cmdId subCmdId payload tailOffset tail = .ok frame ∧
      commandAt frame.toList = (cmdId, subCmdId) ∧ ¬ IsReply frame.toList := by
  obtain ⟨frame, hbuild, hbytes⟩ := buildRpcFrame_eq seqByte subSeq cmdSet cmdId subCmdId h
  refine ⟨frame, hbuild, ?_, ?_⟩
  · rw [hbytes]
    rfl
  · have h8 : frame.toList.getD 8 0 = 0x0A := by
      rw [hbytes]
      rfl
    rintro ⟨_, _, hmarker, _, _⟩
    rw [h8] at hmarker
    exact absurd hmarker (by decide)

end Libobsbot.Meet2

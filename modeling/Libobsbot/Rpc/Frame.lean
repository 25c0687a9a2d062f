import Libobsbot.Source.Meet2

/-! # What `build_rpc_frame` builds, and the camera's check of it

`buildRpcFrame_eq` is the builder's specification: the frame is the outer section, the inner section
and the tail at its offset, padded with zeros. The receiver's check is the one traced from
`libdev.so` (`doc/protocol/meet2/crc-investigation.md`), read off the frame's own length fields.
-/

namespace Libobsbot.Meet2
open Foundations
set_option autoImplicit false
set_option maxRecDepth 4000

/-! ## The layout -/

/-- Bytes `0..12`, with `crc` in the outer CRC field. -/
def outerSection (seqByte subSeq cmdSet cmdId subCmdId : UInt8) (crc : UInt16) : List UInt8 :=
  [0xAA, seqByte, subSeq, 0] ++ toLe 2 12 ++ toLe 2 crc.toNat ++ [0x0A, cmdSet, cmdId, subCmdId]

/-- Bytes `12..16 + payload.length`, with `crc` in the inner CRC field. -/
def innerSection (payload : List UInt8) (crc : UInt16) : List UInt8 :=
  toLe 2 payload.length ++ toLe 2 crc.toNat ++ payload

/-- The inner CRC, or the zero that stands where none is asked for. -/
def innerCrc (seqByte : UInt8) (payload : List UInt8) : UInt16 :=
  if seqByte &&& 0x60 ≠ 0 then crc16Usb (innerSection payload 0) else 0

/-- The part of the frame both CRCs live in: everything before the tail's padding. -/
def frameBody (seqByte subSeq cmdSet cmdId subCmdId : UInt8) (payload : List UInt8) : List UInt8 :=
  outerSection seqByte subSeq cmdSet cmdId subCmdId
      (crc16Usb (outerSection seqByte subSeq cmdSet cmdId subCmdId 0)) ++
    innerSection payload (innerCrc seqByte payload)

/-- What follows the body: zeros, the tail at its offset, zeros. -/
def frameRest (payload : List UInt8) (tailOffset : ℕ) (tail : List UInt8) : List UInt8 :=
  List.replicate (tailOffset - (16 + payload.length)) 0 ++ tail ++
    List.replicate (rpcFrameLen - (tailOffset + tail.length)) 0

def AdmitsFrame (payload : List UInt8) (tailOffset : ℕ) (tail : List UInt8) : Prop :=
  payload.length + 16 ≤ rpcFrameLen ∧ 16 + payload.length ≤ tailOffset ∧
    tailOffset + tail.length ≤ rpcFrameLen

instance (payload : List UInt8) (tailOffset : ℕ) (tail : List UInt8) :
    Decidable (AdmitsFrame payload tailOffset tail) := inferInstanceAs (Decidable (_ ∧ _ ∧ _))

@[simp] theorem outerSection_length (seqByte subSeq cmdSet cmdId subCmdId : UInt8) (crc : UInt16) :
    (outerSection seqByte subSeq cmdSet cmdId subCmdId crc).length = 12 := rfl

@[simp] theorem innerSection_length (payload : List UInt8) (crc : UInt16) :
    (innerSection payload crc).length = 4 + payload.length := by
  simp only [innerSection, List.length_append, toLe_length]

@[simp] theorem frameBody_length (seqByte subSeq cmdSet cmdId subCmdId : UInt8)
    (payload : List UInt8) :
    (frameBody seqByte subSeq cmdSet cmdId subCmdId payload).length = 16 + payload.length := by
  rw [frameBody, List.length_append, outerSection_length, innerSection_length]
  omega

theorem u16TryFrom_of_lt {n : ℕ} (h : n < 65536) (message : String) :
    u16TryFrom n message = .ok (UInt16.ofNat n) := if_pos h

/-! ## The builder -/

section Builder
variable (seqByte subSeq cmdSet cmdId subCmdId : UInt8) {payload : List UInt8} {tailOffset : ℕ}
  {tail : List UInt8}

/-- The buffer once every logical piece is in place and before the CRCs are. -/
theorem splice_pieces (h : AdmitsFrame payload tailOffset tail) :
    splice (splice (outerSection seqByte subSeq cmdSet cmdId subCmdId 0 ++
        toLe 2 payload.length ++ List.replicate 46 0) 16 payload) tailOffset tail =
      outerSection seqByte subSeq cmdSet cmdId subCmdId 0 ++ innerSection payload 0 ++
        frameRest payload tailOffset tail := by
  obtain ⟨hp, ht, hf⟩ := h
  unfold rpcFrameLen at hp hf
  have hpayload : splice (outerSection seqByte subSeq cmdSet cmdId subCmdId 0 ++
        toLe 2 payload.length ++ List.replicate 46 0) 16 payload =
      outerSection seqByte subSeq cmdSet cmdId subCmdId 0 ++ innerSection payload 0 ++
        List.replicate (44 - payload.length) 0 := by
    rw [splice_append_right _ _ (by simp), splice_replicate _ _ _ (by simp; omega)]
    simp only [innerSection, List.append_assoc, List.length_append, outerSection_length, toLe_length]
    congr 3
    rw [show 46 - (16 - (12 + 2) + payload.length) = 44 - payload.length by omega]
  have hbody : (outerSection seqByte subSeq cmdSet cmdId subCmdId 0 ++
      innerSection payload 0).length = 16 + payload.length := by
    rw [List.length_append, outerSection_length, innerSection_length]
    omega
  rw [hpayload, splice_append_right _ _ (by omega), hbody, splice_replicate _ _ _ (by omega)]
  unfold frameRest rpcFrameLen
  rw [show 44 - payload.length - (tailOffset - (16 + payload.length) + tail.length) =
    60 - (tailOffset + tail.length) by omega]

theorem buildRpcFrame_eq (h : AdmitsFrame payload tailOffset tail) :
    ∃ frame, buildRpcFrame seqByte subSeq cmdSet cmdId subCmdId payload tailOffset tail = .ok frame ∧
      frame.toList = frameBody seqByte subSeq cmdSet cmdId subCmdId payload ++
        frameRest payload tailOffset tail := by
  have hpieces := splice_pieces seqByte subSeq cmdSet cmdId subCmdId h
  obtain ⟨hp, ht, hf⟩ := h
  have hp' : 16 + payload.length ≤ 60 := by
    unfold rpcFrameLen at hp
    omega
  have hlen : (UInt16.ofNat payload.length).toNat = payload.length := by
    rw [UInt16.toNat_ofNat']
    omega
  -- the header with its two length fields, then payload and tail
  obtain ⟨b₁, e₁, l₁⟩ := ((((Bytes.zeros rpcFrameLen).set 0 0xAA).set 1 seqByte).set 2
    subSeq).copyFromSlice_ok 4 6 (toLe 2 12) rfl (by decide)
  obtain ⟨b₂, e₂, l₂⟩ := ((((b₁.set 8 0x0A).set 9 cmdSet).set 10 cmdId).set 11
    subCmdId).copyFromSlice_ok 12 14 (toLe 2 payload.length) (by simp) (by decide)
  obtain ⟨b₃, e₃, l₃⟩ := b₂.copyFromSlice_ok 16 (16 + payload.length) payload rfl hp'
  obtain ⟨b₄, e₄, l₄⟩ := b₃.copyFromSlice_ok tailOffset (tailOffset + tail.length) tail rfl hf
  have l₂' : b₂.toList = outerSection seqByte subSeq cmdSet cmdId subCmdId 0 ++
      toLe 2 payload.length ++ List.replicate 46 0 := by
    simp only [l₂, Bytes.set_toList, l₁]
    rfl
  rw [l₃, l₂', hpieces, List.append_assoc] at l₄
  -- the outer CRC covers the first twelve bytes
  have hslice : slice b₄.toList 0 12 =
      .ok (outerSection seqByte subSeq cmdSet cmdId subCmdId 0) := by
    rw [l₄]
    show slice ([] ++ (outerSection seqByte subSeq cmdSet cmdId subCmdId 0 ++ _)) 0 12 = _
    exact slice_append rfl rfl
  obtain ⟨b₅, e₅, l₅⟩ := b₄.copyFromSlice_ok 6 8
    (toLe 2 (crc16Usb (outerSection seqByte subSeq cmdSet cmdId subCmdId 0)).toNat)
    (by simp) (by decide)
  have l₅' : b₅.toList = outerSection seqByte subSeq cmdSet cmdId subCmdId
        (crc16Usb (outerSection seqByte subSeq cmdSet cmdId subCmdId 0)) ++
      (innerSection payload 0 ++ frameRest payload tailOffset tail) := by
    rw [l₅, l₄, splice_append_left _ (by simp)]
    rfl
  have hbuild : buildRpcFrame seqByte subSeq cmdSet cmdId subCmdId payload tailOffset tail =
      if seqByte &&& 0x60 ≠ 0 then (do
        let inner ← slice b₅.toList 12 (16 + payload.length)
        b₅.copyFromSlice 14 16 (toLe 2 (crc16Usb inner).toNat))
      else .ok b₅ := by
    unfold buildRpcFrame
    rw [assertThat_of hp, assertThat_of ht, assertThat_of hf, u16TryFrom_of_lt (by omega)]
    simp only [bind, Except.bind, hlen]
    rw [show (UInt16.toNat 12) = 12 from rfl, e₁]
    simp only [e₂, e₃, e₄, hslice, e₅]
    rfl
  rw [hbuild]
  by_cases hseq : seqByte &&& 0x60 ≠ 0
  · -- the inner CRC covers its own section
    have hinner : slice b₅.toList 12 (16 + payload.length) = .ok (innerSection payload 0) := by
      rw [l₅']
      exact slice_append rfl (by rw [innerSection_length]; omega)
    obtain ⟨b₆, e₆, l₆⟩ := b₅.copyFromSlice_ok 14 16
      (toLe 2 (crc16Usb (innerSection payload 0)).toNat) (by simp) (by decide)
    refine ⟨b₆, ?_, ?_⟩
    · rw [if_pos hseq, hinner]
      exact e₆
    · rw [l₆, l₅', splice_append_right _ _ (by simp), splice_append_left _ (by simp), frameBody,
        innerCrc, if_pos hseq, List.append_assoc]
      rfl
  · refine ⟨b₅, if_neg hseq, ?_⟩
    rw [l₅', frameBody, innerCrc, if_neg hseq, List.append_assoc]

theorem frame_take_body {frame : Bytes rpcFrameLen}
    (h : frame.toList = frameBody seqByte subSeq cmdSet cmdId subCmdId payload ++
      frameRest payload tailOffset tail) :
    frame.toList.take (16 + payload.length) =
      frameBody seqByte subSeq cmdSet cmdId subCmdId payload := by
  rw [h, List.take_left' (frameBody_length ..)]

end Builder

/-! ## The receiver's check -/

/-- The little-endian u16 at bytes `i`, `i + 1`. -/
def u16At (frame : List UInt8) (i : ℕ) : ℕ := fromLe ((frame.drop i).take 2)

def zeroU16At (frame : List UInt8) (i : ℕ) : List UInt8 := splice frame i [0, 0]

/-- Both CRCs, over the ranges the frame's own length fields give. -/
def receiverCheck (frame : List UInt8) : Checked Bool := do
  let outer ← slice (zeroU16At frame 6) 0 (u16At frame 4)
  let outerOk := (crc16Usb outer).toNat == u16At frame 6
  if (← index frame 1) &&& 0x60 ≠ 0 then
    let inner ← slice (zeroU16At frame 14) 12 (16 + u16At frame 12)
    return outerOk && (crc16Usb inner).toNat == u16At frame 14
  else
    return outerOk && u16At frame 14 == 0

theorem u16At_append {pre rest : List UInt8} {i v : ℕ} (hpre : pre.length = i) (hv : v < 65536) :
    u16At (pre ++ (toLe 2 v ++ rest)) i = v := by
  rw [u16At, List.drop_left' hpre, List.take_left' (toLe_length 2 v), fromLe_toLe]
  omega

theorem zeroU16At_append {pre rest : List UInt8} {i v : ℕ} (hpre : pre.length = i) :
    zeroU16At (pre ++ (toLe 2 v ++ rest)) i = pre ++ (toLe 2 0 ++ rest) := by
  rw [zeroU16At, splice_append_right _ _ hpre.le, hpre, Nat.sub_self]
  rfl

section Check
variable {seqByte subSeq cmdSet cmdId subCmdId : UInt8} {payload : List UInt8} {tailOffset : ℕ}
  {tail : List UInt8}

theorem receiverCheck_body (hp : payload.length < 65536) (rest : List UInt8) :
    receiverCheck (frameBody seqByte subSeq cmdSet cmdId subCmdId payload ++ rest) = .ok true := by
  obtain ⟨outer, houter⟩ : ∃ c, crc16Usb (outerSection seqByte subSeq cmdSet cmdId subCmdId 0) = c :=
    ⟨_, rfl⟩
  obtain ⟨inner, hinner⟩ : ∃ c, innerCrc seqByte payload = c := ⟨_, rfl⟩
  obtain ⟨frame, hframe⟩ : ∃ f, frameBody seqByte subSeq cmdSet cmdId subCmdId payload ++ rest = f :=
    ⟨_, rfl⟩
  -- the frame around its outer CRC field, and around its inner one
  have hat6 : frame = ([0xAA, seqByte, subSeq, 0] ++ toLe 2 12) ++ (toLe 2 outer.toNat ++
      ([0x0A, cmdSet, cmdId, subCmdId] ++ (innerSection payload inner ++ rest))) := by
    simp only [← hframe, ← houter, ← hinner, frameBody, outerSection, List.append_assoc]
  have hat14 : frame = (outerSection seqByte subSeq cmdSet cmdId subCmdId outer ++
      toLe 2 payload.length) ++ (toLe 2 inner.toNat ++ (payload ++ rest)) := by
    simp only [← hframe, ← houter, ← hinner, frameBody, innerSection, List.append_assoc]
  have h4 : u16At frame 4 = 12 := by
    rw [hat6, List.append_assoc]
    exact u16At_append rfl (by decide)
  have h6 : u16At frame 6 = outer.toNat := by
    rw [hat6]
    exact u16At_append rfl outer.toNat_lt
  have h12 : u16At frame 12 = payload.length := by
    rw [hat14, List.append_assoc]
    exact u16At_append rfl hp
  have h14 : u16At frame 14 = inner.toNat := by
    rw [hat14]
    exact u16At_append rfl inner.toNat_lt
  have h1 : index frame 1 = .ok seqByte := by
    rw [hat6]
    rfl
  have hzero6 : zeroU16At frame 6 = outerSection seqByte subSeq cmdSet cmdId subCmdId 0 ++
      (innerSection payload inner ++ rest) := by
    rw [hat6]
    exact zeroU16At_append rfl
  have hzero14 : zeroU16At frame 14 = outerSection seqByte subSeq cmdSet cmdId subCmdId outer ++
      (innerSection payload 0 ++ rest) := by
    rw [hat14]
    apply (zeroU16At_append rfl).trans
    simp only [innerSection, List.append_assoc]
    rfl
  have houterSlice : slice (zeroU16At frame 6) 0 12 =
      .ok (outerSection seqByte subSeq cmdSet cmdId subCmdId 0) := by
    rw [hzero6]
    show slice ([] ++ (outerSection seqByte subSeq cmdSet cmdId subCmdId 0 ++ _)) 0 12 = _
    exact slice_append rfl rfl
  have hinnerSlice : slice (zeroU16At frame 14) 12 (16 + payload.length) =
      .ok (innerSection payload 0) := by
    rw [hzero14]
    exact slice_append rfl (by rw [innerSection_length]; omega)
  rw [hframe]
  simp only [receiverCheck, h1, h4, h6, h12, h14, houterSlice, hinnerSlice, houter, bind, Except.bind,
    beq_self_eq_true, Bool.true_and]
  by_cases hseq : seqByte &&& 0x60 ≠ 0
  · have hcrc : crc16Usb (innerSection payload 0) = inner := by
      rw [← hinner, innerCrc, if_pos hseq]
    rw [if_pos hseq, hcrc, beq_self_eq_true]
    rfl
  · have hzero : inner = 0 := by
      rw [← hinner, innerCrc, if_neg hseq]
    rw [if_neg hseq, hzero]
    rfl

/-- Past the body, a byte outside the tail is zero. -/
theorem frameRest_zero (h : AdmitsFrame payload tailOffset tail) {i : ℕ}
    (hlow : 16 + payload.length ≤ i) (hhigh : i < rpcFrameLen)
    (houtside : ¬ (tailOffset ≤ i ∧ i < tailOffset + tail.length)) :
    (frameRest payload tailOffset tail)[i - (16 + payload.length)]? = some 0 := by
  obtain ⟨hp, ht, hf⟩ := h
  unfold frameRest
  by_cases hbefore : i < tailOffset
  · rw [List.append_assoc, List.getElem?_append_left (by simp; omega),
      List.getElem?_replicate_of_lt (by omega)]
  · have hafter : tailOffset + tail.length ≤ i := by omega
    rw [List.getElem?_append_right (by simp; omega), List.getElem?_replicate_of_lt (by simp; omega)]

end Check

/-! ## The frames the builder returns pass the check -/

theorem buildRpcFrame_checks (seqByte subSeq cmdSet cmdId subCmdId : UInt8) (payload : List UInt8)
    (tailOffset : ℕ) (tail : List UInt8) (h : AdmitsFrame payload tailOffset tail) :
    ∃ frame, buildRpcFrame seqByte subSeq cmdSet cmdId subCmdId payload tailOffset tail = .ok frame ∧
      receiverCheck frame.toList = .ok true ∧
      (frame.toList.drop 16).take payload.length = payload ∧
      (frame.toList.drop tailOffset).take tail.length = tail ∧
      (∀ i, 16 + payload.length ≤ i → i < rpcFrameLen →
        ¬ (tailOffset ≤ i ∧ i < tailOffset + tail.length) → frame.toList[i]? = some 0) ∧
      ∀ tailOffset' tail', AdmitsFrame payload tailOffset' tail' → ∃ frame',
        buildRpcFrame seqByte subSeq cmdSet cmdId subCmdId payload tailOffset' tail' = .ok frame' ∧
        frame'.toList.take (16 + payload.length) = frame.toList.take (16 + payload.length) := by
  obtain ⟨frame, hbuild, hbytes⟩ := buildRpcFrame_eq seqByte subSeq cmdSet cmdId subCmdId h
  refine ⟨frame, hbuild, ?_, ?_, ?_, ?_, ?_⟩
  · have hp : payload.length < 65536 := by
      have := h.1
      unfold rpcFrameLen at this
      omega
    rw [hbytes]
    exact receiverCheck_body hp _
  · rw [hbytes, List.drop_append_of_le_length (by rw [frameBody_length]; omega), frameBody,
      innerSection, ← List.append_assoc, List.drop_left' (by simp), List.take_left]
  · have hbefore : (frameBody seqByte subSeq cmdSet cmdId subCmdId payload ++
        List.replicate (tailOffset - (16 + payload.length)) 0).length = tailOffset := by
      have := h.2.1
      rw [List.length_append, frameBody_length, List.length_replicate]
      omega
    rw [hbytes, frameRest, List.append_assoc, ← List.append_assoc, List.drop_left' hbefore,
      List.take_left]
  · intro i hlow hhigh houtside
    rw [hbytes, List.getElem?_append_right (by rw [frameBody_length]; omega), frameBody_length]
    exact frameRest_zero h hlow hhigh houtside
  · intro tailOffset' tail' h'
    obtain ⟨frame', hbuild', hbytes'⟩ := buildRpcFrame_eq seqByte subSeq cmdSet cmdId subCmdId h'
    exact ⟨frame', hbuild', by rw [frame_take_body _ _ _ _ _ hbytes, frame_take_body _ _ _ _ _ hbytes']⟩

/-- The captured face-focus request, whose sequence byte asks for both CRCs. -/
theorem buildRpcFrame_checks_faceFocus :
    AdmitsFrame [1, 0, 0, 0] 26 [0xad, 0xb6, 0x1b, 0x98, 0xdc, 0x8d, 1, 1] ∧
      ∃ frame, buildRpcFrame 0x25 0x04 0x02 0x02 0x36 [1, 0, 0, 0] 26
          [0xad, 0xb6, 0x1b, 0x98, 0xdc, 0x8d, 1, 1] = .ok frame ∧
        receiverCheck frame.toList = .ok true := by
  refine ⟨by decide, ?_⟩
  obtain ⟨frame, hbuild, hcheck, _⟩ := buildRpcFrame_checks 0x25 0x04 0x02 0x02 0x36 [1, 0, 0, 0] 26
    [0xad, 0xb6, 0x1b, 0x98, 0xdc, 0x8d, 1, 1] (by decide)
  exact ⟨frame, hbuild, hcheck⟩

end Libobsbot.Meet2

import Libobsbot.Rpc.Replies

/-! # One layout for requests and replies

The builder writes the offsets of a frame as literals, the parser reads them through named constants, and
only the direction marker in bytes 8 and 9 tells a request from a reply. Turned into reply form, a frame
parses back to the command and the payload it was built from, whatever its tail and CRCs; as it was
built, nothing parses it.
-/

namespace Libobsbot.Meet2
open Foundations
set_option autoImplicit false
set_option maxRecDepth 4000

/-- The frame with the reply marker in bytes 8 and 9. -/
def withReplyMarker (frame : Bytes rpcFrameLen) : Bytes rpcFrameLen := frame.overwrite 8 [0x0D, 0x0A]

section Formats
variable {seqByte subSeq cmdSet cmdId subCmdId : UInt8} {payload : List UInt8} {tailOffset : ℕ}
  {tail : List UInt8} {frame : Bytes rpcFrameLen}

theorem admitsFrame_of_build
    (h : buildRpcFrame seqByte subSeq cmdSet cmdId subCmdId payload tailOffset tail = .ok frame) :
    AdmitsFrame payload tailOffset tail := by
  unfold buildRpcFrame at h
  by_cases hpayload : payload.length + 16 ≤ rpcFrameLen
  · rw [assertThat_of hpayload] at h
    by_cases hoverlap : 16 + payload.length ≤ tailOffset
    · rw [assertThat_of hoverlap] at h
      by_cases hpast : tailOffset + tail.length ≤ rpcFrameLen
      · exact ⟨hpayload, hoverlap, hpast⟩
      · rw [assertThat, if_neg hpast] at h
        cases h
    · rw [assertThat, if_neg hoverlap] at h
      cases h
  · rw [assertThat, if_neg hpayload] at h
    cases h

theorem toList_of_build
    (h : buildRpcFrame seqByte subSeq cmdSet cmdId subCmdId payload tailOffset tail = .ok frame) :
    frame.toList = frameBody seqByte subSeq cmdSet cmdId subCmdId payload ++
      frameRest payload tailOffset tail := by
  obtain ⟨frame', hbuild, hbytes⟩ :=
    buildRpcFrame_eq seqByte subSeq cmdSet cmdId subCmdId (admitsFrame_of_build h)
  rw [hbuild] at h
  cases h
  exact hbytes

theorem not_isReply_of_build
    (h : buildRpcFrame seqByte subSeq cmdSet cmdId subCmdId payload tailOffset tail = .ok frame) :
    ¬ IsReply frame.toList := by
  obtain ⟨frame', hbuild, -, hno⟩ := buildRpcFrame_request (admitsFrame_of_build h)
  rw [hbuild] at h
  cases h
  exact hno

def replySection (seqByte subSeq cmdId subCmdId : UInt8) (crc : UInt16) : List UInt8 :=
  [0xAA, seqByte, subSeq, 0] ++ toLe 2 12 ++ toLe 2 crc.toNat ++ [0x0D, 0x0A, cmdId, subCmdId]

theorem withReplyMarker_toList
    (h : buildRpcFrame seqByte subSeq cmdSet cmdId subCmdId payload tailOffset tail = .ok frame) :
    ∃ outer inner, (withReplyMarker frame).toList =
      replySection seqByte subSeq cmdId subCmdId outer ++
        (innerSection payload inner ++ frameRest payload tailOffset tail) := by
  refine ⟨crc16Usb (outerSection seqByte subSeq cmdSet cmdId subCmdId 0), innerCrc seqByte payload, ?_⟩
  rw [withReplyMarker, Bytes.overwrite_toList _ (by decide), toList_of_build h, frameBody,
    List.append_assoc]
  rfl

/-- The parser on the layout of a request under a reply's marker: the CRCs and what follows the payload
do not matter. -/
theorem parseRpcReply_replySection (outer inner : UInt16) (hpayload : payload.length < 65536)
    (rest : List UInt8) :
    parseRpcReply (replySection seqByte subSeq cmdId subCmdId outer ++
      (innerSection payload inner ++ rest)) = .ok (some (cmdId, subCmdId, payload)) := by
  obtain ⟨buf, hbuf⟩ : ∃ buf, replySection seqByte subSeq cmdId subCmdId outer ++
    (innerSection payload inner ++ rest) = buf := ⟨_, rfl⟩
  have hsection : (replySection seqByte subSeq cmdId subCmdId outer).length = rpcLenOffset := rfl
  have hheader : (replySection seqByte subSeq cmdId subCmdId outer ++
      (toLe 2 payload.length ++ toLe 2 inner.toNat)).length = rpcPayloadOffset := rfl
  have hlength : buf.length = rpcPayloadOffset + payload.length + rest.length := by
    rw [← hbuf, List.length_append, List.length_append, hsection, innerSection_length]
    unfold rpcLenOffset rpcPayloadOffset
    omega
  have hcount : u16At buf rpcLenOffset = payload.length := by
    rw [← hbuf, innerSection, List.append_assoc, List.append_assoc]
    exact u16At_append hsection hpayload
  have hbytes : payloadOf buf = payload := by
    rw [payloadOf, hcount, ← hbuf, innerSection, List.append_assoc _ payload, ← List.append_assoc,
      List.drop_left' hheader, List.take_left]
  have hcommand : commandAt buf = (cmdId, subCmdId) := by
    rw [← hbuf]
    rfl
  have hreply : IsReply buf := by
    refine ⟨by omega, ?_, ?_, ?_, by omega⟩
    · rw [← hbuf]
      rfl
    · rw [← hbuf]
      rfl
    · rw [← hbuf]
      rfl
  rw [hbuf, parseRpcReply_of_isReply hreply, hcommand, hbytes]

/-- A frame turned into reply form parses back to the command and payload it was built from; the frame
itself is refused by the parser and by every decoder. -/
theorem request_and_reply_agree
    (h : buildRpcFrame seqByte subSeq cmdSet cmdId subCmdId payload tailOffset tail = .ok frame) :
    parseRpcReply (withReplyMarker frame).toList = .ok (some (cmdId, subCmdId, payload)) ∧
      parseRpcReply frame.toList = .ok none ∧ decodeFirmwareReply frame.toList = .ok none ∧
      decodeSerialReply frame.toList = .ok none ∧ decodeMacQueryReply frame.toList = .ok none := by
  have hfits := (admitsFrame_of_build h).1
  unfold rpcFrameLen at hfits
  have hparse := parseRpcReply_of_not_isReply (not_isReply_of_build h)
  refine ⟨?_, hparse, ?_, ?_, ?_⟩
  · obtain ⟨outer, inner, hmarked⟩ := withReplyMarker_toList h
    rw [hmarked]
    exact parseRpcReply_replySection outer inner (by omega) _
  · rw [decodeFirmwareReply, hparse]
    rfl
  · rw [decodeSerialReply, hparse]
    rfl
  · rw [decodeMacQueryReply, hparse]
    rfl

end Formats

/-- A payload that fills the frame, under the reply marker's own second byte as command set. -/
theorem request_and_reply_agree_longest :
    ∃ frame, buildRpcFrame 0x25 0x04 0x0A 0x02 0x36 (List.replicate 44 0xFF) 60 [] = .ok frame ∧
      parseRpcReply (withReplyMarker frame).toList =
        .ok (some (0x02, 0x36, List.replicate 44 0xFF)) ∧
      parseRpcReply frame.toList = .ok none := by
  have hadmits : AdmitsFrame (List.replicate 44 0xFF) 60 [] := by decide
  obtain ⟨frame, hbuild, -⟩ := buildRpcFrame_eq 0x25 0x04 0x0A 0x02 0x36 hadmits
  obtain ⟨hmarked, hparse, -⟩ := request_and_reply_agree hbuild
  exact ⟨frame, hbuild, hmarked, hparse⟩

end Libobsbot.Meet2

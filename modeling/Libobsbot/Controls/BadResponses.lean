import Libobsbot.Rpc.PollLoops

/-! # Which reply a `BadResponse` is about

A read that decodes ends with the transport's error, with a value, or with a `BadResponse` of its own. The latter names
the selector of a GET whose reply the read's decoder does not accept, except that `decode_wdr` names selector 0
(`bad_response_traced_iff`).
-/

namespace Libobsbot.BadResponses
open Foundations
open Foundations.Program (Steps Exchange)
set_option autoImplicit false

/-! ## Transfers -/

abbrev Transfers : Type := List (Exchange TransportOp TransportOp.Reply)

/-- The selector of a GET that succeeded, and the buffer as it left it. -/
def replyOf : Exchange TransportOp TransportOp.Reply → Option (UInt8 × List UInt8)
  | ⟨.uvcGet _ _ selector _ _, (buf, .ok _)⟩ => some (selector, buf.toList)
  | _ => none

def failureOf : Exchange TransportOp TransportOp.Reply → Option Error
  | ⟨.uvcSet _ _ _, .error e⟩ => some e
  | ⟨.uvcGet _ _ _ _ _, (_, .error e)⟩ => some e
  | _ => none

def replies (t : Transfers) : List (UInt8 × List UInt8) := t.filterMap replyOf

def failures (t : Transfers) : List Error := t.filterMap failureOf

/-! ## The reads -/

/-- The reads that do not take every reply. -/
inductive DecodedRead (Location : Type) where
  | wdr
  | faceAe
  | aiMode
  | aeMode
  | aeLock
  | antiFlicker
  | firmwareFromCamera (self : Device Location)
  | serialFromCamera (self : Device Location)
  | learnMac

namespace DecodedRead
variable {Location : Type}

abbrev Value : DecodedRead Location → Type
  | .wdr => WdrMode
  | .faceAe => Bool
  | .aiMode => AiMode
  | .aeMode => AeMode
  | .aeLock => Bool
  | .antiFlicker => AntiFlicker
  | .firmwareFromCamera _ => String
  | .serialFromCamera _ => String
  | .learnMac => Bytes 6

def program : (read : DecodedRead Location) → DeviceM read.Value
  | .wdr => Device.wdr
  | .faceAe => Device.faceAe
  | .aiMode => Device.aiMode
  | .aeMode => Device.aeMode
  | .aeLock => Device.aeLock
  | .antiFlicker => Device.antiFlicker
  | .firmwareFromCamera self => self.firmwareFromCamera
  | .serialFromCamera self => self.serialFromCamera
  | .learnMac => Libobsbot.learnMac

/-- The blob begins as a status blob does. -/
def Marked (blob : List UInt8) : Prop := blob.headD 0 = Meet2.statusBlobMarker

instance (blob : List UInt8) : Decidable (Marked blob) := inferInstanceAs (Decidable (_ = _))

/-- The decoder takes the buffer. -/
def Accepts : DecodedRead Location → List UInt8 → Prop
  | .wdr, blob => Marked blob ∧ ∃ mode, decodeWdr (blob.getD Meet2.statusWdrOffset 0) = .ok mode
  | .faceAe, blob => Marked blob
  | .aiMode, blob => Marked blob ∧ ∃ mode, decodeAiMode (blob.getD Meet2.statusAiModeOffset 0).toUInt16 = .ok mode
  | .aeMode, buf | .aeLock, buf => buf.headD 0 ∈ [0x01, 0x02, 0x04, 0x08]
  | .antiFlicker, buf => buf.headD 0 ∈ [0, 1, 2, 3]
  | .firmwareFromCamera _, buf => ∃ s, Meet2.decodeFirmwareReply buf = .ok (some s)
  | .serialFromCamera _, buf => ∃ s, Meet2.decodeSerialReply buf = .ok (some s)
  | .learnMac, buf => ∃ mac, Meet2.decodeMacQueryReply buf = .ok (some mac)

/-- A `BadResponse` names the selector of a GET of the read, and the decoder does not take that GET's reply. -/
def Traced (read : DecodedRead Location) (t : Transfers) (r : Result read.Value) : Prop :=
  ∀ selector bytes, r = .error (.badResponse selector bytes) → ∃ buf, (selector, buf) ∈ replies t ∧ ¬ read.Accepts buf

/-- A marked blob whose WDR byte stands for no mode. -/
def StrangeWdr (read : DecodedRead Location) (t : Transfers) : Prop :=
  read = .wdr ∧ ∃ blob, (Meet2.xuSelModeRegister, blob) ∈ replies t ∧ Marked blob ∧
    blob.getD Meet2.statusWdrOffset 0 ∉ [0, 1]

end DecodedRead

/-- The transport fails a transfer with a `BadResponse` of its own, other than with selector 0x02 in a poll loop that
has read a reply. -/
def ForeignBadResponse (t : Transfers) : Prop :=
  ∃ selector bytes, .badResponse selector bytes ∈ failures t ∧ ¬ (selector = Meet2.xuSelRpc ∧ replies t ≠ [])

/-! ## How a read ends -/

section Ends
variable {Location : Type} {read : DecodedRead Location} {t : Transfers} {r : Result read.Value}

inductive Ends (read : DecodedRead Location) : Transfers → Result read.Value → Prop
  | failed {t : Transfers} {e : Error} (failure : failures t = [e])
      (before : ∀ p ∈ replies t, p.1 = Meet2.xuSelRpc ∧ ¬ read.Accepts p.2) : Ends read t (.error e)
  | accepted {t : Transfers} {v : read.Value} (sound : failures t = []) (plain : ¬ read.StrangeWdr t) :
      Ends read t (.ok v)
  | rejected {t : Transfers} {selector : UInt8} {buf bytes : List UInt8} (sound : failures t = [])
      (plain : ¬ read.StrangeWdr t) (reply : (selector, buf) ∈ replies t) (refused : ¬ read.Accepts buf) :
      Ends read t (.error (.badResponse selector bytes))
  | misnamed {t : Transfers} {bytes : List UInt8} (sound : failures t = []) (strange : read.StrangeWdr t)
      (only : ∀ p ∈ replies t, p.1 = Meet2.xuSelModeRegister) : Ends read t (.error (.badResponse 0 bytes))

theorem Ends.traced_iff (h : Ends read t r) : read.Traced t r ↔ ¬ ForeignBadResponse t ∧ ¬ read.StrangeWdr t := by
  have hsound : failures t = [] → ¬ ForeignBadResponse t := by
    rintro hnone ⟨selector, bytes, hmem, -⟩
    rw [hnone] at hmem
    cases hmem
  cases h with
  | @failed e failure before =>
    have hplain : ¬ read.StrangeWdr t := by
      rintro ⟨-, blob, hmem, -⟩
      have hselector : Meet2.xuSelModeRegister = Meet2.xuSelRpc := (before _ hmem).1
      exact absurd hselector (by decide)
    rw [and_iff_left hplain]
    constructor
    · rintro htraced ⟨selector, bytes, hmem, hforeign⟩
      rw [failure, List.mem_singleton] at hmem
      obtain ⟨buf, hbuf, -⟩ := htraced selector bytes (by rw [hmem])
      exact hforeign ⟨(before _ hbuf).1, List.ne_nil_of_mem hbuf⟩
    · intro hforeign selector bytes he
      have hmem : Error.badResponse selector bytes ∈ failures t := by
        rw [failure, List.mem_singleton]
        exact (Except.error.inj he).symm
      by_contra hnone
      refine hforeign ⟨selector, bytes, hmem, ?_⟩
      rintro ⟨rfl, hreplies⟩
      obtain ⟨⟨s, buf⟩, hbuf⟩ := List.exists_mem_of_ne_nil _ hreplies
      obtain ⟨rfl, hrefused⟩ := before _ hbuf
      exact hnone ⟨buf, hbuf, hrefused⟩
  | accepted sound plain =>
    refine iff_of_true (fun selector bytes he => ?_) ⟨hsound sound, plain⟩
    cases he
  | rejected sound plain reply refused =>
    refine iff_of_true (fun s b he => ?_) ⟨hsound sound, plain⟩
    cases he
    exact ⟨_, reply, refused⟩
  | misnamed sound strange only =>
    refine iff_of_false (fun htraced => ?_) fun h => h.2 strange
    obtain ⟨buf, hbuf, -⟩ := htraced 0 _ rfl
    have hselector : (0 : UInt8) = Meet2.xuSelModeRegister := only _ hbuf
    exact absurd hselector (by decide)

end Ends

/-! ## Reads of one GET -/

section OneGet
variable {Location α : Type} {n : ℕ} {t : Transfers}

theorem steps_get_then {entity selector : UInt8} {decode : Bytes n → Result α} {r : Result α}
    (h : Steps (uvcGet .cur entity selector (Bytes.zeros n) >>= fun got =>
      (.mk (.done (decode got.2)) : DeviceM α)).run t (.done r)) : ∃ buf got,
      t = [⟨.uvcGet .cur entity selector n (Bytes.zeros n), (buf, got)⟩] ∧
        ((∃ e, got = .error e ∧ r = .error e) ∨ ∃ len, got = .ok len ∧ r = decode buf) := by
  obtain ⟨-, hopen⟩ | ⟨⟨buf, got⟩, u, rfl, hu⟩ := Program.steps_perform.mp h
  · cases hopen
  cases got with
  | error e =>
    obtain ⟨rfl, hdone⟩ := Program.steps_done.mp hu
    cases hdone
    exact ⟨buf, _, rfl, .inl ⟨e, rfl, rfl⟩⟩
  | ok len =>
    obtain ⟨rfl, hdone⟩ := Program.steps_done.mp hu
    cases hdone
    exact ⟨buf, _, rfl, .inr ⟨len, rfl, rfl⟩⟩

/-- The end of such a read, from what it makes of a reply. -/
theorem ends_of_get (read : DecodedRead Location) (entity selector : UInt8) (decode : Bytes n → Result read.Value)
    {r : Result read.Value}
    (hprogram : read.program = uvcGet .cur entity selector (Bytes.zeros n) >>= fun got => .mk (.done (decode got.2)))
    (hreply : ∀ buf len,
      Ends read [⟨.uvcGet .cur entity selector n (Bytes.zeros n), (buf, Except.ok len)⟩] (decode buf))
    (h : Steps read.program.run t (.done r)) : Ends read t r := by
  rw [hprogram] at h
  obtain ⟨buf, got, rfl, ⟨e, rfl, rfl⟩ | ⟨len, rfl, rfl⟩⟩ := steps_get_then h
  · exact .failed rfl fun p hp => by cases hp
  · exact hreply buf len

/-- A decoder that refuses with the selector of the GET. -/
theorem ends_of_decoder {read : DecodedRead Location} {entity selector : UInt8} {decode : Bytes n → Result read.Value}
    (hother : read ≠ .wdr) (hrefuses : ∀ buf e, decode buf = .error e →
      ¬ read.Accepts buf.toList ∧ ∃ bytes, e = .badResponse selector bytes) (buf : Bytes n) (len : ℕ) :
    Ends read [⟨.uvcGet .cur entity selector n (Bytes.zeros n), (buf, Except.ok len)⟩] (decode buf) := by
  have hplain : ¬ read.StrangeWdr [⟨.uvcGet .cur entity selector n (Bytes.zeros n), (buf, Except.ok len)⟩] :=
    fun h => hother h.1
  cases hdecode : decode buf with
  | ok v => exact .accepted rfl hplain
  | error e =>
    obtain ⟨hrefused, bytes, rfl⟩ := hrefuses buf e hdecode
    exact .rejected rfl hplain List.mem_cons_self hrefused

end OneGet

/-! ## The status blob -/

section Blob
variable {Location α : Type} {t : Transfers}

/-- A getter of the status blob, with the marker checked first. -/
def decodeBlob (decode : Bytes Meet2.modeRegisterPayloadLen → Result α) (blob : Bytes Meet2.modeRegisterPayloadLen) :
    Result α :=
  if DecodedRead.Marked blob.toList then decode blob else .error (.badResponse Meet2.xuSelModeRegister blob.toList)

section Marker
variable {decode : Bytes Meet2.modeRegisterPayloadLen → Result α} {blob : Bytes Meet2.modeRegisterPayloadLen}

theorem decodeBlob_marked (h : DecodedRead.Marked blob.toList) : decodeBlob decode blob = decode blob :=
  if_pos h

theorem decodeBlob_unmarked (h : ¬ DecodedRead.Marked blob.toList) :
    decodeBlob decode blob = .error (.badResponse Meet2.xuSelModeRegister blob.toList) :=
  if_neg h

end Marker

theorem readStatusBlob_then (decode : Bytes Meet2.modeRegisterPayloadLen → Result α) :
    (Device.readStatusBlob >>= fun blob => (.mk (.done (decode blob)) : DeviceM α)) =
      uvcGet .cur Meet2.xuEntityId Meet2.xuSelModeRegister (Bytes.zeros Meet2.modeRegisterPayloadLen) >>= fun got =>
        .mk (.done (decodeBlob decode got.2)) := by
  rw [Device.readStatusBlob, bind_assoc]
  refine bind_congr fun got => ?_
  obtain ⟨len, blob⟩ := got
  dsimp only
  by_cases h : DecodedRead.Marked blob.toList
  · have hbyte : ¬ blob.toList.headD 0 ≠ Meet2.statusBlobMarker := not_not.mpr h
    rw [decodeBlob_marked h, if_neg hbyte]
    rfl
  · have hbyte : blob.toList.headD 0 ≠ Meet2.statusBlobMarker := h
    rw [decodeBlob_unmarked h, if_pos hbyte]
    rfl

theorem decodeAiMode_error {v : UInt16} {e : Error} (h : decodeAiMode v = .error e) :
    e = .badResponse Meet2.xuSelModeRegister (u16ToLe v) := by
  unfold decodeAiMode at h
  split_ifs at h
  cases h
  rfl

theorem decodeWdr_ok_iff {b : UInt8} : (∃ mode, decodeWdr b = .ok mode) ↔ b ∈ [0, 1] := by
  unfold decodeWdr
  split_ifs with hoff hon <;> simp_all

theorem decodeWdr_error {b : UInt8} (h : b ∉ [0, 1]) : decodeWdr b = .error (.badResponse 0 [b]) := by
  rw [List.mem_cons, List.mem_singleton, not_or] at h
  rw [decodeWdr, if_neg h.1, if_neg h.2]

/-- Of the blob's getters, those whose decoder names the selector. -/
theorem ends_of_blob (read : DecodedRead Location) (decode : Bytes Meet2.modeRegisterPayloadLen → Result read.Value)
    (hprogram : read.program = Device.readStatusBlob >>= fun blob => .mk (.done (decode blob)))
    (hother : read ≠ .wdr) (hmarked : ∀ blob, read.Accepts blob → DecodedRead.Marked blob)
    (hrefuses : ∀ blob e, decode blob = .error e →
      ¬ read.Accepts blob.toList ∧ ∃ bytes, e = .badResponse Meet2.xuSelModeRegister bytes)
    {r : Result read.Value} (h : Steps read.program.run t (.done r)) : Ends read t r := by
  rw [readStatusBlob_then] at hprogram
  refine ends_of_get read _ _ _ hprogram (ends_of_decoder hother fun blob e hdecode => ?_) h
  by_cases hblob : DecodedRead.Marked blob.toList
  · rw [decodeBlob_marked hblob] at hdecode
    exact hrefuses blob e hdecode
  · rw [decodeBlob_unmarked hblob] at hdecode
    cases hdecode
    exact ⟨fun haccepts => hblob (hmarked _ haccepts), _, rfl⟩

theorem ends_faceAe {r : Result Bool} (h : Steps Device.faceAe.run t (.done r)) :
    Ends (.faceAe : DecodedRead Location) t r := by
  refine ends_of_blob .faceAe (fun blob => .ok (Device.blobByte blob Meet2.statusFaceAeOffset != 0)) rfl
    (by simp) (fun _ => id) (fun blob e hdecode => ?_) h
  cases hdecode

theorem ends_aiMode {r : Result AiMode} (h : Steps Device.aiMode.run t (.done r)) :
    Ends (.aiMode : DecodedRead Location) t r := by
  refine ends_of_blob .aiMode (fun blob => decodeAiMode (Device.blobByte blob Meet2.statusAiModeOffset).toUInt16) rfl
    (by simp) (fun _ => And.left) (fun blob e hdecode => ⟨?_, ?_⟩) h
  · rintro ⟨-, mode, hmode⟩
    have hboth : Except.error e = Except.ok mode := hdecode.symm.trans hmode
    cases hboth
  · exact ⟨_, decodeAiMode_error hdecode⟩

theorem strangeWdr_iff {t : Transfers} {blob : List UInt8}
    (hreplies : replies t = [(Meet2.xuSelModeRegister, blob)]) : (DecodedRead.wdr : DecodedRead Location).StrangeWdr t ↔
      DecodedRead.Marked blob ∧ blob.getD Meet2.statusWdrOffset 0 ∉ [0, 1] := by
  unfold DecodedRead.StrangeWdr
  rw [hreplies]
  constructor
  · rintro ⟨-, blob', hmem, hstrange⟩
    cases List.mem_singleton.mp hmem
    exact hstrange
  · exact fun hstrange => ⟨rfl, blob, List.mem_cons_self, hstrange⟩

/-- `wdr` of a reply: the marker's refusal names the register, the mode's refusal does not. -/
theorem ends_wdr {r : Result WdrMode} (h : Steps Device.wdr.run t (.done r)) :
    Ends (.wdr : DecodedRead Location) t r := by
  refine ends_of_get .wdr Meet2.xuEntityId Meet2.xuSelModeRegister
    (decodeBlob fun blob => decodeWdr (Device.blobByte blob Meet2.statusWdrOffset))
    (readStatusBlob_then _) (fun blob len => ?_) h
  set got : Transfers := [⟨.uvcGet .cur Meet2.xuEntityId Meet2.xuSelModeRegister Meet2.modeRegisterPayloadLen
    (Bytes.zeros Meet2.modeRegisterPayloadLen), (blob, Except.ok len)⟩]
  have hreplies : replies got = [(Meet2.xuSelModeRegister, blob.toList)] := rfl
  have hstrange := @strangeWdr_iff Location got blob.toList hreplies
  by_cases hmarked : DecodedRead.Marked blob.toList
  · rw [decodeBlob_marked hmarked]
    by_cases hbyte : Device.blobByte blob Meet2.statusWdrOffset ∈ [0, 1]
    · obtain ⟨mode, hmode⟩ := decodeWdr_ok_iff.mpr hbyte
      rw [hmode]
      exact .accepted rfl fun h => (hstrange.mp h).2 hbyte
    · rw [decodeWdr_error hbyte]
      refine .misnamed rfl (hstrange.mpr ⟨hmarked, hbyte⟩) fun p hp => ?_
      rw [hreplies] at hp
      rw [List.mem_singleton.mp hp]
  · rw [decodeBlob_unmarked hmarked]
    exact .rejected rfl (fun h => hmarked (hstrange.mp h).1) List.mem_cons_self fun haccepts => hmarked haccepts.1

end Blob

/-! ## The UVC enumerations -/

section Enumerations
variable {Location : Type} {t : Transfers}

/-- What `ae_mode` makes of its byte. -/
def aeModeOf (b : UInt8) : Result AeMode :=
  if b = 0x01 then .ok .manual
  else if b = 0x02 then .ok .auto
  else if b = 0x04 then .ok .shutterPriority
  else if b = 0x08 then .ok .aperturePriority
  else .error (.badResponse Uvc.Ct.aeMode [b])

/-- What `anti_flicker` makes of its byte. -/
def antiFlickerOf (b : UInt8) : Result AntiFlicker :=
  if b = 0 then .ok .off
  else if b = 1 then .ok .hz50
  else if b = 2 then .ok .hz60
  else if b = 3 then .ok .auto
  else .error (.badResponse Uvc.Pu.powerLineFrequency [b])

theorem aeMode_eq : Device.aeMode = uvcGet .cur Uvc.cameraTerminal Uvc.Ct.aeMode (Bytes.zeros 1) >>= fun got =>
    .mk (.done (aeModeOf (Device.onlyByte got.2))) := by
  refine bind_congr fun got => ?_
  unfold aeModeOf
  dsimp only
  split_ifs <;> rfl

theorem aeLock_eq : Device.aeLock = uvcGet .cur Uvc.cameraTerminal Uvc.Ct.aeMode (Bytes.zeros 1) >>= fun got =>
    .mk (.done ((aeModeOf (Device.onlyByte got.2)).map fun mode => decide (mode = .manual))) := by
  rw [Device.aeLock, aeMode_eq, bind_assoc]
  refine bind_congr fun got => ?_
  cases aeModeOf (Device.onlyByte got.2) <;> rfl

theorem antiFlicker_eq : Device.antiFlicker =
    uvcGet .cur Uvc.processingUnit Uvc.Pu.powerLineFrequency (Bytes.zeros 1) >>= fun got =>
      .mk (.done (antiFlickerOf (Device.onlyByte got.2))) := by
  refine bind_congr fun got => ?_
  unfold antiFlickerOf
  dsimp only
  split_ifs <;> rfl

theorem aeModeOf_error {b : UInt8} {e : Error} (h : aeModeOf b = .error e) :
    b ∉ [0x01, 0x02, 0x04, 0x08] ∧ e = .badResponse Uvc.Ct.aeMode [b] := by
  unfold aeModeOf at h
  split_ifs at h with hmanual hauto hshutter haperture
  cases h
  exact ⟨by simp [hmanual, hauto, hshutter, haperture], rfl⟩

theorem antiFlickerOf_error {b : UInt8} {e : Error} (h : antiFlickerOf b = .error e) :
    b ∉ [0, 1, 2, 3] ∧ e = .badResponse Uvc.Pu.powerLineFrequency [b] := by
  unfold antiFlickerOf at h
  split_ifs at h with hoff hfifty hsixty hauto
  cases h
  exact ⟨by simp [hoff, hfifty, hsixty, hauto], rfl⟩

theorem ends_aeMode {r : Result AeMode} (h : Steps Device.aeMode.run t (.done r)) :
    Ends (.aeMode : DecodedRead Location) t r := by
  refine ends_of_get .aeMode Uvc.cameraTerminal Uvc.Ct.aeMode (fun buf => aeModeOf (Device.onlyByte buf)) aeMode_eq
    (ends_of_decoder (by simp) fun buf e hdecode => ?_) h
  obtain ⟨hrefused, rfl⟩ := aeModeOf_error hdecode
  exact ⟨hrefused, _, rfl⟩

theorem ends_aeLock {r : Result Bool} (h : Steps Device.aeLock.run t (.done r)) :
    Ends (.aeLock : DecodedRead Location) t r := by
  refine ends_of_get .aeLock Uvc.cameraTerminal Uvc.Ct.aeMode
    (fun buf => (aeModeOf (Device.onlyByte buf)).map fun mode => decide (mode = AeMode.manual)) aeLock_eq
    (ends_of_decoder (by simp) fun buf e hdecode => ?_) h
  cases hmode : aeModeOf (Device.onlyByte buf) with
  | ok mode =>
    rw [hmode] at hdecode
    cases hdecode
  | error e' =>
    rw [hmode] at hdecode
    cases hdecode
    obtain ⟨hrefused, rfl⟩ := aeModeOf_error hmode
    exact ⟨hrefused, _, rfl⟩

theorem ends_antiFlicker {r : Result AntiFlicker} (h : Steps Device.antiFlicker.run t (.done r)) :
    Ends (.antiFlicker : DecodedRead Location) t r := by
  refine ends_of_get .antiFlicker Uvc.processingUnit Uvc.Pu.powerLineFrequency
    (fun buf => antiFlickerOf (Device.onlyByte buf)) antiFlicker_eq
    (ends_of_decoder (by simp) fun buf e hdecode => ?_) h
  obtain ⟨hrefused, rfl⟩ := antiFlickerOf_error hdecode
  exact ⟨hrefused, _, rfl⟩

end Enumerations

/-! ## The poll loops -/

section Loops
variable {Location : Type} {t : Transfers}

def gotReply (got : PollLoops.Got) : Option (UInt8 × List UInt8) :=
  got.2.toOption.map fun _ => (Meet2.xuSelRpc, got.1.toList)

def gotFailure : PollLoops.Got → Option Error
  | (_, .error e) => some e
  | (_, .ok _) => none

theorem filterMap_transfers {β : Type} {f : Exchange TransportOp TransportOp.Reply → Option β}
    {g : PollLoops.Got → Option β} (hsleep : ∀ ms, f ⟨.sleep ms, ()⟩ = none)
    (hget : ∀ reply got, f ⟨.uvcGet .cur Meet2.xuEntityId Meet2.xuSelRpc Meet2.rpcFrameLen reply, got⟩ = g got)
    (gets : List PollLoops.Got) (attempt : ℕ) (reply : Bytes Meet2.rpcFrameLen) :
    (PollLoops.transfers attempt reply gets).filterMap f = gets.filterMap g := by
  induction gets generalizing attempt reply with
  | nil => rfl
  | cons got gets ih =>
    have hpause : (if 0 < attempt then [(⟨.sleep Meet2.rpcReplyPollDelayMs, ()⟩ :
        Exchange TransportOp TransportOp.Reply)] else []).filterMap f = [] := by
      split_ifs
      · exact List.filterMap_cons_none (hsleep _)
      · rfl
    rw [PollLoops.transfers, List.filterMap_append, hpause, List.nil_append, List.filterMap_cons, List.filterMap_cons,
      hget, ih]

/-- The SET tells nothing of a reply or a failure. -/
theorem exchange_read (payload : List UInt8) (gets : List PollLoops.Got) :
    replies (⟨.uvcSet Meet2.xuEntityId Meet2.xuSelRpc payload, Except.ok ()⟩ ::
        PollLoops.transfers 0 (Bytes.zeros Meet2.rpcFrameLen) gets) = gets.filterMap gotReply ∧
      failures (⟨.uvcSet Meet2.xuEntityId Meet2.xuSelRpc payload, Except.ok ()⟩ ::
        PollLoops.transfers 0 (Bytes.zeros Meet2.rpcFrameLen) gets) = gets.filterMap gotFailure := by
  constructor
  · refine filterMap_transfers (fun _ => rfl) (fun reply got => ?_) gets 0 _
    obtain ⟨buf, result⟩ := got
    cases result <;> rfl
  · refine filterMap_transfers (fun _ => rfl) (fun reply got => ?_) gets 0 _
    obtain ⟨buf, result⟩ := got
    cases result <;> rfl

theorem undecodable_read {α : Type} {decode : List UInt8 → Checked (Option α)} {gets : List PollLoops.Got}
    (h : ∀ got ∈ gets, PollLoops.Undecodable decode got) : gets.filterMap gotFailure = [] ∧
      ∀ p ∈ gets.filterMap gotReply, p.1 = Meet2.xuSelRpc ∧ decode p.2 = .ok none := by
  constructor
  · refine List.filterMap_eq_nil_iff.mpr fun got hgot => ?_
    obtain ⟨buf, result⟩ := got
    obtain ⟨len, rfl, -⟩ := h _ hgot
    rfl
  · intro p hp
    obtain ⟨⟨buf, result⟩, hgot, hreply⟩ := List.mem_filterMap.mp hp
    obtain ⟨len, rfl, hnone⟩ := h _ hgot
    cases hreply
    exact ⟨rfl, hnone⟩

/-- The end of a polling read, from the outcome of its loop. -/
theorem ends_of_meets (read : DecodedRead Location) {request : Bytes Meet2.rpcFrameLen}
    {decode : List UInt8 → Checked (Option read.Value)} {r : Result read.Value} (hother : read ≠ .wdr)
    (haccepts : ∀ buf, read.Accepts buf → ∃ v, decode buf = .ok (some v))
    (h : PollLoops.Meets request decode t r) : Ends read t r := by
  have hplain : ∀ u, ¬ read.StrangeWdr u := fun u hu => hother hu.1
  have hrefused : ∀ buf, decode buf = .ok none → ¬ read.Accepts buf := by
    intro buf hnone haccept
    obtain ⟨v, hv⟩ := haccepts buf haccept
    have hboth : Except.ok none = Except.ok (some v) := hnone.symm.trans hv
    cases hboth
  obtain ⟨e, rfl, rfl⟩ | ⟨gets, rfl, houtcome⟩ := h
  · exact .failed rfl fun p hp => by cases hp
  obtain ⟨hreplies, hfailures⟩ := exchange_read request.toList gets
  cases houtcome with
  | @failed front buf e before within =>
    obtain ⟨hnone, hfront⟩ := undecodable_read before
    refine .failed ?_ fun p hp => ?_
    · rw [hfailures, List.filterMap_append, hnone]
      rfl
    · rw [hreplies, List.filterMap_append] at hp
      obtain ⟨hselector, hdecode⟩ := hfront p (by simpa [gotReply, Except.toOption] using hp)
      exact ⟨hselector, hrefused _ hdecode⟩
  | @decoded front buf len v before within accepted =>
    refine .accepted ?_ (hplain _)
    rw [hfailures, List.filterMap_append, (undecodable_read before).1]
    rfl
  | exhausted all spent =>
    obtain ⟨hnone, hall⟩ := undecodable_read all
    obtain ⟨got, rest, rfl⟩ := List.exists_cons_of_length_eq_add_one spent
    obtain ⟨len, hlen, hdecode⟩ := all got List.mem_cons_self
    have hmem : (Meet2.xuSelRpc, got.1.toList) ∈ (got :: rest).filterMap gotReply :=
      List.mem_filterMap.mpr ⟨got, List.mem_cons_self, by rw [gotReply, hlen]; rfl⟩
    exact .rejected (hfailures.trans hnone) (hplain _) (hreplies ▸ hmem) (hrefused _ hdecode)

theorem ends_of_call (call : Rpc.RpcCall Location) (hreads : call.Reads) {r : Result call.Value}
    (h : Steps call.program t (.done r)) : ∃ frame, PollLoops.Meets frame call.decode t r := by
  obtain ⟨frame, hframe, -⟩ := call.request_eq
  rw [call.program_eq hreads hframe] at h
  exact ⟨frame, PollLoops.steps_setThenPoll.mp h⟩

end Loops

theorem ends_of_steps {Location : Type} (read : DecodedRead Location) {t : Transfers} {r : Result read.Value}
    (h : Steps read.program.run t (.done r)) : Ends read t r := by
  cases read with
  | wdr => exact ends_wdr h
  | faceAe => exact ends_faceAe h
  | aiMode => exact ends_aiMode h
  | aeMode => exact ends_aeMode h
  | aeLock => exact ends_aeLock h
  | antiFlicker => exact ends_antiFlicker h
  | firmwareFromCamera self =>
    obtain ⟨frame, hmeets⟩ := ends_of_call (.firmwareFromCamera self) trivial h
    exact ends_of_meets (.firmwareFromCamera self) (by simp) (fun _ => id) hmeets
  | serialFromCamera self =>
    obtain ⟨frame, hmeets⟩ := ends_of_call (.serialFromCamera self) trivial h
    exact ends_of_meets (.serialFromCamera self) (by simp) (fun _ => id) hmeets
  | learnMac =>
    obtain ⟨frame, hmeets⟩ := ends_of_call (.learnMac : Rpc.RpcCall Location) trivial h
    exact ends_of_meets .learnMac (by simp) (fun _ => id) hmeets

/-- In every run of a read, its `BadResponse` names a GET whose reply the decoder refuses, unless the transport makes
one up or `decode_wdr` is what refuses. -/
theorem bad_response_traced_iff {Location : Type} (read : DecodedRead Location) (t : Transfers) (r : Result read.Value)
    (h : Steps read.program.run t (.done r)) :
    read.Traced t r ↔ ¬ ForeignBadResponse t ∧ ¬ read.StrangeWdr t :=
  (ends_of_steps read h).traced_iff

/-- `ae_mode`, answered with a 3 that no mode has. -/
def aeModeThree : Transfers :=
  [⟨.uvcGet .cur Uvc.cameraTerminal Uvc.Ct.aeMode 1 (Bytes.zeros 1), (⟨[3], rfl⟩, .ok 1)⟩]

theorem bad_response_traced_iff_ae_mode_three :
    Steps Device.aeMode.run aeModeThree (.done (.error (.badResponse Uvc.Ct.aeMode [3]))) ∧
      (.aeMode : DecodedRead Unit).Traced aeModeThree (.error (.badResponse Uvc.Ct.aeMode [3])) := by
  have hrun : Steps Device.aeMode.run aeModeThree (.done (.error (.badResponse Uvc.Ct.aeMode [3]))) :=
    .perform _ (.refl _)
  refine ⟨hrun, (bad_response_traced_iff (.aeMode : DecodedRead Unit) _ _ hrun).mpr ⟨?_, ?_⟩⟩
  · rintro ⟨selector, bytes, hmem, -⟩
    cases hmem
  · rintro ⟨hwdr, -⟩
    cases hwdr

def wdrTwoBlob : Bytes Meet2.modeRegisterPayloadLen :=
  ⟨Meet2.statusBlobMarker :: List.replicate 5 0 ++ 2 :: List.replicate 53 0, rfl⟩

/-- `wdr`, answered with a status blob that has 2 in the WDR byte. -/
def wdrTwo : Transfers :=
  [⟨.uvcGet .cur Meet2.xuEntityId Meet2.xuSelModeRegister Meet2.modeRegisterPayloadLen
    (Bytes.zeros Meet2.modeRegisterPayloadLen), (wdrTwoBlob, .ok Meet2.modeRegisterPayloadLen)⟩]

/-- The refusal of that byte names selector 0, where the one GET of the read is of selector 0x06. -/
theorem wdr_names_no_reply :
    Steps Device.wdr.run wdrTwo (.done (.error (.badResponse 0 [2]))) ∧
      ¬ (.wdr : DecodedRead Unit).Traced wdrTwo (.error (.badResponse 0 [2])) := by
  refine ⟨.perform _ (.refl _), fun htraced => ?_⟩
  obtain ⟨buf, hbuf, -⟩ := htraced 0 [2] rfl
  have hselector : (0, buf) = (Meet2.xuSelModeRegister, wdrTwoBlob.toList) := List.mem_singleton.mp hbuf
  exact absurd (congrArg Prod.fst hselector) (by decide : (0 : UInt8) ≠ Meet2.xuSelModeRegister)

end Libobsbot.BadResponses

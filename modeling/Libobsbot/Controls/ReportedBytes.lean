import Libobsbot.Rpc.ShortReplies

/-! # What the result of a read depends on

Every read of a camera, by a getter, a range query or a poll loop, and the status that is made of them. A read whose
GETs report as many bytes as its decoder looks at is a function of these bytes (`reported_bytes_determine`); a shorter
one passes for data (`short_reads_accepted`).
-/

namespace Libobsbot.ShortReads
open Foundations
open Foundations.Program (Steps Exchange)
open Foundations.TwoRuns
set_option autoImplicit false

/-! ## Every read -/

inductive ReadCall (Location : Type) where
  | control (read : ControlRead)
  | firmwareFromCamera (self : Device Location)
  | firmware (self : Device Location)
  | serialFromCamera (self : Device Location)
  | learnMac

namespace ReadCall
variable {Location : Type}

abbrev Value : ReadCall Location → Type
  | .control read => read.Value
  | .firmwareFromCamera _ => String
  | .firmware _ => FirmwareVersion
  | .serialFromCamera _ => String
  | .learnMac => Bytes 6

def program : (call : ReadCall Location) → DeviceM call.Value
  | .control read => read.program
  | .firmwareFromCamera self => self.firmwareFromCamera
  | .firmware self => self.firmware
  | .serialFromCamera self => self.serialFromCamera
  | .learnMac => Libobsbot.learnMac

/-- The reports behind an `Ok`: of every GET, or of the last one where the call polls. -/
def decoded : ReadCall Location → List (Exchange TransportOp TransportOp.Reply) → List Report
  | .control _, t => t.filterMap reportOf
  | _, t => (t.filterMap reportOf).getLast?.toList

def Enough : ReadCall Location → Report → Prop
  | .control read, g => read.Enough g
  | .firmwareFromCamera _, g => Meet2.rpcPayloadOffset + 4 ≤ g.bytes.length
  | .firmware _, g => Meet2.rpcPayloadOffset + 4 ≤ g.bytes.length
  | .serialFromCamera _, g => Meet2.rpcPayloadOffset ≤ g.bytes.length ∧
    (Meet2.rpcPayloadOffset + Meet2.u16At g.bytes Meet2.rpcLenOffset ≤ g.bytes.length ∨
      0 ∈ Meet2.payloadOf g.bytes)
  | .learnMac, g => Meet2.rpcPayloadOffset + 24 ≤ g.bytes.length

end ReadCall

theorem steps_firmware {Location : Type} {self : Device Location}
    {t : List (Exchange TransportOp TransportOp.Reply)} {v : FirmwareVersion}
    (h : Steps self.firmware.run t (.done (.ok v))) :
    ∃ text, Steps self.firmwareFromCamera.run t (.done (.ok text)) ∧ FirmwareVersion.parse text = some v := by
  obtain ⟨u, text, w, rfl, hu, hw⟩ := steps_exceptBind_ok h
  cases hparse : FirmwareVersion.parse text with
  | none =>
    rw [hparse] at hw
    obtain ⟨-, hdone⟩ := Program.steps_done.mp hw
    cases hdone
  | some version =>
    rw [hparse] at hw
    obtain ⟨rfl, hdone⟩ := Program.steps_done.mp hw
    cases hdone
    rw [List.append_nil]
    exact ⟨text, hu, hparse⟩

theorem read_determined {Location : Type} (call : ReadCall Location)
    {t t' : List (Exchange TransportOp TransportOp.Reply)} {v v' : call.Value}
    (h : Steps call.program.run t (.done (.ok v))) (h' : Steps call.program.run t' (.done (.ok v')))
    (hsame : call.decoded t = call.decoded t') (henough : ∀ g ∈ call.decoded t, call.Enough g) : v = v' := by
  cases call with
  | control read => exact read.alike.related h h' hsame henough
  | firmwareFromCamera self =>
    exact last_report_eq (.firmwareFromCamera self) trivial h h' decodeFirmwareReply_fixes hsame henough
  | firmware self =>
    obtain ⟨text, htext, hparse⟩ := steps_firmware h
    obtain ⟨text', htext', hparse'⟩ := steps_firmware h'
    have hsametext := last_report_eq (.firmwareFromCamera self) trivial htext htext'
      decodeFirmwareReply_fixes hsame henough
    rw [← hsametext, hparse] at hparse'
    exact Option.some.inj hparse'
  | serialFromCamera self =>
    exact last_report_eq (.serialFromCamera self) trivial h h' decodeSerialReply_fixes hsame henough
  | learnMac =>
    exact last_report_eq (.learnMac : Rpc.RpcCall Location) trivial h h' decodeMacQueryReply_fixes
      hsame henough

/-! ## The status -/

section Status
variable {Location α β : Type} {t : List (Exchange TransportOp TransportOp.Reply)}

theorem steps_lift {p : TransportProgram α} {a : α}
    (h : Steps (liftM p : DeviceM α).run t (.done (.ok a))) : Steps p t (.done a) := by
  have hlift : Steps (p >>= fun b => (.done (Except.ok b) : TransportProgram (Result α))) t (.done (.ok a)) := h
  obtain ⟨b, hb, hlast⟩ := hlift.bind_silent fun _ => trivial
  cases hlast
  exact hb

/-- What a field of a snapshot holds: the `Ok` of one of the reads, made in the course of `t`, or its default. -/
def FieldFrom (t : List (Exchange TransportOp TransportOp.Reply)) (call : ReadCall Location)
    (field default : call.Value) : Prop :=
  ∃ u, u <:+: t ∧ (Steps call.program.run u (.done (.ok field)) ∨
    (field = default ∧ ∃ e, Steps call.program.run u (.done (.error e))))

/-- A sampled field is set to what a getter of the same control returns. -/
theorem sampleInto_get {n : ℕ} {req : UvcGet} {entity selector : UInt8} {out : Bytes n}
    {f : ℕ × Bytes n → DeviceM α} {f' : ℕ × Bytes n → DeviceM β} {set : α → Status → Status}
    {set' : β → Status → Status} (h : ∀ r snap, sampleInto (f r) set snap = sampleInto (f' r) set' snap)
    (snap : Status) :
    sampleInto (uvcGet req entity selector out >>= f) set snap =
      sampleInto (uvcGet req entity selector out >>= f') set' snap := by
  refine congrArg (Program.perform _) (funext fun r => ?_)
  obtain ⟨buf, got⟩ := r
  cases got with
  | ok len => exact h (len, buf) snap
  | error e => rfl

theorem sampleInto_puU16 (selector : UInt8) (set : Int32 → Status → Status) (snap : Status) :
    sampleInto (readPuU16 selector) (fun v => set (i32FromU16 v)) snap =
      sampleInto (Device.puU16 selector) set snap := by
  rw [Device.puU16_eq, readPuU16]
  apply sampleInto_get
  intro r snap
  rfl

/-- The sampler's reads are the getters' reads. -/
theorem sampleStatus_eq : sampleStatus = (do
    let snap ← sampleInto Device.brightness (fun v snap => { snap with brightness := v }) Status.default
    let snap ← sampleInto Device.contrast (fun v snap => { snap with contrast := v }) snap
    let snap ← sampleInto Device.saturation (fun v snap => { snap with saturation := v }) snap
    let snap ← sampleInto Device.panTilt (fun v snap => { snap with pan := v.1, tilt := v.2 }) snap
    sampleInto Device.zoom (fun v snap => { snap with zoom := v }) snap) := by
  have hbrightness : ∀ snap : Status,
      sampleInto (readPuI16 Uvc.Pu.brightness) (fun v snap => { snap with brightness := v.toInt32 }) snap =
        sampleInto Device.brightness (fun v snap => { snap with brightness := v }) snap := by
    intro snap
    rw [readPuI16, Device.brightness]
    apply sampleInto_get
    intro r snap
    rfl
  have hcontrast := sampleInto_puU16 Uvc.Pu.contrast fun v snap => { snap with contrast := v }
  have hsaturation := sampleInto_puU16 Uvc.Pu.saturation fun v snap => { snap with saturation := v }
  have hpanTilt : ∀ snap : Status,
      sampleInto (uvcGet .cur Uvc.cameraTerminal Uvc.Ct.pantiltAbsolute (Bytes.zeros 8))
        (fun pt snap =>
          { snap with
            pan := normalisedPantilt (i32FromLe (pt.2.toList.take 4))
            tilt := normalisedPantilt (i32FromLe (pt.2.toList.drop 4)) }) snap =
        sampleInto Device.panTilt (fun v snap => { snap with pan := v.1, tilt := v.2 }) snap := by
    intro snap
    rw [← bind_pure (uvcGet .cur Uvc.cameraTerminal Uvc.Ct.pantiltAbsolute (Bytes.zeros 8)), Device.panTilt]
    apply sampleInto_get
    intro r snap
    rfl
  have hzoom : ∀ snap : Status,
      sampleInto (uvcGet .cur Uvc.cameraTerminal Uvc.Ct.zoomAbsolute (Bytes.zeros 2))
        (fun zoom snap => { snap with zoom := (u16FromLe zoom.2.toList).toFloat32 }) snap =
        sampleInto Device.zoom (fun v snap => { snap with zoom := v }) snap := by
    intro snap
    rw [← bind_pure (uvcGet .cur Uvc.cameraTerminal Uvc.Ct.zoomAbsolute (Bytes.zeros 2)), Device.zoom,
      Device.ctGetU16]
    apply sampleInto_get
    intro r snap
    rfl
  unfold sampleStatus
  simp only [hbrightness, hcontrast, hsaturation, hpanTilt, hzoom]
  rfl

theorem steps_unwrapOr {m : DeviceM α} {default a : α} (h : Steps (unwrapOr m default) t (.done a)) :
    Steps m.run t (.done (.ok a)) ∨ (a = default ∧ ∃ e, Steps m.run t (.done (.error e))) := by
  obtain ⟨r, hr, hlast⟩ := h.bind_silent fun r => by cases r <;> trivial
  cases r with
  | ok v =>
    cases hlast
    exact .inl hr
  | error e =>
    cases hlast
    exact .inr ⟨rfl, e, hr⟩

theorem sampleInto_frame {read : DeviceM α} {set : α → Status → Status} {snap snap' : Status}
    (h : Steps (sampleInto read set snap) t (.done snap')) (field : Status → β)
    (hset : ∀ v snap, field (set v snap) = field snap) : field snap' = field snap := by
  obtain ⟨v, -, rfl⟩ | ⟨e, -, rfl⟩ := steps_sampleInto h
  · exact hset v snap
  · rfl

/-- The field a read sets, from a default to its value at the end. -/
theorem sampleInto_field {read : DeviceM α} {set : α → Status → Status} {snap snap' : Status} {default last : α}
    (h : Steps (sampleInto read set snap) t (.done snap')) (field : Status → α)
    (hset : ∀ v snap, field (set v snap) = v) (hbefore : field snap = default) (hafter : last = field snap') :
    Steps read.run t (.done (.ok last)) ∨ (last = default ∧ ∃ e, Steps read.run t (.done (.error e))) := by
  subst hafter
  obtain ⟨v, hv, rfl⟩ | ⟨e, he, rfl⟩ := steps_sampleInto h
  · rw [hset]
    exact .inl hv
  · exact .inr ⟨hbefore, e, he⟩

structure SampledFrom (Location : Type) (t : List (Exchange TransportOp TransportOp.Reply)) (snap : Status) :
    Prop where
  brightness : FieldFrom t (.control .brightness : ReadCall Location) snap.brightness 0
  contrast : FieldFrom t (.control .contrast : ReadCall Location) snap.contrast 0
  saturation : FieldFrom t (.control .saturation : ReadCall Location) snap.saturation 0
  panTilt : FieldFrom t (.control .panTilt : ReadCall Location) (snap.pan, snap.tilt) (0, 0)
  zoom : FieldFrom t (.control .zoom : ReadCall Location) snap.zoom 0

theorem steps_sampleStatus {snap : Status} (h : Steps sampleStatus t (.done snap)) :
    SampledFrom Location t snap := by
  rw [sampleStatus_eq] at h
  obtain ⟨t₁, snap₁, u₁, rfl, h₁, h⟩ := h.bind_done
  obtain ⟨t₂, snap₂, u₂, rfl, h₂, h⟩ := h.bind_done
  obtain ⟨t₃, snap₃, u₃, rfl, h₃, h⟩ := h.bind_done
  obtain ⟨t₄, snap₄, t₅, rfl, h₄, h₅⟩ := h.bind_done
  -- what the first `i` reads leave of each field
  have hbrightness : snap.brightness = snap₁.brightness := by
    rw [sampleInto_frame h₅ Status.brightness fun _ _ => rfl, sampleInto_frame h₄ Status.brightness fun _ _ => rfl,
      sampleInto_frame h₃ Status.brightness fun _ _ => rfl, sampleInto_frame h₂ Status.brightness fun _ _ => rfl]
  have hcontrast : snap.contrast = snap₂.contrast := by
    rw [sampleInto_frame h₅ Status.contrast fun _ _ => rfl, sampleInto_frame h₄ Status.contrast fun _ _ => rfl,
      sampleInto_frame h₃ Status.contrast fun _ _ => rfl]
  have hsaturation : snap.saturation = snap₃.saturation := by
    rw [sampleInto_frame h₅ Status.saturation fun _ _ => rfl, sampleInto_frame h₄ Status.saturation fun _ _ => rfl]
  have hpanTilt : (snap.pan, snap.tilt) = (snap₄.pan, snap₄.tilt) :=
    sampleInto_frame h₅ (fun snap => (snap.pan, snap.tilt)) fun _ _ => rfl
  constructor
  · refine ⟨t₁, List.infix_append' [] _ _, ?_⟩
    exact sampleInto_field h₁ Status.brightness (fun _ _ => rfl) rfl hbrightness
  · refine ⟨t₂, List.infix_append' _ _ _, ?_⟩
    refine sampleInto_field h₂ Status.contrast (fun _ _ => rfl) ?_ hcontrast
    exact sampleInto_frame h₁ Status.contrast fun _ _ => rfl
  · refine ⟨t₃, ⟨t₁ ++ t₂, t₄ ++ t₅, by simp⟩, ?_⟩
    refine sampleInto_field h₃ Status.saturation (fun _ _ => rfl) ?_ hsaturation
    rw [sampleInto_frame h₂ Status.saturation fun _ _ => rfl, sampleInto_frame h₁ Status.saturation fun _ _ => rfl]
    rfl
  · refine ⟨t₄, ⟨t₁ ++ t₂ ++ t₃, t₅, by simp⟩, ?_⟩
    refine sampleInto_field h₄ (fun snap => (snap.pan, snap.tilt)) (fun _ _ => rfl) ?_ hpanTilt
    have h₃' := sampleInto_frame h₃ (fun snap => (snap.pan, snap.tilt)) fun _ _ => rfl
    have h₂' := sampleInto_frame h₂ (fun snap => (snap.pan, snap.tilt)) fun _ _ => rfl
    have h₁' := sampleInto_frame h₁ (fun snap => (snap.pan, snap.tilt)) fun _ _ => rfl
    exact h₃'.trans (h₂'.trans h₁')
  · refine ⟨t₅, ⟨t₁ ++ t₂ ++ t₃ ++ t₄, [], by simp⟩, ?_⟩
    refine sampleInto_field h₅ Status.zoom (fun _ _ => rfl) ?_ rfl
    rw [sampleInto_frame h₄ Status.zoom fun _ _ => rfl, sampleInto_frame h₃ Status.zoom fun _ _ => rfl,
      sampleInto_frame h₂ Status.zoom fun _ _ => rfl, sampleInto_frame h₁ Status.zoom fun _ _ => rfl]
    rfl

/-- Every field of a status is the `Ok` of one of the reads, or the default that replaces its error. -/
structure StatusFrom {Location : Type} (self : Device Location)
    (t : List (Exchange TransportOp TransportOp.Reply)) (snap : Status) : Prop where
  firmware : FieldFrom t (.firmwareFromCamera self) snap.firmware ""
  serial : FieldFrom t (.serialFromCamera self) snap.serial ""
  sampled : SampledFrom Location t snap

theorem FieldFrom.within {t u : List (Exchange TransportOp TransportOp.Reply)} {call : ReadCall Location}
    {field default : call.Value} (h : FieldFrom u call field default) (hu : u <:+: t) :
    FieldFrom t call field default := by
  obtain ⟨w, hw, hruns⟩ := h
  exact ⟨w, hw.trans hu, hruns⟩

theorem steps_status {self : Device Location} {snap : Status} (h : Steps self.status.run t (.done (.ok snap))) :
    StatusFrom self t snap := by
  obtain ⟨t₁, firmware, u₁, rfl, h₁, h⟩ := steps_exceptBind_ok h
  obtain ⟨t₂, serial, u₂, rfl, h₂, h⟩ := steps_exceptBind_ok h
  obtain ⟨t₃, sample, u₃, rfl, h₃, h⟩ := steps_exceptBind_ok h
  obtain ⟨rfl, hdone⟩ := Program.steps_done.mp h
  cases hdone
  have hsample : SampledFrom Location t₃ sample := steps_sampleStatus (steps_lift h₃)
  have hlast : t₃ <:+: t₁ ++ (t₂ ++ (t₃ ++ [])) := ⟨t₁ ++ t₂, [], by simp⟩
  constructor
  · exact ⟨t₁, List.infix_append' [] _ _, steps_unwrapOr (steps_lift h₁)⟩
  · exact ⟨t₂, List.infix_append' _ _ _, steps_unwrapOr (steps_lift h₂)⟩
  · obtain ⟨hbrightness, hcontrast, hsaturation, hpanTilt, hzoom⟩ := hsample
    exact ⟨hbrightness.within hlast, hcontrast.within hlast, hsaturation.within hlast, hpanTilt.within hlast,
      hzoom.within hlast⟩

end Status
/-! ## Short reads in a poll loop -/

section TwoPolls
variable {α : Type}

/-- A poll loop whose first reply is rejected and whose second one is accepted. -/
def twoPolls (frame first last : Bytes Meet2.rpcFrameLen) (len : ℕ) :
    List (Exchange TransportOp TransportOp.Reply) :=
  [⟨.uvcSet Meet2.xuEntityId Meet2.xuSelRpc frame.toList, Except.ok ()⟩,
    ⟨.uvcGet .cur Meet2.xuEntityId Meet2.xuSelRpc Meet2.rpcFrameLen (Bytes.zeros Meet2.rpcFrameLen),
      (first, Except.ok Meet2.rpcFrameLen)⟩,
    ⟨.sleep Meet2.rpcReplyPollDelayMs, ()⟩,
    ⟨.uvcGet .cur Meet2.xuEntityId Meet2.xuSelRpc Meet2.rpcFrameLen first, (last, Except.ok len)⟩]

theorem steps_twoPolls {decode : List UInt8 → Checked (Option α)} {frame first last : Bytes Meet2.rpcFrameLen}
    {v : α} (len : ℕ) (hfirst : decode first.toList = .ok none) (hlast : decode last.toList = .ok (some v)) :
    Steps (Rpc.setThenPoll frame decode) (twoPolls frame first last len) (.done (.ok v)) := by
  have haccept : Steps (Rpc.afterGet decode 1 8 last (.ok len)) [] (.done (.ok v)) := by
    rw [Rpc.afterGet, hlast]
    exact .refl _
  have hget : Steps (Rpc.pollGet decode 1 8 first) [⟨.uvcGet .cur Meet2.xuEntityId Meet2.xuSelRpc
      Meet2.rpcFrameLen first, (last, Except.ok len)⟩] (.done (.ok v)) := by
    rw [Rpc.pollGet]
    exact Program.steps_perform.mpr (.inr ⟨_, [], rfl, haccept⟩)
  have hreject : Steps (Rpc.afterGet decode 0 9 first (.ok Meet2.rpcFrameLen))
      [⟨.sleep Meet2.rpcReplyPollDelayMs, ()⟩, ⟨.uvcGet .cur Meet2.xuEntityId Meet2.xuSelRpc
        Meet2.rpcFrameLen first, (last, Except.ok len)⟩] (.done (.ok v)) := by
    rw [Rpc.afterGet, hfirst]
    show Steps (pollReply decode 1 (8 + 1) first).run _ _
    rw [Rpc.pollReply_succ, if_pos Nat.one_pos]
    exact Program.steps_perform.mpr (.inr ⟨(), _, rfl, hget⟩)
  have hpoll : Steps (pollReply decode 0 (9 + 1) (Bytes.zeros Meet2.rpcFrameLen)).run
      (twoPolls frame first last len).tail (.done (.ok v)) := by
    rw [Rpc.pollReply_first, Rpc.pollGet]
    exact Program.steps_perform.mpr (.inr ⟨_, _, rfl, hreject⟩)
  rw [Rpc.setThenPoll]
  exact Program.steps_perform.mpr (.inr ⟨Except.ok (), _, rfl, hpoll⟩)

def replyHeader (ids : UInt8 × UInt8) : List UInt8 :=
  [0xAA, 0x01, 0, 0, 12, 0, 0, 0, 0x0D, 0x0A, ids.1, ids.2, 24, 0, 0, 0]

/-- A reply to the command with six bytes where a device hash has the MAC. -/
def replyAround (ids : UInt8 × UInt8) (six : Bytes 6) : Bytes Meet2.rpcFrameLen :=
  ⟨replyHeader ids ++ List.replicate 18 0 ++ six.toList ++ List.replicate 20 0, by
    rw [List.length_append, List.length_append, six.length_eq]
    rfl⟩

end TwoPolls

/-- `learn_mac` rejects a serial reply around `stale`, then gets `len` bytes of a device hash around `six`. -/
theorem steps_learnMac (stale six : Bytes 6) (len : ℕ)
    (hfirst : Meet2.decodeMacQueryReply (replyAround Meet2.rpcGetSerial stale).toList = .ok none)
    (hlast : Meet2.decodeMacQueryReply (replyAround Meet2.rpcGetDeviceHash six).toList = .ok (some six)) :
    ∃ frame, Steps learnMac.run (twoPolls frame (replyAround Meet2.rpcGetSerial stale)
      (replyAround Meet2.rpcGetDeviceHash six) len) (.done (.ok six)) := by
  obtain ⟨frame, hframe, -⟩ := (.learnMac : Rpc.RpcCall Unit).request_eq
  refine ⟨frame, ?_⟩
  have hprogram := (.learnMac : Rpc.RpcCall Unit).program_eq trivial hframe
  show Steps (.learnMac : Rpc.RpcCall Unit).program _ _
  rw [hprogram]
  exact steps_twoPolls len hfirst hlast

theorem twoPolls_contract (frame : Bytes Meet2.rpcFrameLen) (six : Bytes 6) :
    ∀ x ∈ twoPolls frame (replyAround Meet2.rpcGetSerial six) (replyAround Meet2.rpcGetDeviceHash six) 16,
      Contract x := by
  have hwhole : ∀ buf : Bytes Meet2.rpcFrameLen, buf.toList.drop Meet2.rpcFrameLen = [] := fun buf =>
    List.drop_eq_nil_of_le buf.length_eq.le
  unfold twoPolls
  rw [List.forall_mem_cons, List.forall_mem_cons, List.forall_mem_cons, List.forall_mem_singleton]
  refine ⟨trivial, ⟨le_rfl, ?_⟩, trivial, by decide, rfl⟩
  rw [hwhole, hwhole]

/-- Nothing reported and an `Ok`; a bound that the GET of the other bound wrote; and a MAC that is six bytes of a
rejected serial reply, left behind by a GET that reports the header of a device hash and no more. -/
theorem short_reads_accepted :
    (∃ t, (∀ x ∈ t, Contract x) ∧ t.filterMap reportOf = [⟨2, []⟩] ∧
      Steps Device.brightness.run t (.done (.ok 0))) ∧
    (∃ t, (∀ x ∈ t, Contract x) ∧ t.filterMap reportOf = [⟨4, [7, 0, 0, 0]⟩, ⟨4, []⟩] ∧
      Steps Device.exposureTimeRange.run t (.done (.ok (7, 7)))) ∧
    ¬ ∀ (call : ReadCall Unit) (t t' : List (Exchange TransportOp TransportOp.Reply)) (v v' : call.Value),
      (∀ x ∈ t, Contract x) → (∀ x ∈ t', Contract x) → Steps call.program.run t (.done (.ok v)) →
      Steps call.program.run t' (.done (.ok v')) → call.decoded t = call.decoded t' → v = v' := by
  refine ⟨?_, ?_, ?_⟩
  · refine ⟨[⟨.uvcGet .cur Uvc.processingUnit Uvc.Pu.brightness 2 (Bytes.zeros 2),
      (Bytes.zeros 2, Except.ok 0)⟩], ?_, rfl, ?_⟩
    · rw [List.forall_mem_singleton]
      exact ⟨Nat.zero_le _, rfl⟩
    · exact .perform _ (.refl _)
  · refine ⟨[⟨.uvcGet .min Uvc.cameraTerminal Uvc.Ct.exposureTimeAbsolute 4 (Bytes.zeros 4),
      (⟨[7, 0, 0, 0], rfl⟩, Except.ok 4)⟩, ⟨.uvcGet .max Uvc.cameraTerminal Uvc.Ct.exposureTimeAbsolute 4
        ⟨[7, 0, 0, 0], rfl⟩, (⟨[7, 0, 0, 0], rfl⟩, Except.ok 0)⟩], ?_, rfl, ?_⟩
    · rw [List.forall_mem_cons, List.forall_mem_singleton]
      exact ⟨⟨le_rfl, rfl⟩, Nat.zero_le _, rfl⟩
    · exact .perform _ (.perform _ (.refl _))
  · intro h
    obtain ⟨frame, hrun⟩ := steps_learnMac ⟨[1, 2, 3, 4, 5, 6], rfl⟩
      ⟨[1, 2, 3, 4, 5, 6], rfl⟩ 16 (by decide) (by decide)
    obtain ⟨frame', hrun'⟩ := steps_learnMac ⟨[0, 0, 0, 0, 0, 0], rfl⟩
      ⟨[0, 0, 0, 0, 0, 0], rfl⟩ 16 (by decide) (by decide)
    have hequal := h .learnMac _ _ _ _ (twoPolls_contract _ _) (twoPolls_contract _ _) hrun hrun' rfl
    exact absurd hequal (by decide)

/-- Two runs of a read whose decoded GETs report the same bytes, as many as the decoder looks at, return the same:
neither a zero of the fresh buffer nor a byte of an earlier reply is in the result. A status is made of such reads. -/
theorem reported_bytes_determine {Location : Type} :
    (∀ (call : ReadCall Location) (t t' : List (Exchange TransportOp TransportOp.Reply)) (v v' : call.Value),
      Steps call.program.run t (.done (.ok v)) → Steps call.program.run t' (.done (.ok v')) →
      call.decoded t = call.decoded t' → (∀ g ∈ call.decoded t, call.Enough g) → v = v') ∧
    (∀ (self : Device Location) (t : List (Exchange TransportOp TransportOp.Reply)) (snap : Status),
      Steps self.status.run t (.done (.ok snap)) → StatusFrom self t snap) := by
  constructor
  · intro call t t' v v' h h' hsame henough
    exact read_determined call h h' hsame henough
  · intro self t snap h
    exact steps_status h

/-- A device hash of 40 bytes: the MAC does not depend on the rejected reply before it. -/
theorem reported_bytes_determine_learnMac : ∃ frame frame' v v',
    Steps learnMac.run (twoPolls frame (replyAround Meet2.rpcGetSerial ⟨[9, 9, 9, 9, 9, 9], rfl⟩)
      (replyAround Meet2.rpcGetDeviceHash ⟨[1, 2, 3, 4, 5, 6], rfl⟩) 40) (.done (.ok v)) ∧
    Steps learnMac.run (twoPolls frame' (replyAround Meet2.rpcGetSerial ⟨[8, 8, 8, 8, 8, 8], rfl⟩)
      (replyAround Meet2.rpcGetDeviceHash ⟨[1, 2, 3, 4, 5, 6], rfl⟩) 40) (.done (.ok v')) ∧ v = v' := by
  have haccept : Meet2.decodeMacQueryReply (replyAround Meet2.rpcGetDeviceHash
    ⟨[1, 2, 3, 4, 5, 6], rfl⟩).toList = .ok (some ⟨[1, 2, 3, 4, 5, 6], rfl⟩) := by decide
  obtain ⟨frame, hrun⟩ := steps_learnMac ⟨[9, 9, 9, 9, 9, 9], rfl⟩ _ 40 (by decide) haccept
  obtain ⟨frame', hrun'⟩ := steps_learnMac ⟨[8, 8, 8, 8, 8, 8], rfl⟩ _ 40 (by decide) haccept
  refine ⟨frame, frame', _, _, hrun, hrun', ?_⟩
  apply reported_bytes_determine.1 (.learnMac : ReadCall Unit) _ _ _ _ hrun hrun' rfl
  intro g hg
  obtain rfl := List.mem_singleton.mp hg
  exact Nat.le_of_ble_eq_true rfl

end Libobsbot.ShortReads

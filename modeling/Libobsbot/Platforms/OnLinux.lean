import Libobsbot.Linux.V4l2Store
import Libobsbot.Platforms.Transfers

/-! # Transfers on Linux

The kernel's driver keeps a V4L2 control next to a field of a camera's payload and passes queries on to the extension
unit. Where it does so, a transfer of a control that it maps, or of the unit, reaches the camera and is told as it was
answered, pan and tilt included, which are one payload and two controls.
-/

namespace Libobsbot.Platforms
open Foundations Uvcvideo V4l2Store
set_option autoImplicit false

/-! ## What is asked of the driver -/

section Driver
variable {σ τ ε : Type}

/-- The bytes are the low ones of the value, as many as there are. -/
def Low (v : Int32) (bytes : List UInt8) : Prop := (i32ToLe v).take bytes.length = bytes

/-- A control's value next to the payload that its low bytes are a part of; a failure where there is none. -/
inductive Valued (IsFailure : ε → Prop) (part : List UInt8 → List UInt8) :
    Option (List UInt8) → Except ε Int32 → Prop
  | value {payload : List UInt8} {v : Int32} (low : Low v (part payload)) : Valued IsFailure part (some payload) (.ok v)
  | failed {e : ε} (failure : IsFailure e) : Valued IsFailure part none (.error e)

/-- The bounds of a control are known together. -/
inductive Bounded (part : List UInt8 → List UInt8) :
    Option (List UInt8) → Option (List UInt8) → Except String V4l2Queryctrl → Prop
  | bounds {least greatest : List UInt8} {q : V4l2Queryctrl} (minimum : Low q.minimum (part least))
      (maximum : Low q.maximum (part greatest)) : Bounded part (some least) (some greatest) (.ok q)
  | failed (text : String) : Bounded part none none (.error text)

/-- A write, as the ioctl tells of it. -/
inductive Accepted (view : τ → σ) : Bool × σ → Except String Unit × τ → Prop
  | done (t : τ) : Accepted view (true, view t) (.ok (), t)
  | failed (text : String) (t : τ) : Accepted view (false, view t) (.error text, t)

/-- A query of the extension unit. -/
inductive Queried {n : ℕ} (data : Bytes n) : Option (List UInt8) → Bytes n × Except String Unit → Prop
  | data {bytes : List UInt8} : Queried data (some bytes) (data.overwrite 0 bytes, .ok ())
  | failed (text : String) : Queried data none (data, .error text)

/-- Change a part of the pair of pan and tilt: read it, and write it back with the change. -/
def UvcDevice.turn (device : UvcDevice σ) (change : List UInt8 → List UInt8) (s : σ) : Bool × σ :=
  match (device.get .cur Uvc.cameraTerminal Uvc.Ct.pantiltAbsolute 8 s).1 with
  | some payload => device.set Uvc.cameraTerminal Uvc.Ct.pantiltAbsolute (change payload) s
  | none => (false, s)

variable (kernel : (op : Ioctl) → τ → op.Reply × τ) (view : τ → σ) (device : UvcDevice σ)

/-- A control of which the camera is asked without being changed. -/
structure Reads (cid : UInt32) (entity selector : UInt8) (part : List UInt8 → List UInt8) : Prop where
  current : ∀ t, Valued (fun _ => True) part
    (device.get .cur entity selector (payloadWidth entity selector) (view t)).1 (kernel (.gCtrl cid) t).1
  current_view : ∀ t, view (kernel (.gCtrl cid) t).2 = view t
  bounds : ∀ t, Bounded part
    (device.get .min entity selector (payloadWidth entity selector) (view t)).1
    (device.get .max entity selector (payloadWidth entity selector) (view t)).1 (kernel (.queryctrl cid) t).1
  bounds_view : ∀ t, view (kernel (.queryctrl cid) t).2 = view t

/-- The driver serves the camera that `view` sees: each control by its payload, pan and tilt each by its half of one
payload, and queries of the extension unit as they are. -/
structure Drives : Prop where
  reads : ∀ {entity selector : UInt8} {cid : UInt32}, cidFor entity selector = some cid →
    Reads kernel view device cid entity selector id
  writes : ∀ {entity selector : UInt8} {cid : UInt32}, cidFor entity selector = some cid → ∀ v t,
    Accepted view (device.set entity selector ((i32ToLe v).take (payloadWidth entity selector)) (view t))
      (kernel (.sCtrl cid v) t)
  pan : Reads kernel view device v4l2CidPanAbsolute Uvc.cameraTerminal Uvc.Ct.pantiltAbsolute (List.take 4)
  tilt : Reads kernel view device v4l2CidTiltAbsolute Uvc.cameraTerminal Uvc.Ct.pantiltAbsolute (List.drop 4)
  setPan : ∀ v t, Accepted view (device.turn (fun payload => i32ToLe v ++ payload.drop 4) (view t))
    (kernel (.sCtrl v4l2CidPanAbsolute v) t)
  setTilt : ∀ v t, Accepted view (device.turn (fun payload => payload.take 4 ++ i32ToLe v) (view t))
    (kernel (.sCtrl v4l2CidTiltAbsolute v) t)
  setUnit : ∀ selector {n : ℕ} (data : Bytes n) t, Accepted view
    (device.set Meet2.xuEntityId selector data.toList (view t))
    ((kernel (.ctrlQuery Meet2.xuEntityId selector UsbTransport.setCur n data) t).1.2,
      (kernel (.ctrlQuery Meet2.xuEntityId selector UsbTransport.setCur n data) t).2)
  getUnit : ∀ req selector {n : ℕ} (data : Bytes n) t,
    Queried data (device.get req Meet2.xuEntityId selector n (view t)).1
      (kernel (.ctrlQuery Meet2.xuEntityId selector req.bRequest n data) t).1 ∧
    view (kernel (.ctrlQuery Meet2.xuEntityId selector req.bRequest n data) t).2 =
      (device.get req Meet2.xuEntityId selector n (view t)).2
  sleep : ∀ millis t, view (kernel (.sleep millis) t).2 = view t

end Driver

/-! ## What is asked of the camera -/

/-- A transfer of a control that the driver maps, at the width the methods use, or of the extension unit. -/
def Portable : TransportOp → Prop
  | .uvcSet entity selector payload =>
    (V4l2Store.Call.set entity selector payload).Admissible ∨ entity = Meet2.xuEntityId ∧ payload.length < 65536
  | .uvcGet _ entity selector n out => (V4l2Store.Call.get entity selector n out).Admissible ∨
      entity = Meet2.xuEntityId ∧ n = Meet2.modeRegisterPayloadLen
  | .sleep _ => True

/-- In its good states the camera returns whole payloads, is not changed by reads of its controls, and either does not
know pan and tilt or keeps the pair it is sent. -/
structure Registers {σ : Type} (device : UvcDevice σ) (good : σ → Prop) : Prop where
  keeps_set : ∀ {entity selector : UInt8} {payload : List UInt8} {s : σ},
    Portable (.uvcSet entity selector payload) → good s → good (device.set entity selector payload s).2
  keeps_get : ∀ {req : UvcGet} {entity selector : UInt8} {n : ℕ} {out : Bytes n} {s : σ},
    Portable (.uvcGet req entity selector n out) → good s → good (device.get req entity selector n s).2
  quiet : ∀ {req : UvcGet} {entity selector : UInt8} {n : ℕ} {s : σ}, Dispatched entity selector → good s →
    (device.get req entity selector n s).2 = s
  whole : ∀ {req : UvcGet} {entity selector : UInt8} {n : ℕ} {out : Bytes n} {s : σ} {bytes : List UInt8},
    Portable (.uvcGet req entity selector n out) → good s → (device.get req entity selector n s).1 = some bytes →
      bytes.length = n
  unturned : ∀ {payload : List UInt8} {s : σ}, payload.length = 8 → good s →
    (device.get .cur Uvc.cameraTerminal Uvc.Ct.pantiltAbsolute 8 s).1 = none →
      device.set Uvc.cameraTerminal Uvc.Ct.pantiltAbsolute payload s = (false, s)
  turned : ∀ {payload : List UInt8} {s : σ}, payload.length = 8 → good s →
    (device.get .cur Uvc.cameraTerminal Uvc.Ct.pantiltAbsolute 8 s).1 ≠ none → ∃ s',
      device.set Uvc.cameraTerminal Uvc.Ct.pantiltAbsolute payload s = (true, s') ∧
      (device.get .cur Uvc.cameraTerminal Uvc.Ct.pantiltAbsolute 8 s').1 = some payload ∧
      ∀ payload', payload'.length = 8 → device.set Uvc.cameraTerminal Uvc.Ct.pantiltAbsolute payload' s' =
        device.set Uvc.cameraTerminal Uvc.Ct.pantiltAbsolute payload' s

theorem Conveyed.good {σ : Type} {device : UvcDevice σ} {good : σ → Prop} (hregisters : Registers device good)
    {op : TransportOp} {s s' : σ} {r : op.Reply} (h : Conveyed device op s r s') (hop : Portable op) (hs : good s) :
    good s' := by
  cases h with
  | accepted done | refused text done =>
    have hgood := hregisters.keeps_set hop hs
    rwa [done] at hgood
  | read done | unread text done =>
    have hgood := hregisters.keeps_get hop hs
    rwa [done] at hgood
  | sleep => exact hs

/-! ## Reads -/

section Conveyed
variable {σ τ : Type} {kernel : (op : Ioctl) → τ → op.Reply × τ} {view : τ → σ} {device : UvcDevice σ}
  {good : σ → Prop} {entity selector : UInt8} {t : τ}

/-- The value that a request reads of one control. -/
def valueRead (cid : UInt32) : UvcGet → KernelM Int32
  | .cur => v4l2GCtrl cid
  | .min => do return (← v4l2Queryctrl cid).minimum
  | .max => do return (← v4l2Queryctrl cid).maximum

theorem v4l2Read_eq (cid : UInt32) (req : UvcGet) :
    v4l2Read cid req = (do return i32ToLe (← valueRead cid req)) := by
  cases req <;> simp [v4l2Read, valueRead]

theorem pantiltRead_eq (req : UvcGet) : pantiltRead req = (do
    let pan ← valueRead v4l2CidPanAbsolute req
    let tilt ← valueRead v4l2CidTiltAbsolute req
    return (pan, tilt)) := by
  cases req <;> simp [pantiltRead, valueRead]

abbrev IsUsb (e : Error) : Prop := ∃ text, e = .usb text

def queryctrlError (cid : UInt32) (e : String) : Error := .usb s!"VIDIOC_QUERYCTRL cid={hexAlt cid.toNat}: {e}"

theorem run_bound (cid : UInt32) (bound : V4l2Queryctrl → Int32) (t : τ) :
    (do return bound (← v4l2Queryctrl cid) : KernelM Int32).run.run kernel t =
      (.ok (((kernel (.queryctrl cid) t).1.mapError (queryctrlError cid)).map bound),
        (kernel (.queryctrl cid) t).2) := by
  have hquery : (v4l2Queryctrl cid).run.run kernel t =
      (.ok ((kernel (.queryctrl cid) t).1.mapError (queryctrlError cid)), (kernel (.queryctrl cid) t).2) := rfl
  rw [ExceptT.run_bind, Program.run_bind, hquery]
  cases (kernel (.queryctrl cid) t).1 <;> rfl

/-- A value that a request reads, or the failure of the ioctl. -/
theorem run_valueRead {cid : UInt32} {part : List UInt8 → List UInt8}
    (h : Reads kernel view device cid entity selector part) (req : UvcGet) (t : τ) : ∃ r t',
      (valueRead cid req).run.run kernel t = (.ok r, t') ∧ view t' = view t ∧
      Valued IsUsb part (device.get req entity selector (payloadWidth entity selector) (view t)).1 r := by
  cases req with
  | cur =>
    refine ⟨_, _, rfl, h.current_view t, ?_⟩
    have hvalued := h.current t
    generalize (device.get .cur entity selector (payloadWidth entity selector) (view t)).1 = got at hvalued ⊢
    generalize (kernel (.gCtrl cid) t).1 = value at hvalued ⊢
    cases hvalued with
    | value low => exact .value low
    | failed failure => exact .failed ⟨_, rfl⟩
  | min =>
    refine ⟨_, _, run_bound cid (·.minimum) t, h.bounds_view t, ?_⟩
    have hbounded := h.bounds t
    generalize (device.get .min entity selector (payloadWidth entity selector) (view t)).1 = got at hbounded ⊢
    generalize (device.get .max entity selector (payloadWidth entity selector) (view t)).1 = got' at hbounded
    generalize (kernel (.queryctrl cid) t).1 = bounds at hbounded ⊢
    cases hbounded with
    | bounds minimum maximum => exact .value minimum
    | failed text => exact .failed ⟨_, rfl⟩
  | max =>
    refine ⟨_, _, run_bound cid (·.maximum) t, h.bounds_view t, ?_⟩
    have hbounded := h.bounds t
    generalize (device.get .min entity selector (payloadWidth entity selector) (view t)).1 = got' at hbounded
    generalize (device.get .max entity selector (payloadWidth entity selector) (view t)).1 = got at hbounded ⊢
    generalize (kernel (.queryctrl cid) t).1 = bounds at hbounded ⊢
    cases hbounded with
    | bounds minimum maximum => exact .value maximum
    | failed text => exact .failed ⟨_, rfl⟩

/-- What a read of a mapped control makes of the bytes it gets. -/
def fill {n : ℕ} (out : Bytes n) : Result (List UInt8) → Bytes n × Result ℕ
  | .ok bytes => (out.overwrite 0 (bytes.take (min bytes.length n)), .ok (min bytes.length n))
  | .error e => (out, .error e)

theorem uvcGet_control {cid : UInt32} (hcid : cidFor entity selector = some cid) {req : UvcGet} {n : ℕ}
    {out : Bytes n} : UsbTransport.uvcGet req entity selector out =
      (valueRead cid req).run >>= fun r => .done (fill out (r.map i32ToLe)) := by
  unfold UsbTransport.uvcGet v4l2Get
  rw [if_neg (by simp [not_isPantilt hcid]), hcid]
  dsimp only [Option.map_some]
  rw [v4l2Read_eq, ExceptT.run_bind, Program.bind_bind]
  refine congrArg ((valueRead cid req).run >>= ·) (funext fun r => ?_)
  cases r <;> rfl

theorem conveyed_control (h : Drives kernel view device) (hregisters : Registers device good) {cid : UInt32}
    (hcid : cidFor entity selector = some cid) {req : UvcGet} {n : ℕ} {out : Bytes n}
    (hop : Portable (.uvcGet req entity selector n out)) (hwidth : n = payloadWidth entity selector)
    (hgood : good (view t)) : ∃ r t',
      (UsbTransport.uvcGet req entity selector out).run kernel t = (.ok r, t') ∧
        Conveyed device (.uvcGet req entity selector n out) (view t) r (view t') := by
  have hquiet : (device.get req entity selector n (view t)).2 = view t :=
    hregisters.quiet (.inr (by rw [hcid]; rfl)) hgood
  obtain ⟨r, t', hrun, hview, hvalued⟩ := run_valueRead (h.reads hcid) req t
  refine ⟨fill out (r.map i32ToLe), t', ?_, ?_⟩
  · rw [uvcGet_control hcid, Program.run_bind, hrun]
    rfl
  rw [hview]
  rw [← hwidth] at hvalued
  rcases hgot : device.get req entity selector n (view t) with ⟨got, s⟩
  have hwhole := @Registers.whole _ _ _ hregisters req entity selector n out (view t)
  rw [hgot] at hquiet hvalued hwhole
  dsimp only at hquiet hvalued hwhole
  subst hquiet
  cases hvalued with
  | @value payload v low =>
    have hlen := hwhole hop hgood rfl
    rw [Low, id_eq, hlen] at low
    have hfits : min (i32ToLe v).length n = n := by
      have hwide := payloadWidth_cid hcid
      rw [i32ToLe_length]
      omega
    rw [Except.map, fill, hfits, low]
    have hread := @Conveyed.read _ device req entity selector n out payload (view t) _ hgot
    rwa [hlen] at hread
  | failed failure =>
    obtain ⟨text, rfl⟩ := failure
    exact .unread text hgot

/-! ## Pan and tilt -/

theorem Low.whole {v : Int32} {bytes : List UInt8} (h : Low v bytes) (hlen : bytes.length = 4) : i32ToLe v = bytes := by
  rw [Low, hlen, List.take_of_length_le (i32ToLe_length v).le] at h
  exact h

inductive PairRead : Option (List UInt8) → Result (Int32 × Int32) → Prop
  | value {payload : List UInt8} {pan tilt : Int32} (first : Low pan (payload.take 4))
      (second : Low tilt (payload.drop 4)) : PairRead (some payload) (.ok (pan, tilt))
  | failed (text : String) : PairRead none (.error (.usb text))

theorem run_pantiltRead (h : Drives kernel view device) (req : UvcGet) (t : τ) : ∃ r t',
    (pantiltRead req).run.run kernel t = (.ok r, t') ∧ view t' = view t ∧
      PairRead (device.get req Uvc.cameraTerminal Uvc.Ct.pantiltAbsolute 8 (view t)).1 r := by
  obtain ⟨pan, t₁, hpan, hview₁, hvalued₁⟩ := run_valueRead h.pan req t
  obtain ⟨tilt, t₂, htilt, hview₂, hvalued₂⟩ := run_valueRead h.tilt req t₁
  have hwidth : payloadWidth Uvc.cameraTerminal Uvc.Ct.pantiltAbsolute = 8 := rfl
  rw [hview₁] at hvalued₂
  rw [hwidth] at hvalued₁ hvalued₂
  rw [pantiltRead_eq]
  generalize (device.get req Uvc.cameraTerminal Uvc.Ct.pantiltAbsolute 8 (view t)).1 = got at *
  cases hvalued₁ with
  | value low₁ =>
    cases hvalued₂ with
    | value low₂ =>
      refine ⟨_, t₂, ?_, hview₂.trans hview₁, .value low₁ low₂⟩
      rw [Program.run_exceptBind_ok hpan, Program.run_exceptBind_ok htilt]
      rfl
  | failed failure =>
    obtain ⟨text, rfl⟩ := failure
    refine ⟨_, t₁, ?_, hview₁, .failed text⟩
    rw [ExceptT.run_bind, Program.run_bind, hpan]
    rfl

def fillPair (out : Bytes 8) : Result (Int32 × Int32) → Bytes 8 × Result ℕ
  | .ok (pan, tilt) => ((out.overwrite 0 (i32ToLe pan)).overwrite 4 (i32ToLe tilt), .ok 8)
  | .error e => (out, .error e)

theorem uvcGet_pantilt (req : UvcGet) (out : Bytes 8) :
    UsbTransport.uvcGet req Uvc.cameraTerminal Uvc.Ct.pantiltAbsolute out =
      (pantiltRead req).run >>= fun r => .done (fillPair out r) := by
  refine congrArg ((pantiltRead req).run >>= ·) (funext fun r => ?_)
  rcases r with _ | ⟨pan, tilt⟩ <;> rfl

theorem conveyed_pantilt (h : Drives kernel view device) (hregisters : Registers device good) {req : UvcGet}
    {out : Bytes 8} (hgood : good (view t)) : ∃ r t',
      (UsbTransport.uvcGet req Uvc.cameraTerminal Uvc.Ct.pantiltAbsolute out).run kernel t = (.ok r, t') ∧
        Conveyed device (.uvcGet req Uvc.cameraTerminal Uvc.Ct.pantiltAbsolute 8 out) (view t) r (view t') := by
  have hquiet : (device.get req Uvc.cameraTerminal Uvc.Ct.pantiltAbsolute 8 (view t)).2 = view t :=
    hregisters.quiet (.inl rfl) hgood
  obtain ⟨r, t', hrun, hview, hread⟩ := run_pantiltRead h req t
  refine ⟨fillPair out r, t', ?_, ?_⟩
  · rw [uvcGet_pantilt, Program.run_bind, hrun]
    rfl
  rw [hview]
  rcases hgot : device.get req Uvc.cameraTerminal Uvc.Ct.pantiltAbsolute 8 (view t) with ⟨got, s⟩
  have hwhole := @Registers.whole _ _ _ hregisters req Uvc.cameraTerminal Uvc.Ct.pantiltAbsolute 8 out (view t)
  rw [hgot] at hquiet hread hwhole
  dsimp only at hquiet hread hwhole
  subst hquiet
  cases hread with
  | @value payload pan tilt first second =>
    have hlen := hwhole (.inl ⟨.inl rfl, rfl⟩) hgood rfl
    have hpayload : payload = i32ToLe pan ++ i32ToLe tilt := by
      rw [first.whole (by simp [hlen]), second.whole (by simp [hlen]), List.take_append_drop]
    have hbuf : (out.overwrite 0 (i32ToLe pan)).overwrite 4 (i32ToLe tilt) = out.overwrite 0 payload := by
      rw [hpayload]
      exact Bytes.overwrite_append out (i32ToLe_length pan) (by simp)
    have hread := @Conveyed.read _ device req Uvc.cameraTerminal Uvc.Ct.pantiltAbsolute 8 out payload (view t) _ hgot
    rw [hlen] at hread
    rwa [fillPair, hbuf]
  | failed text => exact .unread text hgot

/-! ## Writes -/

inductive Sent : Bool → Result Unit → Prop
  | ok : Sent true (.ok ())
  | failed (text : String) : Sent false (.error (.usb text))

theorem Sent.conveyed {b : Bool} {r : Result Unit} (h : Sent b r) {payload : List UInt8} {s s' : σ}
    (hset : device.set entity selector payload s = (b, s')) :
    Conveyed device (.uvcSet entity selector payload) s r s' := by
  cases h with
  | ok => exact .accepted hset
  | failed text => exact .refused text hset

theorem run_sCtrl {cid : UInt32} {v : Int32} {b : Bool} {s : σ}
    (h : Accepted view (b, s) (kernel (.sCtrl cid v) t)) : ∃ r t',
      (v4l2SCtrl cid v).run.run kernel t = (.ok r, t') ∧ view t' = s ∧ Sent b r := by
  refine ⟨_, _, rfl, ?_⟩
  generalize kernel (.sCtrl cid v) t = reply at h
  cases h with
  | done t' => exact ⟨rfl, .ok⟩
  | failed text t' => exact ⟨rfl, .failed _⟩

theorem conveyed_write (h : Drives kernel view device) {cid : UInt32} (hcid : cidFor entity selector = some cid)
    {payload : List UInt8} (hwidth : payload.length = payloadWidth entity selector) : ∃ r t',
      (UsbTransport.uvcSet entity selector payload).run kernel t = (.ok r, t') ∧
        Conveyed device (.uvcSet entity selector payload) (view t) r (view t') := by
  have hlow : (i32ToLe (payloadToI32 cid payload)).take (payloadWidth entity selector) = payload := by
    rw [← hwidth]
    apply payloadToI32_bytes
    have hwide := payloadWidth_cid hcid
    omega
  have haccepted := h.writes hcid (payloadToI32 cid payload) t
  rw [hlow] at haccepted
  obtain ⟨r, t', hrun, hview, hsent⟩ := run_sCtrl haccepted
  refine ⟨r, t', ?_, hsent.conveyed (Prod.ext rfl hview.symm)⟩
  unfold UsbTransport.uvcSet v4l2Set
  rw [if_neg (by simp [not_isPantilt hcid]), hcid]
  exact hrun

/-- One payload, sent by two ioctls. -/
theorem conveyed_turn (h : Drives kernel view device) (hregisters : Registers device good) {payload : List UInt8}
    (hlen : payload.length = 8) (hgood : good (view t)) : ∃ r t',
      (UsbTransport.uvcSet Uvc.cameraTerminal Uvc.Ct.pantiltAbsolute payload).run kernel t = (.ok r, t') ∧
        Conveyed device (.uvcSet Uvc.cameraTerminal Uvc.Ct.pantiltAbsolute payload) (view t) r (view t') := by
  set pan := i32FromLe (payload.take 4) with hpan
  set tilt := i32FromLe (payload.drop 4) with htilt
  have hfirst : i32ToLe pan = payload.take 4 := i32FromLe_bytes (by simp [hlen])
  have hsecond : i32ToLe tilt = payload.drop 4 := i32FromLe_bytes (by simp [hlen])
  have hserved : UsbTransport.uvcSet Uvc.cameraTerminal Uvc.Ct.pantiltAbsolute payload =
      (v4l2SCtrl v4l2CidPanAbsolute pan >>= fun _ => v4l2SCtrl v4l2CidTiltAbsolute tilt).run := by
    show (pantiltSet payload).run = _
    unfold pantiltSet
    rw [if_neg (by omega)]
  have hsetPan := h.setPan pan t
  cases hgot : (device.get .cur Uvc.cameraTerminal Uvc.Ct.pantiltAbsolute 8 (view t)).1 with
  | none =>
    rw [UvcDevice.turn, hgot] at hsetPan
    obtain ⟨r, t', hrun, hview, hsent⟩ := run_sCtrl hsetPan
    cases hsent with
    | failed text =>
      refine ⟨.error (.usb text), t', ?_, .refused text ?_⟩
      · rw [hserved, ExceptT.run_bind, Program.run_bind, hrun]
        rfl
      · rw [hview]
        exact hregisters.unturned hlen hgood hgot
  | some old =>
    have hold : old.length = 8 := @Registers.whole _ _ _ hregisters .cur Uvc.cameraTerminal Uvc.Ct.pantiltAbsolute 8
      (Bytes.zeros 8) (view t) old (.inl ⟨.inl rfl, rfl⟩) hgood hgot
    have hknown : (device.get .cur Uvc.cameraTerminal Uvc.Ct.pantiltAbsolute 8 (view t)).1 ≠ none := by
      rw [hgot]
      exact Option.some_ne_none old
    have hhalf : (i32ToLe pan ++ old.drop 4).length = 8 := by simp [hold]
    obtain ⟨s₁, hset₁, hkept₁, hagain₁⟩ := hregisters.turned hhalf hgood hknown
    obtain ⟨s', hset, -, -⟩ := hregisters.turned hlen hgood hknown
    rw [UvcDevice.turn, hgot] at hsetPan
    dsimp only at hsetPan
    rw [hset₁] at hsetPan
    obtain ⟨r₁, t₁, hrun₁, hview₁, hsent₁⟩ := run_sCtrl hsetPan
    cases hsent₁
    have hsetTilt := h.setTilt tilt t₁
    rw [UvcDevice.turn, hview₁, hkept₁] at hsetTilt
    dsimp only at hsetTilt
    rw [List.take_left' (i32ToLe_length pan), hagain₁ _ (by simp), hfirst, hsecond, List.take_append_drop, hset]
      at hsetTilt
    obtain ⟨r₂, t₂, hrun₂, hview₂, hsent₂⟩ := run_sCtrl hsetTilt
    refine ⟨r₂, t₂, ?_, hsent₂.conveyed (hview₂ ▸ hset)⟩
    rw [hserved, Program.run_exceptBind_ok hrun₁, hrun₂]

/-! ## The extension unit -/

theorem unit_not_mapped (selector : UInt8) : ¬ isPantilt Meet2.xuEntityId selector = true ∧
    cidFor Meet2.xuEntityId selector = none := by
  simp [isPantilt, cidFor, Meet2.xuEntityId]

/-- The error that `xu_query` makes of a failed ioctl. -/
def queryError (unit selector query : UInt8) (e : String) : Error :=
  .usb (s!"UVCIOC_CTRL_QUERY unit={unit.toNat} sel={hexAlt04 selector.toNat} " ++
    s!"query={hexAlt04 query.toNat}: {e}")

def queryReply {n : ℕ} (unit selector query : UInt8) (r : Bytes n × Except String Unit) : Bytes n × Result ℕ :=
  (r.1, (r.2.mapError (queryError unit selector query)).map fun _ => n)

theorem xuQuery_eq {n : ℕ} {unit query : UInt8} {data : Bytes n} (hshort : n < 65536) :
    xuQuery unit selector query data =
      .perform (.ctrlQuery unit selector query n data) fun r => .done (queryReply unit selector query r) := by
  rw [xuQuery, if_neg (by omega)]
  refine congrArg (Program.perform _) (funext fun r => ?_)
  obtain ⟨buf, _ | _⟩ := r <;> rfl

theorem conveyed_unitSet (h : Drives kernel view device) {payload : List UInt8} (hshort : payload.length < 65536) :
    ∃ r t', (UsbTransport.uvcSet Meet2.xuEntityId selector payload).run kernel t = (.ok r, t') ∧
      Conveyed device (.uvcSet Meet2.xuEntityId selector payload) (view t) r (view t') := by
  obtain ⟨hpantilt, hcid⟩ := unit_not_mapped selector
  have haccepted := h.setUnit selector (.ofList payload) t
  rw [Bytes.ofList_toList] at haccepted
  have hserved : UsbTransport.uvcSet Meet2.xuEntityId selector payload =
      .perform (.ctrlQuery Meet2.xuEntityId selector UsbTransport.setCur _ (.ofList payload)) fun r =>
        .done ((queryReply Meet2.xuEntityId selector UsbTransport.setCur r).2.map fun _ => ()) := by
    unfold UsbTransport.uvcSet v4l2Set
    rw [if_neg hpantilt, hcid]
    dsimp only [Option.map_none]
    rw [xuQuery_eq hshort]
    rfl
  rw [hserved, Program.run_perform]
  rcases hcall : kernel (.ctrlQuery Meet2.xuEntityId selector UsbTransport.setCur payload.length (.ofList payload)) t with
    ⟨⟨buf, result⟩, t'⟩
  rw [hcall] at haccepted
  refine ⟨_, t', rfl, ?_⟩
  generalize hset : device.set Meet2.xuEntityId selector payload (view t) = reached at haccepted
  cases haccepted with
  | done => exact .accepted hset
  | failed text => exact .refused _ hset

theorem conveyed_unitGet (h : Drives kernel view device) (hregisters : Registers device good) {req : UvcGet}
    {out : Bytes Meet2.modeRegisterPayloadLen} (hgood : good (view t)) : ∃ r t',
      (UsbTransport.uvcGet req Meet2.xuEntityId selector out).run kernel t = (.ok r, t') ∧
        Conveyed device (.uvcGet req Meet2.xuEntityId selector _ out) (view t) r (view t') := by
  obtain ⟨hpantilt, hcid⟩ := unit_not_mapped selector
  obtain ⟨hqueried, hview⟩ := h.getUnit req selector out t
  have hserved : UsbTransport.uvcGet req Meet2.xuEntityId selector out =
      .perform (.ctrlQuery Meet2.xuEntityId selector req.bRequest _ out) fun r =>
        .done (queryReply Meet2.xuEntityId selector req.bRequest r) := by
    unfold UsbTransport.uvcGet v4l2Get
    rw [if_neg hpantilt, hcid]
    exact xuQuery_eq (by decide)
  rw [hserved, Program.run_perform]
  rcases hcall : kernel (.ctrlQuery Meet2.xuEntityId selector req.bRequest Meet2.modeRegisterPayloadLen out) t with
    ⟨reply, t'⟩
  rw [hcall] at hqueried hview
  refine ⟨_, t', rfl, ?_⟩
  have hwhole := @Registers.whole _ _ _ hregisters req Meet2.xuEntityId selector _ out (view t)
  rcases hgot : device.get req Meet2.xuEntityId selector Meet2.modeRegisterPayloadLen (view t) with ⟨got, s⟩
  rw [hgot] at hqueried hview hwhole
  dsimp only at hqueried hview hwhole
  subst hview
  cases hqueried with
  | @data bytes =>
    have hread := @Conveyed.read _ device req Meet2.xuEntityId selector _ out bytes (view t) _ hgot
    rwa [hwhole (.inr ⟨rfl, rfl⟩) hgood rfl] at hread
  | failed text => exact .unread _ hgot

/-- A portable transfer reaches the camera. -/
theorem conveyed_onLinux (h : Drives kernel view device) (hregisters : Registers device good) {op : TransportOp}
    (hop : Portable op) (hgood : good (view t)) : ∃ r t',
      (UsbTransport.answer op).run kernel t = (.ok r, t') ∧ Conveyed device op (view t) r (view t') := by
  cases op with
  | uvcSet entity selector payload =>
    obtain ⟨hdispatched, hwidth⟩ | ⟨rfl, hshort⟩ := hop
    · rcases dispatched_cases hdispatched with hpantilt | ⟨cid, hcid⟩
      · rw [payloadWidth_pantilt hpantilt] at hwidth
        cases isPantilt_iff.mp hpantilt
        exact conveyed_turn h hregisters hwidth hgood
      · exact conveyed_write h hcid hwidth
    · exact conveyed_unitSet h hshort
  | uvcGet req entity selector n out =>
    obtain ⟨hdispatched, hwidth⟩ | ⟨rfl, rfl⟩ := id hop
    · rcases dispatched_cases hdispatched with hpantilt | ⟨cid, hcid⟩
      · rw [payloadWidth_pantilt hpantilt] at hwidth
        subst hwidth
        cases isPantilt_iff.mp hpantilt
        exact conveyed_pantilt h hregisters hgood
      · exact conveyed_control h hregisters hcid hop hwidth hgood
    · exact conveyed_unitGet h hregisters hgood
  | sleep millis =>
    refine ⟨_, _, rfl, ?_⟩
    rw [h.sleep]
    exact .sleep

def onLinux {α : Type} (p : TransportProgram α) : KernelProgram α := p.translate UsbTransport.answer

end Conveyed
end Libobsbot.Platforms

import Libobsbot.Rpc.Poll
import Libobsbot.Source.DeviceOp
import Libobsbot.Source.Uvcvideo

/-! # Which transfers the V4L2 dispatch serves

The routing contract of `transport/uvcvideo.rs`: Camera Terminal and Processing Unit through V4L2, the
vendor extension unit through `UVCIOC_CTRL_QUERY`. It crosses two layers, so it is stated of the
ioctls a `Device` operation ends in, over every reply of the kernel. A pair missing from `cid_for`
falls through to the extension-unit ioctl of a unit that is none, so the contract holds of exactly
the operations that address no such pair.
-/

namespace Libobsbot.Routing
open Foundations Uvcvideo
open Foundations.Program (Uses uses_bind uses_exceptBind uses_translate)
set_option autoImplicit false

/-! ## The contract -/

/-- An extension-unit ioctl is addressed to the vendor unit. -/
def AddressesXu : Ioctl → Prop
  | .ctrlQuery unit _ _ _ _ => unit = Meet2.xuEntityId
  | _ => True

/-- A transfer to the Camera Terminal or the Processing Unit is served by V4L2. -/
def ServedByV4l2 : TransportOp → Prop
  | .uvcSet entity selector payload =>
    entity = Uvc.cameraTerminal ∨ entity = Uvc.processingUnit →
      (v4l2Set entity selector payload).isSome
  | .uvcGet req entity selector _ out =>
    entity = Uvc.cameraTerminal ∨ entity = Uvc.processingUnit →
      (v4l2Get req entity selector out).isSome
  | .sleep _ => True

def RoutingContract {α : Type} (p : TransportProgram α) : Prop :=
  Uses AddressesXu (p.translate UsbTransport.answer) ∧ Uses ServedByV4l2 p

/-! ## Pairs that are routed -/

/-- The vendor unit, or a pair the dispatch knows. -/
def Mapped (entity selector : UInt8) : Prop :=
  entity = Meet2.xuEntityId ∨ isPantilt entity selector = true ∨ (cidFor entity selector).isSome = true

instance (entity selector : UInt8) : Decidable (Mapped entity selector) :=
  inferInstanceAs (Decidable (_ ∨ _ ∨ _))

def MappedOp : TransportOp → Prop
  | .uvcSet entity selector _ => Mapped entity selector
  | .uvcGet _ entity selector _ _ => Mapped entity selector
  | .sleep _ => True

theorem v4l2Set_isSome (entity selector : UInt8) (payload : List UInt8) :
    (v4l2Set entity selector payload).isSome =
      (isPantilt entity selector || (cidFor entity selector).isSome) := by
  unfold v4l2Set
  cases isPantilt entity selector with
  | true => rfl
  | false => simp

theorem v4l2Get_isSome {n : ℕ} (req : UvcGet) (entity selector : UInt8) (out : Bytes n) :
    (v4l2Get req entity selector out).isSome =
      (isPantilt entity selector || (cidFor entity selector).isSome) := by
  unfold v4l2Get
  cases isPantilt entity selector with
  | true => rfl
  | false => simp

theorem served_of_mapped {op : TransportOp} (h : MappedOp op) : ServedByV4l2 op := by
  have key : ∀ {entity selector : UInt8}, Mapped entity selector →
      entity = Uvc.cameraTerminal ∨ entity = Uvc.processingUnit →
      (isPantilt entity selector || (cidFor entity selector).isSome) = true := by
    intro entity selector hm he
    rcases hm with rfl | hp | hc
    · rcases he with he | he <;> cases he
    · simp [hp]
    · simp [hc]
  cases op with
  | uvcSet entity selector payload =>
    intro he
    rw [v4l2Set_isSome]
    exact key h he
  | uvcGet req entity selector n out =>
    intro he
    rw [v4l2Get_isSome]
    exact key h he
  | sleep millis => trivial

/-! ## The ioctls of the dispatch -/

theorem uses_v4l2GCtrl (cid : UInt32) : Uses AddressesXu (v4l2GCtrl cid).run :=
  ⟨trivial, fun _ => trivial⟩

theorem uses_v4l2SCtrl (cid : UInt32) (value : Int32) :
    Uses AddressesXu (v4l2SCtrl cid value).run :=
  ⟨trivial, fun _ => trivial⟩

theorem uses_v4l2Queryctrl (cid : UInt32) : Uses AddressesXu (v4l2Queryctrl cid).run :=
  ⟨trivial, fun _ => trivial⟩

theorem uses_pantiltSet (payload : List UInt8) : Uses AddressesXu (pantiltSet payload).run := by
  unfold pantiltSet
  by_cases h : payload.length ≠ 8
  · rw [if_pos h]
    exact trivial
  · rw [if_neg h]
    exact uses_exceptBind (uses_v4l2SCtrl _ _) fun _ => uses_v4l2SCtrl _ _

theorem uses_pantiltRead (req : UvcGet) : Uses AddressesXu (pantiltRead req).run := by
  cases req with
  | cur =>
    exact uses_exceptBind (uses_v4l2GCtrl _) fun _ =>
      uses_exceptBind (uses_v4l2GCtrl _) fun _ => trivial
  | min =>
    exact uses_exceptBind (uses_v4l2Queryctrl _) fun _ =>
      uses_exceptBind (uses_v4l2Queryctrl _) fun _ => trivial
  | max =>
    exact uses_exceptBind (uses_v4l2Queryctrl _) fun _ =>
      uses_exceptBind (uses_v4l2Queryctrl _) fun _ => trivial

theorem uses_pantiltGet {n : ℕ} (req : UvcGet) (out : Bytes n) :
    Uses AddressesXu (pantiltGet req out) := by
  unfold pantiltGet
  by_cases h : n < 8
  · rw [if_pos h]
    exact trivial
  · rw [if_neg h]
    refine uses_bind (uses_pantiltRead req) fun r => ?_
    cases r <;> exact trivial

theorem uses_v4l2Read (cid : UInt32) (req : UvcGet) : Uses AddressesXu (v4l2Read cid req).run := by
  cases req with
  | cur => exact uses_exceptBind (uses_v4l2GCtrl _) fun _ => trivial
  | min => exact uses_exceptBind (uses_v4l2Queryctrl _) fun _ => trivial
  | max => exact uses_exceptBind (uses_v4l2Queryctrl _) fun _ => trivial

theorem uses_v4l2Set {entity selector : UInt8} {payload : List UInt8} {served : KernelM Unit}
    (h : v4l2Set entity selector payload = some served) : Uses AddressesXu served.run := by
  unfold v4l2Set at h
  split at h
  · cases h
    exact uses_pantiltSet payload
  · obtain ⟨cid, _, rfl⟩ := Option.map_eq_some_iff.mp h
    exact uses_v4l2SCtrl cid _

theorem uses_v4l2Get {n : ℕ} {req : UvcGet} {entity selector : UInt8} {out : Bytes n}
    {served : KernelProgram (Bytes n × Result ℕ)}
    (h : v4l2Get req entity selector out = some served) : Uses AddressesXu served := by
  unfold v4l2Get at h
  split at h
  · cases h
    exact uses_pantiltGet req out
  · obtain ⟨cid, _, rfl⟩ := Option.map_eq_some_iff.mp h
    refine uses_bind (uses_v4l2Read cid req) fun r => ?_
    cases r <;> exact trivial

theorem uses_xuQuery {n : ℕ} {unit : UInt8} (selector query : UInt8) (data : Bytes n)
    (h : unit = Meet2.xuEntityId) : Uses AddressesXu (xuQuery unit selector query data) := by
  unfold xuQuery
  by_cases hn : 65536 ≤ n
  · rw [if_pos hn]
    exact trivial
  · rw [if_neg hn]
    refine ⟨h, fun r => ?_⟩
    dsimp only
    cases r.2 <;> exact trivial

/-- A mapped pair that the dispatch does not serve is the vendor unit's. -/
theorem xu_of_fallback {entity selector : UInt8} (h : Mapped entity selector)
    (hn : (isPantilt entity selector || (cidFor entity selector).isSome) = false) :
    entity = Meet2.xuEntityId := by
  obtain hx | hp | hc := h
  · exact hx
  · simp [hp] at hn
  · simp [hc] at hn

/-- A routed transfer reaches no extension unit but the vendor's. -/
theorem uses_answer {op : TransportOp} (h : MappedOp op) :
    Uses AddressesXu (UsbTransport.answer op) := by
  cases op with
  | uvcSet entity selector payload =>
    show Uses AddressesXu (UsbTransport.uvcSet entity selector payload)
    unfold UsbTransport.uvcSet
    split
    · rename_i served hs
      exact uses_v4l2Set hs
    · rename_i hs
      have hn := congrArg Option.isSome hs
      rw [v4l2Set_isSome] at hn
      exact uses_bind (uses_xuQuery _ _ _ (xu_of_fallback h hn)) fun _ => trivial
  | uvcGet req entity selector n out =>
    show Uses AddressesXu (UsbTransport.uvcGet req entity selector out)
    unfold UsbTransport.uvcGet
    split
    · rename_i served hs
      exact uses_v4l2Get hs
    · rename_i hs
      have hn := congrArg Option.isSome hs
      rw [v4l2Get_isSome] at hn
      exact uses_xuQuery _ _ _ (xu_of_fallback h hn)
  | sleep millis => exact ⟨trivial, fun _ => trivial⟩

theorem contract_of_mapped {α : Type} {p : TransportProgram α} (h : Uses MappedOp p) :
    RoutingContract p :=
  ⟨uses_translate (fun _ => uses_answer) h, h.mono fun _ => served_of_mapped⟩

/-! ## Methods that use routed pairs only -/

def Routed {α : Type} (m : DeviceM α) : Prop := Uses MappedOp m.run

section Rules
variable {α β : Type}

theorem routed_pure (a : α) : Routed (pure a) := trivial

theorem routed_throw (e : Error) : Routed (throw e : DeviceM α) := trivial

theorem routed_bind {m : DeviceM α} {f : α → DeviceM β} (hm : Routed m) (hf : ∀ a, Routed (f a)) :
    Routed (m >>= f) := uses_exceptBind hm hf

theorem routed_uvcSet {entity selector : UInt8} (payload : List UInt8)
    (h : Mapped entity selector) : Routed (uvcSet entity selector payload) :=
  ⟨h, fun _ => trivial⟩

theorem routed_uvcGet {n : ℕ} {entity selector : UInt8} (req : UvcGet) (out : Bytes n)
    (h : Mapped entity selector) : Routed (uvcGet req entity selector out) :=
  ⟨h, fun _ => trivial⟩

theorem routed_liftChecked (x : Checked α) : Routed (liftChecked x) := by
  cases x <;> exact trivial

theorem routed_get {n : ℕ} {entity selector : UInt8} {req : UvcGet} {out : Bytes n}
    {f : ℕ × Bytes n → DeviceM α} (h : Mapped entity selector) (hf : ∀ r, Routed (f r)) :
    Routed (uvcGet req entity selector out >>= f) :=
  routed_bind (routed_uvcGet req out h) hf

theorem uses_discard {m : DeviceM α} (h : Routed m) : Uses MappedOp (discard m) :=
  uses_bind h fun _ => trivial

theorem routed_pollReply (decode : List UInt8 → Checked (Option α)) (attempt remaining : ℕ)
    (reply : Bytes Meet2.rpcFrameLen) : Routed (pollReply decode attempt remaining reply) := by
  apply Rpc.uses_pollReply
  · intro out
    show Mapped Meet2.xuEntityId Meet2.xuSelRpc
    decide
  · intro millis
    trivial

end Rules

theorem routed_rpcRequestThenReply (request : Bytes Meet2.rpcFrameLen)
    (decode : List UInt8 → Checked (Option String)) :
    Routed (rpcRequestThenReply request decode) :=
  routed_bind (routed_uvcSet _ (by decide)) fun _ => routed_pollReply decode _ _ _

theorem routed_learnMac : Routed learnMac :=
  routed_bind (routed_liftChecked _) fun _ =>
    routed_bind (routed_uvcSet _ (by decide)) fun _ => routed_pollReply _ _ _ _

section Families
variable {selector : UInt8}

theorem routed_ctSetF32 (value : Float32) (h : Mapped Uvc.cameraTerminal selector) :
    Routed (Device.ctSetF32 selector value) := by
  unfold Device.ctSetF32
  by_cases hr : (!Device.inU16Range value) = true
  · rw [if_pos hr]
    exact routed_throw _
  · rw [if_neg hr]
    exact routed_uvcSet _ h

theorem routed_ctGetU16 (h : Mapped Uvc.cameraTerminal selector) :
    Routed (Device.ctGetU16 selector) :=
  routed_get h fun _ => routed_pure _

theorem routed_puGetI16 (req : UvcGet) (h : Mapped Uvc.processingUnit selector) :
    Routed (Device.puGetI16 req selector) :=
  routed_get h fun _ => routed_pure _

theorem routed_puGetU16 (req : UvcGet) (h : Mapped Uvc.processingUnit selector) :
    Routed (Device.puGetU16 req selector) :=
  routed_get h fun _ => routed_pure _

theorem routed_puSetI16 (value : Int32)
    (h : (i16TryFrom value).isSome → Mapped Uvc.processingUnit selector) :
    Routed (Device.puSetI16 selector value) := by
  unfold Device.puSetI16
  cases hv : i16TryFrom value with
  | none => exact routed_throw _
  | some v => exact routed_uvcSet _ (h (by simp [hv]))

theorem routed_puSetU16 (value : Int32)
    (h : (u16TryFromI32 value).isSome → Mapped Uvc.processingUnit selector) :
    Routed (Device.puSetU16 selector value) := by
  unfold Device.puSetU16
  cases hv : u16TryFromI32 value with
  | none => exact routed_throw _
  | some v => exact routed_uvcSet _ (h (by simp [hv]))

theorem routed_puU16 (h : Mapped Uvc.processingUnit selector) : Routed (Device.puU16 selector) :=
  routed_bind (routed_puGetU16 _ h) fun _ => routed_pure _

theorem routed_puRangeI16 (h : Mapped Uvc.processingUnit selector) :
    Routed (Device.puRangeI16 selector) :=
  routed_bind (routed_puGetI16 _ h) fun _ =>
    routed_bind (routed_puGetI16 _ h) fun _ => routed_pure _

theorem routed_puRangeU16 (h : Mapped Uvc.processingUnit selector) :
    Routed (Device.puRangeU16 selector) :=
  routed_bind (routed_puGetU16 _ h) fun _ =>
    routed_bind (routed_puGetU16 _ h) fun _ => routed_pure _

end Families

theorem routed_setModeRegister (controlId : UInt8) (valueBytes : List UInt8) :
    Routed (Device.setModeRegister controlId valueBytes) :=
  routed_bind (routed_liftChecked _) fun _ => routed_uvcSet _ (by decide)

theorem routed_readStatusBlob : Routed Device.readStatusBlob := by
  refine routed_get (by decide) fun r => ?_
  obtain ⟨n, buf⟩ := r
  dsimp only
  split
  · exact routed_throw _
  · exact routed_pure _

theorem uses_sampleInto {α : Type} {read : DeviceM α} (set : α → Status → Status) (snap : Status)
    (h : Routed read) : Uses MappedOp (sampleInto read set snap) := by
  refine uses_bind h fun r => ?_
  cases r <;> exact trivial

theorem uses_sampleStatus : Uses MappedOp sampleStatus := by
  refine uses_bind (uses_sampleInto _ _ (routed_get (by decide) fun _ => routed_pure _)) fun _ => ?_
  refine uses_bind (uses_sampleInto _ _ (routed_get (by decide) fun _ => routed_pure _)) fun _ => ?_
  refine uses_bind (uses_sampleInto _ _ (routed_get (by decide) fun _ => routed_pure _)) fun _ => ?_
  refine uses_bind (uses_sampleInto _ _ (routed_uvcGet _ _ (by decide))) fun _ => ?_
  exact uses_sampleInto _ _ (routed_uvcGet _ _ (by decide))

section Handle
variable {Location : Type} (self : Device Location)

theorem routed_firmwareFromCamera : Routed self.firmwareFromCamera :=
  routed_bind (routed_liftChecked _) fun _ => routed_rpcRequestThenReply _ _

theorem routed_serialFromCamera : Routed self.serialFromCamera :=
  routed_bind (routed_liftChecked _) fun _ => routed_rpcRequestThenReply _ _

theorem routed_firmware : Routed self.firmware := by
  refine routed_bind (routed_firmwareFromCamera self) fun s => ?_
  cases FirmwareVersion.parse s with
  | some v => exact routed_pure _
  | none => exact routed_throw _

theorem routed_setFaceFocus (on : Bool) : Routed (self.setFaceFocus on) :=
  routed_bind (routed_liftChecked _) fun _ => routed_uvcSet _ (by decide)

theorem uses_unwrapOr {α : Type} {m : DeviceM α} (default : α) (h : Routed m) :
    Uses MappedOp (unwrapOr m default) := by
  refine uses_bind h fun r => ?_
  cases r <;> exact trivial

theorem routed_lift {α : Type} {p : TransportProgram α} (h : Uses MappedOp p) :
    Routed (ExceptT.lift p) :=
  uses_bind h fun _ => trivial

theorem routed_status : Routed self.status :=
  routed_bind (routed_lift (uses_unwrapOr _ (routed_firmwareFromCamera self))) fun _ =>
    routed_bind (routed_lift (uses_unwrapOr _ (routed_serialFromCamera self))) fun _ =>
      routed_bind (routed_lift uses_sampleStatus) fun _ => routed_pure _

end Handle

theorem routed_setPanTilt (pan tilt : Float32) : Routed (Device.setPanTilt pan tilt) := by
  unfold Device.setPanTilt
  split
  · exact routed_throw _
  · exact routed_uvcSet _ (by decide)

theorem routed_setMaskLevel (level : UInt8) : Routed (Device.setMaskLevel level) := by
  unfold Device.setMaskLevel
  split
  · exact routed_throw _
  · exact routed_setModeRegister _ _

theorem routed_setWhiteBalance (mode : WhiteBalanceMode) (kelvin : Option UInt16) :
    Routed (Device.setWhiteBalance mode kelvin) := by
  cases mode with
  | auto => exact routed_uvcSet _ (by decide)
  | manual => exact routed_bind (routed_uvcSet _ (by decide)) fun _ => routed_uvcSet _ (by decide)

theorem routed_whiteBalance : Routed Device.whiteBalance :=
  routed_get (by decide) fun _ =>
    routed_bind (routed_puGetU16 _ (by decide)) fun _ => routed_pure _

theorem routed_whiteBalanceRange : Routed Device.whiteBalanceRange :=
  routed_bind (routed_puGetU16 _ (by decide)) fun _ =>
    routed_bind (routed_puGetU16 _ (by decide)) fun _ => routed_pure _

/-! ## Pairs that are not routed -/

/-- The operations whose transfers address a pair missing from `cid_for`. A setter that refuses its
argument makes no transfer. -/
def Unmapped : DeviceOp → Prop
  | .setAutoFocus _ | .autoFocus => True
  | .setAeMode _ | .aeMode | .setAeLock _ | .aeLock => True
  | .setExposureTime _ | .exposureTime | .exposureTimeRange => True
  | .setHue value => (i16TryFrom value).isSome
  | .hue | .hueRange => True
  | .setSharpness value => (u16TryFromI32 value).isSome
  | .sharpness | .sharpnessRange => True
  | .setGain value => (u16TryFromI32 value).isSome
  | .gain | .gainRange => True
  | .setBacklightCompensation value => (u16TryFromI32 value).isSome
  | .backlightCompensation => True
  | .setAntiFlicker _ | .antiFlicker => True
  | _ => False

section Unrouted
variable {α : Type} {entity selector : UInt8}

theorem not_served (h : ¬ Mapped entity selector) :
    (isPantilt entity selector || (cidFor entity selector).isSome) = false := by
  unfold Mapped at h
  push Not at h
  simp [h.2.1, h.2.2]

theorem unserved_get {n : ℕ} {req : UvcGet} {out : Bytes n}
    (he : entity = Uvc.cameraTerminal ∨ entity = Uvc.processingUnit)
    (h : ¬ Mapped entity selector) : ¬ ServedByV4l2 (.uvcGet req entity selector n out) := by
  intro hs
  have hs := hs he
  rw [v4l2Get_isSome, not_served h] at hs
  cases hs

theorem unserved_set {payload : List UInt8}
    (he : entity = Uvc.cameraTerminal ∨ entity = Uvc.processingUnit)
    (h : ¬ Mapped entity selector) : ¬ ServedByV4l2 (.uvcSet entity selector payload) := by
  intro hs
  have hs := hs he
  rw [v4l2Set_isSome, not_served h] at hs
  cases hs

/-- One unserved transfer is enough, and the unmapped operations begin with one. -/
theorem unrouted_first {p : TransportProgram α} {op : TransportOp}
    {next : op.Reply → TransportProgram α} (hp : p = .perform op next) (h : ¬ ServedByV4l2 op) :
    ¬ RoutingContract p := by
  intro hc
  rw [hp] at hc
  exact h hc.2.1

theorem unrouted_puSetI16 {value : Int32} (h : ¬ Mapped Uvc.processingUnit selector)
    (hv : (i16TryFrom value).isSome) :
    ¬ RoutingContract (discard (Device.puSetI16 selector value)) := by
  obtain ⟨v, hv⟩ := Option.isSome_iff_exists.mp hv
  unfold Device.puSetI16
  rw [hv]
  exact unrouted_first rfl (unserved_set (.inr rfl) h)

theorem unrouted_puSetU16 {value : Int32} (h : ¬ Mapped Uvc.processingUnit selector)
    (hv : (u16TryFromI32 value).isSome) :
    ¬ RoutingContract (discard (Device.puSetU16 selector value)) := by
  obtain ⟨v, hv⟩ := Option.isSome_iff_exists.mp hv
  unfold Device.puSetU16
  rw [hv]
  exact unrouted_first rfl (unserved_set (.inr rfl) h)

end Unrouted

/-! ## The contract holds of exactly the mapped operations -/

theorem uses_mapped {Location : Type} (self : Device Location) {op : DeviceOp}
    (h : ¬ Unmapped op) : Uses MappedOp (op.program self) := by
  cases op with
  | setStatusCadence _ | name | serial | firmwareVersion | productType => exact trivial
  | status => exact uses_discard (routed_status self)
  | firmwareFromCamera => exact uses_discard (routed_firmwareFromCamera self)
  | firmware => exact uses_discard (routed_firmware self)
  | serialFromCamera => exact uses_discard (routed_serialFromCamera self)
  | learnMac => exact uses_discard routed_learnMac
  | sampleStatus => exact uses_bind uses_sampleStatus fun _ => trivial
  | setPanTilt pan tilt => exact uses_discard (routed_setPanTilt pan tilt)
  | setZoom z => exact uses_discard (routed_ctSetF32 z (by decide))
  | setFocus f => exact uses_discard (routed_ctSetF32 f (by decide))
  | panTilt => exact uses_discard (routed_get (by decide) fun _ => routed_pure _)
  | zoom | focus => exact uses_discard (routed_ctGetU16 (by decide))
  | setBrightness value => exact uses_discard (routed_puSetI16 value fun _ => by decide)
  | brightness => exact uses_discard (routed_get (by decide) fun _ => routed_pure _)
  | brightnessRange => exact uses_discard (routed_puRangeI16 (by decide))
  | setContrast value | setSaturation value =>
    exact uses_discard (routed_puSetU16 value fun _ => by decide)
  | contrast | saturation => exact uses_discard (routed_puU16 (by decide))
  | contrastRange | saturationRange => exact uses_discard (routed_puRangeU16 (by decide))
  | setHue value => exact uses_discard (routed_puSetI16 value fun hv => absurd hv h)
  | setSharpness value | setGain value | setBacklightCompensation value =>
    exact uses_discard (routed_puSetU16 value fun hv => absurd hv h)
  | setWhiteBalance mode kelvin => exact uses_discard (routed_setWhiteBalance mode kelvin)
  | whiteBalance => exact uses_discard routed_whiteBalance
  | whiteBalanceRange => exact uses_discard routed_whiteBalanceRange
  | wdr | faceAe | aiMode =>
    exact uses_discard (routed_bind routed_readStatusBlob fun _ => trivial)
  | setFaceFocus on => exact uses_discard (routed_setFaceFocus self on)
  | setMaskLevel level => exact uses_discard (routed_setMaskLevel level)
  | setWdr _ | setFov _ | setFaceAe _ | setMediaMode _ | setAutoFraming _ | setAiMode _
  | setAudioAgc _ | setFlipHorizontal _ | setPortrait _ | setLed _ | setBgEnable _ | setBgMode _
  | setBgColor _ | setDisableSleepWithoutStream _ | setSuspendTime _ | setMicrophoneDuringSleep _
  | setButtonMode _ =>
    exact uses_discard (routed_setModeRegister _ _)
  | setAutoFocus _ | autoFocus | setAeMode _ | aeMode | setAeLock _ | aeLock | setExposureTime _
  | exposureTime | exposureTimeRange | hue | hueRange | sharpness | sharpnessRange | gain | gainRange
  | backlightCompensation | setAntiFlicker _ | antiFlicker =>
    exact absurd trivial h

theorem unrouted_of_unmapped {Location : Type} (self : Device Location) {op : DeviceOp}
    (h : Unmapped op) : ¬ RoutingContract (op.program self) := by
  cases op with
  | setAutoFocus _ | setAeMode _ | setAeLock _ | setExposureTime _ =>
    exact unrouted_first rfl (unserved_set (.inl rfl) (by decide))
  | autoFocus | aeMode | aeLock | exposureTime | exposureTimeRange =>
    exact unrouted_first rfl (unserved_get (.inl rfl) (by decide))
  | setHue value => exact unrouted_puSetI16 (by decide) h
  | setSharpness value | setGain value | setBacklightCompensation value =>
    exact unrouted_puSetU16 (by decide) h
  | setAntiFlicker _ => exact unrouted_first rfl (unserved_set (.inr rfl) (by decide))
  | hue | hueRange | sharpness | sharpnessRange | gain | gainRange | backlightCompensation
  | antiFlicker =>
    exact unrouted_first rfl (unserved_get (.inr rfl) (by decide))
  | _ => exact absurd h id

/-- The routing contract holds of an operation iff it addresses no pair missing from `cid_for`. -/
theorem contract_iff_not_unmapped {Location : Type} (self : Device Location) (op : DeviceOp) :
    RoutingContract (op.program self) ↔ ¬ Unmapped op :=
  ⟨fun hc hu => unrouted_of_unmapped self hu hc, fun h => contract_of_mapped (uses_mapped self h)⟩

/-- Reading the hue falls through to the extension-unit ioctl of the Processing Unit. -/
theorem hue_breaks_contract :
    ¬ ∀ (self : Device LinuxLocation) (op : DeviceOp), RoutingContract (op.program self) := by
  intro h
  have hc := h
    { info :=
        { vendorId := Meet2.vendorId, productId := Meet2.productIdMeet2, productType := .meet2, serial := ""
          location := { busnum := 1, devnum := 2 } }
      storedFirmware := Meet2.minFw
      mac := Bytes.zeros 6 } .hue
  exact unserved_get (.inr rfl) (by decide) hc.2.1

end Libobsbot.Routing

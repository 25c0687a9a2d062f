import Libobsbot.Controls.BadResponses
import Libobsbot.Controls.Integers
import Libobsbot.Controls.ReportedBytes
import Libobsbot.Foundations.FailFast
import Libobsbot.Xu.ModeRegister

/-! # A call ends at its first failed transfer

The methods of a device pass the transport's errors on. None goes on after one, none swallows one, and the errors of
their own are `OutOfRange`, before anything is sent, and `BadResponse`. Only the status is made of what can be read.
-/

namespace Libobsbot.FirstFailure
open Foundations BadResponses Integers Xu
open Foundations.Program (Steps Exchange)
open Foundations.FailFast
open ShortReads (ControlRead ReadCall)
set_option autoImplicit false

def IsBadResponse (e : Error) : Prop := ∃ selector bytes, e = .badResponse selector bytes

/-- Ends at the first failed transfer, or with a value or a `BadResponse`. -/
abbrev Passes {α : Type} (m : DeviceM α) : Prop := FailsFast failureOf IsBadResponse m

/-! ## The calls into the transport -/

theorem passes_uvcSet (entity selector : UInt8) (payload : List UInt8) : Passes (uvcSet entity selector payload) := by
  refine failsFast_perform fun r => ?_
  cases r <;> rfl

theorem passes_uvcGet {n : ℕ} (req : UvcGet) (entity selector : UInt8) (out : Bytes n) :
    Passes (uvcGet req entity selector out) := by
  refine failsFast_perform fun r => ?_
  obtain ⟨buf, got⟩ := r
  cases got <;> rfl

theorem passes_sleep (millis : ℕ) : Passes (Libobsbot.sleep millis) := failsFast_perform fun _ => rfl

theorem passes_liftChecked {α : Type} (checked : Checked α) : Passes (liftChecked checked) := by
  cases checked with
  | ok a => exact failsFast_pure a
  | error message => exact failsFast_crash message

theorem passes_badResponse {α : Type} (selector : UInt8) (bytes : List UInt8) :
    Passes (throw (.badResponse selector bytes) : DeviceM α) := failsFast_throw ⟨selector, bytes, rfl⟩

/-- A GET and what is made of its buffer. -/
theorem passes_get_then {α : Type} {n : ℕ} {req : UvcGet} {entity selector : UInt8} {out : Bytes n}
    {f : ℕ × Bytes n → DeviceM α} (hf : ∀ got, Passes (f got)) : Passes (uvcGet req entity selector out >>= f) :=
  (passes_uvcGet req entity selector out).bind hf

/-! ## Reads -/

theorem passes_puGetI16 (req : UvcGet) (selector : UInt8) : Passes (Device.puGetI16 req selector) :=
  passes_get_then fun _ => failsFast_pure _

theorem passes_puGetU16 (req : UvcGet) (selector : UInt8) : Passes (Device.puGetU16 req selector) :=
  passes_get_then fun _ => failsFast_pure _

theorem passes_puI16 (selector : UInt8) : Passes (Device.puI16 selector) :=
  (passes_puGetI16 _ _).bind fun _ => failsFast_pure _

theorem passes_puU16 (selector : UInt8) : Passes (Device.puU16 selector) :=
  (passes_puGetU16 _ _).bind fun _ => failsFast_pure _

theorem passes_puRangeI16 (selector : UInt8) : Passes (Device.puRangeI16 selector) :=
  (passes_puGetI16 _ _).bind fun _ => (passes_puGetI16 _ _).bind fun _ => failsFast_pure _

theorem passes_puRangeU16 (selector : UInt8) : Passes (Device.puRangeU16 selector) :=
  (passes_puGetU16 _ _).bind fun _ => (passes_puGetU16 _ _).bind fun _ => failsFast_pure _

theorem passes_aeMode : Passes Device.aeMode := by
  refine passes_get_then fun got => ?_
  dsimp only
  split_ifs
  all_goals first | exact failsFast_pure _ | exact passes_badResponse _ _

theorem passes_antiFlicker : Passes Device.antiFlicker := by
  refine passes_get_then fun got => ?_
  dsimp only
  split_ifs
  all_goals first | exact failsFast_pure _ | exact passes_badResponse _ _

theorem passes_readStatusBlob : Passes Device.readStatusBlob := by
  refine passes_get_then fun got => ?_
  dsimp only
  split_ifs
  · exact passes_badResponse _ _
  · exact failsFast_pure _

theorem passes_wdr : Passes Device.wdr := by
  refine passes_readStatusBlob.bind fun blob => failsFast_done fun e he => ?_
  by_cases hb : Device.blobByte blob Meet2.statusWdrOffset ∈ [0, 1]
  · obtain ⟨mode, hmode⟩ := decodeWdr_ok_iff.mpr hb
    rw [hmode] at he
    cases he
  · rw [decodeWdr_error hb] at he
    cases he
    exact ⟨_, _, rfl⟩

theorem passes_aiMode : Passes Device.aiMode :=
  passes_readStatusBlob.bind fun _ => failsFast_done fun _ he => ⟨_, _, decodeAiMode_error he⟩

theorem passes_pollReply {α : Type} (decode : List UInt8 → Checked (Option α)) (attempt remaining : ℕ)
    (reply : Bytes Meet2.rpcFrameLen) : Passes (pollReply decode attempt remaining reply) := by
  induction remaining generalizing attempt reply with
  | zero => exact passes_badResponse _ _
  | succ remaining ih =>
    unfold pollReply
    split_ifs
    · refine (passes_sleep _).bind fun _ => passes_get_then fun got => (passes_liftChecked _).bind fun decoded => ?_
      cases decoded with
      | none => exact ih _ _
      | some v => exact failsFast_pure v
    · refine passes_get_then fun got => (passes_liftChecked _).bind fun decoded => ?_
      cases decoded with
      | none => exact ih _ _
      | some v => exact failsFast_pure v

theorem passes_firmwareFromCamera {Location : Type} (self : Device Location) : Passes self.firmwareFromCamera :=
  (passes_liftChecked _).bind fun _ => (passes_uvcSet _ _ _).bind fun _ => passes_pollReply _ _ _ _

theorem passes_read {Location : Type} (call : ReadCall Location) : Passes call.program := by
  cases call with
  | firmwareFromCamera self => exact passes_firmwareFromCamera self
  | serialFromCamera self =>
    exact (passes_liftChecked _).bind fun _ => (passes_uvcSet _ _ _).bind fun _ => passes_pollReply _ _ _ _
  | learnMac =>
    exact (passes_liftChecked _).bind fun _ => (passes_uvcSet _ _ _).bind fun _ => passes_pollReply _ _ _ _
  | firmware self =>
    refine (passes_firmwareFromCamera self).bind fun text => ?_
    cases FirmwareVersion.parse text with
    | none => exact passes_badResponse _ _
    | some version => exact failsFast_pure version
  | control read =>
    cases read with
    | panTilt | zoom | focus | autoFocus | exposureTime | brightness => exact passes_get_then fun _ => failsFast_pure _
    | aeMode => exact passes_aeMode
    | aeLock => exact passes_aeMode.bind fun _ => failsFast_pure _
    | exposureTimeRange => exact passes_get_then fun _ => passes_get_then fun _ => failsFast_pure _
    | contrast | saturation | sharpness | gain | backlightCompensation => exact passes_puU16 _
    | hue => exact passes_puI16 _
    | brightnessRange | hueRange => exact passes_puRangeI16 _
    | contrastRange | saturationRange | sharpnessRange | gainRange => exact passes_puRangeU16 _
    | antiFlicker => exact passes_antiFlicker
    | whiteBalance => exact passes_get_then fun _ => (passes_puGetU16 _ _).bind fun _ => failsFast_pure _
    | whiteBalanceRange =>
      exact (passes_puGetU16 _ _).bind fun _ => (passes_puGetU16 _ _).bind fun _ => failsFast_pure _
    | wdr => exact passes_wdr
    | faceAe => exact passes_readStatusBlob.bind fun _ => failsFast_pure _
    | aiMode => exact passes_aiMode

/-! ## Writes -/

/-- Refused before anything is sent, or sent. -/
def RefusesOrPasses (m : DeviceM Unit) : Prop := m.run = .done (.error .outOfRange) ∨ Passes m

theorem setInteger_refusesOrPasses (control : IntegerControl) (value : Int32) :
    RefusesOrPasses (control.set value) := by
  by_cases hfits : control.Fits value
  · have hset : control.set value = uvcSet Uvc.processingUnit control.selector (control.encode value) :=
      IntegerControl.set_accepted hfits
    rw [hset]
    exact .inr (passes_uvcSet _ _ _)
  · exact .inl (IntegerControl.set_rejected hfits)

theorem passes_setModeRegister (controlId : UInt8) (value : List UInt8) :
    Passes (Device.setModeRegister controlId value) :=
  (passes_liftChecked _).bind fun _ => passes_uvcSet _ _ _

theorem setMode_refusesOrPasses (setter : ModeSetter) (arg : setter.Arg) : RefusesOrPasses (setter.call arg) := by
  by_cases haccepts : setter.Accepts arg
  · rw [setter.call_eq haccepts]
    exact .inr (passes_setModeRegister _ _)
  · rw [setter.call_refused haccepts]
    exact .inl rfl

theorem ctSetF32_refusesOrPasses (selector : UInt8) (value : Float32) :
    RefusesOrPasses (Device.ctSetF32 selector value) := by
  unfold Device.ctSetF32
  cases Device.inU16Range value with
  | false => exact .inl rfl
  | true => exact .inr (passes_uvcSet _ _ _)

theorem setPanTilt_refusesOrPasses (pan tilt : Float32) : RefusesOrPasses (Device.setPanTilt pan tilt) := by
  unfold Device.setPanTilt
  cases Device.inUnitRange pan with
  | false => exact .inl rfl
  | true =>
    cases Device.inUnitRange tilt with
    | false => exact .inl rfl
    | true => exact .inr (passes_uvcSet _ _ _)

theorem passes_setWhiteBalance (mode : WhiteBalanceMode) (kelvin : Option UInt16) :
    Passes (Device.setWhiteBalance mode kelvin) := by
  cases mode with
  | auto => exact passes_uvcSet _ _ _
  | manual => exact (passes_uvcSet _ _ _).bind fun _ => passes_uvcSet _ _ _

theorem passes_setFaceFocus {Location : Type} (self : Device Location) (on : Bool) : Passes (self.setFaceFocus on) :=
  (passes_liftChecked _).bind fun _ => passes_uvcSet _ _ _

end Libobsbot.FirstFailure

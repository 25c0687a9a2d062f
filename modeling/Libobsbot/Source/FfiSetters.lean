import Libobsbot.Source.FfiPointers

/-! # The C interface: setters

`crates/libobsbot-ffi/src/lib.rs`: the functions that are handed no memory to write to. A code that names no value is
refused before the handle is looked at.
-/

namespace Libobsbot.Ffi.Raw
open Foundations
set_option autoImplicit false

/-! ## Decoders -/

def wbFromInt (v : Int32) : Option WhiteBalanceMode :=
  if v = 0 then some .auto
  else if v = 1 then some .manual
  else none

def wdrFromInt (v : Int32) : Option WdrMode :=
  if v = 0 then some .off
  else if v = 1 then some .dol2To1
  else none

def fovFromInt (v : Int32) : Option FovType :=
  if v = 0 then some .wide
  else if v = 1 then some .medium
  else if v = 2 then some .narrow
  else none

def mediaFromInt (v : Int32) : Option MediaMode :=
  if v = 0 then some .normal
  else if v = 1 then some .background
  else if v = 2 then some .autoFrame
  else none

def framingFromInt (v : Int32) : Option AutoFramingMode :=
  if v = 0 then some .group
  else if v = 1 then some .singleCloseUp
  else if v = 2 then some .singleUpperBody
  else none

def aiFromInt (v : Int32) : Option AiMode :=
  if v = 0 then some .none
  else if v = 1 then some .group
  else if v = 2 then some .human
  else if v = 3 then some .hand
  else if v = 4 then some .whiteBoard
  else if v = 5 then some .desk
  else none

def antiFlickerFromInt (v : Int32) : Option AntiFlicker :=
  if v = 0 then some .off
  else if v = 1 then some .hz50
  else if v = 2 then some .hz60
  else if v = 3 then some .auto
  else none

def aeModeFromInt (v : Int32) : Option AeMode :=
  if v = 0 then some .manual
  else if v = 1 then some .auto
  else if v = 2 then some .shutterPriority
  else if v = 3 then some .aperturePriority
  else none

def bgModeFromInt (v : Int32) : Option MediaBgMode :=
  if v = 0 then some .disable
  else if v = 1 then some .color
  else if v = 17 then some .replace
  else if v = 18 then some .blur
  else none

def bgColorFromInt (v : Int32) : Option MediaBgColor :=
  if v = -2 then some .disable
  else if v = -1 then some .null
  else if v = 0 then some .blue
  else if v = 1 then some .green
  else if v = 2 then some .red
  else if v = 3 then some .black
  else if v = 4 then some .white
  else none

def cadenceFromInt (v : Int32) : Option Cadence :=
  if v = 0 then some .slow
  else if v = 1 then some .fast
  else none

/-- `u8::try_from(c_int)`. -/
def u8TryFromInt (v : Int32) : Option UInt8 :=
  if 0 ≤ v.toInt ∧ v.toInt ≤ 255 then some (UInt8.ofNat v.toInt.toNat) else none

/-! ## The setters -/

section Setters
variable {Location : Type} (handle : Option (Device Location))

def withDevice (f : Device Location → DeviceM Unit) : TransportProgram Int32 :=
  match handle with
  | none => return obsbotErrNotFound
  | some device => do
    match ← (f device).run with
    | .ok () => return obsbotOk
    | .error e => return mapError e

/-- `let Some(m) = decoded else { return OBSBOT_ERR_OUT_OF_RANGE }`, and `with_device` on it. -/
def withDecoded {α : Type} (decoded : Option α) (f : α → DeviceM Unit) : TransportProgram Int32 :=
  match decoded with
  | none => return obsbotErrOutOfRange
  | some a => withDevice handle fun _ => f a

def obsbotDeviceSetBrightness (value : Int32) := withDevice handle fun _ => Device.setBrightness value
def obsbotDeviceSetContrast (value : Int32) := withDevice handle fun _ => Device.setContrast value
def obsbotDeviceSetSaturation (value : Int32) := withDevice handle fun _ => Device.setSaturation value
def obsbotDeviceSetHue (value : Int32) := withDevice handle fun _ => Device.setHue value
def obsbotDeviceSetSharpness (value : Int32) := withDevice handle fun _ => Device.setSharpness value
def obsbotDeviceSetGain (value : Int32) := withDevice handle fun _ => Device.setGain value
def obsbotDeviceSetBacklightCompensation (value : Int32) :=
  withDevice handle fun _ => Device.setBacklightCompensation value

def obsbotDeviceSetAntiFlicker (mode : Int32) := withDecoded handle (antiFlickerFromInt mode) Device.setAntiFlicker
def obsbotDeviceSetAutoFocus (on : Int32) := withDevice handle fun _ => Device.setAutoFocus (on != 0)
def obsbotDeviceSetAeMode (mode : Int32) := withDecoded handle (aeModeFromInt mode) Device.setAeMode
def obsbotDeviceSetAeLock (locked : Int32) := withDevice handle fun _ => Device.setAeLock (locked != 0)
def obsbotDeviceSetExposureTime (value100us : UInt32) :=
  withDevice handle fun _ => Device.setExposureTime value100us
def obsbotDeviceSetPanTilt (pan tilt : Float32) := withDevice handle fun _ => Device.setPanTilt pan tilt
def obsbotDeviceSetZoom (zoom : Float32) := withDevice handle fun _ => Device.setZoom zoom
def obsbotDeviceSetFocus (focus : Float32) := withDevice handle fun _ => Device.setFocus focus

def obsbotDeviceSetWhiteBalance (mode : Int32) (kelvin : UInt16) :=
  withDecoded handle (wbFromInt mode) fun wb =>
    let kelvinOpt := if wb = .manual then some kelvin else none
    Device.setWhiteBalance wb kelvinOpt

def obsbotDeviceSetWdr (mode : Int32) := withDecoded handle (wdrFromInt mode) Device.setWdr
def obsbotDeviceSetFov (fov : Int32) := withDecoded handle (fovFromInt fov) Device.setFov
def obsbotDeviceSetFaceAe (on : Int32) := withDevice handle fun _ => Device.setFaceAe (on != 0)
def obsbotDeviceSetFaceFocus (on : Int32) := withDevice handle fun device => device.setFaceFocus (on != 0)
def obsbotDeviceSetMediaMode (mode : Int32) := withDecoded handle (mediaFromInt mode) Device.setMediaMode
def obsbotDeviceSetAutoFraming (mode : Int32) := withDecoded handle (framingFromInt mode) Device.setAutoFraming
def obsbotDeviceSetAiMode (mode : Int32) := withDecoded handle (aiFromInt mode) Device.setAiMode
def obsbotDeviceSetAudioAgc (on : Int32) := withDevice handle fun _ => Device.setAudioAgc (on != 0)
def obsbotDeviceSetFlipHorizontal (on : Int32) := withDevice handle fun _ => Device.setFlipHorizontal (on != 0)
def obsbotDeviceSetPortrait (on : Int32) := withDevice handle fun _ => Device.setPortrait (on != 0)
def obsbotDeviceSetLed (on : Int32) := withDevice handle fun _ => Device.setLed (on != 0)
def obsbotDeviceSetBgEnable (on : Int32) := withDevice handle fun _ => Device.setBgEnable (on != 0)
def obsbotDeviceSetBgMode (mode : Int32) := withDecoded handle (bgModeFromInt mode) Device.setBgMode
def obsbotDeviceSetBgColor (color : Int32) := withDecoded handle (bgColorFromInt color) Device.setBgColor
def obsbotDeviceSetMaskLevel (level : Int32) := withDecoded handle (u8TryFromInt level) Device.setMaskLevel
def obsbotDeviceSetDisableSleepWithoutStream (disable : Int32) :=
  withDevice handle fun _ => Device.setDisableSleepWithoutStream (disable != 0)
def obsbotDeviceSetSuspendTime (minutes : UInt16) := withDevice handle fun _ => Device.setSuspendTime minutes
def obsbotDeviceSetMicrophoneDuringSleep (on : Int32) :=
  withDevice handle fun _ => Device.setMicrophoneDuringSleep (on != 0)
def obsbotDeviceSetButtonMode (mode : UInt8) := withDevice handle fun _ => Device.setButtonMode mode

/-- The one setter that does not go through `with_device`. -/
def obsbotDeviceSetStatusCadence (cadence : Int32) : PollerProgram Int32 :=
  match cadenceFromInt cadence with
  | none => return obsbotErrOutOfRange
  | some c =>
    match handle with
    | none => return obsbotErrNotFound
    | some _ => do
      Device.setStatusCadence c
      return obsbotOk

end Setters

/-! ## The registry -/

/-- `c_int::try_from(usize)`. -/
def intTryFromUsize (n : ℕ) : Option Int32 :=
  if n < 2147483648 then some (Int32.ofNat n) else none

def obsbotDevicesCount {Location : Type} : Option (Registry Location) → Int32
  | none => obsbotErrNotFound
  | some registry => (intTryFromUsize registry.list.length).getD 2147483647

end Libobsbot.Ffi.Raw

import Libobsbot.Source.Device

/-! # The operations of a camera

One constructor for each public method of `Device` with its arguments, for `learn_mac`, which
`Devices::open` runs before the handle exists, and for the sample the status poller takes. Only the
transport calls are kept, not the value returned.
-/

namespace Libobsbot
open Foundations
set_option autoImplicit false

inductive DeviceOp where
  | setStatusCadence (cadence : Cadence)
  | name
  | serial
  | firmwareVersion
  | productType
  | status
  | firmwareFromCamera
  | firmware
  | serialFromCamera
  | learnMac
  | sampleStatus
  | setPanTilt (pan tilt : Float32)
  | setZoom (zoom : Float32)
  | setFocus (focus : Float32)
  | panTilt
  | zoom
  | focus
  | setAutoFocus (on : Bool)
  | autoFocus
  | setAeMode (mode : AeMode)
  | aeMode
  | setAeLock (locked : Bool)
  | aeLock
  | setExposureTime (value100us : UInt32)
  | exposureTime
  | exposureTimeRange
  | setBrightness (value : Int32)
  | brightness
  | brightnessRange
  | setContrast (value : Int32)
  | contrast
  | contrastRange
  | setSaturation (value : Int32)
  | saturation
  | saturationRange
  | setHue (value : Int32)
  | hue
  | hueRange
  | setSharpness (value : Int32)
  | sharpness
  | sharpnessRange
  | setGain (value : Int32)
  | gain
  | gainRange
  | setBacklightCompensation (value : Int32)
  | backlightCompensation
  | setAntiFlicker (mode : AntiFlicker)
  | antiFlicker
  | setWhiteBalance (mode : WhiteBalanceMode) (kelvin : Option UInt16)
  | whiteBalance
  | whiteBalanceRange
  | setWdr (mode : WdrMode)
  | wdr
  | faceAe
  | aiMode
  | setFov (fov : FovType)
  | setFaceAe (on : Bool)
  | setFaceFocus (on : Bool)
  | setMediaMode (mode : MediaMode)
  | setAutoFraming (mode : AutoFramingMode)
  | setAiMode (mode : AiMode)
  | setAudioAgc (on : Bool)
  | setFlipHorizontal (on : Bool)
  | setPortrait (on : Bool)
  | setLed (on : Bool)
  | setBgEnable (on : Bool)
  | setBgMode (mode : MediaBgMode)
  | setBgColor (color : MediaBgColor)
  | setMaskLevel (level : UInt8)
  | setDisableSleepWithoutStream (disable : Bool)
  | setSuspendTime (minutes : UInt16)
  | setMicrophoneDuringSleep (on : Bool)
  | setButtonMode (mode : UInt8)

/-- A call whose result is dropped. -/
def discard {α : Type} (m : DeviceM α) : TransportProgram Unit := do
  let _ ← m.run
  return ()

/-- The accessors and `set_status_cadence` do not touch the transport. -/
def DeviceOp.program {Location : Type} (self : Device Location) : DeviceOp → TransportProgram Unit
  | .setStatusCadence _ => .done ()
  | .name => .done ()
  | .serial => .done ()
  | .firmwareVersion => .done ()
  | .productType => .done ()
  | .status => discard self.status
  | .firmwareFromCamera => discard self.firmwareFromCamera
  | .firmware => discard self.firmware
  | .serialFromCamera => discard self.serialFromCamera
  | .learnMac => discard Libobsbot.learnMac
  | .sampleStatus => do
    let _ ← Libobsbot.sampleStatus
    return ()
  | .setPanTilt pan tilt => discard (Device.setPanTilt pan tilt)
  | .setZoom z => discard (Device.setZoom z)
  | .setFocus f => discard (Device.setFocus f)
  | .panTilt => discard Device.panTilt
  | .zoom => discard Device.zoom
  | .focus => discard Device.focus
  | .setAutoFocus on => discard (Device.setAutoFocus on)
  | .autoFocus => discard Device.autoFocus
  | .setAeMode mode => discard (Device.setAeMode mode)
  | .aeMode => discard Device.aeMode
  | .setAeLock locked => discard (Device.setAeLock locked)
  | .aeLock => discard Device.aeLock
  | .setExposureTime value100us => discard (Device.setExposureTime value100us)
  | .exposureTime => discard Device.exposureTime
  | .exposureTimeRange => discard Device.exposureTimeRange
  | .setBrightness value => discard (Device.setBrightness value)
  | .brightness => discard Device.brightness
  | .brightnessRange => discard Device.brightnessRange
  | .setContrast value => discard (Device.setContrast value)
  | .contrast => discard Device.contrast
  | .contrastRange => discard Device.contrastRange
  | .setSaturation value => discard (Device.setSaturation value)
  | .saturation => discard Device.saturation
  | .saturationRange => discard Device.saturationRange
  | .setHue value => discard (Device.setHue value)
  | .hue => discard Device.hue
  | .hueRange => discard Device.hueRange
  | .setSharpness value => discard (Device.setSharpness value)
  | .sharpness => discard Device.sharpness
  | .sharpnessRange => discard Device.sharpnessRange
  | .setGain value => discard (Device.setGain value)
  | .gain => discard Device.gain
  | .gainRange => discard Device.gainRange
  | .setBacklightCompensation value => discard (Device.setBacklightCompensation value)
  | .backlightCompensation => discard Device.backlightCompensation
  | .setAntiFlicker mode => discard (Device.setAntiFlicker mode)
  | .antiFlicker => discard Device.antiFlicker
  | .setWhiteBalance mode kelvin => discard (Device.setWhiteBalance mode kelvin)
  | .whiteBalance => discard Device.whiteBalance
  | .whiteBalanceRange => discard Device.whiteBalanceRange
  | .setWdr mode => discard (Device.setWdr mode)
  | .wdr => discard Device.wdr
  | .faceAe => discard Device.faceAe
  | .aiMode => discard Device.aiMode
  | .setFov fov => discard (Device.setFov fov)
  | .setFaceAe on => discard (Device.setFaceAe on)
  | .setFaceFocus on => discard (self.setFaceFocus on)
  | .setMediaMode mode => discard (Device.setMediaMode mode)
  | .setAutoFraming mode => discard (Device.setAutoFraming mode)
  | .setAiMode mode => discard (Device.setAiMode mode)
  | .setAudioAgc on => discard (Device.setAudioAgc on)
  | .setFlipHorizontal on => discard (Device.setFlipHorizontal on)
  | .setPortrait on => discard (Device.setPortrait on)
  | .setLed on => discard (Device.setLed on)
  | .setBgEnable on => discard (Device.setBgEnable on)
  | .setBgMode mode => discard (Device.setBgMode mode)
  | .setBgColor color => discard (Device.setBgColor color)
  | .setMaskLevel level => discard (Device.setMaskLevel level)
  | .setDisableSleepWithoutStream disable => discard (Device.setDisableSleepWithoutStream disable)
  | .setSuspendTime minutes => discard (Device.setSuspendTime minutes)
  | .setMicrophoneDuringSleep on => discard (Device.setMicrophoneDuringSleep on)
  | .setButtonMode mode => discard (Device.setButtonMode mode)

end Libobsbot

import Libobsbot.Foundations.Ascii
import Libobsbot.Foundations.Memory
import Libobsbot.Source.Ffi
import Libobsbot.Source.Handle

/-! # The C interface and the caller's memory

`crates/libobsbot-ffi/src/lib.rs`: every function with an out pointer, on the bytes of the memory it writes to. A
pointer is an address and null is zero; a handle is `none` where it is null. Numbers lie in memory as on x86-64 and
AArch64, low-order byte first.
-/

namespace Libobsbot.Ffi.Raw
open Foundations
set_option autoImplicit false

abbrev CMemory : Type := Memory UInt8

def f32ToLe (v : Float32) : List UInt8 := u32ToLe v.toBits

/-- A `*mut T`. -/
def ptrToLe (address : ℕ) : List UInt8 := toLe 8 address

/-! ## Encodings -/

/-- `c_int::from(bool)`. -/
def intFromBool (b : Bool) : Int32 := if b then 1 else 0

def antiFlickerToInt : AntiFlicker → Int32
  | .off => 0
  | .hz50 => 1
  | .hz60 => 2
  | .auto => 3

def aeModeToInt : AeMode → Int32
  | .manual => 0
  | .auto => 1
  | .shutterPriority => 2
  | .aperturePriority => 3

/-- The match in `obsbot_device_wdr`. -/
def wdrToInt : WdrMode → Int32
  | .off => 0
  | .dol2To1 => 1

/-- The match in `obsbot_device_ai_mode`. -/
def aiToInt : AiMode → Int32
  | .none => 0
  | .group => 1
  | .human => 2
  | .hand => 3
  | .whiteBoard => 4
  | .desk => 5

/-- The match in `obsbot_device_white_balance`. -/
def wbToInt : WhiteBalanceMode → Int32
  | .auto => 0
  | .manual => 1

/-! ## The readers -/

section Readers
variable {Location : Type} (handle : Option (Device Location))

/-- `read_into`, and the readers that are written out like it; `encode` is what the assignment stores. -/
def readInto {α : Type} (encode : α → List UInt8) (out : ℕ) (f : DeviceM α) (m : CMemory) :
    TransportProgram (Int32 × CMemory) := do
  if handle.isNone || out == 0 then return (obsbotErrNotFound, m)
  match ← f.run with
  | .ok v => return (obsbotOk, m.write out (encode v))
  | .error e => return (mapError e, m)

def readInt (out : ℕ) (f : DeviceM Int32) (m : CMemory) : TransportProgram (Int32 × CMemory) :=
  readInto handle i32ToLe out f m

def obsbotDeviceBrightness (outValue : ℕ) := readInt handle outValue Device.brightness
def obsbotDeviceContrast (outValue : ℕ) := readInt handle outValue Device.contrast
def obsbotDeviceSaturation (outValue : ℕ) := readInt handle outValue Device.saturation
def obsbotDeviceHue (outValue : ℕ) := readInt handle outValue Device.hue
def obsbotDeviceSharpness (outValue : ℕ) := readInt handle outValue Device.sharpness
def obsbotDeviceGain (outValue : ℕ) := readInt handle outValue Device.gain
def obsbotDeviceBacklightCompensation (outValue : ℕ) := readInt handle outValue Device.backlightCompensation

def obsbotDeviceAntiFlicker (outMode : ℕ) :=
  readInto handle (fun mode => i32ToLe (antiFlickerToInt mode)) outMode Device.antiFlicker

def obsbotDeviceAutoFocus (outOn : ℕ) := readInto handle (fun b => i32ToLe (intFromBool b)) outOn Device.autoFocus

def obsbotDeviceAeMode (outMode : ℕ) :=
  readInto handle (fun mode => i32ToLe (aeModeToInt mode)) outMode Device.aeMode

def obsbotDeviceExposureTime (outValue : ℕ) := readInto handle u32ToLe outValue Device.exposureTime

def obsbotDeviceWdr (outMode : ℕ) := readInto handle (fun mode => i32ToLe (wdrToInt mode)) outMode Device.wdr

def obsbotDeviceFaceAe (outOn : ℕ) := readInto handle (fun b => i32ToLe (intFromBool b)) outOn Device.faceAe

def obsbotDeviceAiMode (outMode : ℕ) := readInto handle (fun mode => i32ToLe (aiToInt mode)) outMode Device.aiMode

def obsbotDeviceZoom (out : ℕ) := readInto handle f32ToLe out Device.zoom
def obsbotDeviceFocus (out : ℕ) := readInto handle f32ToLe out Device.focus

/-- The two readers with two out pointers. -/
def readPairInto {α β : Type} (encodeFst : α → List UInt8) (encodeSnd : β → List UInt8) (outFst outSnd : ℕ)
    (f : DeviceM (α × β)) (m : CMemory) : TransportProgram (Int32 × CMemory) := do
  if handle.isNone || outFst == 0 || outSnd == 0 then return (obsbotErrNotFound, m)
  match ← f.run with
  | .ok (a, b) => return (obsbotOk, (m.write outFst (encodeFst a)).write outSnd (encodeSnd b))
  | .error e => return (mapError e, m)

def obsbotDeviceWhiteBalance (outMode outKelvin : ℕ) :=
  readPairInto handle (fun mode => i32ToLe (wbToInt mode)) u16ToLe outMode outKelvin Device.whiteBalance

def obsbotDevicePanTilt (outPan outTilt : ℕ) :=
  readPairInto handle f32ToLe f32ToLe outPan outTilt Device.panTilt

/-! ## Strings -/

def copyIntoBuf (buf cap : ℕ) (s : String) (m : CMemory) : CMemory :=
  if cap = 0 then m
  else
    let n := min (utf8Bytes s).length (cap - 1)
    (m.write buf ((utf8Bytes s).take n)).write (buf + n) [0]

def copyStringOut (outBuf bufLen : ℕ) (f : Device Location → DeviceM String) (m : CMemory) :
    TransportProgram (Int32 × CMemory) :=
  match handle with
  | none => return (obsbotErrNotFound, m)
  | some device => do
    if outBuf == 0 || bufLen == 0 then return (obsbotErrNotFound, m)
    match ← (f device).run with
    | .error e => return (mapError e, m)
    | .ok s =>
      let bytes := utf8Bytes s
      if bufLen < bytes.length + 1 then return (obsbotErrOutOfRange, m)
      return (obsbotOk, (m.write outBuf bytes).write (outBuf + bytes.length) [0])

def obsbotDeviceFirmware (outBuf bufLen : ℕ) := copyStringOut handle outBuf bufLen Device.firmwareFromCamera
def obsbotDeviceSerial (outBuf bufLen : ℕ) := copyStringOut handle outBuf bufLen Device.serialFromCamera

/-! ## The status structure -/

abbrev sizeOfStatus : ℕ := 152

/-- The assignments to the fields, in order; the offsets are those of `#[repr(C)]`. -/
def fillStatus (out : ℕ) (snap : Status) (m : CMemory) : CMemory :=
  let m := copyIntoBuf out obsbotStrMax snap.firmware m
  let m := copyIntoBuf (out + 64) obsbotStrMax snap.serial m
  let m := m.write (out + 128) (i32ToLe snap.brightness)
  let m := m.write (out + 132) (i32ToLe snap.contrast)
  let m := m.write (out + 136) (i32ToLe snap.saturation)
  let m := m.write (out + 140) (f32ToLe snap.zoom)
  let m := m.write (out + 144) (f32ToLe snap.pan)
  m.write (out + 148) (f32ToLe snap.tilt)

/-- `ptr::write_bytes(out, 0, 1)` for a structure of `size` bytes. -/
def writeZeros (size out : ℕ) (m : CMemory) : CMemory := m.write out (List.replicate size 0)

def obsbotDeviceStatus (out : ℕ) (m : CMemory) : TransportProgram (Int32 × CMemory) :=
  match handle with
  | none => return (obsbotErrNotFound, m)
  | some device => do
    if out == 0 then return (obsbotErrNotFound, m)
    match ← device.status.run with
    | .ok snap => return (obsbotOk, fillStatus out snap (writeZeros sizeOfStatus out m))
    | .error e => return (mapError e, m)

end Readers

/-! ## Events -/

abbrev sizeOfEvent : ℕ := 220

def fillEvent (out : ℕ) (event : Event) (m : CMemory) : CMemory :=
  match event with
  | .deviceAdded serial =>
    copyIntoBuf (out + 4) obsbotStrMax serial (m.write out (i32ToLe obsbotEventDeviceAdded))
  | .deviceRemoved serial =>
    copyIntoBuf (out + 4) obsbotStrMax serial (m.write out (i32ToLe obsbotEventDeviceRemoved))
  | .status serial snapshot =>
    fillStatus (out + 68) snapshot
      (copyIntoBuf (out + 4) obsbotStrMax serial (m.write out (i32ToLe obsbotEventStatus)))

def obsbotDevicesPollEvent (handleNull : Bool) (outEvent : ℕ) (timeoutMs : Int32) (m : CMemory) :
    Program ReceiveOp ReceiveOp.Reply (Int32 × CMemory) := do
  if handleNull || outEvent == 0 then return (obsbotErrNotFound, m)
  match ← (.perform (receiveOp timeoutMs) .done : Program ReceiveOp ReceiveOp.Reply (Option Event)) with
  | none => return (obsbotErrTimeout, m)
  | some event => return (obsbotOk, fillEvent outEvent event (writeZeros sizeOfEvent outEvent m))

/-! ## Opening -/

/-- What a call finds at the registry: the snapshot `list` takes, and what `open_transport` comes to. -/
structure Registry (Location : Type) where
  list : List (DeviceInfo Location)
  openTransport : DeviceInfo Location → Result Unit

/-- `intoRaw` is `Box::into_raw(Box::new(_))`. -/
def obsbotDevicesOpenFirst {Location : Type} (handle : Option (Registry Location)) (intoRaw : Device Location → ℕ)
    (outDevice : ℕ) (m : CMemory) : TransportProgram (Int32 × CMemory) :=
  match handle with
  | none => return (obsbotErrNotFound, m)
  | some registry => do
    if outDevice == 0 then return (obsbotErrNotFound, m)
    match registry.list with
    | [] => return (obsbotErrNotFound, m)
    | info :: _ =>
      match ← (Devices.open registry.openTransport info).run with
      | .ok device => return (obsbotOk, m.write outDevice (ptrToLe (intoRaw device)))
      | .error e => return (mapError e, m)

end Libobsbot.Ffi.Raw

import Libobsbot.Source.Uvc
import Libobsbot.Source.Meet2

/-! # The methods of an opened camera

`crates/libobsbot-core/src/device.rs`. A method that reads a field of the handle takes the `Device`;
the others only use its transport, which is whatever answers the program.
-/

namespace Libobsbot
open Foundations
set_option autoImplicit false

/-- The handle's own data. The transport answers the program; the poller is a thread of its own. -/
structure Device (Location : Type) where
  info : DeviceInfo Location
  storedFirmware : String
  mac : Bytes 6

/-! ## The selector-0x02 exchange -/

/-- The loop that `rpc_request_then_reply` and `learn_mac` share: the polls left, from attempt
`attempt` on. -/
def pollReply {α : Type} (decode : List UInt8 → Checked (Option α)) :
    ℕ → ℕ → Bytes Meet2.rpcFrameLen → DeviceM α
  | _, 0, reply => throw (.badResponse Meet2.xuSelRpc reply.toList)
  | attempt, remaining + 1, reply => do
    if 0 < attempt then
      sleep Meet2.rpcReplyPollDelayMs
    let (_, reply) ← uvcGet .cur Meet2.xuEntityId Meet2.xuSelRpc reply
    match ← liftChecked (decode reply.toList) with
    | some decoded => return decoded
    | none => pollReply decode (attempt + 1) remaining reply

def rpcRequestThenReply (request : Bytes Meet2.rpcFrameLen)
    (decode : List UInt8 → Checked (Option String)) : DeviceM String := do
  uvcSet Meet2.xuEntityId Meet2.xuSelRpc request.toList
  pollReply decode 0 Meet2.rpcReplyPollAttempts (Bytes.zeros Meet2.rpcFrameLen)

def learnMac : DeviceM (Bytes 6) := do
  let request ← liftChecked Meet2.buildMacQueryRequest
  uvcSet Meet2.xuEntityId Meet2.xuSelRpc request.toList
  pollReply Meet2.decodeMacQueryReply 0 Meet2.rpcReplyPollAttempts (Bytes.zeros Meet2.rpcFrameLen)

/-! ## The poller's sample -/

def panTiltProvisionalScale : Float32 := 540000.0

def normalisedPantilt (arcSeconds : Int32) : Float32 :=
  arcSeconds.toFloat32 / panTiltProvisionalScale

def readPuI16 (selector : UInt8) : DeviceM Int16 := do
  let (_, buf) ← uvcGet .cur Uvc.processingUnit selector (Bytes.zeros 2)
  return i16FromLe buf.toList

def readPuU16 (selector : UInt8) : DeviceM UInt16 := do
  let (_, buf) ← uvcGet .cur Uvc.processingUnit selector (Bytes.zeros 2)
  return u16FromLe buf.toList

/-- `if let Ok(v) = read { snap = set(v) }`. -/
def sampleInto {α : Type} (read : DeviceM α) (set : α → Status → Status) (snap : Status) :
    TransportProgram Status := do
  match ← read.run with
  | .ok v => return set v snap
  | .error _ => return snap

theorem uses_sampleInto {α : Type} {allowed : TransportOp → Prop} {read : DeviceM α}
    {set : α → Status → Status} {snap : Status} (h : Program.Uses allowed read.run) :
    Program.Uses allowed (sampleInto read set snap) := by
  refine Program.uses_bind h fun r => ?_
  cases r with
  | ok v => trivial
  | error e => trivial

theorem steps_sampleInto {α : Type} {read : DeviceM α} {set : α → Status → Status} {snap snap' : Status}
    {t : List (Program.Exchange TransportOp TransportOp.Reply)}
    (h : Program.Steps (sampleInto read set snap) t (.done snap')) :
    (∃ v, Program.Steps read.run t (.done (.ok v)) ∧ snap' = set v snap) ∨
      (∃ e, Program.Steps read.run t (.done (.error e)) ∧ snap' = snap) := by
  obtain ⟨r, hr, hlast⟩ := h.bind_silent fun r => by cases r <;> trivial
  cases r with
  | ok v =>
    cases hlast
    exact .inl ⟨v, hr, rfl⟩
  | error e =>
    cases hlast
    exact .inr ⟨e, hr, rfl⟩

def sampleStatus : TransportProgram Status := do
  let snap := Status.default
  let snap ← sampleInto (readPuI16 Uvc.Pu.brightness)
    (fun v snap => { snap with brightness := v.toInt32 }) snap
  let snap ← sampleInto (readPuU16 Uvc.Pu.contrast)
    (fun v snap => { snap with contrast := i32FromU16 v }) snap
  let snap ← sampleInto (readPuU16 Uvc.Pu.saturation)
    (fun v snap => { snap with saturation := i32FromU16 v }) snap
  let snap ← sampleInto (uvcGet .cur Uvc.cameraTerminal Uvc.Ct.pantiltAbsolute (Bytes.zeros 8))
    (fun pt snap =>
      { snap with
        pan := normalisedPantilt (i32FromLe (pt.2.toList.take 4))
        tilt := normalisedPantilt (i32FromLe (pt.2.toList.drop 4)) }) snap
  sampleInto (uvcGet .cur Uvc.cameraTerminal Uvc.Ct.zoomAbsolute (Bytes.zeros 2))
    (fun zoom snap => { snap with zoom := (u16FromLe zoom.2.toList).toFloat32 }) snap

/-! ## Encodings of the XU controls -/

def encodeWdr : WdrMode → UInt8
  | .off => 0
  | .dol2To1 => 1

def decodeWdr (b : UInt8) : Result WdrMode :=
  if b = 0 then .ok .off
  else if b = 1 then .ok .dol2To1
  else .error (.badResponse 0 [b])

def encodeFov : FovType → UInt8
  | .wide => 0
  | .medium => 1
  | .narrow => 2

def encodeMediaMode : MediaMode → UInt8
  | .normal => 0
  | .background => 1
  | .autoFrame => 2

def encodeAutoFraming : AutoFramingMode → List UInt8
  | .group => [0, 0]
  | .singleCloseUp => [1, 0]
  | .singleUpperBody => [1, 1]

def encodeAiMode : AiMode → UInt16
  | .none => 0
  | .group => 1
  | .human => 2
  | .hand => 3
  | .whiteBoard => 4
  | .desk => 5

def decodeAiMode (v : UInt16) : Result AiMode :=
  if v = 0 then .ok .none
  else if v = 1 then .ok .group
  else if v = 2 then .ok .human
  else if v = 3 then .ok .hand
  else if v = 4 then .ok .whiteBoard
  else if v = 5 then .ok .desk
  else .error (.badResponse Meet2.xuSelModeRegister (u16ToLe v))

namespace Device
variable {Location : Type} (self : Device Location)

def name : String :=
  match self.info.productType with
  | .meet2 => "OBSBOT Meet 2"

def serial : String := self.info.serial

def firmwareVersion : String := self.storedFirmware

def productType : ProductType := self.info.productType

/-! ## RPC methods -/

def firmwareFromCamera : DeviceM String := do
  let request ← liftChecked
    (Meet2.buildRpcFrame 0x01 0x01 0x0D 0x08 0x04 [] 18 self.mac.toList)
  rpcRequestThenReply request Meet2.decodeFirmwareReply

def firmware : DeviceM FirmwareVersion := do
  let s ← self.firmwareFromCamera
  match FirmwareVersion.parse s with
  | some v => return v
  | none => throw (.badResponse Meet2.xuSelRpc s.toUTF8.data.toList)

def serialFromCamera : DeviceM String := do
  let tail := self.mac.toList ++ [0x01, 0x01]
  let request ← liftChecked (Meet2.buildRpcFrame 0x01 0x03 0x0D 0xC8 0x18 [] 24 tail)
  rpcRequestThenReply request Meet2.decodeSerialReply

def setFaceFocus (on : Bool) : DeviceM Unit := do
  let payload := [u8FromBool on, 0x00, 0x00, 0x00]
  let tail := self.mac.toList ++ [0x01, 0x01]
  let request ← liftChecked (Meet2.buildRpcFrame 0x25 0x04 0x02 0x02 0x36 payload 26 tail)
  uvcSet Meet2.xuEntityId Meet2.xuSelRpc request.toList

def status : DeviceM Status := do
  let firmware ← (unwrapOr self.firmwareFromCamera "" : TransportProgram String)
  let serial ← (unwrapOr self.serialFromCamera "" : TransportProgram String)
  let snap ← sampleStatus
  return { snap with firmware := firmware, serial := serial }

/-! ## Camera Terminal -/

/-- `(-1.0..=1.0).contains(&x)`. -/
def inUnitRange (x : Float32) : Bool := (-1.0 : Float32) ≤ x && x ≤ (1.0 : Float32)

/-- `(0.0..=f32::from(u16::MAX)).contains(&x)`. -/
def inU16Range (x : Float32) : Bool := (0.0 : Float32) ≤ x && x ≤ (65535 : UInt16).toFloat32

def setPanTilt (pan tilt : Float32) : DeviceM Unit := do
  if !inUnitRange pan || !inUnitRange tilt then
    throw .outOfRange
  let panI := (pan * panTiltProvisionalScale).toInt32
  let tiltI := (tilt * panTiltProvisionalScale).toInt32
  uvcSet Uvc.cameraTerminal Uvc.Ct.pantiltAbsolute (i32ToLe panI ++ i32ToLe tiltI)

/-- `set_zoom` and `set_focus`: a value in the u16 range, truncated and written. -/
def ctSetF32 (selector : UInt8) (value : Float32) : DeviceM Unit := do
  if !inU16Range value then
    throw .outOfRange
  uvcSet Uvc.cameraTerminal selector (u16ToLe value.toUInt16)

def setZoom (zoom : Float32) : DeviceM Unit := ctSetF32 Uvc.Ct.zoomAbsolute zoom
def setFocus (focus : Float32) : DeviceM Unit := ctSetF32 Uvc.Ct.focusAbsolute focus

def panTilt : DeviceM (Float32 × Float32) := do
  let (_, buf) ← uvcGet .cur Uvc.cameraTerminal Uvc.Ct.pantiltAbsolute (Bytes.zeros 8)
  let pan := i32FromLe (buf.toList.take 4)
  let tilt := i32FromLe (buf.toList.drop 4)
  return (normalisedPantilt pan, normalisedPantilt tilt)

def ctGetU16 (selector : UInt8) : DeviceM Float32 := do
  let (_, buf) ← uvcGet .cur Uvc.cameraTerminal selector (Bytes.zeros 2)
  return (u16FromLe buf.toList).toFloat32

def zoom : DeviceM Float32 := ctGetU16 Uvc.Ct.zoomAbsolute
def focus : DeviceM Float32 := ctGetU16 Uvc.Ct.focusAbsolute

def setAutoFocus (on : Bool) : DeviceM Unit :=
  uvcSet Uvc.cameraTerminal Uvc.Ct.focusAuto [u8FromBool on]

/-- The only byte of a one-byte buffer. -/
def onlyByte (buf : Bytes 1) : UInt8 := buf.toList.headD 0

def autoFocus : DeviceM Bool := do
  let (_, buf) ← uvcGet .cur Uvc.cameraTerminal Uvc.Ct.focusAuto (Bytes.zeros 1)
  return onlyByte buf != 0

def aeModeByte : AeMode → UInt8
  | .manual => 0x01
  | .auto => 0x02
  | .shutterPriority => 0x04
  | .aperturePriority => 0x08

def setAeMode (mode : AeMode) : DeviceM Unit :=
  uvcSet Uvc.cameraTerminal Uvc.Ct.aeMode [aeModeByte mode]

def aeMode : DeviceM AeMode := do
  let (_, buf) ← uvcGet .cur Uvc.cameraTerminal Uvc.Ct.aeMode (Bytes.zeros 1)
  let b := onlyByte buf
  if b = 0x01 then return .manual
  else if b = 0x02 then return .auto
  else if b = 0x04 then return .shutterPriority
  else if b = 0x08 then return .aperturePriority
  else throw (.badResponse Uvc.Ct.aeMode [b])

def setAeLock (locked : Bool) : DeviceM Unit := setAeMode (if locked then .manual else .auto)

def aeLock : DeviceM Bool := do
  return (← aeMode) = .manual

def setExposureTime (value100us : UInt32) : DeviceM Unit :=
  uvcSet Uvc.cameraTerminal Uvc.Ct.exposureTimeAbsolute (u32ToLe value100us)

def exposureTime : DeviceM UInt32 := do
  let (_, buf) ← uvcGet .cur Uvc.cameraTerminal Uvc.Ct.exposureTimeAbsolute (Bytes.zeros 4)
  return u32FromLe buf.toList

def exposureTimeRange : DeviceM (UInt32 × UInt32) := do
  let (_, buf) ← uvcGet .min Uvc.cameraTerminal Uvc.Ct.exposureTimeAbsolute (Bytes.zeros 4)
  let lo := u32FromLe buf.toList
  -- the same buffer is handed to the second call
  let (_, buf) ← uvcGet .max Uvc.cameraTerminal Uvc.Ct.exposureTimeAbsolute buf
  let hi := u32FromLe buf.toList
  return (lo, hi)

/-! ## Processing Unit -/

def puGetI16 (req : UvcGet) (selector : UInt8) : DeviceM Int16 := do
  let (_, buf) ← uvcGet req Uvc.processingUnit selector (Bytes.zeros 2)
  return i16FromLe buf.toList

def puGetU16 (req : UvcGet) (selector : UInt8) : DeviceM UInt16 := do
  let (_, buf) ← uvcGet req Uvc.processingUnit selector (Bytes.zeros 2)
  return u16FromLe buf.toList

/-- The setters of the signed two-byte controls. -/
def puSetI16 (selector : UInt8) (value : Int32) : DeviceM Unit :=
  match i16TryFrom value with
  | none => throw .outOfRange
  | some v => uvcSet Uvc.processingUnit selector (i16ToLe v)

/-- The setters of the unsigned two-byte controls. -/
def puSetU16 (selector : UInt8) (value : Int32) : DeviceM Unit :=
  match u16TryFromI32 value with
  | none => throw .outOfRange
  | some v => uvcSet Uvc.processingUnit selector (u16ToLe v)

def puRangeI16 (selector : UInt8) : DeviceM (Int32 × Int32) := do
  let lo ← puGetI16 .min selector
  let hi ← puGetI16 .max selector
  return (lo.toInt32, hi.toInt32)

def puRangeU16 (selector : UInt8) : DeviceM (Int32 × Int32) := do
  let lo ← puGetU16 .min selector
  let hi ← puGetU16 .max selector
  return (i32FromU16 lo, i32FromU16 hi)

def puI16 (selector : UInt8) : DeviceM Int32 := do
  return (← puGetI16 .cur selector).toInt32

def puU16 (selector : UInt8) : DeviceM Int32 := do
  return i32FromU16 (← puGetU16 .cur selector)

theorem puI16_eq (selector : UInt8) : puI16 selector =
    (uvcGet .cur Uvc.processingUnit selector (Bytes.zeros 2) >>= fun got =>
      return (i16FromLe got.2.toList).toInt32) := bind_assoc _ _ _

theorem puU16_eq (selector : UInt8) : puU16 selector =
    (uvcGet .cur Uvc.processingUnit selector (Bytes.zeros 2) >>= fun got =>
      return i32FromU16 (u16FromLe got.2.toList)) := bind_assoc _ _ _

def setBrightness (value : Int32) : DeviceM Unit := puSetI16 Uvc.Pu.brightness value

/-- The one integer getter with a body of its own. -/
def brightness : DeviceM Int32 := do
  let (_, buf) ← uvcGet .cur Uvc.processingUnit Uvc.Pu.brightness (Bytes.zeros 2)
  return (i16FromLe buf.toList).toInt32

def brightnessRange : DeviceM (Int32 × Int32) := puRangeI16 Uvc.Pu.brightness

def setContrast (value : Int32) : DeviceM Unit := puSetU16 Uvc.Pu.contrast value
def contrast : DeviceM Int32 := puU16 Uvc.Pu.contrast
def contrastRange : DeviceM (Int32 × Int32) := puRangeU16 Uvc.Pu.contrast

def setSaturation (value : Int32) : DeviceM Unit := puSetU16 Uvc.Pu.saturation value
def saturation : DeviceM Int32 := puU16 Uvc.Pu.saturation
def saturationRange : DeviceM (Int32 × Int32) := puRangeU16 Uvc.Pu.saturation

def setHue (value : Int32) : DeviceM Unit := puSetI16 Uvc.Pu.hue value
def hue : DeviceM Int32 := puI16 Uvc.Pu.hue
def hueRange : DeviceM (Int32 × Int32) := puRangeI16 Uvc.Pu.hue

def setSharpness (value : Int32) : DeviceM Unit := puSetU16 Uvc.Pu.sharpness value
def sharpness : DeviceM Int32 := puU16 Uvc.Pu.sharpness
def sharpnessRange : DeviceM (Int32 × Int32) := puRangeU16 Uvc.Pu.sharpness

def setGain (value : Int32) : DeviceM Unit := puSetU16 Uvc.Pu.gain value
def gain : DeviceM Int32 := puU16 Uvc.Pu.gain
def gainRange : DeviceM (Int32 × Int32) := puRangeU16 Uvc.Pu.gain

def setBacklightCompensation (value : Int32) : DeviceM Unit :=
  puSetU16 Uvc.Pu.backlightCompensation value
def backlightCompensation : DeviceM Int32 := puU16 Uvc.Pu.backlightCompensation

def antiFlickerByte : AntiFlicker → UInt8
  | .off => 0
  | .hz50 => 1
  | .hz60 => 2
  | .auto => 3

def setAntiFlicker (mode : AntiFlicker) : DeviceM Unit :=
  uvcSet Uvc.processingUnit Uvc.Pu.powerLineFrequency [antiFlickerByte mode]

def antiFlicker : DeviceM AntiFlicker := do
  let (_, buf) ← uvcGet .cur Uvc.processingUnit Uvc.Pu.powerLineFrequency (Bytes.zeros 1)
  let b := onlyByte buf
  if b = 0 then return .off
  else if b = 1 then return .hz50
  else if b = 2 then return .hz60
  else if b = 3 then return .auto
  else throw (.badResponse Uvc.Pu.powerLineFrequency [b])

/-! ## White balance -/

def setWhiteBalance (mode : WhiteBalanceMode) (kelvin : Option UInt16) : DeviceM Unit :=
  match mode with
  | .auto => uvcSet Uvc.processingUnit Uvc.Pu.whiteBalanceTemperatureAuto [1]
  | .manual => do
    uvcSet Uvc.processingUnit Uvc.Pu.whiteBalanceTemperatureAuto [0]
    let k := kelvin.getD 6500
    uvcSet Uvc.processingUnit Uvc.Pu.whiteBalanceTemperature (u16ToLe k)

def whiteBalance : DeviceM (WhiteBalanceMode × UInt16) := do
  let (_, autoBuf) ← uvcGet .cur Uvc.processingUnit Uvc.Pu.whiteBalanceTemperatureAuto
    (Bytes.zeros 1)
  let kelvin ← puGetU16 .cur Uvc.Pu.whiteBalanceTemperature
  let mode := if onlyByte autoBuf = 0 then WhiteBalanceMode.manual else .auto
  return (mode, kelvin)

def whiteBalanceRange : DeviceM (UInt16 × UInt16) := do
  let lo ← puGetU16 .min Uvc.Pu.whiteBalanceTemperature
  let hi ← puGetU16 .max Uvc.Pu.whiteBalanceTemperature
  return (lo, hi)

/-! ## Mode register -/

def readStatusBlob : DeviceM (Bytes Meet2.modeRegisterPayloadLen) := do
  let (_, buf) ← uvcGet .cur Meet2.xuEntityId Meet2.xuSelModeRegister
    (Bytes.zeros Meet2.modeRegisterPayloadLen)
  if buf.toList.headD 0 ≠ Meet2.statusBlobMarker then
    throw (.badResponse Meet2.xuSelModeRegister buf.toList)
  return buf

/-- `blob[offset]`, in bounds for every `STATUS_*_OFFSET`. -/
def blobByte (blob : Bytes Meet2.modeRegisterPayloadLen) (offset : ℕ) : UInt8 :=
  blob.toList.getD offset 0

def wdr : DeviceM WdrMode := do
  let blob ← readStatusBlob
  .mk (.done (decodeWdr (blobByte blob Meet2.statusWdrOffset)))

def faceAe : DeviceM Bool := do
  let blob ← readStatusBlob
  return blobByte blob Meet2.statusFaceAeOffset != 0

def aiMode : DeviceM AiMode := do
  let blob ← readStatusBlob
  .mk (.done (decodeAiMode (blobByte blob Meet2.statusAiModeOffset).toUInt16))

/-- The body every mode-register setter shares. -/
def setModeRegister (controlId : UInt8) (valueBytes : List UInt8) : DeviceM Unit := do
  let payload ← liftChecked (Meet2.modeRegisterPayload controlId valueBytes)
  uvcSet Meet2.xuEntityId Meet2.xuSelModeRegister payload.toList

def setWdr (mode : WdrMode) : DeviceM Unit := setModeRegister Meet2.modeWdr [encodeWdr mode]
def setFov (fov : FovType) : DeviceM Unit := setModeRegister Meet2.modeFov [encodeFov fov]
def setFaceAe (on : Bool) : DeviceM Unit := setModeRegister Meet2.modeFaceAe [u8FromBool on]
def setMediaMode (mode : MediaMode) : DeviceM Unit :=
  setModeRegister Meet2.modeMediaMode [encodeMediaMode mode]
def setAutoFraming (mode : AutoFramingMode) : DeviceM Unit :=
  setModeRegister Meet2.modeAutoFraming (encodeAutoFraming mode)
def setAiMode (mode : AiMode) : DeviceM Unit :=
  setModeRegister Meet2.modeAiMode (u16ToLe (encodeAiMode mode))
def setAudioAgc (on : Bool) : DeviceM Unit := setModeRegister Meet2.modeAudioAgc [u8FromBool on]
def setFlipHorizontal (on : Bool) : DeviceM Unit :=
  setModeRegister Meet2.modeFlipHorizontal [u8FromBool on]
def setPortrait (on : Bool) : DeviceM Unit := setModeRegister Meet2.modeVertical [u8FromBool on]
def setLed (on : Bool) : DeviceM Unit := setModeRegister Meet2.modeLed [u8FromBool on]
def setBgEnable (on : Bool) : DeviceM Unit := setModeRegister Meet2.modeBgEnable [u8FromBool on]

def bgModeByte : MediaBgMode → UInt8
  | .disable => 0
  | .color => 1
  | .replace => 17
  | .blur => 18

def setBgMode (mode : MediaBgMode) : DeviceM Unit :=
  setModeRegister Meet2.modeBgMode [bgModeByte mode]

def bgColorByte : MediaBgColor → Int8
  | .disable => -2
  | .null => -1
  | .blue => 0
  | .green => 1
  | .red => 2
  | .black => 3
  | .white => 4

def setBgColor (color : MediaBgColor) : DeviceM Unit :=
  setModeRegister Meet2.modeBgColor [(bgColorByte color).toUInt8]

def setMaskLevel (level : UInt8) : DeviceM Unit := do
  if 100 < level then
    throw .outOfRange
  setModeRegister Meet2.modeMaskLevel [level]

def setDisableSleepWithoutStream (disable : Bool) : DeviceM Unit :=
  setModeRegister Meet2.modeDisableSleepWithoutStream [u8FromBool disable]
def setSuspendTime (minutes : UInt16) : DeviceM Unit :=
  setModeRegister Meet2.modeSuspendTime (u16ToLe minutes)
def setMicrophoneDuringSleep (on : Bool) : DeviceM Unit :=
  setModeRegister Meet2.modeMicDuringSleep [u8FromBool on]
def setButtonMode (mode : UInt8) : DeviceM Unit := setModeRegister Meet2.modeButtonMode [mode]

end Device
end Libobsbot

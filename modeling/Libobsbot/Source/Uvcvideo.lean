import Libobsbot.Source.Uvc

/-! # The Linux transport

`crates/libobsbot-core/src/transport/uvcvideo.rs` and `usb.rs`: the V4L2 dispatch with its fallback to the
extension-unit ioctl, as programs over the four ioctls on `/dev/videoN`. A failed ioctl replies with
the text of `last_os_error`.
-/

namespace Libobsbot.Uvcvideo
open Foundations
set_option autoImplicit false

/-- The fields of `v4l2_queryctrl` that are read. -/
structure V4l2Queryctrl where
  minimum : Int32
  maximum : Int32

inductive Ioctl where
  | ctrlQuery (unit selector query : UInt8) (n : ℕ) (data : Bytes n)
  | gCtrl (cid : UInt32)
  | sCtrl (cid : UInt32) (value : Int32)
  | queryctrl (cid : UInt32)
  | sleep (millis : ℕ)

abbrev Ioctl.Reply : Ioctl → Type
  | .ctrlQuery _ _ _ n _ => Bytes n × Except String Unit
  | .gCtrl _ => Except String Int32
  | .sCtrl _ _ => Except String Unit
  | .queryctrl _ => Except String V4l2Queryctrl
  | .sleep _ => Unit

abbrev KernelProgram (α : Type) : Type := Program Ioctl Ioctl.Reply α

abbrev KernelM (α : Type) : Type := ExceptT Error (Program Ioctl Ioctl.Reply) α

/-- `{n:#x}`. -/
def hexAlt (n : ℕ) : String := "0x" ++ String.ofList (Nat.toDigits 16 n)

/-- `{n:#04x}`. -/
def hexAlt04 (n : ℕ) : String :=
  "0x" ++ String.ofList (List.leftpad 2 '0' (Nat.toDigits 16 n))

/-! ## The ioctls -/

/-- The buffer as the call leaves it, next to the returned length. -/
def xuQuery {n : ℕ} (unit selector query : UInt8) (data : Bytes n) :
    KernelProgram (Bytes n × Result ℕ) :=
  if 65536 ≤ n then
    .done (data, .error (.usb s!"uvcvideo: buffer too large ({n} bytes)"))
  else
    .perform (.ctrlQuery unit selector query n data) fun r =>
      match r.2 with
      | .ok () => .done (r.1, .ok n)
      | .error e =>
        let text := s!"UVCIOC_CTRL_QUERY unit={unit.toNat} sel={hexAlt04 selector.toNat} "
        .done (r.1, .error (.usb (text ++ s!"query={hexAlt04 query.toNat}: {e}")))

def v4l2GCtrl (cid : UInt32) : KernelM Int32 :=
  .mk (.perform (.gCtrl cid) fun r =>
    .done (r.mapError fun e => .usb s!"VIDIOC_G_CTRL cid={hexAlt cid.toNat}: {e}"))

def v4l2SCtrl (cid : UInt32) (value : Int32) : KernelM Unit :=
  .mk (.perform (.sCtrl cid value) fun r =>
    .done (r.mapError fun e =>
      .usb s!"VIDIOC_S_CTRL cid={hexAlt cid.toNat} val={value.toInt}: {e}"))

def v4l2Queryctrl (cid : UInt32) : KernelM V4l2Queryctrl :=
  .mk (.perform (.queryctrl cid) fun r =>
    .done (r.mapError fun e => .usb s!"VIDIOC_QUERYCTRL cid={hexAlt cid.toNat}: {e}"))

/-! ## The control table -/

def v4l2CidBase : UInt32 := 0x00980900
def v4l2CidCameraClassBase : UInt32 := 0x009a0900

def v4l2CidBrightness : UInt32 := v4l2CidBase
def v4l2CidContrast : UInt32 := v4l2CidBase + 1
def v4l2CidSaturation : UInt32 := v4l2CidBase + 2
def v4l2CidAutoWhiteBalance : UInt32 := v4l2CidBase + 12
def v4l2CidWhiteBalanceTemperature : UInt32 := v4l2CidBase + 26
def v4l2CidPanAbsolute : UInt32 := v4l2CidCameraClassBase + 8
def v4l2CidTiltAbsolute : UInt32 := v4l2CidCameraClassBase + 9
def v4l2CidFocusAbsolute : UInt32 := v4l2CidCameraClassBase + 10
def v4l2CidZoomAbsolute : UInt32 := v4l2CidCameraClassBase + 13

def cidFor (entity selector : UInt8) : Option UInt32 :=
  if (entity, selector) = (3, 0x02) then some v4l2CidBrightness
  else if (entity, selector) = (3, 0x03) then some v4l2CidContrast
  else if (entity, selector) = (3, 0x07) then some v4l2CidSaturation
  else if (entity, selector) = (3, 0x0a) then some v4l2CidWhiteBalanceTemperature
  else if (entity, selector) = (3, 0x0b) then some v4l2CidAutoWhiteBalance
  else if (entity, selector) = (1, 0x06) then some v4l2CidFocusAbsolute
  else if (entity, selector) = (1, 0x0b) then some v4l2CidZoomAbsolute
  else none

def isPantilt (entity selector : UInt8) : Bool := entity == 1 && selector == 0x0d

def isSigned2byte (cid : UInt32) : Bool := cid == v4l2CidBrightness

def payloadToI32 (cid : UInt32) (payload : List UInt8) : Int32 :=
  match payload with
  | [b] => Int32.ofNat b.toNat
  | [_, _] => if isSigned2byte cid then (i16FromLe payload).toInt32 else i32FromU16 (u16FromLe payload)
  | [_, _, _, _] => i32FromLe payload
  | _ => 0

/-! ## Dispatch -/

def pantiltSet (payload : List UInt8) : KernelM Unit := do
  if payload.length ≠ 8 then
    throw (.usb s!"CT_PANTILT_ABSOLUTE expects 8 bytes, got {payload.length}")
  let pan := i32FromLe (payload.take 4)
  let tilt := i32FromLe (payload.drop 4)
  v4l2SCtrl v4l2CidPanAbsolute pan
  v4l2SCtrl v4l2CidTiltAbsolute tilt

/-- The two axes of a `(pan, tilt)` request, each read by its own ioctl. -/
def pantiltRead : UvcGet → KernelM (Int32 × Int32)
  | .cur => do
    let pan ← v4l2GCtrl v4l2CidPanAbsolute
    let tilt ← v4l2GCtrl v4l2CidTiltAbsolute
    return (pan, tilt)
  | .min => do
    let pan ← v4l2Queryctrl v4l2CidPanAbsolute
    let tilt ← v4l2Queryctrl v4l2CidTiltAbsolute
    return (pan.minimum, tilt.minimum)
  | .max => do
    let pan ← v4l2Queryctrl v4l2CidPanAbsolute
    let tilt ← v4l2Queryctrl v4l2CidTiltAbsolute
    return (pan.maximum, tilt.maximum)

def pantiltGet {n : ℕ} (req : UvcGet) (out : Bytes n) : KernelProgram (Bytes n × Result ℕ) :=
  if n < 8 then
    .done (out, .error (.usb s!"CT_PANTILT_ABSOLUTE response expects 8 bytes, got {n}"))
  else do
    match ← (pantiltRead req).run with
    | .ok (pan, tilt) => return ((out.overwrite 0 (i32ToLe pan)).overwrite 4 (i32ToLe tilt), .ok 8)
    | .error e => return (out, .error e)

/-- `none`: no V4L2 control for the pair, the caller falls back to the extension unit. -/
def v4l2Set (entity selector : UInt8) (payload : List UInt8) : Option (KernelM Unit) :=
  if isPantilt entity selector then some (pantiltSet payload)
  else (cidFor entity selector).map fun cid => v4l2SCtrl cid (payloadToI32 cid payload)

/-- The little-endian bytes of one control's current value or bound. -/
def v4l2Read (cid : UInt32) : UvcGet → KernelM (List UInt8)
  | .cur => do return i32ToLe (← v4l2GCtrl cid)
  | .min => do return i32ToLe (← v4l2Queryctrl cid).minimum
  | .max => do return i32ToLe (← v4l2Queryctrl cid).maximum

def v4l2Get {n : ℕ} (req : UvcGet) (entity selector : UInt8) (out : Bytes n) :
    Option (KernelProgram (Bytes n × Result ℕ)) :=
  if isPantilt entity selector then some (pantiltGet req out)
  else (cidFor entity selector).map fun cid => do
    match ← (v4l2Read cid req).run with
    | .ok bytes =>
      let len := min bytes.length n
      return (out.overwrite 0 (bytes.take len), .ok len)
    | .error e => return (out, .error e)

namespace UsbTransport

def setCur : UInt8 := 0x01

def uvcSet (entity selector : UInt8) (payload : List UInt8) : KernelProgram (Result Unit) :=
  match v4l2Set entity selector payload with
  | some served => served.run
  | none => do
    let r ← xuQuery entity selector setCur (Bytes.ofList payload)
    return r.2.map fun _ => ()

def uvcGet {n : ℕ} (req : UvcGet) (entity selector : UInt8) (out : Bytes n) :
    KernelProgram (Bytes n × Result ℕ) :=
  match v4l2Get req entity selector out with
  | some served => served
  | none => xuQuery entity selector req.bRequest out

/-- Every transport call carried out by ioctls. -/
def answer : (op : TransportOp) → KernelProgram op.Reply
  | .uvcSet entity selector payload => uvcSet entity selector payload
  | .uvcGet req entity selector _ out => uvcGet req entity selector out
  | .sleep millis => .perform (.sleep millis) .done

end UsbTransport
end Libobsbot.Uvcvideo

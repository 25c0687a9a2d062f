import Libobsbot.Foundations.Program
import Libobsbot.Source.Types

/-! # UVC selectors and the transport boundary

`crates/libobsbot-core/src/uvc.rs` and `transport/mod.rs`. A method of `Device` is a program over the two
transport calls and `thread::sleep`; `DeviceM` adds the `Result` its callers see. `uvc_get` is handed
the caller's buffer and replies with the buffer as it leaves it, next to the returned length.
-/

namespace Libobsbot
open Foundations
set_option autoImplicit false

namespace Uvc

def cameraTerminal : UInt8 := 1
def processingUnit : UInt8 := 3

namespace Ct
def aeMode : UInt8 := 0x02
def exposureTimeAbsolute : UInt8 := 0x04
def focusAbsolute : UInt8 := 0x06
def focusAuto : UInt8 := 0x08
def zoomAbsolute : UInt8 := 0x0b
def pantiltAbsolute : UInt8 := 0x0d
end Ct

namespace Pu
def brightness : UInt8 := 0x02
def contrast : UInt8 := 0x03
def hue : UInt8 := 0x06
def saturation : UInt8 := 0x07
def sharpness : UInt8 := 0x08
def backlightCompensation : UInt8 := 0x09
def gain : UInt8 := 0x04
def powerLineFrequency : UInt8 := 0x05
def whiteBalanceTemperature : UInt8 := 0x0a
def whiteBalanceTemperatureAuto : UInt8 := 0x0b
end Pu

end Uvc

inductive UvcGet where
  | cur | min | max
  deriving DecidableEq

/-- `req as u8`. -/
def UvcGet.bRequest : UvcGet → UInt8
  | .cur => 0x81
  | .min => 0x82
  | .max => 0x83

inductive TransportOp where
  | uvcSet (entity selector : UInt8) (payload : List UInt8)
  | uvcGet (req : UvcGet) (entity selector : UInt8) (n : ℕ) (out : Bytes n)
  | sleep (millis : ℕ)

abbrev TransportOp.Reply : TransportOp → Type
  | .uvcSet _ _ _ => Result Unit
  | .uvcGet _ _ _ n _ => Bytes n × Result ℕ
  | .sleep _ => Unit

abbrev TransportProgram (α : Type) : Type := Program TransportOp TransportOp.Reply α

abbrev DeviceM (α : Type) : Type := ExceptT Error (Program TransportOp TransportOp.Reply) α

def uvcSet (entity selector : UInt8) (payload : List UInt8) : DeviceM Unit :=
  .mk (.perform (.uvcSet entity selector payload) .done)

/-- The returned length with the buffer as the call leaves it. -/
def uvcGet {n : ℕ} (req : UvcGet) (entity selector : UInt8) (out : Bytes n) :
    DeviceM (ℕ × Bytes n) :=
  .mk (.perform (.uvcGet req entity selector n out) fun r => .done (r.2.map fun len => (len, r.1)))

def sleep (millis : ℕ) : DeviceM Unit :=
  .mk (.perform (.sleep millis) fun _ => .done (.ok ()))

/-- A panic ends the program. -/
def liftChecked {α : Type} : Checked α → DeviceM α
  | .ok a => .mk (.done (.ok a))
  | .error m => .mk (.crash m)

/-- `Result::unwrap_or(default)`. -/
def unwrapOr {α : Type} (m : DeviceM α) (default : α) : TransportProgram α := do
  match ← m.run with
  | .ok a => return a
  | .error _ => return default

/-! ## Fixed-width numbers on the wire -/

def i16FromLe (buf : List UInt8) : Int16 := (UInt16.ofNat (fromLe buf)).toInt16
def u16FromLe (buf : List UInt8) : UInt16 := UInt16.ofNat (fromLe buf)
def i32FromLe (buf : List UInt8) : Int32 := (UInt32.ofNat (fromLe buf)).toInt32
def u32FromLe (buf : List UInt8) : UInt32 := UInt32.ofNat (fromLe buf)

def i16ToLe (v : Int16) : List UInt8 := toLe 2 v.toUInt16.toNat
def u16ToLe (v : UInt16) : List UInt8 := toLe 2 v.toNat
def i32ToLe (v : Int32) : List UInt8 := toLe 4 v.toUInt32.toNat
def u32ToLe (v : UInt32) : List UInt8 := toLe 4 v.toNat

@[simp] theorem i32ToLe_length (v : Int32) : (i32ToLe v).length = 4 := toLe_length 4 _

/-- `i32::from(u16)`. -/
def i32FromU16 (v : UInt16) : Int32 := Int32.ofNat v.toNat

/-- `i16::try_from(i32)`. -/
def i16TryFrom (v : Int32) : Option Int16 :=
  if -32768 ≤ v.toInt ∧ v.toInt ≤ 32767 then some v.toInt16 else none

/-- `u16::try_from(i32)`. -/
def u16TryFromI32 (v : Int32) : Option UInt16 :=
  if 0 ≤ v.toInt ∧ v.toInt ≤ 65535 then some (UInt16.ofNat v.toInt.toNat) else none

/-- `u8::from(bool)`. -/
def u8FromBool (b : Bool) : UInt8 := if b then 1 else 0

end Libobsbot

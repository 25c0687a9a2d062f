import Libobsbot.Source.Device

/-! # The C interface

`crates/libobsbot-ffi/src/lib.rs`: the two functions that fill an `ObsbotStatus`. A pointer argument is null or
it is not; what is written through an out pointer is returned next to the code, `none` where nothing is.
-/

namespace Libobsbot.Ffi
open Foundations
set_option autoImplicit false

def obsbotOk : Int32 := 0
def obsbotErrUsb : Int32 := -1
def obsbotErrNotFound : Int32 := -2
def obsbotErrTimeout : Int32 := -3
def obsbotErrUnsupported : Int32 := -4
def obsbotErrOutOfRange : Int32 := -5
def obsbotErrFirmware : Int32 := -6
def obsbotErrBadResponse : Int32 := -7

def mapError : Error → Int32
  | .notFound => obsbotErrNotFound
  | .timeout => obsbotErrTimeout
  | .unsupported _ => obsbotErrUnsupported
  | .outOfRange => obsbotErrOutOfRange
  | .firmwareUnsupported _ _ => obsbotErrFirmware
  | .badResponse _ _ => obsbotErrBadResponse
  | .usb _ => obsbotErrUsb

def obsbotEventDeviceAdded : Int32 := 1
def obsbotEventDeviceRemoved : Int32 := 2
def obsbotEventStatus : Int32 := 3

abbrev obsbotStrMax : ℕ := 64

/-! ## The C structures -/

@[ext] structure ObsbotStatus where
  firmware : Bytes obsbotStrMax
  serial : Bytes obsbotStrMax
  brightness : Int32
  contrast : Int32
  saturation : Int32
  zoom : Float32
  pan : Float32
  tilt : Float32

structure ObsbotEvent where
  kind : Int32
  serial : Bytes obsbotStrMax
  status : ObsbotStatus

/-- `ptr::write_bytes(out, 0, 1)`. -/
def ObsbotStatus.zeroed : ObsbotStatus where
  firmware := Bytes.zeros obsbotStrMax
  serial := Bytes.zeros obsbotStrMax
  brightness := 0
  contrast := 0
  saturation := 0
  zoom := 0
  pan := 0
  tilt := 0

def ObsbotEvent.zeroed : ObsbotEvent where
  kind := 0
  serial := Bytes.zeros obsbotStrMax
  status := .zeroed

def copyIntoBuf {cap : ℕ} (buf : Bytes cap) (s : String) : Bytes cap :=
  if cap = 0 then buf
  else
    let bytes := s.toUTF8.data.toList
    let n := min bytes.length (cap - 1)
    (buf.overwrite 0 (bytes.take n)).overwrite n [0]

/-! ## `obsbot_devices_poll_event` -/

/-- The three receive calls; a reply is their `.ok()`. -/
inductive ReceiveOp where
  | recv
  | tryRecv
  | recvTimeout (millis : ℕ)

abbrev ReceiveOp.Reply : ReceiveOp → Type := fun _ => Option Event

def receiveOp (timeoutMs : Int32) : ReceiveOp :=
  match compare timeoutMs.toInt 0 with
  | .lt => .recv
  | .eq => .tryRecv
  | .gt => .recvTimeout timeoutMs.toInt.natAbs

/-- The event written over `zeroed`. -/
def writeEvent (out : ObsbotEvent) : Event → ObsbotEvent
  | .deviceAdded serial =>
    { out with kind := obsbotEventDeviceAdded, serial := copyIntoBuf out.serial serial }
  | .deviceRemoved serial =>
    { out with kind := obsbotEventDeviceRemoved, serial := copyIntoBuf out.serial serial }
  | .status serial snapshot =>
    { kind := obsbotEventStatus
      serial := copyIntoBuf out.serial serial
      status :=
        { firmware := copyIntoBuf out.status.firmware snapshot.firmware
          serial := copyIntoBuf out.status.serial snapshot.serial
          brightness := snapshot.brightness
          contrast := snapshot.contrast
          saturation := snapshot.saturation
          zoom := snapshot.zoom
          pan := snapshot.pan
          tilt := snapshot.tilt } }

def obsbotDevicesPollEvent (handleNull outNull : Bool) (timeoutMs : Int32) :
    Program ReceiveOp ReceiveOp.Reply (Int32 × Option ObsbotEvent) := do
  if handleNull || outNull then return (obsbotErrNotFound, none)
  match ← (.perform (receiveOp timeoutMs) .done : Program ReceiveOp ReceiveOp.Reply (Option Event)) with
  | none => return (obsbotErrTimeout, none)
  | some ev => return (obsbotOk, some (writeEvent .zeroed ev))

/-! ## `obsbot_device_status` -/

def writeStatus (out : ObsbotStatus) (snap : Status) : ObsbotStatus :=
  { out with
    firmware := copyIntoBuf out.firmware snap.firmware
    serial := copyIntoBuf out.serial snap.serial
    brightness := snap.brightness
    contrast := snap.contrast
    saturation := snap.saturation
    zoom := snap.zoom
    pan := snap.pan
    tilt := snap.tilt }

/-- A null handle is `none`. -/
def obsbotDeviceStatus {Location : Type} (handle : Option (Device Location)) (outNull : Bool) :
    TransportProgram (Int32 × Option ObsbotStatus) :=
  match handle with
  | none => return (obsbotErrNotFound, none)
  | some device => do
    if outNull then return (obsbotErrNotFound, none)
    match ← device.status.run with
    | .ok snap => return (obsbotOk, some (writeStatus .zeroed snap))
    | .error e => return (mapError e, none)

/-! ## Strings in a C buffer -/

/-- The longest beginning of the string that leaves room for a NUL, and NULs from there on. -/
theorem copyIntoBuf_toList {cap : ℕ} (hcap : 0 < cap) (s : String) :
    (copyIntoBuf (Bytes.zeros cap) s).toList = s.toUTF8.data.toList.take (cap - 1) ++
      List.replicate (cap - min s.toUTF8.data.toList.length (cap - 1)) 0 := by
  generalize hbytes : s.toUTF8.data.toList = bytes
  obtain ⟨n, hn⟩ : ∃ n, n = min bytes.length (cap - 1) := ⟨_, rfl⟩
  have hlt : n < cap := by omega
  have hlen : (bytes.take n).length = n := by
    rw [List.length_take]
    omega
  have htake : bytes.take n = bytes.take (cap - 1) := by
    rw [hn, List.take_eq_take_iff]
    omega
  have hfirst : ((Bytes.zeros cap).overwrite 0 (bytes.take n)).toList =
      bytes.take n ++ List.replicate (cap - n) 0 := by
    rw [Bytes.overwrite_toList _ (by omega), Bytes.zeros_toList, splice_replicate _ _ _ (by omega), hlen,
      Nat.zero_add]
    rfl
  have hnul : splice (List.replicate (cap - n) (0 : UInt8)) 0 [0] = List.replicate (cap - n) 0 := by
    rw [splice_replicate _ _ _ (by simp only [List.length_singleton]; omega)]
    obtain ⟨k, hk⟩ : ∃ k, cap - n = k + 1 := ⟨cap - n - 1, by omega⟩
    rw [hk]
    rfl
  rw [← hn, copyIntoBuf, if_neg (by omega), hbytes]
  dsimp only
  rw [← hn, Bytes.overwrite_toList _ (by rw [List.length_singleton]; omega), hfirst,
    splice_append_right _ _ hlen.le, hlen, Nat.sub_self, hnul, htake]

theorem copyIntoBuf_empty (cap : ℕ) : copyIntoBuf (Bytes.zeros cap) "" = Bytes.zeros cap := by
  obtain rfl | hcap := Nat.eq_zero_or_pos cap
  · rfl
  · refine Bytes.ext ?_
    have hempty : "".toUTF8.data.toList = [] := by decide
    rw [copyIntoBuf_toList hcap, hempty, List.take_nil, List.length_nil, Nat.zero_min, Nat.sub_zero]
    rfl

end Libobsbot.Ffi

import Libobsbot.Controls.Integers
import Libobsbot.Foundations.Layout
import Libobsbot.Source.FfiSetters
import Libobsbot.Xu.ModeRegister

/-! # The C interface is a control panel

What a C program sees of a camera is a panel of knobs, each showing the number last set on it. The panel is stated in
the numbers of the C interface. Below it stand the enums, their encodings on the wire and the cells of a
camera that keeps what is written to it; a session of any calls shows on the panel what it leaves in the cells.
-/

namespace Libobsbot.Ffi.Sessions
open Foundations Raw Integers Xu
set_option autoImplicit false

/-! ## Knobs -/

inductive Knob where
  | integer (control : IntegerControl)
  | antiFlicker | whiteBalance | kelvin
  | autoFocus | aeMode | exposureTime | zoom | focus | panTilt
  | mode (setter : ModeSetter)
  deriving DecidableEq

/-- What the C interface takes for a value of the mode register. -/
abbrev ModeCode : ModeSetter → Type
  | .suspendTime => UInt16
  | .buttonMode => UInt8
  | _ => Int32

abbrev Knob.Value : Knob → Type
  | .exposureTime => UInt32
  | .kelvin | .zoom | .focus => UInt16
  | .panTilt => Int32 × Int32
  | .mode setter => ModeCode setter
  | _ => Int32

def oneOf (codes : List Int32) (v : Int32) : Option Int32 := if v ∈ codes then some v else none

/-- `on != 0`. -/
def switch (on : Int32) : Int32 := if on = 0 then 0 else 1

/-- What a knob of the mode register shows once it is turned to `v`; `none` where it refuses. -/
def acceptMode : (setter : ModeSetter) → ModeCode setter → Option (ModeCode setter)
  | .wdr, v => oneOf [0, 1] v
  | .fov, v => oneOf [0, 1, 2] v
  | .mediaMode, v => oneOf [0, 1, 2] v
  | .autoFraming, v => oneOf [0, 1, 2] v
  | .aiMode, v => oneOf [0, 1, 2, 3, 4, 5] v
  | .bgMode, v => oneOf [0, 1, 17, 18] v
  | .bgColor, v => oneOf [-2, -1, 0, 1, 2, 3, 4] v
  | .maskLevel, v => if 0 ≤ v.toInt ∧ v.toInt ≤ 100 then some v else none
  | .suspendTime, v => some v
  | .buttonMode, v => some v
  | .faceAe, v => some (switch v)
  | .audioAgc, v => some (switch v)
  | .flipHorizontal, v => some (switch v)
  | .portrait, v => some (switch v)
  | .led, v => some (switch v)
  | .bgEnable, v => some (switch v)
  | .disableSleepWithoutStream, v => some (switch v)
  | .microphoneDuringSleep, v => some (switch v)

def Knob.accept : (knob : Knob) → knob.Value → Option knob.Value
  | .integer control, v => if control.Fits v then some v else none
  | .antiFlicker, v => oneOf [0, 1, 2, 3] v
  | .whiteBalance, v => oneOf [0, 1] v
  | .autoFocus, v => some (switch v)
  | .aeMode, v => oneOf [0, 1, 2, 3] v
  | .exposureTime, v => some v
  | .kelvin, v => some v
  | .zoom, v => some v
  | .focus, v => some v
  | .panTilt, v => some v
  | .mode setter, v => acceptMode setter v

theorem accept_oneOf {codes : List Int32} {v w : Int32} (h : oneOf codes v = some w) : oneOf codes w = some w := by
  unfold oneOf at *
  split_ifs at h with hmem
  cases h
  rw [if_pos hmem]

theorem accept_guarded {α : Type} {p : α → Prop} [DecidablePred p] {v w : α}
    (h : (if p v then some v else none) = some w) : (if p w then some w else none) = some w := by
  split_ifs at h with hp
  cases h
  rw [if_pos hp]

theorem switch_cases (v : Int32) : switch v = 0 ∨ switch v = 1 := by
  unfold switch
  split
  · exact .inl rfl
  · exact .inr rfl

theorem accept_switch {v w : Int32} (h : some (switch v) = some w) : some (switch w) = some w := by
  cases h
  obtain h | h := switch_cases v <;> rw [h] <;> rfl

theorem acceptMode_idem {setter : ModeSetter} {v w : ModeCode setter} (h : acceptMode setter v = some w) :
    acceptMode setter w = some w := by
  cases setter with
  | wdr | fov | mediaMode | autoFraming | aiMode | bgMode | bgColor => exact accept_oneOf h
  | maskLevel => exact accept_guarded (p := fun v : Int32 => 0 ≤ v.toInt ∧ v.toInt ≤ 100) h
  | suspendTime | buttonMode => rfl
  | faceAe | audioAgc | flipHorizontal | portrait | led | bgEnable | disableSleepWithoutStream
  | microphoneDuringSleep => exact accept_switch h

/-- A knob that shows a value accepts it. -/
theorem Knob.accept_idem {knob : Knob} {v w : knob.Value} (h : knob.accept v = some w) : knob.accept w = some w := by
  cases knob with
  | integer control => exact accept_guarded (p := control.Fits) h
  | antiFlicker | whiteBalance | aeMode => exact accept_oneOf h
  | autoFocus => exact accept_switch h
  | exposureTime | kelvin | zoom | focus | panTilt => rfl
  | mode setter => exact acceptMode_idem h

/-! ## Where a knob lies in the camera -/

/-- A register of its own, or a control id of the mode register. -/
inductive Cell where
  | register (entity selector : UInt8)
  | mode (controlId : UInt8)
  deriving DecidableEq

def Knob.cell : Knob → Cell
  | .integer control => .register Uvc.processingUnit control.selector
  | .antiFlicker => .register Uvc.processingUnit Uvc.Pu.powerLineFrequency
  | .whiteBalance => .register Uvc.processingUnit Uvc.Pu.whiteBalanceTemperatureAuto
  | .kelvin => .register Uvc.processingUnit Uvc.Pu.whiteBalanceTemperature
  | .autoFocus => .register Uvc.cameraTerminal Uvc.Ct.focusAuto
  | .aeMode => .register Uvc.cameraTerminal Uvc.Ct.aeMode
  | .exposureTime => .register Uvc.cameraTerminal Uvc.Ct.exposureTimeAbsolute
  | .zoom => .register Uvc.cameraTerminal Uvc.Ct.zoomAbsolute
  | .focus => .register Uvc.cameraTerminal Uvc.Ct.focusAbsolute
  | .panTilt => .register Uvc.cameraTerminal Uvc.Ct.pantiltAbsolute
  | .mode setter => .mode setter.controlId

/-- The low-order byte. -/
def byteOf (v : Int32) : UInt8 := v.toUInt32.toUInt8

def modeBytes : (setter : ModeSetter) → ModeCode setter → List UInt8
  | .autoFraming, v => if v = 0 then [0, 0] else [1, byteOf (v - 1)]
  | .aiMode, v => [byteOf v, 0]
  | .suspendTime, v => u16ToLe v
  | .buttonMode, v => [v]
  | .wdr, v => [byteOf v]
  | .fov, v => [byteOf v]
  | .mediaMode, v => [byteOf v]
  | .bgMode, v => [byteOf v]
  | .bgColor, v => [byteOf v]
  | .maskLevel, v => [byteOf v]
  | .faceAe, v => [byteOf v]
  | .audioAgc, v => [byteOf v]
  | .flipHorizontal, v => [byteOf v]
  | .portrait, v => [byteOf v]
  | .led, v => [byteOf v]
  | .bgEnable, v => [byteOf v]
  | .disableSleepWithoutStream, v => [byteOf v]
  | .microphoneDuringSleep, v => [byteOf v]

def Knob.bytes : (knob : Knob) → knob.Value → List UInt8
  | .integer control, v => control.encode v
  | .antiFlicker, v => [byteOf v]
  | .whiteBalance, v => [if v = 0 then 1 else 0]
  | .kelvin, v => u16ToLe v
  | .autoFocus, v => [byteOf v]
  | .aeMode, v => [1 <<< byteOf v]
  | .exposureTime, v => u32ToLe v
  | .zoom, v => u16ToLe v
  | .focus, v => u16ToLe v
  | .panTilt, v => i32ToLe v.1 ++ i32ToLe v.2
  | .mode setter, v => modeBytes setter v

theorem Knob.cell_injective : Function.Injective Knob.cell := by
  intro a b h
  cases a with
  | mode setter =>
    cases b with
    | mode setter' => exact congrArg Knob.mode (ModeSetter.controlId_injective (Cell.mode.inj h))
    | _ => cases h
  | integer control =>
    cases b with
    | integer control' =>
      exact congrArg Knob.integer (IntegerControl.selector_injective (Cell.register.inj h).2)
    | mode => cases h
    | _ => cases control <;> exact absurd h (by decide)
  | _ =>
    cases b with
    | integer control => cases control <;> exact absurd h (by decide)
    | mode => cases h
    | _ => first | rfl | exact absurd h (by decide)

def layout : Layout Knob Knob.Value Cell (List UInt8) where
  cell := Knob.cell
  cell_injective := Knob.cell_injective
  encode := Knob.bytes
  Admits knob v := knob.accept v = some v

/-! ## The calls of a session -/

inductive Call where
  | setInteger (control : IntegerControl) (value : Int32)
  | setAntiFlicker (mode : Int32)
  | setAutoFocus (on : Int32)
  | setAeMode (mode : Int32)
  | setAeLock (locked : Int32)
  | setExposureTime (value100us : UInt32)
  | setPanTilt (pan tilt : Float32)
  | setZoom (zoom : Float32)
  | setFocus (focus : Float32)
  | setWhiteBalance (mode : Int32) (kelvin : UInt16)
  | setMode (setter : ModeSetter) (code : ModeCode setter)
  | integer (control : IntegerControl) (outValue : ℕ)
  | antiFlicker (outMode : ℕ)
  | autoFocus (outOn : ℕ)
  | aeMode (outMode : ℕ)
  | exposureTime (outValue : ℕ)
  | zoom (out : ℕ)
  | focus (out : ℕ)
  | panTilt (outPan outTilt : ℕ)
  | whiteBalance (outMode outKelvin : ℕ)
  | wdr (outMode : ℕ)
  | faceAe (outOn : ℕ)
  | aiMode (outMode : ℕ)

abbrev Panel : Type := (knob : Knob) → knob.Value

abbrev Change : Type := (knob : Knob) × knob.Value

/-- Framing modes and media mode 2 turn the AI mode as well; to which one is up to the camera. -/
structure WorkModes where
  framing : List UInt8 → UInt8
  autoFrame : UInt8
  framing_mem : ∀ value, framing value ∈ [0, 1, 2, 3, 4, 5]
  autoFrame_mem : autoFrame ∈ [0, 1, 2, 3, 4, 5]

def codeOf (b : UInt8) : Int32 := Int32.ofNat b.toNat

/-- The knobs that move when one is turned to a value it accepts. -/
def changes (work : WorkModes) : (knob : Knob) → knob.Value → List Change
  | .mode .autoFraming, v =>
    [⟨.mode .autoFraming, v⟩, ⟨.mode .aiMode, codeOf (work.framing (modeBytes .autoFraming v))⟩]
  | .mode .mediaMode, v => ⟨.mode .mediaMode, v⟩ :: if v = 2 then [⟨.mode .aiMode, codeOf work.autoFrame⟩] else []
  | knob, v => [⟨knob, v⟩]

inductive Effect where
  | refuse
  | turn (changes : List Change)
  | display (outputs : List (ℕ × List UInt8))

def turnTo (work : WorkModes) (knob : Knob) (v : knob.Value) : Effect :=
  (knob.accept v).elim .refuse fun w => .turn (changes work knob w)

def Panel.effect (panel : Panel) (work : WorkModes) : Call → Effect
  | .setInteger control value => turnTo work (.integer control) value
  | .setAntiFlicker mode => turnTo work .antiFlicker mode
  | .setAutoFocus on => turnTo work .autoFocus on
  | .setAeMode mode => turnTo work .aeMode mode
  | .setAeLock locked => turnTo work .aeMode (if locked = 0 then 1 else 0 : Int32)
  | .setExposureTime value100us => turnTo work .exposureTime value100us
  | .setPanTilt pan tilt =>
    if Device.inUnitRange pan ∧ Device.inUnitRange tilt then
      turnTo work .panTilt ((pan * panTiltProvisionalScale).toInt32, (tilt * panTiltProvisionalScale).toInt32)
    else .refuse
  | .setZoom zoom => if Device.inU16Range zoom then turnTo work .zoom zoom.toUInt16 else .refuse
  | .setFocus focus => if Device.inU16Range focus then turnTo work .focus focus.toUInt16 else .refuse
  | .setWhiteBalance mode kelvin =>
    (Knob.whiteBalance.accept mode).elim .refuse fun v =>
      .turn (⟨.whiteBalance, v⟩ :: if v = 1 then [⟨.kelvin, kelvin⟩] else [])
  | .setMode setter code => turnTo work (.mode setter) code
  | .integer control outValue => .display [(outValue, i32ToLe (panel (.integer control)))]
  | .antiFlicker outMode => .display [(outMode, i32ToLe (panel .antiFlicker))]
  | .autoFocus outOn => .display [(outOn, i32ToLe (panel .autoFocus))]
  | .aeMode outMode => .display [(outMode, i32ToLe (panel .aeMode))]
  | .exposureTime outValue => .display [(outValue, u32ToLe (panel .exposureTime))]
  | .zoom out => .display [(out, f32ToLe (panel .zoom).toFloat32)]
  | .focus out => .display [(out, f32ToLe (panel .focus).toFloat32)]
  | .panTilt outPan outTilt =>
    .display [(outPan, f32ToLe (normalisedPantilt (panel .panTilt).1)),
      (outTilt, f32ToLe (normalisedPantilt (panel .panTilt).2))]
  | .whiteBalance outMode outKelvin =>
    .display [(outMode, i32ToLe (panel .whiteBalance)), (outKelvin, u16ToLe (panel .kelvin))]
  | .wdr outMode => .display [(outMode, i32ToLe (panel (.mode .wdr)))]
  | .faceAe outOn => .display [(outOn, i32ToLe (panel (.mode .faceAe)))]
  | .aiMode outMode => .display [(outMode, i32ToLe (panel (.mode .aiMode)))]

/-- The code that a call returns, the memory and the panel as it leaves them. -/
def Panel.after (panel : Panel) (m : CMemory) : Effect → Int32 × CMemory × Panel
  | .refuse => (obsbotErrOutOfRange, m, panel)
  | .turn changes => (obsbotOk, m, Layout.setAll panel changes)
  | .display outputs =>
    if 0 ∈ outputs.map Prod.fst then (obsbotErrNotFound, m, panel) else (obsbotOk, m.writeAll outputs, panel)

/-- The codes of a session, call by call. -/
def Panel.session (work : WorkModes) : List Call → CMemory → Panel → List Int32 × CMemory × Panel
  | [], m, panel => ([], m, panel)
  | call :: calls, m, panel =>
    let (code, m, panel) := panel.after m (panel.effect work call)
    let (codes, rest) := session work calls m panel
    (code :: codes, rest)

end Libobsbot.Ffi.Sessions

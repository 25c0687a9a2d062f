import Libobsbot.Ffi.PanelCamera

/-! # The registers that a call moves -/

namespace Libobsbot.Ffi.Sessions
open Foundations Raw Integers Xu
open Foundations.Program (Uses)
set_option autoImplicit false

/-- Entity, selector and width. -/
abbrev Register : Type := UInt8 × UInt8 × ℕ

def modeRegister : Register := (Meet2.xuEntityId, Meet2.xuSelModeRegister, Meet2.modeRegisterPayloadLen)

def Call.registers : Call → List Register
  | .setInteger control _ | .integer control _ => [(Uvc.processingUnit, control.selector, 2)]
  | .setAntiFlicker _ | .antiFlicker _ => [(Uvc.processingUnit, Uvc.Pu.powerLineFrequency, 1)]
  | .setAutoFocus _ | .autoFocus _ => [(Uvc.cameraTerminal, Uvc.Ct.focusAuto, 1)]
  | .setAeMode _ | .setAeLock _ | .aeMode _ => [(Uvc.cameraTerminal, Uvc.Ct.aeMode, 1)]
  | .setExposureTime _ | .exposureTime _ => [(Uvc.cameraTerminal, Uvc.Ct.exposureTimeAbsolute, 4)]
  | .setPanTilt _ _ | .panTilt _ _ => [(Uvc.cameraTerminal, Uvc.Ct.pantiltAbsolute, 8)]
  | .setZoom _ | .zoom _ => [(Uvc.cameraTerminal, Uvc.Ct.zoomAbsolute, 2)]
  | .setFocus _ | .focus _ => [(Uvc.cameraTerminal, Uvc.Ct.focusAbsolute, 2)]
  | .setWhiteBalance _ _ | .whiteBalance _ _ => [(Uvc.processingUnit, Uvc.Pu.whiteBalanceTemperatureAuto, 1),
      (Uvc.processingUnit, Uvc.Pu.whiteBalanceTemperature, 2)]
  | .setMode _ _ | .wdr _ | .faceAe _ | .aiMode _ => [modeRegister]

def allRegisters : List Register :=
  [modeRegister, (Uvc.processingUnit, Uvc.Pu.brightness, 2), (Uvc.processingUnit, Uvc.Pu.contrast, 2),
    (Uvc.processingUnit, Uvc.Pu.saturation, 2), (Uvc.processingUnit, Uvc.Pu.hue, 2),
    (Uvc.processingUnit, Uvc.Pu.sharpness, 2), (Uvc.processingUnit, Uvc.Pu.gain, 2),
    (Uvc.processingUnit, Uvc.Pu.backlightCompensation, 2), (Uvc.processingUnit, Uvc.Pu.powerLineFrequency, 1),
    (Uvc.processingUnit, Uvc.Pu.whiteBalanceTemperatureAuto, 1),
    (Uvc.processingUnit, Uvc.Pu.whiteBalanceTemperature, 2), (Uvc.cameraTerminal, Uvc.Ct.focusAuto, 1),
    (Uvc.cameraTerminal, Uvc.Ct.aeMode, 1), (Uvc.cameraTerminal, Uvc.Ct.exposureTimeAbsolute, 4),
    (Uvc.cameraTerminal, Uvc.Ct.pantiltAbsolute, 8), (Uvc.cameraTerminal, Uvc.Ct.zoomAbsolute, 2),
    (Uvc.cameraTerminal, Uvc.Ct.focusAbsolute, 2)]

theorem mem_allRegisters (call : Call) : ∀ register ∈ call.registers, register ∈ allRegisters := by
  cases call with
  | setInteger control value | integer control out =>
    cases control <;> simp [Call.registers, allRegisters, IntegerControl.selector]
  | _ => simp [Call.registers, allRegisters]

/-- A register is written or its current value is read, in whole. -/
def Moves (registers : List Register) : TransportOp → Prop
  | .uvcSet entity selector payload => (entity, selector, payload.length) ∈ registers
  | .uvcGet req entity selector n _ => req = .cur ∧ (entity, selector, n) ∈ registers
  | .sleep _ => False

section Uses
variable {Location α β : Type} {handle : Option (Device Location)} {m : CMemory} {allowed : TransportOp → Prop}

theorem uses_leaving {p : TransportProgram Int32} (h : Uses allowed p) : Uses allowed (leaving m p) :=
  Program.uses_bind h fun _ => trivial

theorem uses_withDevice {f : Device Location → DeviceM Unit} (h : ∀ device, Uses allowed (f device).run) :
    Uses allowed (withDevice handle f) := by
  cases handle with
  | none => trivial
  | some device =>
    refine Program.uses_bind (h device) fun r => ?_
    cases r <;> trivial

theorem uses_withDecoded {decoded : Option α} {f : α → DeviceM Unit} (h : ∀ a, Uses allowed (f a).run) :
    Uses allowed (withDecoded handle decoded f) := by
  cases decoded with
  | none => trivial
  | some a => exact uses_withDevice fun _ => h a

theorem uses_readInto {encode : α → List UInt8} {out : ℕ} {f : DeviceM α} (h : Uses allowed f.run) :
    Uses allowed (readInto handle encode out f m) := by
  unfold readInto
  split
  · trivial
  · refine Program.uses_bind h fun r => ?_
    cases r <;> trivial

theorem uses_readPairInto {encodeFst : α → List UInt8} {encodeSnd : β → List UInt8} {outFst outSnd : ℕ}
    {f : DeviceM (α × β)} (h : Uses allowed f.run) :
    Uses allowed (readPairInto handle encodeFst encodeSnd outFst outSnd f m) := by
  unfold readPairInto
  split
  · trivial
  · refine Program.uses_bind h fun r => ?_
    cases r <;> trivial

/-! ## Methods -/

theorem uses_set {entity selector : UInt8} {payload : List UInt8} {registers : List Register}
    (h : (entity, selector, payload.length) ∈ registers) :
    Uses (Moves registers) (uvcSet entity selector payload).run := ⟨h, fun _ => trivial⟩

theorem uses_get_then {entity selector : UInt8} {n : ℕ} {out : Bytes n} {registers : List Register}
    {f : ℕ × Bytes n → DeviceM α} (h : (entity, selector, n) ∈ registers)
    (hf : ∀ got, Uses (Moves registers) (f got).run) :
    Uses (Moves registers) (uvcGet .cur entity selector out >>= f).run := by
  refine Program.uses_exceptBind ?_ hf
  exact ⟨⟨rfl, h⟩, fun _ => trivial⟩

theorem uses_setModeRegister (controlId : UInt8) (value : List UInt8) :
    Uses (Moves [modeRegister]) (Device.setModeRegister controlId value).run := by
  unfold Device.setModeRegister
  cases hframe : Meet2.modeRegisterPayload controlId value with
  | error message => trivial
  | ok frame =>
    refine ⟨?_, fun _ => trivial⟩
    simp [Moves, modeRegister, frame.length_eq]

theorem uses_readStatusBlob : Uses (Moves [modeRegister]) Device.readStatusBlob.run := by
  refine uses_get_then (by simp [modeRegister]) fun got => ?_
  dsimp only
  split <;> trivial

theorem uses_setInteger (control : IntegerControl) (value : Int32) :
    Uses (Moves [(Uvc.processingUnit, control.selector, 2)]) (control.set value).run := by
  by_cases hfits : control.Fits value
  · have hset : control.set value = uvcSet Uvc.processingUnit control.selector (control.encode value) :=
      IntegerControl.set_accepted hfits
    rw [hset]
    exact uses_set (by simp [control.encode_length])
  · rw [IntegerControl.set_rejected hfits]
    trivial

theorem uses_getInteger (control : IntegerControl) :
    Uses (Moves [(Uvc.processingUnit, control.selector, 2)]) control.get.run := by
  rw [control.get_eq]
  exact uses_get_then (by simp) fun _ => trivial

theorem uses_ctSetF32 {selector : UInt8} (value : Float32) :
    Uses (Moves [(Uvc.cameraTerminal, selector, 2)]) (Device.ctSetF32 selector value).run := by
  unfold Device.ctSetF32
  cases Device.inU16Range value with
  | false => trivial
  | true => exact uses_set (by simp [u16ToLe, toLe_length])

theorem uses_setPanTilt (pan tilt : Float32) :
    Uses (Moves [(Uvc.cameraTerminal, Uvc.Ct.pantiltAbsolute, 8)]) (Device.setPanTilt pan tilt).run := by
  unfold Device.setPanTilt
  cases Device.inUnitRange pan with
  | false => trivial
  | true =>
    cases Device.inUnitRange tilt with
    | false => trivial
    | true => exact uses_set (by simp [i32ToLe, toLe_length])

theorem uses_setMode (setter : ModeSetter) (arg : setter.Arg) :
    Uses (Moves [modeRegister]) (setter.call arg).run := by
  by_cases haccepts : setter.Accepts arg
  · rw [setter.call_eq haccepts]
    exact uses_setModeRegister _ _
  · rw [setter.call_refused haccepts]
    trivial

theorem uses_setWhiteBalance (mode : WhiteBalanceMode) (kelvin : Option UInt16) :
    Uses (Moves (Call.registers (.setWhiteBalance 0 0))) (Device.setWhiteBalance mode kelvin).run := by
  have hauto (byte : UInt8) : Uses (Moves (Call.registers (.setWhiteBalance 0 0)))
      (uvcSet Uvc.processingUnit Uvc.Pu.whiteBalanceTemperatureAuto [byte]).run :=
    uses_set (by simp [Call.registers])
  cases mode with
  | auto => exact hauto 1
  | manual => exact Program.uses_exceptBind (hauto 0) fun _ => uses_set (by simp [Call.registers, u16ToLe, toLe_length])

/-! ## Calls -/

theorem uses_modeCall (setter : ModeSetter) (code : ModeCode setter) :
    Uses (Moves [modeRegister]) (setMode handle setter code) := by
  have hmode := uses_setMode setter
  cases setter with
  | wdr | fov | mediaMode | autoFraming | aiMode | bgMode | bgColor | maskLevel => exact uses_withDecoded hmode
  | faceAe | audioAgc | flipHorizontal | portrait | led | bgEnable | disableSleepWithoutStream | suspendTime
  | microphoneDuringSleep | buttonMode => exact uses_withDevice fun _ => hmode _

/-- A call moves its registers and nothing else. -/
theorem uses_registers (call : Call) : Uses (Moves call.registers) (program handle m call) := by
  cases call with
  | setInteger control value =>
    have hset : setInteger handle control value = withDevice handle fun _ => control.set value := by
      cases control <;> rfl
    rw [program, hset]
    exact uses_leaving (uses_withDevice fun _ => uses_setInteger control value)
  | setAntiFlicker mode => exact uses_leaving (uses_withDecoded fun _ => uses_set (by simp [Call.registers]))
  | setAutoFocus on => exact uses_leaving (uses_withDevice fun _ => uses_set (by simp [Call.registers]))
  | setAeMode mode => exact uses_leaving (uses_withDecoded fun _ => uses_set (by simp [Call.registers]))
  | setAeLock locked => exact uses_leaving (uses_withDevice fun _ => uses_set (by simp [Call.registers]))
  | setExposureTime value100us =>
    exact uses_leaving (uses_withDevice fun _ => uses_set (by simp [Call.registers, u32ToLe, toLe_length]))
  | setPanTilt pan tilt => exact uses_leaving (uses_withDevice fun _ => uses_setPanTilt pan tilt)
  | setZoom zoom => exact uses_leaving (uses_withDevice fun _ => uses_ctSetF32 zoom)
  | setFocus focus => exact uses_leaving (uses_withDevice fun _ => uses_ctSetF32 focus)
  | setWhiteBalance mode kelvin =>
    exact uses_leaving (uses_withDecoded fun wb => uses_setWhiteBalance wb _)
  | setMode setter code => exact uses_leaving (uses_modeCall setter code)
  | integer control out =>
    have hget : readInteger handle control out m = readInt handle out control.get m := by cases control <;> rfl
    rw [program, hget]
    exact uses_readInto (uses_getInteger control)
  | antiFlicker out =>
    refine uses_readInto (uses_get_then (by simp [Call.registers]) fun got => ?_)
    dsimp only
    split_ifs <;> trivial
  | autoFocus out => exact uses_readInto (uses_get_then (by simp [Call.registers]) fun _ => trivial)
  | aeMode out =>
    refine uses_readInto (uses_get_then (by simp [Call.registers]) fun got => ?_)
    dsimp only
    split_ifs <;> trivial
  | exposureTime out => exact uses_readInto (uses_get_then (by simp [Call.registers]) fun _ => trivial)
  | zoom out => exact uses_readInto (uses_get_then (by simp [Call.registers]) fun _ => trivial)
  | focus out => exact uses_readInto (uses_get_then (by simp [Call.registers]) fun _ => trivial)
  | panTilt outPan outTilt => exact uses_readPairInto (uses_get_then (by simp [Call.registers]) fun _ => trivial)
  | whiteBalance outMode outKelvin =>
    refine uses_readPairInto (uses_get_then (by simp [Call.registers]) fun _ => ?_)
    refine Program.uses_exceptBind (uses_get_then (by simp [Call.registers]) fun _ => trivial) fun _ => trivial
  | wdr out => exact uses_readInto (Program.uses_exceptBind uses_readStatusBlob fun _ => trivial)
  | faceAe out => exact uses_readInto (Program.uses_exceptBind uses_readStatusBlob fun _ => trivial)
  | aiMode out => exact uses_readInto (Program.uses_exceptBind uses_readStatusBlob fun _ => trivial)

theorem uses_session {calls : List Call} (h : ∀ call ∈ calls, ∀ op, Moves call.registers op → allowed op) :
    Uses allowed (session handle calls m) := by
  induction calls generalizing m with
  | nil => trivial
  | cons call calls ih =>
    obtain ⟨hcall, hcalls⟩ := List.forall_mem_cons.mp h
    refine Program.uses_bind ((uses_registers call).mono hcall) fun result => ?_
    exact Program.uses_bind (ih hcalls) fun _ => trivial

end Uses

end Libobsbot.Ffi.Sessions

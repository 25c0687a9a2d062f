import Libobsbot.Ffi.Panel

/-! # A camera behind the panel

The programs that the calls of a session are, and a camera that keeps its registers and its mode-register settings. A
knob is turned by one write to its cell.
-/

namespace Libobsbot.Ffi.Sessions
open Foundations Raw Integers Xu
set_option autoImplicit false

/-! ## The programs -/

section Programs
variable {Location : Type} (handle : Option (Device Location))

def setInteger : IntegerControl → Int32 → TransportProgram Int32
  | .brightness => obsbotDeviceSetBrightness handle
  | .contrast => obsbotDeviceSetContrast handle
  | .saturation => obsbotDeviceSetSaturation handle
  | .hue => obsbotDeviceSetHue handle
  | .sharpness => obsbotDeviceSetSharpness handle
  | .gain => obsbotDeviceSetGain handle
  | .backlightCompensation => obsbotDeviceSetBacklightCompensation handle

def readInteger : IntegerControl → ℕ → CMemory → TransportProgram (Int32 × CMemory)
  | .brightness => obsbotDeviceBrightness handle
  | .contrast => obsbotDeviceContrast handle
  | .saturation => obsbotDeviceSaturation handle
  | .hue => obsbotDeviceHue handle
  | .sharpness => obsbotDeviceSharpness handle
  | .gain => obsbotDeviceGain handle
  | .backlightCompensation => obsbotDeviceBacklightCompensation handle

def setMode : (setter : ModeSetter) → ModeCode setter → TransportProgram Int32
  | .wdr => obsbotDeviceSetWdr handle
  | .fov => obsbotDeviceSetFov handle
  | .faceAe => obsbotDeviceSetFaceAe handle
  | .mediaMode => obsbotDeviceSetMediaMode handle
  | .autoFraming => obsbotDeviceSetAutoFraming handle
  | .aiMode => obsbotDeviceSetAiMode handle
  | .audioAgc => obsbotDeviceSetAudioAgc handle
  | .flipHorizontal => obsbotDeviceSetFlipHorizontal handle
  | .portrait => obsbotDeviceSetPortrait handle
  | .led => obsbotDeviceSetLed handle
  | .bgEnable => obsbotDeviceSetBgEnable handle
  | .bgMode => obsbotDeviceSetBgMode handle
  | .bgColor => obsbotDeviceSetBgColor handle
  | .maskLevel => obsbotDeviceSetMaskLevel handle
  | .disableSleepWithoutStream => obsbotDeviceSetDisableSleepWithoutStream handle
  | .suspendTime => obsbotDeviceSetSuspendTime handle
  | .microphoneDuringSleep => obsbotDeviceSetMicrophoneDuringSleep handle
  | .buttonMode => obsbotDeviceSetButtonMode handle

/-- A function that is handed no memory. -/
def leaving (m : CMemory) (p : TransportProgram Int32) : TransportProgram (Int32 × CMemory) := do
  let code ← p
  return (code, m)

def program (m : CMemory) : Call → TransportProgram (Int32 × CMemory)
  | .setInteger control value => leaving m (setInteger handle control value)
  | .setAntiFlicker mode => leaving m (obsbotDeviceSetAntiFlicker handle mode)
  | .setAutoFocus on => leaving m (obsbotDeviceSetAutoFocus handle on)
  | .setAeMode mode => leaving m (obsbotDeviceSetAeMode handle mode)
  | .setAeLock locked => leaving m (obsbotDeviceSetAeLock handle locked)
  | .setExposureTime value100us => leaving m (obsbotDeviceSetExposureTime handle value100us)
  | .setPanTilt pan tilt => leaving m (obsbotDeviceSetPanTilt handle pan tilt)
  | .setZoom zoom => leaving m (obsbotDeviceSetZoom handle zoom)
  | .setFocus focus => leaving m (obsbotDeviceSetFocus handle focus)
  | .setWhiteBalance mode kelvin => leaving m (obsbotDeviceSetWhiteBalance handle mode kelvin)
  | .setMode setter code => leaving m (setMode handle setter code)
  | .integer control outValue => readInteger handle control outValue m
  | .antiFlicker outMode => obsbotDeviceAntiFlicker handle outMode m
  | .autoFocus outOn => obsbotDeviceAutoFocus handle outOn m
  | .aeMode outMode => obsbotDeviceAeMode handle outMode m
  | .exposureTime outValue => obsbotDeviceExposureTime handle outValue m
  | .zoom out => obsbotDeviceZoom handle out m
  | .focus out => obsbotDeviceFocus handle out m
  | .panTilt outPan outTilt => obsbotDevicePanTilt handle outPan outTilt m
  | .whiteBalance outMode outKelvin => obsbotDeviceWhiteBalance handle outMode outKelvin m
  | .wdr outMode => obsbotDeviceWdr handle outMode m
  | .faceAe outOn => obsbotDeviceFaceAe handle outOn m
  | .aiMode outMode => obsbotDeviceAiMode handle outMode m

def session : List Call → CMemory → TransportProgram (List Int32 × CMemory)
  | [], m => return ([], m)
  | call :: calls, m => do
    let (code, m) ← program handle m call
    let (codes, m) ← session calls m
    return (code :: codes, m)

end Programs

/-! ## The camera -/

/-- What a command of the mode register leaves in the cells. -/
def WorkModes.command (work : WorkModes) (controlId : UInt8) (value : List UInt8) (cells : Cell → List UInt8) :
    Cell → List UInt8 :=
  let cells := Function.update cells (.mode controlId) value
  if controlId = Meet2.modeAutoFraming then Function.update cells (.mode Meet2.modeAiMode) [work.framing value, 0]
  else if controlId = Meet2.modeMediaMode ∧ value = [2] then
    Function.update cells (.mode Meet2.modeAiMode) [work.autoFrame, 0]
  else cells

/-- The status blob shows three of the settings. -/
structure Shows (cells : Cell → List UInt8) (blob : Bytes Meet2.modeRegisterPayloadLen) : Prop where
  marker : blob.toList.headD 0 = Meet2.statusBlobMarker
  wdr : Device.blobByte blob Meet2.statusWdrOffset = (cells (.mode Meet2.modeWdr)).headD 0
  faceAe : Device.blobByte blob Meet2.statusFaceAeOffset = (cells (.mode Meet2.modeFaceAe)).headD 0
  aiMode : Device.blobByte blob Meet2.statusAiModeOffset = (cells (.mode Meet2.modeAiMode)).headD 0

/-- Whatever else its state holds, the camera keeps the last payload of each register and the last value of each
control id of the mode register, and refuses nothing. -/
structure PanelCamera (σ : Type) where
  answer : (op : TransportOp) → σ → op.Reply × σ
  cells : σ → Cell → List UInt8
  work : WorkModes
  set_reply : ∀ entity selector payload s, entity ≠ Meet2.xuEntityId →
    (answer (.uvcSet entity selector payload) s).1 = .ok ()
  set_cells : ∀ entity selector payload s, entity ≠ Meet2.xuEntityId →
    cells (answer (.uvcSet entity selector payload) s).2 =
      Function.update (cells s) (.register entity selector) payload
  get_reply : ∀ entity selector n out s, entity ≠ Meet2.xuEntityId →
    (answer (.uvcGet .cur entity selector n out) s).1 =
      (out.overwrite 0 ((cells s (.register entity selector)).take n),
        .ok (min n (cells s (.register entity selector)).length))
  get_cells : ∀ entity selector n out s, cells (answer (.uvcGet .cur entity selector n out) s).2 = cells s
  command_reply : ∀ frame s, (answer (.uvcSet Meet2.xuEntityId Meet2.xuSelModeRegister frame) s).1 = .ok ()
  command_cells : ∀ controlId value frame s, Meet2.modeRegisterPayload controlId value = .ok frame →
    cells (answer (.uvcSet Meet2.xuEntityId Meet2.xuSelModeRegister frame.toList) s).2 =
      work.command controlId value (cells s)
  blob_reply : ∀ out s, ∃ blob, Shows (cells s) blob ∧
    (answer (.uvcGet .cur Meet2.xuEntityId Meet2.xuSelModeRegister Meet2.modeRegisterPayloadLen out) s).1 =
      (blob, .ok Meet2.modeRegisterPayloadLen)

/-! ## Programs that come to a value -/

namespace PanelCamera
variable {σ α β : Type} (camera : PanelCamera σ)

/-- The program ends with `a` and leaves these cells. -/
def Comes (p : TransportProgram α) (s : σ) (a : α) (cells : Cell → List UInt8) : Prop :=
  ∃ s', p.run camera.answer s = (.ok a, s') ∧ camera.cells s' = cells

variable {camera} {s : σ}

theorem Comes.bind {p : TransportProgram α} {f : α → TransportProgram β} {a : α} {b : β}
    {cells cells' : Cell → List UInt8} (hp : camera.Comes p s a cells)
    (hf : ∀ s', camera.cells s' = cells → camera.Comes (f a) s' b cells') : camera.Comes (p >>= f) s b cells' := by
  obtain ⟨s', hrun, hcells⟩ := hp
  obtain ⟨s'', hrun', hcells'⟩ := hf s' hcells
  refine ⟨s'', ?_, hcells'⟩
  rw [Program.run_bind, hrun]
  exact hrun'

theorem comes_done (a : α) (s : σ) : camera.Comes (.done a) s a (camera.cells s) := ⟨s, rfl, rfl⟩

theorem Comes.then {p : TransportProgram α} {f : α → TransportProgram β} {a : α} {b : β}
    {cells : Cell → List UInt8} (hp : camera.Comes p s a cells) (hf : f a = .done b) :
    camera.Comes (p >>= f) s b cells := by
  refine hp.bind fun s' hcells => ?_
  rw [hf, ← hcells]
  exact comes_done b s'

theorem Comes.exceptBind {p : DeviceM α} {f : α → DeviceM β} {a : α} {r : Result β}
    {cells cells' : Cell → List UInt8} (hp : camera.Comes p.run s (.ok a) cells)
    (hf : ∀ s', camera.cells s' = cells → camera.Comes (f a).run s' r cells') :
    camera.Comes (p >>= f).run s r cells' := by
  rw [ExceptT.run_bind]
  exact hp.bind hf

theorem Comes.exceptThen {p : DeviceM α} {f : α → DeviceM β} {a : α} {r : Result β}
    {cells : Cell → List UInt8} (hp : camera.Comes p.run s (.ok a) cells) (hf : (f a).run = .done r) :
    camera.Comes (p >>= f).run s r cells := by
  rw [ExceptT.run_bind]
  exact hp.then hf

/-! ## Transfers -/

theorem comes_set {entity selector : UInt8} (payload : List UInt8) (h : entity ≠ Meet2.xuEntityId) :
    camera.Comes (uvcSet entity selector payload).run s (.ok ())
      (Function.update (camera.cells s) (.register entity selector) payload) := by
  refine ⟨(camera.answer (.uvcSet entity selector payload) s).2, ?_, camera.set_cells _ _ _ _ h⟩
  show (Except.ok (camera.answer (.uvcSet entity selector payload) s).1, _) = _
  rw [camera.set_reply _ _ _ _ h]

theorem comes_uvcGet {n len : ℕ} {entity selector : UInt8} {out buf : Bytes n}
    (h : (camera.answer (.uvcGet .cur entity selector n out) s).1 = (buf, .ok len)) :
    camera.Comes (uvcGet .cur entity selector out).run s (.ok (len, buf)) (camera.cells s) := by
  refine ⟨(camera.answer (.uvcGet .cur entity selector n out) s).2, ?_, camera.get_cells _ _ _ _ _⟩
  rw [uvcGet, ExceptT.run_mk, Program.run_perform, h]
  rfl

theorem comes_get {n : ℕ} {entity selector : UInt8} (h : entity ≠ Meet2.xuEntityId) (buf : Bytes n)
    (hcell : camera.cells s (.register entity selector) = buf.toList) :
    camera.Comes (uvcGet .cur entity selector (Bytes.zeros n)).run s (.ok (n, buf)) (camera.cells s) := by
  apply comes_uvcGet
  have hlen : buf.toList.length = n := buf.length_eq
  have hbuf : (Bytes.zeros n).overwrite 0 (buf.toList.take n) = buf := by
    apply Bytes.ext
    rw [List.take_of_length_le hlen.le, Bytes.overwrite_toList _ (by omega), splice_zero_full]
    rw [hlen, (Bytes.zeros n).length_eq]
  rw [camera.get_reply _ _ _ _ _ h, hcell, hbuf, hlen, Nat.min_self]

theorem comes_command {controlId : UInt8} {value : List UInt8} (h : value.length ≤ 58) :
    camera.Comes (Device.setModeRegister controlId value).run s (.ok ())
      (camera.work.command controlId value (camera.cells s)) := by
  obtain ⟨frame, hframe, -⟩ := modeRegisterPayload_eq controlId h
  rw [ModeCall.setModeRegister_eq hframe]
  refine ⟨(camera.answer (.uvcSet Meet2.xuEntityId Meet2.xuSelModeRegister frame.toList) s).2, ?_,
    camera.command_cells _ _ _ _ hframe⟩
  show (Except.ok (camera.answer (.uvcSet Meet2.xuEntityId Meet2.xuSelModeRegister frame.toList) s).1, _) = _
  rw [camera.command_reply]

theorem comes_blob : ∃ blob, Shows (camera.cells s) blob ∧
    camera.Comes Device.readStatusBlob.run s (.ok blob) (camera.cells s) := by
  obtain ⟨blob, hshows, hreply⟩ := camera.blob_reply (Bytes.zeros Meet2.modeRegisterPayloadLen) s
  refine ⟨blob, hshows, (comes_uvcGet hreply).exceptThen ?_⟩
  dsimp only
  rw [if_neg (not_not_intro hshows.marker)]
  rfl

end PanelCamera

/-! ## Turning a knob -/

def Cell.write : Cell → List UInt8 → DeviceM Unit
  | .register entity selector, payload => uvcSet entity selector payload
  | .mode controlId, value => Device.setModeRegister controlId value

def Knob.write (knob : Knob) (v : knob.Value) : DeviceM Unit := knob.cell.write (knob.bytes v)

theorem modeBytes_length (setter : ModeSetter) (v : ModeCode setter) : (modeBytes setter v).length ≤ 58 := by
  cases setter with
  | autoFraming =>
    show (if v = 0 then [0, 0] else [1, byteOf (v - 1)]).length ≤ 58
    split <;> simp
  | suspendTime => exact (toLe_length 2 _).trans_le (by omega)
  | _ => simp [modeBytes]

theorem accept_codeOf {b : UInt8} (h : b ∈ ([0, 1, 2, 3, 4, 5] : List UInt8)) :
    acceptMode .aiMode (codeOf b) = some (codeOf b) := by
  simp only [List.mem_cons, List.not_mem_nil, or_false] at h
  obtain rfl | rfl | rfl | rfl | rfl | rfl := h <;> decide

theorem bytes_codeOf {b : UInt8} (h : b ∈ ([0, 1, 2, 3, 4, 5] : List UInt8)) :
    modeBytes .aiMode (codeOf b) = [b, 0] := by
  simp only [List.mem_cons, List.not_mem_nil, or_false] at h
  obtain rfl | rfl | rfl | rfl | rfl | rfl := h <;> decide

theorem command_eq (work : WorkModes) {setter : ModeSetter} {v : ModeCode setter}
    (h : acceptMode setter v = some v) (cells : Cell → List UInt8) :
    work.command setter.controlId (modeBytes setter v) cells =
      layout.writeAll cells (changes work (.mode setter) v) := by
  cases setter with
  | autoFraming =>
    set turned : Cell → List UInt8 := Function.update cells (.mode Meet2.modeAutoFraming) (modeBytes .autoFraming v)
    exact congrArg (Function.update turned (.mode Meet2.modeAiMode)) (bytes_codeOf (work.framing_mem _)).symm
  | mediaMode =>
    have hv : v ∈ ([0, 1, 2] : List Int32) := by
      by_contra hmem
      rw [acceptMode, oneOf, if_neg hmem] at h
      cases h
    simp only [List.mem_cons, List.not_mem_nil, or_false] at hv
    obtain rfl | rfl | rfl := hv
    · rfl
    · rfl
    · set turned : Cell → List UInt8 := Function.update cells (.mode Meet2.modeMediaMode) [2]
      exact congrArg (Function.update turned (.mode Meet2.modeAiMode)) (bytes_codeOf work.autoFrame_mem).symm
  | _ => rfl

theorem admits_changes (work : WorkModes) {knob : Knob} {v : knob.Value} (h : knob.accept v = some v) :
    ∀ change ∈ changes work knob v, layout.Admits change.1 change.2 := by
  have hself : layout.Admits knob v := h
  cases knob with
  | mode setter =>
    cases setter with
    | autoFraming =>
      have hai := accept_codeOf (work.framing_mem (modeBytes .autoFraming v))
      simp only [changes, List.forall_mem_cons, List.not_mem_nil, false_imp_iff, implies_true, and_true]
      exact ⟨hself, hai⟩
    | mediaMode =>
      have hai := accept_codeOf work.autoFrame_mem
      rw [changes, List.forall_mem_cons]
      refine ⟨hself, fun change hmem => ?_⟩
      split at hmem
      · obtain rfl := List.mem_singleton.mp hmem
        exact hai
      · cases hmem
    | _ => exact List.forall_mem_singleton.mpr hself
  | _ => exact List.forall_mem_singleton.mpr hself

theorem comes_write {σ : Type} {camera : PanelCamera σ} {s : σ} {knob : Knob} {v : knob.Value}
    (h : knob.accept v = some v) :
    camera.Comes (knob.write v).run s (.ok ()) (layout.writeAll (camera.cells s) (changes camera.work knob v)) := by
  cases knob with
  | mode setter =>
    have hcommand := @PanelCamera.comes_command σ camera s setter.controlId _ (modeBytes_length setter v)
    rw [command_eq camera.work h] at hcommand
    exact hcommand
  | _ => exact PanelCamera.comes_set _ (by decide)

end Libobsbot.Ffi.Sessions

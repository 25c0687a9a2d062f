import Libobsbot.Ffi.Setters
import Libobsbot.Linux.PanTilt
import Libobsbot.Rpc.Slot

/-! # Sessions

Every reader writes what its knob shows. So a session of any calls does to memory and to the camera what it does to the
panel.
-/

namespace Libobsbot.Ffi.Sessions
open Foundations Raw Integers Xu
set_option autoImplicit false

section Readers
variable {σ Location : Type} {camera : PanelCamera σ} {s : σ}
variable {panel : Panel} {m : CMemory} (device : Device Location)

/-! ## The readers -/

/-- What a getter comes to goes through one pointer. -/
theorem follows_read (h : layout.Holds (camera.cells s) panel) {α : Type} {encode : α → List UInt8} {out : ℕ}
    {f : DeviceM α} {bytes : List UInt8}
    (hf : ∃ a, encode a = bytes ∧ camera.Comes f.run s (.ok a) (camera.cells s)) :
    Follows camera s panel m (readInto (some device) encode out f m) (.display [(out, bytes)]) := by
  obtain ⟨a, rfl, s', hrun, hcells⟩ := hf
  by_cases hout : out = 0
  · subst hout
    exact ⟨s, rfl, h⟩
  · have hafter : panel.after m (.display [(out, encode a)]) = (obsbotOk, m.write out (encode a), panel) :=
      if_neg (by simpa [eq_comm] using hout)
    rw [Follows, hafter]
    refine ⟨s', ?_, hcells.symm ▸ h⟩
    rw [readInto, if_neg (by simpa using hout), Program.run_bind, hrun]
    rfl

theorem follows_readPair (h : layout.Holds (camera.cells s) panel) {α β : Type} {encodeFst : α → List UInt8}
    {encodeSnd : β → List UInt8} {outFst outSnd : ℕ} {f : DeviceM (α × β)} {first second : List UInt8}
    (hf : ∃ a b, encodeFst a = first ∧ encodeSnd b = second ∧
      camera.Comes f.run s (.ok (a, b)) (camera.cells s)) :
    Follows camera s panel m (readPairInto (some device) encodeFst encodeSnd outFst outSnd f m)
      (.display [(outFst, first), (outSnd, second)]) := by
  obtain ⟨a, b, rfl, rfl, s', hrun, hcells⟩ := hf
  rw [readPairInto]
  by_cases hout : outFst = 0 ∨ outSnd = 0
  · have hafter : panel.after m (.display [(outFst, encodeFst a), (outSnd, encodeSnd b)]) =
        (obsbotErrNotFound, m, panel) := if_pos (by simpa [eq_comm] using hout)
    rw [Follows, hafter, if_pos (by simpa using hout)]
    exact ⟨s, rfl, h⟩
  · have hafter : panel.after m (.display [(outFst, encodeFst a), (outSnd, encodeSnd b)]) =
        (obsbotOk, (m.write outFst (encodeFst a)).write outSnd (encodeSnd b), panel) :=
      if_neg (by simpa [eq_comm] using hout)
    rw [Follows, hafter, if_neg (by simpa using hout)]
    refine ⟨s', ?_, hcells.symm ▸ h⟩
    rw [Program.run_bind, hrun]
    rfl

theorem mem_of_oneOf {codes : List Int32} {v : Int32} (h : oneOf codes v = some v) : v ∈ codes := by
  unfold oneOf at h
  split_ifs at h with hmem
  exact hmem

theorem u16FromLe_u16ToLe (v : UInt16) : u16FromLe (u16ToLe v) = v := by
  have hlt := v.toNat_lt
  rw [u16FromLe, u16ToLe, fromLe_toLe, Nat.mod_eq_of_lt (by omega), UInt16.ofNat_toNat]

theorem u32FromLe_u32ToLe (v : UInt32) : u32FromLe (u32ToLe v) = v := by
  have hlt := v.toNat_lt
  rw [u32FromLe, u32ToLe, fromLe_toLe, Nat.mod_eq_of_lt (by omega), UInt32.ofNat_toNat]

theorem comes_integer (h : layout.Holds (camera.cells s) panel) (control : IntegerControl) :
    ∃ v, i32ToLe v = i32ToLe (panel (.integer control)) ∧
      camera.Comes control.get.run s (.ok v) (camera.cells s) := by
  have hadmits : (if control.Fits (panel (.integer control)) then some (panel (.integer control)) else none) =
      some (panel (.integer control)) := h.admits (.integer control)
  split_ifs at hadmits with hfits
  refine ⟨panel (.integer control), rfl, ?_⟩
  rw [control.get_eq]
  refine (PanelCamera.comes_get (by decide) ⟨control.encode (panel (.integer control)), control.encode_length _⟩
    (h.encoded (.integer control))).exceptThen ?_
  show Program.done (Except.ok (control.decode (control.encode (panel (.integer control))))) = _
  rw [IntegerControl.decode_encode hfits]

theorem comes_antiFlicker (h : layout.Holds (camera.cells s) panel) :
    ∃ mode, i32ToLe (antiFlickerToInt mode) = i32ToLe (panel .antiFlicker) ∧
      camera.Comes Device.antiFlicker.run s (.ok mode) (camera.cells s) := by
  have hmem := mem_of_oneOf (h.admits .antiFlicker)
  have hcell := h.encoded .antiFlicker
  generalize panel .antiFlicker = v at hmem hcell
  simp only [List.mem_cons, List.not_mem_nil, or_false] at hmem
  obtain rfl | rfl | rfl | rfl := hmem <;>
    exact ⟨_, rfl, (PanelCamera.comes_get (by decide) ⟨[_], rfl⟩ hcell).exceptThen rfl⟩

theorem comes_autoFocus (h : layout.Holds (camera.cells s) panel) :
    ∃ on, i32ToLe (intFromBool on) = i32ToLe (panel .autoFocus) ∧
      camera.Comes Device.autoFocus.run s (.ok on) (camera.cells s) := by
  have hswitch : switch (panel .autoFocus) = panel .autoFocus := Option.some.inj (h.admits .autoFocus)
  have hcell := h.encoded .autoFocus
  have hcases := switch_cases (panel .autoFocus)
  rw [hswitch] at hcases
  generalize panel .autoFocus = v at hcases hcell
  obtain rfl | rfl := hcases <;>
    exact ⟨_, rfl, (PanelCamera.comes_get (by decide) ⟨[_], rfl⟩ hcell).exceptThen rfl⟩

theorem comes_aeMode (h : layout.Holds (camera.cells s) panel) :
    ∃ mode, i32ToLe (aeModeToInt mode) = i32ToLe (panel .aeMode) ∧
      camera.Comes Device.aeMode.run s (.ok mode) (camera.cells s) := by
  have hmem := mem_of_oneOf (h.admits .aeMode)
  have hcell := h.encoded .aeMode
  generalize panel .aeMode = v at hmem hcell
  simp only [List.mem_cons, List.not_mem_nil, or_false] at hmem
  obtain rfl | rfl | rfl | rfl := hmem <;>
    exact ⟨_, rfl, (PanelCamera.comes_get (by decide) ⟨[_], rfl⟩ hcell).exceptThen rfl⟩

theorem comes_exposureTime (h : layout.Holds (camera.cells s) panel) :
    ∃ v, u32ToLe v = u32ToLe (panel .exposureTime) ∧
      camera.Comes Device.exposureTime.run s (.ok v) (camera.cells s) := by
  refine ⟨panel .exposureTime, rfl, ?_⟩
  refine (PanelCamera.comes_get (by decide) ⟨u32ToLe (panel .exposureTime), toLe_length 4 _⟩
    (h.encoded .exposureTime)).exceptThen ?_
  show Program.done (Except.ok (u32FromLe (u32ToLe (panel .exposureTime)))) = _
  rw [u32FromLe_u32ToLe]

theorem comes_ctGetU16 {selector : UInt8} {v : UInt16}
    (hcell : camera.cells s (.register Uvc.cameraTerminal selector) = u16ToLe v) :
    ∃ a, f32ToLe a = f32ToLe v.toFloat32 ∧
      camera.Comes (Device.ctGetU16 selector).run s (.ok a) (camera.cells s) := by
  refine ⟨v.toFloat32, rfl,
    (PanelCamera.comes_get (by decide) ⟨u16ToLe v, toLe_length 2 _⟩ hcell).exceptThen ?_⟩
  show Program.done (Except.ok (u16FromLe (u16ToLe v)).toFloat32) = _
  rw [u16FromLe_u16ToLe]

theorem comes_panTilt (h : layout.Holds (camera.cells s) panel) :
    ∃ pan tilt, f32ToLe pan = f32ToLe (normalisedPantilt (panel .panTilt).1) ∧
      f32ToLe tilt = f32ToLe (normalisedPantilt (panel .panTilt).2) ∧
      camera.Comes Device.panTilt.run s (.ok (pan, tilt)) (camera.cells s) := by
  generalize hpair : panel .panTilt = pair
  have hcell : camera.cells s (.register Uvc.cameraTerminal Uvc.Ct.pantiltAbsolute) =
      i32ToLe pair.1 ++ i32ToLe pair.2 := by
    have hencoded := h.encoded .panTilt
    rw [hpair] at hencoded
    exact hencoded
  have hlen := i32ToLe_length pair.1
  have hboth : (i32ToLe pair.1 ++ i32ToLe pair.2).length = 8 := by
    rw [List.length_append, hlen, i32ToLe_length]
  refine ⟨_, _, rfl, rfl, (PanelCamera.comes_get (by decide) ⟨_, hboth⟩ hcell).exceptThen ?_⟩
  · show Program.done (Except.ok (normalisedPantilt (i32FromLe ((i32ToLe pair.1 ++ i32ToLe pair.2).take 4)),
      normalisedPantilt (i32FromLe ((i32ToLe pair.1 ++ i32ToLe pair.2).drop 4)))) = _
    rw [List.take_left' hlen, List.drop_left' hlen, PanTilt.i32FromLe_i32ToLe, PanTilt.i32FromLe_i32ToLe]

theorem comes_whiteBalance (h : layout.Holds (camera.cells s) panel) :
    ∃ mode kelvin, i32ToLe (wbToInt mode) = i32ToLe (panel .whiteBalance) ∧
      u16ToLe kelvin = u16ToLe (panel .kelvin) ∧
      camera.Comes Device.whiteBalance.run s (.ok (mode, kelvin)) (camera.cells s) := by
  have hmem := mem_of_oneOf (h.admits .whiteBalance)
  have hmode := h.encoded .whiteBalance
  have hkelvin := h.encoded .kelvin
  generalize panel .whiteBalance = v at hmem hmode
  generalize panel .kelvin = kelvin at hkelvin
  have hget : ∀ s', camera.cells s' = camera.cells s →
      camera.Comes (Device.puGetU16 .cur Uvc.Pu.whiteBalanceTemperature).run s' (.ok kelvin) (camera.cells s) := by
    intro s' hcells
    rw [← hcells]
    refine (PanelCamera.comes_get (by decide) ⟨u16ToLe kelvin, toLe_length 2 _⟩ ?_).exceptThen ?_
    · rw [hcells]
      exact hkelvin
    · show Program.done (Except.ok (u16FromLe (u16ToLe kelvin))) = _
      rw [u16FromLe_u16ToLe]
  simp only [List.mem_cons, List.not_mem_nil, or_false] at hmem
  obtain rfl | rfl := hmem <;>
    exact ⟨_, kelvin, rfl, rfl, (PanelCamera.comes_get (by decide) ⟨[_], rfl⟩ hmode).exceptBind fun s' hcells =>
      (hget s' hcells).exceptThen rfl⟩

/-- A getter of the status blob: a byte of it is the first byte of a setting. -/
theorem comes_blobByte {α : Type} {offset : ℕ} {cell : Cell} {b : UInt8} {rest : List UInt8} {f : DeviceM α}
    {a : α} {decode : Bytes Meet2.modeRegisterPayloadLen → DeviceM α} (hf : f = Device.readStatusBlob >>= decode)
    (hcell : camera.cells s cell = b :: rest)
    (hshows : ∀ blob, Shows (camera.cells s) blob → Device.blobByte blob offset = (camera.cells s cell).headD 0)
    (hdecode : ∀ blob, Device.blobByte blob offset = b → (decode blob).run = .done (.ok a)) :
    camera.Comes f.run s (.ok a) (camera.cells s) := by
  obtain ⟨blob, hblob, hread⟩ := @PanelCamera.comes_blob σ camera s
  subst hf
  refine hread.exceptThen (hdecode blob ?_)
  rw [hshows blob hblob, hcell]
  rfl

theorem comes_wdr (h : layout.Holds (camera.cells s) panel) :
    ∃ mode, i32ToLe (wdrToInt mode) = i32ToLe (panel (.mode .wdr)) ∧
      camera.Comes Device.wdr.run s (.ok mode) (camera.cells s) := by
  have hmem := mem_of_oneOf (h.admits (.mode .wdr))
  have hcell := h.encoded (.mode .wdr)
  generalize panel (.mode .wdr) = v at hmem hcell
  obtain ⟨mode, rfl, hdecode⟩ : ∃ mode, wdrToInt mode = v ∧ decodeWdr (byteOf v) = .ok mode := by
    simp only [List.mem_cons, List.not_mem_nil, or_false] at hmem
    obtain rfl | rfl := hmem
    exacts [⟨.off, rfl, rfl⟩, ⟨.dol2To1, rfl, rfl⟩]
  refine ⟨mode, rfl, comes_blobByte rfl hcell (fun _ hblob => hblob.wdr) fun blob hb => ?_⟩
  show Program.done (decodeWdr (Device.blobByte blob Meet2.statusWdrOffset)) = _
  rw [hb, hdecode]

theorem comes_faceAe (h : layout.Holds (camera.cells s) panel) :
    ∃ on, i32ToLe (intFromBool on) = i32ToLe (panel (.mode .faceAe)) ∧
      camera.Comes Device.faceAe.run s (.ok on) (camera.cells s) := by
  have hswitch : switch (panel (.mode .faceAe)) = panel (.mode .faceAe) := Option.some.inj (h.admits (.mode .faceAe))
  have hcell := h.encoded (.mode .faceAe)
  have hcases := switch_cases (panel (.mode .faceAe))
  rw [hswitch] at hcases
  generalize panel (.mode .faceAe) = v at hcases hcell
  obtain ⟨on, rfl, hdecode⟩ : ∃ on, intFromBool on = v ∧ (byteOf v != 0) = on := by
    obtain rfl | rfl := hcases
    exacts [⟨false, rfl, rfl⟩, ⟨true, rfl, rfl⟩]
  refine ⟨on, rfl, comes_blobByte rfl hcell (fun _ hblob => hblob.faceAe) fun blob hb => ?_⟩
  show Program.done (Except.ok (Device.blobByte blob Meet2.statusFaceAeOffset != 0)) = _
  rw [hb, hdecode]

theorem comes_aiMode (h : layout.Holds (camera.cells s) panel) :
    ∃ mode, i32ToLe (aiToInt mode) = i32ToLe (panel (.mode .aiMode)) ∧
      camera.Comes Device.aiMode.run s (.ok mode) (camera.cells s) := by
  have hmem := mem_of_oneOf (h.admits (.mode .aiMode))
  have hcell := h.encoded (.mode .aiMode)
  generalize panel (.mode .aiMode) = v at hmem hcell
  obtain ⟨mode, rfl, hdecode⟩ : ∃ mode, aiToInt mode = v ∧ decodeAiMode (byteOf v).toUInt16 = .ok mode := by
    simp only [List.mem_cons, List.not_mem_nil, or_false] at hmem
    obtain rfl | rfl | rfl | rfl | rfl | rfl := hmem
    exacts [⟨.none, rfl, rfl⟩, ⟨.group, rfl, rfl⟩, ⟨.human, rfl, rfl⟩, ⟨.hand, rfl, rfl⟩,
      ⟨.whiteBoard, rfl, rfl⟩, ⟨.desk, rfl, rfl⟩]
  refine ⟨mode, rfl, comes_blobByte rfl hcell (fun _ hblob => hblob.aiMode) fun blob hb => ?_⟩
  show Program.done (decodeAiMode (Device.blobByte blob Meet2.statusAiModeOffset).toUInt16) = _
  rw [hb, hdecode]

/-! ## Sessions -/

/-- One call, whatever it is. -/
theorem follows_call (h : layout.Holds (camera.cells s) panel) (call : Call) :
    Follows camera s panel m (program (some device) m call) (panel.effect camera.work call) := by
  cases call with
  | setInteger control value => exact follows_setInteger device h control value
  | setAntiFlicker mode => exact follows_oneOf device id h decodes_antiFlicker (by rw [Option.map_id]; rfl)
  | setAutoFocus on => exact follows_switch device h rfl rfl rfl
  | setAeMode mode => exact follows_oneOf device id h decodes_aeMode (by rw [Option.map_id]; rfl)
  | setAeLock locked =>
    by_cases hlocked : locked = 0
    · subst hlocked
      refine follows_turnTo device h (fun hnone => by cases hnone) fun w hw => ?_
      cases hw
      rfl
    · rw [Panel.effect, if_neg hlocked, program, obsbotDeviceSetAeLock, bne_iff_ne.mpr hlocked]
      refine follows_turnTo device h (fun hnone => by cases hnone) fun w hw => ?_
      cases hw
      rfl
  | setExposureTime value100us =>
    refine follows_turnTo device h (fun hnone => by cases hnone) fun w hw => ?_
    cases hw
    rfl
  | setPanTilt pan tilt => exact follows_setPanTilt device h pan tilt
  | setZoom zoom => exact follows_guarded device h rfl ctSetF32_in ctSetF32_out
  | setFocus focus => exact follows_guarded device h rfl ctSetF32_in ctSetF32_out
  | setWhiteBalance mode kelvin => exact follows_setWhiteBalance device h mode kelvin
  | setMode setter code => exact follows_setMode device h setter code
  | integer control outValue =>
    have hprogram : readInteger (some device) control outValue m =
        readInto (some device) i32ToLe outValue control.get m := by cases control <;> rfl
    rw [program, hprogram]
    exact follows_read device h (comes_integer h control)
  | antiFlicker outMode => exact follows_read device h (comes_antiFlicker h)
  | autoFocus outOn => exact follows_read device h (comes_autoFocus h)
  | aeMode outMode => exact follows_read device h (comes_aeMode h)
  | exposureTime outValue => exact follows_read device h (comes_exposureTime h)
  | zoom out => exact follows_read device h (comes_ctGetU16 (h.encoded .zoom))
  | focus out => exact follows_read device h (comes_ctGetU16 (h.encoded .focus))
  | panTilt outPan outTilt => exact follows_readPair device h (comes_panTilt h)
  | whiteBalance outMode outKelvin => exact follows_readPair device h (comes_whiteBalance h)
  | wdr outMode => exact follows_read device h (comes_wdr h)
  | faceAe outOn => exact follows_read device h (comes_faceAe h)
  | aiMode outMode => exact follows_read device h (comes_aiMode h)

/-- From one call to the next the camera is left as the panel shows it. -/
theorem follows_session (h : layout.Holds (camera.cells s) panel) (calls : List Call) (m : CMemory) :
    ∃ s', (session (some device) calls m).run camera.answer s =
        (.ok ((Panel.session camera.work calls m panel).1, (Panel.session camera.work calls m panel).2.1), s') ∧
      layout.Holds (camera.cells s') (Panel.session camera.work calls m panel).2.2 := by
  induction calls generalizing s panel m with
  | nil => exact ⟨s, rfl, h⟩
  | cons call calls ih =>
    obtain ⟨s₁, hrun, h₁⟩ := @follows_call σ Location camera s panel m device h call
    obtain ⟨s₂, hrest, h₂⟩ := ih h₁ (panel.after m (panel.effect camera.work call)).2.1
    refine ⟨s₂, ?_, h₂⟩
    rw [session, Program.run_bind, hrun]
    dsimp only
    rw [Program.run_bind, hrest]
    rfl

end Readers

/-- Any calls in any order return the codes and write the values of the panel, and the camera is left as the panel
shows it: a knob shows what was last set on it, whatever was set on the others, and a refused value moves nothing. -/
theorem sessions_follow_panel {σ Location : Type} (camera : PanelCamera σ) (device : Device Location) {s : σ}
    {panel : Panel} (h : layout.Holds (camera.cells s) panel) (calls : List Call) (m : CMemory) :
    ∃ s', (session (some device) calls m).run camera.answer s =
        (.ok ((Panel.session camera.work calls m panel).1, (Panel.session camera.work calls m panel).2.1), s') ∧
      layout.Holds (camera.cells s') (Panel.session camera.work calls m panel).2.2 := follows_session device h calls m

/-! ## The plainest camera -/

def statusBlob (cells : Cell → List UInt8) : Bytes Meet2.modeRegisterPayloadLen :=
  let blob := (Bytes.zeros Meet2.modeRegisterPayloadLen).overwrite 0 [Meet2.statusBlobMarker]
  let blob := blob.overwrite Meet2.statusWdrOffset [(cells (.mode Meet2.modeWdr)).headD 0]
  let blob := blob.overwrite Meet2.statusFaceAeOffset [(cells (.mode Meet2.modeFaceAe)).headD 0]
  blob.overwrite Meet2.statusAiModeOffset [(cells (.mode Meet2.modeAiMode)).headD 0]

/-- Every framing mode comes to the group mode. -/
def groupModes : WorkModes where
  framing _ := 1
  autoFrame := 1
  framing_mem _ := by decide
  autoFrame_mem := by decide

/-- The cells are all its state. -/
def keepingAnswer : (op : TransportOp) → (Cell → List UInt8) → op.Reply × (Cell → List UInt8)
  | .uvcSet entity selector payload, s =>
    if entity = Meet2.xuEntityId then
      if selector = Meet2.xuSelModeRegister then
        (.ok (), groupModes.command (readModeRegister payload).1 (readModeRegister payload).2 s)
      else (.ok (), s)
    else (.ok (), Function.update s (.register entity selector) payload)
  | .uvcGet _ entity selector n out, s =>
    if entity = Meet2.xuEntityId then
      ((out.overwrite 0 ((statusBlob s).toList.take n), .ok (min n Meet2.modeRegisterPayloadLen)), s)
    else ((out.overwrite 0 ((s (.register entity selector)).take n),
      .ok (min n (s (.register entity selector)).length)), s)
  | .sleep _, s => ((), s)

def keepingCamera : PanelCamera (Cell → List UInt8) where
  answer := keepingAnswer
  cells := id
  work := groupModes
  set_reply entity selector payload s h := by rw [keepingAnswer, if_neg h]
  set_cells entity selector payload s h := by rw [keepingAnswer, if_neg h]; rfl
  get_reply entity selector n out s h := by rw [keepingAnswer, if_neg h]; rfl
  get_cells entity selector n out s := by
    rw [keepingAnswer]
    split <;> rfl
  command_reply frame s := rfl
  command_cells controlId value frame s h := by
    show groupModes.command (readModeRegister frame.toList).1 (readModeRegister frame.toList).2 s = _
    rw [readModeRegister_payload h]
    rfl
  blob_reply out s := by
    refine ⟨statusBlob s, ⟨rfl, rfl, rfl, rfl⟩, ?_⟩
    show (out.overwrite 0 ((statusBlob s).toList.take Meet2.modeRegisterPayloadLen), Except.ok _) = _
    have hlen : (statusBlob s).toList.length = Meet2.modeRegisterPayloadLen := (statusBlob s).length_eq
    refine Prod.ext (Bytes.ext ?_) rfl
    rw [List.take_of_length_le hlen.le, Bytes.overwrite_toList _ (by omega), splice_zero_full]
    rw [hlen, out.length_eq]

def zeroCode : (setter : ModeSetter) → ModeCode setter
  | .suspendTime => (0 : UInt16)
  | .buttonMode => (0 : UInt8)
  | .wdr | .fov | .faceAe | .mediaMode | .autoFraming | .aiMode | .audioAgc | .flipHorizontal | .portrait | .led
  | .bgEnable | .bgMode | .bgColor | .maskLevel | .disableSleepWithoutStream | .microphoneDuringSleep => (0 : Int32)

def zeroPanel : Panel
  | .integer _ => (0 : Int32)
  | .antiFlicker => (0 : Int32)
  | .whiteBalance => (0 : Int32)
  | .kelvin => (0 : UInt16)
  | .autoFocus => (0 : Int32)
  | .aeMode => (0 : Int32)
  | .exposureTime => (0 : UInt32)
  | .zoom => (0 : UInt16)
  | .focus => (0 : UInt16)
  | .panTilt => ((0, 0) : Int32 × Int32)
  | .mode setter => zeroCode setter

def zeroCells : Cell → List UInt8
  | .register entity selector =>
    if entity = Uvc.processingUnit then
      if selector = Uvc.Pu.powerLineFrequency then [0]
      else if selector = Uvc.Pu.whiteBalanceTemperatureAuto then [1]
      else [0, 0]
    else if selector = Uvc.Ct.pantiltAbsolute then [0, 0, 0, 0, 0, 0, 0, 0]
    else if selector = Uvc.Ct.exposureTimeAbsolute then [0, 0, 0, 0]
    else if selector = Uvc.Ct.focusAuto then [0]
    else if selector = Uvc.Ct.aeMode then [1]
    else [0, 0]
  | .mode controlId =>
    if controlId ∈ [Meet2.modeAutoFraming, Meet2.modeAiMode, Meet2.modeSuspendTime] then [0, 0] else [0]

theorem zeroCells_holds : layout.Holds zeroCells zeroPanel := by
  intro knob
  cases knob with
  | integer control => cases control <;> exact ⟨rfl, rfl⟩
  | mode setter => cases setter <;> exact ⟨rfl, rfl⟩
  | _ => exact ⟨rfl, rfl⟩

/-- A brightness that is read back, an AI mode that does not exist, and a framing mode that the AI mode follows. -/
def turning : List Call :=
  [.setInteger .brightness (-30), .setMode .aiMode (9 : Int32), .setMode .autoFraming (2 : Int32),
    .integer .brightness 16, .aiMode 20, .wdr 0]

theorem sessions_follow_panel_turning :
    ∃ s' m', (session (some Rpc.sampleDevice) turning fun _ => 0).run keepingCamera.answer zeroCells =
        (.ok ([0, -5, 0, 0, 0, -2], m'), s') ∧
      m' = (Memory.write (fun _ => 0) 16 [0xe2, 0xff, 0xff, 0xff]).write 20 [1, 0, 0, 0] := by
  obtain ⟨s', hrun, -⟩ := sessions_follow_panel keepingCamera Rpc.sampleDevice zeroCells_holds turning fun _ => 0
  exact ⟨s', _, hrun, rfl⟩

end Libobsbot.Ffi.Sessions

import Libobsbot.Ffi.PanelCamera

/-! # Setters turn knobs

Every setter refuses what its knob refuses, before anything is written, and otherwise writes what the knob then shows.
-/

namespace Libobsbot.Ffi.Sessions
open Foundations Raw Integers Xu
set_option autoImplicit false

section Setters
variable {σ Location : Type} {camera : PanelCamera σ} {s : σ}

/-- The program does to the camera and to memory what the effect does to the panel and to memory. -/
def Follows (camera : PanelCamera σ) (s : σ) (panel : Panel) (m : CMemory) (p : TransportProgram (Int32 × CMemory))
    (effect : Effect) : Prop :=
  ∃ s', p.run camera.answer s = (.ok ((panel.after m effect).1, (panel.after m effect).2.1), s') ∧
    layout.Holds (camera.cells s') (panel.after m effect).2.2

variable {panel : Panel} {m : CMemory} (device : Device Location)

theorem follows_refuse (h : layout.Holds (camera.cells s) panel) {p : TransportProgram Int32}
    (hp : p = .done obsbotErrOutOfRange) : Follows camera s panel m (leaving m p) .refuse := by
  subst hp
  exact ⟨s, rfl, h⟩

theorem comes_withDevice {f : DeviceM Unit} {cells : Cell → List UInt8} (h : camera.Comes f.run s (.ok ()) cells) :
    camera.Comes (withDevice (some device) fun _ => f) s obsbotOk cells := h.then rfl

theorem follows_turn (h : layout.Holds (camera.cells s) panel) (turned : List Change) {p : TransportProgram Int32}
    (hp : camera.Comes p s obsbotOk (layout.writeAll (camera.cells s) turned))
    (hadmits : ∀ change ∈ turned, layout.Admits change.1 change.2) :
    Follows camera s panel m (leaving m p) (.turn turned) := by
  obtain ⟨s', hrun, hcells⟩ := hp
  refine ⟨s', ?_, ?_⟩
  · rw [leaving, Program.run_bind, hrun]
    rfl
  · rw [hcells]
    exact h.setAll hadmits

/-- A setter that refuses what its knob refuses, and otherwise writes what its knob then shows. -/
theorem follows_turnTo (h : layout.Holds (camera.cells s) panel) {knob : Knob} {v : knob.Value}
    {p : TransportProgram Int32} (hrefuse : knob.accept v = none → p = .done obsbotErrOutOfRange)
    (haccept : ∀ w, knob.accept v = some w → p = withDevice (some device) fun _ => knob.write w) :
    Follows camera s panel m (leaving m p) (turnTo camera.work knob v) := by
  unfold turnTo
  cases haccepts : knob.accept v with
  | none => exact follows_refuse h (hrefuse haccepts)
  | some w =>
    rw [haccept w haccepts]
    have hself := knob.accept_idem haccepts
    exact follows_turn h _ (comes_withDevice device (comes_write hself)) (admits_changes camera.work hself)

/-- The codes that are decoded, to what `write` makes of them. -/
structure Decodes {α : Type} (codes : List Int32) (decode : Int32 → Option α) (f : α → DeviceM Unit)
    (write : Int32 → DeviceM Unit) : Prop where
  named : ∀ c ∈ codes, ∃ a, decode c = some a ∧ f a = write c
  other : ∀ c, c ∉ codes → decode c = none

/-- The same for a setter that decodes one of a list of codes. -/
theorem follows_oneOf {knob : Knob} {v : knob.Value} {α : Type} {codes : List Int32} {code : Int32}
    {decode : Int32 → Option α} {f : α → DeviceM Unit} (turn : Int32 → knob.Value)
    (h : layout.Holds (camera.cells s) panel) (hd : Decodes codes decode f fun c => knob.write (turn c))
    (haccept : knob.accept v = (oneOf codes code).map turn) :
    Follows camera s panel m (leaving m (withDecoded (some device) (decode code) f)) (turnTo camera.work knob v) := by
  refine follows_turnTo device h (fun hnone => ?_) fun w hw => ?_
  · have hmem : code ∉ codes := by
      intro hmem
      rw [haccept, oneOf, if_pos hmem] at hnone
      cases hnone
    rw [hd.other code hmem]
    rfl
  · by_cases hmem : code ∈ codes
    · rw [haccept, oneOf, if_pos hmem] at hw
      cases hw
      obtain ⟨a, ha, hf⟩ := hd.named code hmem
      rw [ha, withDecoded, hf]
    · rw [haccept, oneOf, if_neg hmem] at hw
      cases hw

/-! ## Decoders as tables -/

def fromTable {α : Type} : List (Int32 × α) → Int32 → Option α
  | [], _ => none
  | row :: table, v => if v = row.1 then some row.2 else fromTable table v

theorem decodes_fromTable {α : Type} {codes : List Int32} {decode : Int32 → Option α} {f : α → DeviceM Unit}
    {write : Int32 → DeviceM Unit} (table : List (Int32 × α)) (h : ∀ row ∈ table, f row.2 = write row.1)
    (hcodes : table.map Prod.fst = codes) (hdecode : ∀ v, fromTable table v = decode v) :
    Decodes codes decode f write := by
  subst hcodes
  obtain rfl := funext hdecode
  induction table with
  | nil => exact ⟨fun c hc => (List.not_mem_nil hc).elim, fun c _ => rfl⟩
  | cons row table ih =>
    obtain ⟨hnamed, hother⟩ := ih (fun row' hmem => h row' (by simp [hmem])) fun _ => rfl
    refine ⟨fun c hc => ?_, fun c hc => ?_⟩
    · by_cases hrow : c = row.1
      · exact ⟨row.2, if_pos hrow, by rw [hrow, h row (by simp)]⟩
      · rw [fromTable, if_neg hrow]
        exact hnamed c (by simpa [hrow] using hc)
    · rw [List.map_cons, List.mem_cons, not_or] at hc
      rw [fromTable, if_neg hc.1]
      exact hother c hc.2

theorem decodes_wdr : Decodes [0, 1] wdrFromInt Device.setWdr (Knob.mode .wdr).write :=
  decodes_fromTable [(0, .off), (1, .dol2To1)]
    (by simp only [List.forall_mem_cons]; exact ⟨rfl, rfl, nofun⟩) rfl fun _ => rfl

theorem decodes_fov : Decodes [0, 1, 2] fovFromInt Device.setFov (Knob.mode .fov).write :=
  decodes_fromTable [(0, .wide), (1, .medium), (2, .narrow)]
    (by simp only [List.forall_mem_cons]; exact ⟨rfl, rfl, rfl, nofun⟩) rfl fun _ => rfl

theorem decodes_media : Decodes [0, 1, 2] mediaFromInt Device.setMediaMode (Knob.mode .mediaMode).write :=
  decodes_fromTable [(0, .normal), (1, .background), (2, .autoFrame)]
    (by simp only [List.forall_mem_cons]; exact ⟨rfl, rfl, rfl, nofun⟩) rfl fun _ => rfl

theorem decodes_framing : Decodes [0, 1, 2] framingFromInt Device.setAutoFraming (Knob.mode .autoFraming).write :=
  decodes_fromTable [(0, .group), (1, .singleCloseUp), (2, .singleUpperBody)]
    (by simp only [List.forall_mem_cons]; exact ⟨rfl, rfl, rfl, nofun⟩) rfl fun _ => rfl

theorem decodes_ai : Decodes [0, 1, 2, 3, 4, 5] aiFromInt Device.setAiMode (Knob.mode .aiMode).write :=
  decodes_fromTable [(0, .none), (1, .group), (2, .human), (3, .hand), (4, .whiteBoard), (5, .desk)]
    (by simp only [List.forall_mem_cons]; exact ⟨rfl, rfl, rfl, rfl, rfl, rfl, nofun⟩) rfl fun _ => rfl

theorem decodes_bgMode : Decodes [0, 1, 17, 18] bgModeFromInt Device.setBgMode (Knob.mode .bgMode).write :=
  decodes_fromTable [(0, .disable), (1, .color), (17, .replace), (18, .blur)]
    (by simp only [List.forall_mem_cons]; exact ⟨rfl, rfl, rfl, rfl, nofun⟩) rfl fun _ => rfl

theorem decodes_bgColor : Decodes [-2, -1, 0, 1, 2, 3, 4] bgColorFromInt Device.setBgColor (Knob.mode .bgColor).write :=
  decodes_fromTable [(-2, .disable), (-1, .null), (0, .blue), (1, .green), (2, .red), (3, .black), (4, .white)]
    (by simp only [List.forall_mem_cons]; exact ⟨rfl, rfl, rfl, rfl, rfl, rfl, rfl, nofun⟩) rfl fun _ => rfl

theorem decodes_antiFlicker : Decodes [0, 1, 2, 3] antiFlickerFromInt Device.setAntiFlicker Knob.antiFlicker.write :=
  decodes_fromTable [(0, .off), (1, .hz50), (2, .hz60), (3, .auto)]
    (by simp only [List.forall_mem_cons]; exact ⟨rfl, rfl, rfl, rfl, nofun⟩) rfl fun _ => rfl

theorem decodes_aeMode : Decodes [0, 1, 2, 3] aeModeFromInt Device.setAeMode Knob.aeMode.write :=
  decodes_fromTable [(0, .manual), (1, .auto), (2, .shutterPriority), (3, .aperturePriority)]
    (by simp only [List.forall_mem_cons]; exact ⟨rfl, rfl, rfl, rfl, nofun⟩) rfl fun _ => rfl

/-! ## The setters -/

theorem follows_setInteger (h : layout.Holds (camera.cells s) panel) (control : IntegerControl) (value : Int32) :
    Follows camera s panel m (leaving m (setInteger (some device) control value))
      (turnTo camera.work (.integer control) value) := by
  have hprogram : setInteger (some device) control value = withDevice (some device) fun _ => control.set value := by
    cases control <;> rfl
  rw [hprogram]
  refine follows_turnTo device h (fun hnone => ?_) fun w hw => ?_
  · have hfits : ¬ control.Fits value := by
      intro hfits
      rw [Knob.accept, if_pos hfits] at hnone
      cases hnone
    rw [withDevice, IntegerControl.set_rejected hfits]
    rfl
  · rw [Knob.accept] at hw
    split_ifs at hw with hfits
    cases hw
    rw [withDevice, IntegerControl.set_accepted hfits]
    rfl

theorem byteOf_switch (on : Int32) : byteOf (switch on) = u8FromBool (on != 0) := by
  unfold switch
  by_cases hon : on = 0
  · rw [if_pos hon, hon]
    rfl
  · rw [if_neg hon, bne_iff_ne.mpr hon]
    rfl

/-- A setter of a toggle. -/
theorem follows_switch (h : layout.Holds (camera.cells s) panel) {knob : Knob} {v w : knob.Value} {on : Int32}
    {f : DeviceM Unit} (haccept : knob.accept v = some w) (hcell : knob.bytes w = [byteOf (switch on)])
    (hf : f = knob.cell.write [u8FromBool (on != 0)]) :
    Follows camera s panel m (leaving m (withDevice (some device) fun _ => f)) (turnTo camera.work knob v) := by
  refine follows_turnTo device h (fun hnone => ?_) fun w' hw => ?_
  · rw [haccept] at hnone
    cases hnone
  · rw [haccept] at hw
    cases hw
    rw [hf, Knob.write, hcell, byteOf_switch]

theorem byteOf_eq {v : Int32} (h : 0 ≤ v.toInt) : byteOf v = UInt8.ofNat v.toInt.toNat := by
  have hnat : v.toUInt32.toNat = v.toInt.toNat := Int32.toNat_toUInt32_of_le (Int32.le_iff_toInt_le.mpr h)
  apply UInt8.toNat_inj.mp
  simp [byteOf, hnat]

theorem follows_setMaskLevel (h : layout.Holds (camera.cells s) panel) (level : Int32) :
    Follows camera s panel m (leaving m (obsbotDeviceSetMaskLevel (some device) level))
      (turnTo camera.work (.mode .maskLevel) level) := by
  have haccept : (Knob.mode .maskLevel).accept level =
      if 0 ≤ level.toInt ∧ level.toInt ≤ 100 then some level else none := rfl
  refine follows_turnTo device h (fun hnone => ?_) fun w hw => ?_
  · have hout : ¬ (0 ≤ level.toInt ∧ level.toInt ≤ 100) := by
      intro hin
      rw [haccept, if_pos hin] at hnone
      cases hnone
    unfold obsbotDeviceSetMaskLevel u8TryFromInt
    split_ifs with hbyte
    · -- a byte that the device itself refuses
      have hlarge : ¬ ModeSetter.maskLevel.Accepts (UInt8.ofNat level.toInt.toNat) := by
        show ¬ UInt8.ofNat level.toInt.toNat ≤ 100
        rw [UInt8.le_iff_toNat_le, UInt8.toNat_ofNat']
        show ¬ level.toInt.toNat % 256 ≤ 100
        omega
      have hthrow : Device.setMaskLevel (UInt8.ofNat level.toInt.toNat) = throw .outOfRange :=
        ModeSetter.maskLevel.call_refused hlarge
      rw [withDecoded, hthrow]
      rfl
    · rfl
  · rw [haccept] at hw
    split_ifs at hw with hin
    cases hw
    have hsmall : UInt8.ofNat level.toInt.toNat ≤ 100 := by
      rw [UInt8.le_iff_toNat_le, UInt8.toNat_ofNat']
      show level.toInt.toNat % 256 ≤ 100
      omega
    rw [obsbotDeviceSetMaskLevel, u8TryFromInt, if_pos ⟨hin.1, by omega⟩, withDecoded,
      ModeSetter.call_maskLevel hsmall, ← byteOf_eq hin.1]
    rfl

theorem follows_setMode (h : layout.Holds (camera.cells s) panel) (setter : ModeSetter) (code : ModeCode setter) :
    Follows camera s panel m (leaving m (setMode (some device) setter code))
      (turnTo camera.work (.mode setter) code) := by
  cases setter with
  | faceAe | audioAgc | flipHorizontal | portrait | led | bgEnable | disableSleepWithoutStream
  | microphoneDuringSleep => exact follows_switch device h rfl rfl rfl
  | wdr => exact follows_oneOf device id h decodes_wdr (by rw [Option.map_id]; rfl)
  | fov => exact follows_oneOf device id h decodes_fov (by rw [Option.map_id]; rfl)
  | mediaMode => exact follows_oneOf device id h decodes_media (by rw [Option.map_id]; rfl)
  | autoFraming => exact follows_oneOf device id h decodes_framing (by rw [Option.map_id]; rfl)
  | aiMode => exact follows_oneOf device id h decodes_ai (by rw [Option.map_id]; rfl)
  | bgMode => exact follows_oneOf device id h decodes_bgMode (by rw [Option.map_id]; rfl)
  | bgColor => exact follows_oneOf device id h decodes_bgColor (by rw [Option.map_id]; rfl)
  | maskLevel => exact follows_setMaskLevel device h code
  | suspendTime | buttonMode =>
    refine follows_turnTo device h (fun hnone => by cases hnone) fun w hw => ?_
    cases hw
    rfl

/-- A float in range is truncated; out of range it is refused before anything is written. -/
theorem follows_guarded (h : layout.Holds (camera.cells s) panel) {knob : Knob} {v : knob.Value} {inRange : Bool}
    {f : DeviceM Unit} (haccept : knob.accept v = some v) (hin : inRange = true → f = knob.write v)
    (hout : inRange = false → f.run = .done (.error .outOfRange)) :
    Follows camera s panel m (leaving m (withDevice (some device) fun _ => f))
      (if inRange then turnTo camera.work knob v else .refuse) := by
  cases inRange with
  | false =>
    refine follows_refuse h ?_
    rw [withDevice, hout rfl]
    rfl
  | true =>
    refine follows_turnTo device h (fun hnone => ?_) fun w hw => ?_
    · rw [haccept] at hnone
      cases hnone
    · rw [haccept] at hw
      cases hw
      rw [hin rfl]

theorem ctSetF32_in {selector : UInt8} {value : Float32} (h : Device.inU16Range value = true) :
    Device.ctSetF32 selector value = uvcSet Uvc.cameraTerminal selector (u16ToLe value.toUInt16) := by
  unfold Device.ctSetF32
  rw [h]
  rfl

theorem ctSetF32_out {selector : UInt8} {value : Float32} (h : Device.inU16Range value = false) :
    (Device.ctSetF32 selector value).run = .done (.error .outOfRange) := by
  unfold Device.ctSetF32
  rw [h]
  rfl

theorem follows_setPanTilt (h : layout.Holds (camera.cells s) panel) (pan tilt : Float32) :
    Follows camera s panel m (leaving m (obsbotDeviceSetPanTilt (some device) pan tilt))
      (panel.effect camera.work (.setPanTilt pan tilt)) := by
  have heffect : panel.effect camera.work (.setPanTilt pan tilt) =
      if (Device.inUnitRange pan && Device.inUnitRange tilt) = true then turnTo camera.work .panTilt
        ((pan * panTiltProvisionalScale).toInt32, (tilt * panTiltProvisionalScale).toInt32) else .refuse := by
    simp only [Panel.effect, Bool.and_eq_true]
  rw [heffect]
  refine follows_guarded device h rfl (fun hin => ?_) fun hout => ?_
  · obtain ⟨hpan, htilt⟩ := Bool.and_eq_true_iff.mp hin
    unfold Device.setPanTilt
    rw [hpan, htilt]
    rfl
  · have hrefused : (!Device.inUnitRange pan || !Device.inUnitRange tilt) = true := by
      rw [← Bool.not_and, hout]
      rfl
    unfold Device.setPanTilt
    rw [hrefused]
    rfl

/-- The mode is set first, and the temperature only with the manual mode. -/
theorem follows_setWhiteBalance (h : layout.Holds (camera.cells s) panel) (mode : Int32) (kelvin : UInt16) :
    Follows camera s panel m (leaving m (obsbotDeviceSetWhiteBalance (some device) mode kelvin))
      (panel.effect camera.work (.setWhiteBalance mode kelvin)) := by
  by_cases hauto : mode = 0
  · subst hauto
    refine follows_turn h [⟨.whiteBalance, (0 : Int32)⟩]
      (comes_withDevice device (PanelCamera.comes_set _ (by decide))) ?_
    exact List.forall_mem_singleton.mpr rfl
  · by_cases hmanual : mode = 1
    · subst hmanual
      refine follows_turn h [⟨.whiteBalance, (1 : Int32)⟩, ⟨.kelvin, kelvin⟩] (comes_withDevice device ?_) ?_
      · refine (PanelCamera.comes_set _ (by decide)).exceptBind fun s' hcells => ?_
        have hkelvin : camera.Comes
            (uvcSet Uvc.processingUnit Uvc.Pu.whiteBalanceTemperature (u16ToLe kelvin)).run s' (.ok ())
            (Function.update (camera.cells s') (.register _ _) (u16ToLe kelvin)) :=
          PanelCamera.comes_set _ (by decide)
        rw [hcells] at hkelvin
        exact hkelvin
      · simp only [List.forall_mem_cons]
        exact ⟨rfl, rfl, nofun⟩
    · have hnone : Knob.whiteBalance.accept mode = none := if_neg (by simp [hauto, hmanual])
      have hdecode : wbFromInt mode = none := by rw [wbFromInt, if_neg hauto, if_neg hmanual]
      rw [Panel.effect, hnone]
      exact follows_refuse h (by rw [obsbotDeviceSetWhiteBalance, hdecode]; rfl)

end Setters

end Libobsbot.Ffi.Sessions

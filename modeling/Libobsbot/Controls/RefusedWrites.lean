import Libobsbot.Foundations.WriteSequence
import Libobsbot.Linux.PanTilt

/-! # Setters of two control writes

`set_white_balance` writes the auto flag and then the temperature; on Linux `set_pan_tilt` writes pan and then tilt.
Neither reads the old values first, and neither undoes its first write when the second one fails.
-/

namespace Libobsbot.RefusedWrites
open Foundations Uvcvideo
open Foundations.WriteSequence
open V4l2Store (Driver)
set_option autoImplicit false

/-! ## Cameras that refuse writes -/

/-- A camera that keeps the last payload written to each (entity, selector) pair. -/
def camera (refuses : ℕ → Option Error) : (op : TransportOp) → Attempts (UInt8 × UInt8) (List UInt8) →
    op.Reply × Attempts (UInt8 × UInt8) (List UInt8)
  | .uvcSet entity selector payload, s => attempt refuses (entity, selector) payload s
  | .uvcGet _ entity selector n out, s =>
    let bytes := (s.store (entity, selector)).take n
    ((out.overwrite 0 bytes, .ok bytes.length), s)
  | .sleep _, s => ((), s)

/-- The storing driver, with an `S_CTRL` that may fail. -/
def driver (refuses : ℕ → Option String) :
    (op : Ioctl) → Attempts UInt32 Int32 → op.Reply × Attempts UInt32 Int32
  | .sCtrl cid value, s => attempt refuses cid value s
  | op, s => ((Driver.answer op s.store).1, s)

/-! ## White balance -/

section WhiteBalance
variable {refuses : ℕ → Option Error}

def autoFlag : UInt8 × UInt8 := (Uvc.processingUnit, Uvc.Pu.whiteBalanceTemperatureAuto)
def temperature : UInt8 × UInt8 := (Uvc.processingUnit, Uvc.Pu.whiteBalanceTemperature)

def whiteBalanceWrites (mode : WhiteBalanceMode) (kelvin : Option UInt16) :
    List ((UInt8 × UInt8) × List UInt8) :=
  match mode with
  | .auto => [(autoFlag, [1])]
  | .manual => [(autoFlag, [0]), (temperature, u16ToLe (kelvin.getD 6500))]

/-- What `set_white_balance` makes of a refused write: the error of the write, as it is. -/
def uvcReport (_ : (UInt8 × UInt8) × List UInt8) (e : Error) : Error := e

theorem uvcSet_writes (entity selector : UInt8) (payload : List UInt8) :
    Writes (camera refuses) refuses uvcReport (uvcSet entity selector payload)
      [((entity, selector), payload)] := by
  refine writes_one fun s => ?_
  have hreport : ∀ r : Result Unit, r = r.mapError (uvcReport ((entity, selector), payload)) := by
    intro r
    cases r with
    | ok u => rfl
    | error e => rfl
  exact Prod.ext (hreport _) rfl

theorem setWhiteBalance_writes (mode : WhiteBalanceMode) (kelvin : Option UInt16) :
    Writes (camera refuses) refuses uvcReport (Device.setWhiteBalance mode kelvin)
      (whiteBalanceWrites mode kelvin) := by
  cases mode with
  | auto => exact uvcSet_writes _ _ _
  | manual => exact (uvcSet_writes _ _ _).append (uvcSet_writes _ _ _)

theorem setWhiteBalance_error {mode : WhiteBalanceMode} {kelvin : Option UInt16} {e : Error}
    {s s' : Attempts (UInt8 × UInt8) (List UInt8)}
    (h : (Device.setWhiteBalance mode kelvin).run.run (camera refuses) s = (.ok (.error e), s')) :
    (refuses s.tried = some e ∧ s'.store = s.store) ∨
      (mode = .manual ∧ refuses s.tried = none ∧ refuses (s.tried + 1) = some e ∧
        s'.store = Function.update s.store autoFlag [0]) := by
  have herror := (setWhiteBalance_writes mode kelvin).error h
  cases mode with
  | auto =>
    obtain ⟨_, hat, rfl, hstore⟩ := attemptAll_one_error herror
    exact .inl ⟨hat, hstore⟩
  | manual =>
    obtain ⟨_, hat, rfl, hstore⟩ | ⟨_, hfirst, hat, rfl, hstore⟩ := attemptAll_pair_error herror
    · exact .inl ⟨hat, hstore⟩
    · exact .inr ⟨rfl, hfirst, hat, hstore⟩

end WhiteBalance

/-! ## Pan and tilt on Linux -/

section PanTilt
variable {refuses : ℕ → Option String}

def setPanTiltOnLinux (pan tilt : Float32) : KernelProgram (Result Unit) :=
  (Device.setPanTilt pan tilt).run.translate UsbTransport.answer

def panTiltWrites (pan tilt : Float32) : List (UInt32 × Int32) :=
  [(v4l2CidPanAbsolute, (pan * panTiltProvisionalScale).toInt32),
    (v4l2CidTiltAbsolute, (tilt * panTiltProvisionalScale).toInt32)]

/-- What `v4l2_s_ctrl` makes of a failed ioctl. -/
def sCtrlReport (w : UInt32 × Int32) (e : String) : Error :=
  .usb s!"VIDIOC_S_CTRL cid={hexAlt w.1.toNat} val={w.2.toInt}: {e}"

theorem v4l2SCtrl_writes (cid : UInt32) (value : Int32) :
    Writes (driver refuses) refuses sCtrlReport (v4l2SCtrl cid value) [(cid, value)] :=
  writes_one fun _ => rfl

theorem setPanTilt_writes {pan tilt : Float32}
    (hrange : (!Device.inUnitRange pan || !Device.inUnitRange tilt) = false) :
    Writes (driver refuses) refuses sCtrlReport (.mk (setPanTiltOnLinux pan tilt))
      (panTiltWrites pan tilt) := by
  have hprogram : ExceptT.mk (setPanTiltOnLinux pan tilt) =
      (do v4l2SCtrl v4l2CidPanAbsolute (pan * panTiltProvisionalScale).toInt32
          v4l2SCtrl v4l2CidTiltAbsolute (tilt * panTiltProvisionalScale).toInt32) := by
    unfold setPanTiltOnLinux
    rw [PanTilt.setPanTilt_run, hrange, ← PanTilt.pantiltSet_eq]
    exact PanTilt.translate_uvcSet_pantilt _ _
  rw [hprogram]
  exact (v4l2SCtrl_writes _ _).append (v4l2SCtrl_writes _ _)

theorem setPanTilt_error {pan tilt : Float32} {e : Error} {s s' : Attempts UInt32 Int32}
    (h : (setPanTiltOnLinux pan tilt).run (driver refuses) s = (.ok (.error e), s')) :
    (e = .outOfRange ∧ s'.store = s.store) ∨
      (∃ m, refuses s.tried = some m ∧ s'.store = s.store) ∨
      (∃ m, refuses s.tried = none ∧ refuses (s.tried + 1) = some m ∧
        s'.store = Function.update s.store v4l2CidPanAbsolute
          (pan * panTiltProvisionalScale).toInt32) := by
  cases hrange : !Device.inUnitRange pan || !Device.inUnitRange tilt with
  | true =>
    unfold setPanTiltOnLinux at h
    rw [PanTilt.setPanTilt_run, hrange] at h
    cases h
    exact .inl ⟨rfl, rfl⟩
  | false =>
    have herror := Writes.error (setPanTilt_writes hrange) h
    obtain ⟨m, hat, _, hstore⟩ | ⟨m, hfirst, hat, _, hstore⟩ := attemptAll_pair_error herror
    · exact .inr (.inl ⟨m, hat, hstore⟩)
    · exact .inr (.inr ⟨m, hfirst, hat, hstore⟩)

end PanTilt

/-! ## What a failed setter leaves -/

/-- Manual mode on a camera in auto mode: the flag is written, the temperature is refused. -/
theorem auto_flag_not_restored : ¬ ∀ (refuses : ℕ → Option Error) (mode : WhiteBalanceMode)
    (kelvin : Option UInt16) (e : Error) (s s' : Attempts (UInt8 × UInt8) (List UInt8)),
    (Device.setWhiteBalance mode kelvin).run.run (camera refuses) s = (.ok (.error e), s') →
      s'.store autoFlag = s.store autoFlag ∧ s'.store temperature = s.store temperature := by
  intro h
  have hkept := h (fun n => if n = 1 then some (.usb "pipe") else none) .manual (some 5000) (.usb "pipe")
    ⟨fun _ => [1], 0⟩ _ rfl
  exact absurd hkept.1 (by decide)

/-- After an error either nothing has changed, or the first of the two controls holds the value written to it and
everything else, the second control among it, is as it was. -/
theorem failed_setter_leaves :
    (∀ (refuses : ℕ → Option Error) (mode : WhiteBalanceMode) (kelvin : Option UInt16) (e : Error)
      (s s' : Attempts (UInt8 × UInt8) (List UInt8)),
      (Device.setWhiteBalance mode kelvin).run.run (camera refuses) s = (.ok (.error e), s') →
        (refuses s.tried = some e ∧ s'.store = s.store) ∨
          (mode = .manual ∧ refuses s.tried = none ∧ refuses (s.tried + 1) = some e ∧
            s'.store = Function.update s.store autoFlag [0])) ∧
    (∀ (refuses : ℕ → Option String) (pan tilt : Float32) (e : Error) (s s' : Attempts UInt32 Int32),
      (setPanTiltOnLinux pan tilt).run (driver refuses) s = (.ok (.error e), s') →
        (e = .outOfRange ∧ s'.store = s.store) ∨
          (∃ m, refuses s.tried = some m ∧ s'.store = s.store) ∨
          (∃ m, refuses s.tried = none ∧ refuses (s.tried + 1) = some m ∧
            s'.store = Function.update s.store v4l2CidPanAbsolute
              (pan * panTiltProvisionalScale).toInt32)) := by
  constructor
  · intro refuses mode kelvin e s s' h
    exact setWhiteBalance_error h
  · intro refuses pan tilt e s s' h
    exact setPanTilt_error h

/-- The runs exist: a refused temperature, and a driver that serves no write. -/
theorem failed_setter_leaves_refused :
    (∃ s' : Attempts (UInt8 × UInt8) (List UInt8),
      (Device.setWhiteBalance .manual none).run.run
        (camera fun n => if n = 1 then some (.usb "pipe") else none) ⟨fun _ => [1], 0⟩ =
          (.ok (.error (.usb "pipe")), s') ∧ s'.store autoFlag = [0] ∧ s'.store temperature = [1]) ∧
    (∃ e s', (setPanTiltOnLinux 0.5 0.0).run (driver fun _ => some "EIO") ⟨fun _ => 7, 0⟩ =
      (.ok (.error e), s') ∧ s'.store v4l2CidPanAbsolute = 7 ∧ s'.store v4l2CidTiltAbsolute = 7) := by
  constructor
  · refine ⟨_, rfl, ?_⟩
    obtain ⟨hat, -⟩ | ⟨-, -, -, hstore⟩ := failed_setter_leaves.1
      (fun n => if n = 1 then some (.usb "pipe") else none) .manual none _ ⟨fun _ => [1], 0⟩ _ rfl
    · cases hat
    · rw [hstore]
      exact ⟨rfl, rfl⟩
  · have hfails : ∃ e s', (setPanTiltOnLinux 0.5 0.0).run (driver fun _ => some "EIO") ⟨fun _ => 7, 0⟩ =
        (.ok (.error e), s') := by
      cases hrange : !Device.inUnitRange 0.5 || !Device.inUnitRange 0.0 with
      | true =>
        unfold setPanTiltOnLinux
        rw [PanTilt.setPanTilt_run, hrange]
        exact ⟨_, _, rfl⟩
      | false => exact ⟨_, _, setPanTilt_writes hrange _⟩
    obtain ⟨e, s', hrun⟩ := hfails
    refine ⟨e, s', hrun, ?_⟩
    have hkept : s'.store = fun _ => 7 := by
      obtain ⟨-, h⟩ | ⟨_, -, h⟩ | ⟨_, hnone, -⟩ := failed_setter_leaves.2 _ _ _ _ _ _ hrun
      · exact h
      · exact h
      · cases hnone
    rw [hkept]
    exact ⟨rfl, rfl⟩

end Libobsbot.RefusedWrites

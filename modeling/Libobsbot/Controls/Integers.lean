import Libobsbot.Source.Device

/-! # Integer controls of the Processing Unit

Seven pairs of a setter and a getter. Each pair names a selector twice and a signedness twice; the controls are
independent cells of the camera exactly if both choices agree within a pair and no two pairs share a selector.
-/

namespace Libobsbot.Integers
open Foundations
set_option autoImplicit false

inductive IntegerControl where
  | brightness | contrast | saturation | hue | sharpness | gain | backlightCompensation
  deriving DecidableEq

namespace IntegerControl

def set : IntegerControl → Int32 → DeviceM Unit
  | .brightness => Device.setBrightness
  | .contrast => Device.setContrast
  | .saturation => Device.setSaturation
  | .hue => Device.setHue
  | .sharpness => Device.setSharpness
  | .gain => Device.setGain
  | .backlightCompensation => Device.setBacklightCompensation

def get : IntegerControl → DeviceM Int32
  | .brightness => Device.brightness
  | .contrast => Device.contrast
  | .saturation => Device.saturation
  | .hue => Device.hue
  | .sharpness => Device.sharpness
  | .gain => Device.gain
  | .backlightCompensation => Device.backlightCompensation

def selector : IntegerControl → UInt8
  | .brightness => Uvc.Pu.brightness
  | .contrast => Uvc.Pu.contrast
  | .saturation => Uvc.Pu.saturation
  | .hue => Uvc.Pu.hue
  | .sharpness => Uvc.Pu.sharpness
  | .gain => Uvc.Pu.gain
  | .backlightCompensation => Uvc.Pu.backlightCompensation

/-- The control's wire type is `i16`; otherwise it is `u16`. -/
def Signed (control : IntegerControl) : Prop := control = .brightness ∨ control = .hue

instance (control : IntegerControl) : Decidable control.Signed := inferInstanceAs (Decidable (_ ∨ _))

/-- The value is one of the control's wire type. -/
def Fits (control : IntegerControl) (value : Int32) : Prop :=
  if control.Signed then -32768 ≤ value.toInt ∧ value.toInt ≤ 32767
  else 0 ≤ value.toInt ∧ value.toInt ≤ 65535

instance (control : IntegerControl) (value : Int32) : Decidable (control.Fits value) :=
  inferInstanceAs (Decidable (if control.Signed then -32768 ≤ value.toInt ∧ value.toInt ≤ 32767
    else 0 ≤ value.toInt ∧ value.toInt ≤ 65535))

theorem selector_injective : Function.Injective selector := by
  intro c d h
  revert h
  cases c <;> cases d <;> decide

/-! ## Wire forms -/

def encode (control : IntegerControl) (value : Int32) : List UInt8 :=
  if control.Signed then i16ToLe value.toInt16 else u16ToLe (UInt16.ofNat value.toInt.toNat)

def decode (control : IntegerControl) (bytes : List UInt8) : Int32 :=
  if control.Signed then (i16FromLe bytes).toInt32 else i32FromU16 (u16FromLe bytes)

theorem encode_length (control : IntegerControl) (value : Int32) : (control.encode value).length = 2 := by
  unfold encode
  split
  · exact toLe_length _ _
  · exact toLe_length _ _

theorem i16_roundTrip {value : Int32} (h : -32768 ≤ value.toInt ∧ value.toInt ≤ 32767) :
    (i16FromLe (i16ToLe value.toInt16)).toInt32 = value := by
  have hlt := value.toInt16.toUInt16.toNat_lt
  have hwire : i16FromLe (i16ToLe value.toInt16) = value.toInt16 := by
    unfold i16FromLe i16ToLe
    rw [fromLe_toLe, Nat.mod_eq_of_lt (by omega), UInt16.ofNat_toNat]
    exact Int16.toInt16_toUInt16 _
  rw [hwire]
  apply Int32.toInt_inj.mp
  rw [Int16.toInt_toInt32, Int32.toInt_toInt16]
  exact Int.bmod_eq_of_le (by omega) (by omega)

theorem u16_roundTrip {value : Int32} (h : 0 ≤ value.toInt ∧ value.toInt ≤ 65535) :
    i32FromU16 (u16FromLe (u16ToLe (UInt16.ofNat value.toInt.toNat))) = value := by
  have hnat : (UInt16.ofNat value.toInt.toNat).toNat = value.toInt.toNat := by
    rw [UInt16.toNat_ofNat']
    exact Nat.mod_eq_of_lt (by omega)
  have hwire : u16FromLe (u16ToLe (UInt16.ofNat value.toInt.toNat)) = UInt16.ofNat value.toInt.toNat := by
    unfold u16FromLe u16ToLe
    rw [fromLe_toLe, hnat, Nat.mod_eq_of_lt (by omega)]
  rw [hwire, i32FromU16, hnat]
  apply Int32.toInt_inj.mp
  rw [Int32.toInt_ofNat_of_lt (by omega), Int.toNat_of_nonneg h.1]

theorem decode_encode {control : IntegerControl} {value : Int32} (h : control.Fits value) :
    control.decode (control.encode value) = value := by
  unfold Fits at h
  unfold decode encode
  by_cases hsigned : control.Signed
  · rw [if_pos hsigned] at h
    rw [if_pos hsigned, if_pos hsigned]
    exact i16_roundTrip h
  · rw [if_neg hsigned] at h
    rw [if_neg hsigned, if_neg hsigned]
    exact u16_roundTrip h

/-! ## The programs of a pair -/

theorem set_eq (control : IntegerControl) : control.set =
    if control.Signed then Device.puSetI16 control.selector else Device.puSetU16 control.selector := by
  cases control <;> rfl

theorem set_rejected {control : IntegerControl} {value : Int32} (h : ¬ control.Fits value) :
    (control.set value).run = .done (.error .outOfRange) := by
  unfold Fits at h
  rw [set_eq]
  by_cases hsigned : control.Signed
  · rw [if_pos hsigned] at h
    rw [if_pos hsigned, Device.puSetI16, i16TryFrom, if_neg h]
    rfl
  · rw [if_neg hsigned] at h
    rw [if_neg hsigned, Device.puSetU16, u16TryFromI32, if_neg h]
    rfl

theorem set_accepted {control : IntegerControl} {value : Int32} (h : control.Fits value) :
    (control.set value).run =
      .perform (.uvcSet Uvc.processingUnit control.selector (control.encode value)) .done := by
  unfold Fits at h
  rw [set_eq]
  unfold encode
  by_cases hsigned : control.Signed
  · rw [if_pos hsigned] at h
    rw [if_pos hsigned, if_pos hsigned, Device.puSetI16, i16TryFrom, if_pos h]
    rfl
  · rw [if_neg hsigned] at h
    rw [if_neg hsigned, if_neg hsigned, Device.puSetU16, u16TryFromI32, if_pos h]
    rfl

theorem get_eq (control : IntegerControl) : control.get =
    (uvcGet .cur Uvc.processingUnit control.selector (Bytes.zeros 2) >>= fun got =>
      return control.decode got.2.toList) := by
  cases control with
  | brightness => rfl
  | hue => exact Device.puI16_eq _
  | contrast => exact Device.puU16_eq _
  | saturation => exact Device.puU16_eq _
  | sharpness => exact Device.puU16_eq _
  | gain => exact Device.puU16_eq _
  | backlightCompensation => exact Device.puU16_eq _

end IntegerControl

/-! ## A transport that stores -/

/-- Whatever else its state holds, it keeps the last payload set for each (entity, selector) and serves `GET_CUR`
from it. -/
structure StoringTransport (σ : Type) where
  answer : (op : TransportOp) → σ → op.Reply × σ
  cells : σ → UInt8 × UInt8 → List UInt8
  set_reply : ∀ entity selector payload s, (answer (.uvcSet entity selector payload) s).1 = .ok ()
  set_cells : ∀ entity selector payload s, cells (answer (.uvcSet entity selector payload) s).2 =
    Function.update (cells s) (entity, selector) payload
  get_reply : ∀ entity selector n out s, (answer (.uvcGet .cur entity selector n out) s).1 =
    (out.overwrite 0 ((cells s (entity, selector)).take n), .ok (min n (cells s (entity, selector)).length))
  get_cells : ∀ entity selector n out s, cells (answer (.uvcGet .cur entity selector n out) s).2 = cells s

/-- The plainest one: the cells are all there is. -/
def StoringTransport.camera : StoringTransport (UInt8 × UInt8 → List UInt8) where
  answer
    | .uvcSet entity selector payload, s => (.ok (), Function.update s (entity, selector) payload)
    | .uvcGet _ entity selector n out, s =>
      ((out.overwrite 0 ((s (entity, selector)).take n), .ok (min n (s (entity, selector)).length)), s)
    | .sleep _, s => ((), s)
  cells := id
  set_reply _ _ _ _ := rfl
  set_cells _ _ _ _ := rfl
  get_reply _ _ _ _ _ := rfl
  get_cells _ _ _ _ _ := rfl

inductive Call where
  | set (control : IntegerControl) (value : Int32)
  | get (control : IntegerControl)

/-- The value the call leaves in the control. -/
def Call.accepted (control : IntegerControl) : Call → Option Int32
  | .set c value => if c = control ∧ c.Fits value then some value else none
  | .get _ => none

def lastAccepted (control : IntegerControl) (calls : List Call) : Option Int32 :=
  (calls.filterMap (Call.accepted control)).getLast?

namespace StoringTransport
variable {σ : Type} (transport : StoringTransport σ)

def step (s : σ) : Call → σ
  | .set control value => ((control.set value).run.run transport.answer s).2
  | .get control => (control.get.run.run transport.answer s).2

def after (calls : List Call) (s : σ) : σ := calls.foldl transport.step s

def reads (s : σ) (control : IntegerControl) : Int32 :=
  control.decode ((Bytes.zeros 2).overwrite 0
    ((transport.cells s (Uvc.processingUnit, control.selector)).take 2)).toList

theorem get_run (control : IntegerControl) (s : σ) : ∃ s', transport.cells s' = transport.cells s ∧
    control.get.run.run transport.answer s = (.ok (.ok (transport.reads s control)), s') := by
  refine ⟨_, transport.get_cells Uvc.processingUnit control.selector 2 (Bytes.zeros 2) s, ?_⟩
  have hreply := transport.get_reply Uvc.processingUnit control.selector 2 (Bytes.zeros 2) s
  rw [control.get_eq, ExceptT.run_bind]
  show Program.run _ (Program.perform _ _) s = _
  rw [Program.run_perform, hreply]
  rfl

theorem reads_of_cells {s s' : σ} (h : transport.cells s' = transport.cells s) (control : IntegerControl) :
    transport.reads s' control = transport.reads s control := by
  unfold reads
  rw [h]

/-- An accepted call changes the one cell of its control. -/
theorem reads_accepted {c : IntegerControl} {value : Int32} (h : c.Fits value) (s : σ) (control : IntegerControl) :
    transport.reads (transport.step s (.set c value)) control =
      if c = control then value else transport.reads s control := by
  have hcells : transport.cells (transport.step s (.set c value)) =
      Function.update (transport.cells s) (Uvc.processingUnit, c.selector) (c.encode value) := by
    show transport.cells ((c.set value).run.run transport.answer s).2 = _
    rw [IntegerControl.set_accepted h]
    exact transport.set_cells _ _ _ s
  unfold reads
  rw [hcells]
  by_cases hc : c = control
  · subst hc
    rw [if_pos rfl, Function.update_self, List.take_of_length_le (c.encode_length value).le,
      Bytes.overwrite_toList _ (by rw [c.encode_length]), splice_zero_full (by rw [c.encode_length]; rfl)]
    exact IntegerControl.decode_encode h
  · have hother : (Uvc.processingUnit, control.selector) ≠ (Uvc.processingUnit, c.selector) := by
      intro he
      exact hc (IntegerControl.selector_injective (Prod.ext_iff.mp he).2).symm
    rw [if_neg hc, Function.update_of_ne hother]

theorem reads_step (s : σ) (call : Call) (control : IntegerControl) :
    transport.reads (transport.step s call) control =
      (call.accepted control).getD (transport.reads s control) := by
  cases call with
  | set c value =>
    by_cases hfits : c.Fits value
    · rw [transport.reads_accepted hfits, Call.accepted]
      by_cases hc : c = control
      · rw [if_pos hc, if_pos ⟨hc, hfits⟩]
        rfl
      · rw [if_neg hc, if_neg fun h => hc h.1]
        rfl
    · have hsame : transport.step s (.set c value) = s := by
        show ((c.set value).run.run transport.answer s).2 = s
        rw [IntegerControl.set_rejected hfits]
        rfl
      rw [hsame, Call.accepted, if_neg fun h => hfits h.2]
      rfl
  | get c =>
    obtain ⟨s', hcells, hrun⟩ := transport.get_run c s
    have hstep : transport.step s (.get c) = s' := congrArg Prod.snd hrun
    rw [hstep, transport.reads_of_cells hcells]
    rfl

theorem reads_after (calls : List Call) (s : σ) (control : IntegerControl) :
    transport.reads (transport.after calls s) control =
      (lastAccepted control calls).getD (transport.reads s control) := by
  induction calls generalizing s with
  | nil => rfl
  | cons call calls ih =>
    show transport.reads (transport.after calls (transport.step s call)) control = _
    rw [ih, transport.reads_step, lastAccepted, lastAccepted, List.filterMap_cons]
    cases hcall : call.accepted control with
    | none => rfl
    | some value =>
      dsimp only
      rw [List.getLast?_cons]
      cases (calls.filterMap (Call.accepted control)).getLast? with
      | none => rfl
      | some last => rfl

end StoringTransport

/-- A setter refuses what its wire type cannot hold, without a transfer, and otherwise makes one two-byte SET to its
control; over any calls on a transport that stores, each getter returns the last value its setter accepted. -/
theorem integer_controls_keep_values {σ : Type} (transport : StoringTransport σ) :
    (∀ (control : IntegerControl) (value : Int32),
      (¬ control.Fits value ∧ (control.set value).run = .done (.error .outOfRange)) ∨
      (control.Fits value ∧ ∃ payload, payload.length = 2 ∧ (control.set value).run =
        .perform (.uvcSet Uvc.processingUnit control.selector payload) .done)) ∧
    ∀ (calls : List Call) (s : σ) (control : IntegerControl), ∃ before,
      (control.get.run.run transport.answer s).1 = .ok (.ok before) ∧
      (control.get.run.run transport.answer (transport.after calls s)).1 =
        .ok (.ok ((lastAccepted control calls).getD before)) := by
  constructor
  · intro control value
    by_cases hfits : control.Fits value
    · exact .inr ⟨hfits, control.encode value, control.encode_length value, IntegerControl.set_accepted hfits⟩
    · exact .inl ⟨hfits, IntegerControl.set_rejected hfits⟩
  · intro calls s control
    obtain ⟨_, -, hbefore⟩ := transport.get_run control s
    obtain ⟨_, -, hafter⟩ := transport.get_run control (transport.after calls s)
    refine ⟨transport.reads s control, congrArg Prod.fst hbefore, ?_⟩
    rw [hafter, transport.reads_after]

/-- The second hue is out of range. -/
def tinting : List Call := [.set .hue (-30), .set .gain 7, .set .hue 40000, .get .hue]

theorem integer_controls_keep_values_camera :
    (IntegerControl.hue.set 40000).run = .done (.error .outOfRange) ∧
    (IntegerControl.hue.get.run.run StoringTransport.camera.answer
      (StoringTransport.camera.after tinting fun _ => [9, 9])).1 = .ok (.ok (-30)) ∧
    (IntegerControl.gain.get.run.run StoringTransport.camera.answer
      (StoringTransport.camera.after tinting fun _ => [9, 9])).1 = .ok (.ok 7) := by
  obtain ⟨hset, hget⟩ := integer_controls_keep_values StoringTransport.camera
  refine ⟨?_, ?_, ?_⟩
  · obtain ⟨-, hrun⟩ | ⟨hfits, -⟩ := hset .hue 40000
    · exact hrun
    · exact absurd hfits (by decide)
  · obtain ⟨before, -, hafter⟩ := hget tinting (fun _ => [9, 9]) .hue
    have hlast : lastAccepted .hue tinting = some (-30) := by decide
    rwa [hlast] at hafter
  · obtain ⟨before, -, hafter⟩ := hget tinting (fun _ => [9, 9]) .gain
    have hlast : lastAccepted .gain tinting = some 7 := by decide
    rwa [hlast] at hafter

end Libobsbot.Integers

import Libobsbot.Foundations.Interleaving
import Libobsbot.Foundations.SplitPair
import Libobsbot.Linux.V4l2Store
import Libobsbot.Source.Device

/-! # Pan and tilt on Linux

`pantilt_set` and `pantilt_get` split the one UVC control into two V4L2 controls, with an ioctl for each and no
lock around the two. The driver then keeps the pair in two halves, which any number of calls write and read
(`Foundations.SplitPair`).
-/

namespace Libobsbot.PanTilt
open Foundations Uvcvideo
open Foundations.Program (Uses Steps Exchange)
open Foundations.SplitPair (Access Role own after Follows Answered Undivided MidWrite MidRead Written)
open V4l2Store (Driver)
set_option autoImplicit false

/-! ## The calls -/

/-- `set_pan_tilt` with the two numbers it has converted, `pan_tilt`, and a sample of the status poller. -/
inductive PanTiltCall where
  | set (pan tilt : Int32)
  | get
  | sample

/-- `set_pan_tilt` asks for nothing when an argument is out of range, and is a `set` when none is. -/
theorem setPanTilt_run (pan tilt : Float32) : (Device.setPanTilt pan tilt).run =
    if !Device.inUnitRange pan || !Device.inUnitRange tilt then .done (.error .outOfRange)
    else (uvcSet Uvc.cameraTerminal Uvc.Ct.pantiltAbsolute
      (i32ToLe (pan * panTiltProvisionalScale).toInt32 ++
        i32ToLe (tilt * panTiltProvisionalScale).toInt32)).run := by
  unfold Device.setPanTilt
  split <;> rfl

/-- The transport calls, and the pair that a call returns. -/
def PanTiltCall.program : PanTiltCall → TransportProgram (Option (Float32 × Float32))
  | .set pan tilt => do
    let _ ← (uvcSet Uvc.cameraTerminal Uvc.Ct.pantiltAbsolute (i32ToLe pan ++ i32ToLe tilt)).run
    return none
  | .get => do
    match ← Device.panTilt.run with
    | .ok pair => return some pair
    | .error _ => return none
  | .sample => do
    let snap ← sampleStatus
    return some (snap.pan, snap.tilt)

def PanTiltCall.onLinux (call : PanTiltCall) : KernelProgram (Option (Float32 × Float32)) :=
  call.program.translate UsbTransport.answer

def PanTiltCall.role : PanTiltCall → Role Int32
  | .set pan tilt => .writer (pan, tilt)
  | .get => .reader
  | .sample => .reader

/-! ## The accesses of a call -/

section Accesses
variable {ι : Type}

def axisAccess (i : ι) : Exchange Ioctl Ioctl.Reply → Option (Access ι Int32)
  | ⟨.sCtrl cid v, _⟩ =>
    if cid = v4l2CidPanAbsolute then some (.writeFst i v)
    else if cid = v4l2CidTiltAbsolute then some (.writeSnd i v)
    else none
  | ⟨.gCtrl cid, .ok v⟩ =>
    if cid = v4l2CidPanAbsolute then some (.readFst i v)
    else if cid = v4l2CidTiltAbsolute then some (.readSnd i v)
    else none
  | _ => none

def Served : Exchange Ioctl Ioctl.Reply → Prop
  | ⟨.gCtrl _, r⟩ => ∃ v, r = .ok v
  | ⟨.sCtrl _ _, r⟩ => r = .ok ()
  | _ => True

theorem i32FromLe_i32ToLe (v : Int32) : i32FromLe (i32ToLe v) = v := by
  have hlt : v.toUInt32.toNat < 2 ^ 32 := v.toUInt32.toNat_lt
  unfold i32FromLe i32ToLe
  rw [fromLe_toLe, Nat.mod_eq_of_lt (by omega), UInt32.ofNat_toNat]
  exact Int32.toInt32_toUInt32 v

theorem pantiltSet_eq (pan tilt : Int32) : pantiltSet (i32ToLe pan ++ i32ToLe tilt) =
    (do v4l2SCtrl v4l2CidPanAbsolute pan
        v4l2SCtrl v4l2CidTiltAbsolute tilt) := by
  have hlen : (i32ToLe pan ++ i32ToLe tilt).length = 8 := by
    rw [List.length_append, i32ToLe_length, i32ToLe_length]
  have hpan : i32FromLe ((i32ToLe pan ++ i32ToLe tilt).take 4) = pan := by
    rw [List.take_left' (i32ToLe_length pan), i32FromLe_i32ToLe]
  have htilt : i32FromLe ((i32ToLe pan ++ i32ToLe tilt).drop 4) = tilt := by
    rw [List.drop_left' (i32ToLe_length pan), i32FromLe_i32ToLe]
  unfold pantiltSet
  rw [if_neg (by omega), hpan, htilt]

/-- Two ioctls, the second only after the first has succeeded. -/
theorem pantiltSet_run (pan tilt : Int32) : (pantiltSet (i32ToLe pan ++ i32ToLe tilt)).run =
    .perform (.sCtrl v4l2CidPanAbsolute pan) fun r => match r with
      | .ok _ => (v4l2SCtrl v4l2CidTiltAbsolute tilt).run
      | .error e => .done (.error (.usb
          s!"VIDIOC_S_CTRL cid={hexAlt v4l2CidPanAbsolute.toNat} val={pan.toInt}: {e}")) := by
  rw [pantiltSet_eq]
  refine congrArg (Program.perform _) (funext fun r => ?_)
  cases r with
  | ok u => rfl
  | error e => rfl

theorem steps_pantiltSet {i : ι} {pan tilt : Int32} {t : List (Exchange Ioctl Ioctl.Reply)}
    {q : KernelProgram (Result Unit)}
    (h : Steps (pantiltSet (i32ToLe pan ++ i32ToLe tilt)).run t q) (hserved : ∀ x ∈ t, Served x) :
    t.filterMap (axisAccess i) <+: [.writeFst i pan, .writeSnd i tilt] ∧
      ∀ r, q = .done r → t.filterMap (axisAccess i) = [.writeFst i pan, .writeSnd i tilt] := by
  rw [pantiltSet_run] at h
  obtain ⟨rfl, rfl⟩ | ⟨r, u, rfl, hu⟩ := Program.steps_perform.mp h
  · exact ⟨List.nil_prefix, fun r hr => by cases hr⟩
  obtain rfl : r = .ok () := hserved _ List.mem_cons_self
  obtain ⟨rfl, rfl⟩ | ⟨r', v, rfl, hv⟩ := Program.steps_perform.mp hu
  · exact ⟨⟨[.writeSnd i tilt], rfl⟩, fun r hr => by cases hr⟩
  · obtain ⟨rfl, -⟩ := Program.steps_done.mp hv
    exact ⟨List.prefix_refl _, fun _ _ => rfl⟩

/-- The transport serves the control by `pantilt_set`. -/
theorem translate_uvcSet_pantilt (pan tilt : Int32) :
    (uvcSet Uvc.cameraTerminal Uvc.Ct.pantiltAbsolute (i32ToLe pan ++ i32ToLe tilt)).run.translate
      UsbTransport.answer = (pantiltSet (i32ToLe pan ++ i32ToLe tilt)).run := Program.bind_done _

theorem onLinux_set (pan tilt : Int32) : PanTiltCall.onLinux (.set pan tilt) =
    (pantiltSet (i32ToLe pan ++ i32ToLe tilt)).run >>= fun _ => .done none := by
  rw [← translate_uvcSet_pantilt]
  exact Program.translate_bind _ _ _

theorem steps_set {i : ι} {pan tilt : Int32} {t : List (Exchange Ioctl Ioctl.Reply)}
    {q : KernelProgram (Option (Float32 × Float32))}
    (h : Steps (PanTiltCall.onLinux (.set pan tilt)) t q) (hserved : ∀ x ∈ t, Served x) :
    t.filterMap (axisAccess i) <+: [.writeFst i pan, .writeSnd i tilt] ∧
      ∀ x, q = .done x → t.filterMap (axisAccess i) = [.writeFst i pan, .writeSnd i tilt] := by
  rw [onLinux_set] at h
  obtain ⟨p, hp, hne, rfl⟩ | ⟨u, r, v, rfl, hu, hv⟩ := h.bind_cases
  · exact ⟨(steps_pantiltSet hp hserved).1, fun x hx => absurd hx (Program.bind_ne_done hne _ x)⟩
  · obtain ⟨rfl, rfl⟩ := Program.steps_done.mp hv
    rw [List.append_nil] at hserved ⊢
    obtain ⟨hpre, hdone⟩ := steps_pantiltSet (i := i) hu hserved
    exact ⟨hpre, fun _ _ => hdone r rfl⟩

/-! ## Reads -/

def packed (pair : Int32 × Int32) : Bytes 8 :=
  ((Bytes.zeros 8).overwrite 0 (i32ToLe pair.1)).overwrite 4 (i32ToLe pair.2)

theorem packed_toList (pair : Int32 × Int32) :
    (packed pair).toList = i32ToLe pair.1 ++ i32ToLe pair.2 := by
  rw [packed, Bytes.overwrite_append _ (i32ToLe_length _) (by simp), Bytes.overwrite_toList _ (by simp),
    splice_zero_full (by simp)]

def normalised (pair : Int32 × Int32) : Float32 × Float32 :=
  (normalisedPantilt pair.1, normalisedPantilt pair.2)

theorem normalised_packed (pair : Int32 × Int32) :
    (normalisedPantilt (i32FromLe ((packed pair).toList.take 4)),
      normalisedPantilt (i32FromLe ((packed pair).toList.drop 4))) = normalised pair := by
  rw [packed_toList, List.take_left' (i32ToLe_length _), List.drop_left' (i32ToLe_length _),
    i32FromLe_i32ToLe, i32FromLe_i32ToLe]
  rfl

/-- Two ioctls, and the pair of their replies. -/
def ReadsOnce (i : ι) (pair : Int32 × Int32) (t : List (Exchange Ioctl Ioctl.Reply)) : Prop :=
  t.filterMap (axisAccess i) = [.readFst i pair.1, .readSnd i pair.2]

theorem steps_pantiltGet {i : ι} {t : List (Exchange Ioctl Ioctl.Reply)}
    {q : KernelProgram (Bytes 8 × Result ℕ)} (h : Steps (pantiltGet .cur (Bytes.zeros 8)) t q)
    (hserved : ∀ x ∈ t, Served x) : ∃ pair : Int32 × Int32,
      t.filterMap (axisAccess i) <+: [.readFst i pair.1, .readSnd i pair.2] ∧
      ∀ r, q = .done r → ReadsOnce i pair t ∧ r = (packed pair, .ok 8) := by
  obtain ⟨rfl, rfl⟩ | ⟨r, u, rfl, hu⟩ := Program.steps_perform.mp h
  · exact ⟨(0, 0), List.nil_prefix, fun r hr => by cases hr⟩
  obtain ⟨pan, rfl⟩ : ∃ pan, r = .ok pan := hserved _ List.mem_cons_self
  obtain ⟨rfl, rfl⟩ | ⟨r', v, rfl, hv⟩ := Program.steps_perform.mp hu
  · exact ⟨(pan, 0), ⟨[.readSnd i 0], rfl⟩, fun r hr => by cases hr⟩
  obtain ⟨tilt, rfl⟩ : ∃ tilt, r' = .ok tilt := hserved _ (List.mem_cons_of_mem _ List.mem_cons_self)
  obtain ⟨rfl, rfl⟩ := Program.steps_done.mp hv
  refine ⟨(pan, tilt), List.prefix_refl _, fun r hr => ⟨rfl, ?_⟩⟩
  cases hr
  rfl

/-- A program that reads one pair and returns it, normalised. -/
def ReadsPair (i : ι) (p : KernelProgram (Option (Float32 × Float32))) : Prop :=
  ∀ t q, Steps p t q → (∀ x ∈ t, Served x) → ∃ pair : Int32 × Int32,
    t.filterMap (axisAccess i) <+: [.readFst i pair.1, .readSnd i pair.2] ∧
    ∀ x, q = .done x → ReadsOnce i pair t ∧ x = some (normalised pair)

def OffAxis : Ioctl → Prop
  | .gCtrl cid => cid ≠ v4l2CidPanAbsolute ∧ cid ≠ v4l2CidTiltAbsolute
  | .sCtrl _ _ => False
  | _ => True

theorem filterMap_offAxis {α : Type} {i : ι} {p q : KernelProgram α} {t : List (Exchange Ioctl Ioctl.Reply)}
    (huses : Uses OffAxis p) (h : Steps p t q) : t.filterMap (axisAccess i) = [] := by
  refine List.filterMap_eq_nil_iff.mpr fun x hx => ?_
  have hoff := huses.of_steps h x hx
  obtain ⟨op, r⟩ := x
  cases op with
  | ctrlQuery unit selector query n data => rfl
  | gCtrl cid =>
    cases r with
    | ok v =>
      show (if cid = _ then _ else if cid = _ then _ else none) = none
      rw [if_neg hoff.1, if_neg hoff.2]
    | error e => rfl
  | sCtrl cid value => exact absurd hoff id
  | queryctrl cid => rfl
  | sleep millis => rfl

theorem ReadsPair.after_offAxis {α : Type} {i : ι} {p : KernelProgram α}
    {f : α → KernelProgram (Option (Float32 × Float32))} (hp : Uses OffAxis p)
    (hf : ∀ a, ReadsPair i (f a)) : ReadsPair i (p >>= f) := by
  intro t q h hserved
  obtain ⟨p', hp', hne, rfl⟩ | ⟨u, a, v, rfl, hu, hv⟩ := h.bind_cases
  · refine ⟨(0, 0), ?_, fun x hx => absurd hx (Program.bind_ne_done hne _ x)⟩
    rw [filterMap_offAxis hp hp']
    exact List.nil_prefix
  · obtain ⟨pair, hpre, hdone⟩ := hf a v q hv fun x hx => hserved x (List.mem_append_right _ hx)
    refine ⟨pair, ?_, fun x hx => ?_⟩
    · rw [List.filterMap_append, filterMap_offAxis hp hu]
      exact hpre
    · obtain ⟨hreads, hx⟩ := hdone x hx
      refine ⟨?_, hx⟩
      rw [ReadsOnce, List.filterMap_append, filterMap_offAxis hp hu]
      exact hreads

/-- The read, and whatever is done with its buffer off the axes. -/
theorem readsPair_of_get {i : ι} {f : Bytes 8 × Result ℕ → KernelProgram (Option (Float32 × Float32))}
    (huses : ∀ r, Uses OffAxis (f r))
    (hvalue : ∀ pair t x, Steps (f (packed pair, .ok 8)) t (.done x) → x = some (normalised pair)) :
    ReadsPair i (pantiltGet .cur (Bytes.zeros 8) >>= f) := by
  intro t q h hserved
  obtain ⟨p, hp, hne, rfl⟩ | ⟨u, r, v, rfl, hu, hv⟩ := h.bind_cases
  · obtain ⟨pair, hpre, -⟩ := steps_pantiltGet (i := i) hp hserved
    exact ⟨pair, hpre, fun x hx => absurd hx (Program.bind_ne_done hne _ x)⟩
  · obtain ⟨pair, hpre, hdone⟩ :=
      steps_pantiltGet (i := i) hu fun x hx => hserved x (List.mem_append_left _ hx)
    obtain ⟨hreads, rfl⟩ := hdone r rfl
    have hall : (u ++ v).filterMap (axisAccess i) = u.filterMap (axisAccess i) := by
      rw [List.filterMap_append, filterMap_offAxis (huses _) hv, List.append_nil]
    refine ⟨pair, hall ▸ hpre, ?_⟩
    rintro x rfl
    exact ⟨hall.trans hreads, hvalue pair v x hv⟩

theorem readsPair_get (i : ι) : ReadsPair i (PanTiltCall.onLinux .get) := by
  have hsplit : PanTiltCall.onLinux .get = pantiltGet .cur (Bytes.zeros 8) >>= fun r =>
      (match r.2 with
      | .ok _ => .done (some (normalisedPantilt (i32FromLe (r.1.toList.take 4)),
          normalisedPantilt (i32FromLe (r.1.toList.drop 4))))
      | .error _ => .done none) := by
    refine congrArg (pantiltGet .cur (Bytes.zeros 8) >>= ·) (funext fun r => ?_)
    obtain ⟨buf, result⟩ := r
    cases result with
    | ok n => rfl
    | error e => rfl
  rw [hsplit]
  refine readsPair_of_get (fun r => ?_) fun pair t x h => ?_
  · obtain ⟨buf, result⟩ := r
    cases result with
    | ok n => trivial
    | error e => trivial
  · cases (Program.steps_done.mp h).2
    rw [normalised_packed]

theorem offAxis_uvcGet {n : ℕ} {entity selector : UInt8} {cid : UInt32} (out : Bytes n)
    (hcid : cidFor entity selector = some cid) :
    Uses OffAxis (UsbTransport.uvcGet .cur entity selector out) := by
  obtain ⟨hpan, htilt⟩ := V4l2Store.cidFor_ne_axis hcid
  obtain ⟨next, hget, hdone⟩ : ∃ next, UsbTransport.uvcGet .cur entity selector out =
      .perform (.gCtrl cid) next ∧ ∀ r, ∃ reply, next r = .done reply := by
    unfold UsbTransport.uvcGet v4l2Get
    rw [if_neg (by rw [V4l2Store.not_isPantilt hcid]; exact Bool.false_ne_true), hcid]
    refine ⟨_, rfl, fun r => ?_⟩
    cases r with
    | ok v => exact ⟨_, rfl⟩
    | error e => exact ⟨_, rfl⟩
  rw [hget]
  refine ⟨⟨hpan, htilt⟩, fun r => ?_⟩
  obtain ⟨reply, hreply⟩ := hdone r
  rw [hreply]
  trivial

def ReadsElsewhere : TransportOp → Prop
  | .uvcGet req entity selector _ _ => req = .cur ∧ (cidFor entity selector).isSome
  | _ => False

theorem offAxis_answer {op : TransportOp} (h : ReadsElsewhere op) : Uses OffAxis (UsbTransport.answer op) := by
  cases op with
  | uvcSet entity selector payload => exact absurd h id
  | sleep millis => exact absurd h id
  | uvcGet req entity selector n out =>
    obtain ⟨rfl, hcid⟩ := h
    obtain ⟨cid, hcid⟩ := Option.isSome_iff_exists.mp hcid
    exact offAxis_uvcGet out hcid

theorem offAxis_sampleInto {α : Type} {read : DeviceM α} {set : α → Status → Status} {snap : Status}
    (h : Uses ReadsElsewhere read.run) :
    Uses OffAxis ((sampleInto read set snap).translate UsbTransport.answer) :=
  Program.uses_translate (fun _ => offAxis_answer) (uses_sampleInto h)

theorem sampleInto_onLinux {α : Type} {read : DeviceM α} {set : α → Status → Status} {snap snap' : Status}
    {t : List (Exchange Ioctl Ioctl.Reply)}
    (h : Steps ((sampleInto read set snap).translate UsbTransport.answer) t (.done snap')) :
    snap' = snap ∨ ∃ v, snap' = set v snap := by
  unfold sampleInto at h
  rw [Program.translate_bind] at h
  obtain ⟨u, r, v, -, -, hrest⟩ := h.bind_done
  cases r with
  | ok a =>
    cases (Program.steps_done.mp hrest).2
    exact .inr ⟨a, rfl⟩
  | error e =>
    cases (Program.steps_done.mp hrest).2
    exact .inl rfl

def samplePantilt (pt : ℕ × Bytes 8) (snap : Status) : Status :=
  { snap with
    pan := normalisedPantilt (i32FromLe (pt.2.toList.take 4))
    tilt := normalisedPantilt (i32FromLe (pt.2.toList.drop 4)) }

theorem sampleInto_pantilt (snap : Status) :
    (sampleInto (uvcGet .cur Uvc.cameraTerminal Uvc.Ct.pantiltAbsolute (Bytes.zeros 8)) samplePantilt
      snap).translate UsbTransport.answer = pantiltGet .cur (Bytes.zeros 8) >>= fun r => match r.2 with
        | .ok len => .done (samplePantilt (len, r.1) snap)
        | .error _ => .done snap := by
  refine congrArg (pantiltGet .cur (Bytes.zeros 8) >>= ·) (funext fun r => ?_)
  obtain ⟨buf, result⟩ := r
  cases result with
  | ok n => rfl
  | error e => rfl

theorem readsPair_sample (i : ι) : ReadsPair i (PanTiltCall.onLinux .sample) := by
  have hi16 : Uses ReadsElsewhere (readPuI16 Uvc.Pu.brightness).run :=
    Program.uses_exceptBind ⟨⟨rfl, rfl⟩, fun _ => trivial⟩ fun _ => trivial
  have hu16 : ∀ selector, (cidFor Uvc.processingUnit selector).isSome →
      Uses ReadsElsewhere (readPuU16 selector).run :=
    fun _ hcid => Program.uses_exceptBind ⟨⟨rfl, hcid⟩, fun _ => trivial⟩ fun _ => trivial
  have hzoom : Uses ReadsElsewhere
      (uvcGet .cur Uvc.cameraTerminal Uvc.Ct.zoomAbsolute (Bytes.zeros 2)).run :=
    ⟨⟨rfl, rfl⟩, fun _ => trivial⟩
  unfold PanTiltCall.onLinux PanTiltCall.program sampleStatus
  simp only [Program.translate_bind, bind_assoc]
  refine .after_offAxis (offAxis_sampleInto hi16) fun _ => ?_
  refine .after_offAxis (offAxis_sampleInto (hu16 _ rfl)) fun _ => ?_
  refine .after_offAxis (offAxis_sampleInto (hu16 _ rfl)) fun snap => ?_
  have hget := sampleInto_pantilt snap
  unfold samplePantilt at hget
  rw [hget, bind_assoc]
  refine readsPair_of_get (fun r => ?_) fun pair t x h => ?_
  · refine Program.uses_bind ?_ fun _ => Program.uses_bind (offAxis_sampleInto hzoom) fun _ => trivial
    obtain ⟨buf, result⟩ := r
    cases result with
    | ok n => trivial
    | error e => trivial
  · obtain ⟨_, turned, _, -, hturned, hrest⟩ := Steps.bind_done h
    obtain ⟨_, zoomed, _, -, hzoomed, hvalue⟩ := Steps.bind_done hrest
    cases (Program.steps_done.mp hturned).2
    cases (Program.steps_done.mp hvalue).2
    rw [← normalised_packed]
    obtain rfl | ⟨zoom, rfl⟩ := sampleInto_onLinux hzoomed
    · rfl
    · rfl

theorem PanTiltCall.follows {i : ι} {call : PanTiltCall} {t : List (Exchange Ioctl Ioctl.Reply)}
    {q : KernelProgram (Option (Float32 × Float32))} (h : Steps call.onLinux t q)
    (hserved : ∀ x ∈ t, Served x) :
    (∀ pair, call.role = .writer pair →
      t.filterMap (axisAccess i) <+: [.writeFst i pair.1, .writeSnd i pair.2]) ∧
    (call.role = .reader → ∃ v w, t.filterMap (axisAccess i) <+: [.readFst i v, .readSnd i w]) := by
  cases call with
  | set pan tilt =>
    refine ⟨fun pair hrole => ?_, fun hrole => by cases hrole⟩
    cases hrole
    exact (steps_set h hserved).1
  | get =>
    obtain ⟨pair, hpre, -⟩ := readsPair_get i t q h hserved
    refine ⟨fun pair hrole => ?_, fun _ => ⟨pair.1, pair.2, hpre⟩⟩
    cases hrole
  | sample =>
    obtain ⟨pair, hpre, -⟩ := readsPair_sample i t q h hserved
    refine ⟨fun pair hrole => ?_, fun _ => ⟨pair.1, pair.2, hpre⟩⟩
    cases hrole

end Accesses

/-! ## Any interleaving -/

section Runs
variable {ι : Type}

/-- Calls on one device file, whose driver stores and returns every control. -/
def driverWorld (ι : Type) : World ι Ioctl Ioctl.Reply Driver where
  perform _ op d r d' := Driver.answer op d = (r, d')
  environment _ _ := False

abbrev DriverConfig (ι : Type) : Type :=
  Config ι Ioctl Ioctl.Reply (fun _ => Option (Float32 × Float32)) Driver

abbrev DriverLabel (ι : Type) : Type := Label ι Ioctl Ioctl.Reply

/-- What the driver keeps of pan and tilt. -/
def axes (d : Driver) : Int32 × Int32 := (d v4l2CidPanAbsolute, d v4l2CidTiltAbsolute)

def accessOf : DriverLabel ι → Option (Access ι Int32)
  | .thread i op r => axisAccess i ⟨op, r⟩
  | .environment => none

abbrev accesses (ls : List (DriverLabel ι)) : List (Access ι Int32) := ls.filterMap accessOf

theorem served_of_answer {op : Ioctl} {d d' : Driver} {r : op.Reply} (h : Driver.answer op d = (r, d')) :
    Served ⟨op, r⟩ := by
  cases op with
  | gCtrl cid =>
    cases h
    exact ⟨_, rfl⟩
  | sCtrl cid value =>
    cases h
    rfl
  | _ => trivial

/-- An access finds the axes as they are and leaves them as it should. -/
theorem axes_of_access {i : ι} {op : Ioctl} {d d' : Driver} {r : op.Reply} {x : Access ι Int32}
    (h : Driver.answer op d = (r, d')) (hx : axisAccess i ⟨op, r⟩ = some x) :
    axes d' = x.step (axes d) ∧ x.Agrees (axes d) := by
  cases op with
  | gCtrl cid =>
    cases h
    simp only [axisAccess] at hx
    split_ifs at hx with hpan htilt
    · cases hx
      exact ⟨rfl, congrArg d hpan⟩
    · cases hx
      exact ⟨rfl, congrArg d htilt⟩
  | sCtrl cid value =>
    cases h
    have hne : v4l2CidTiltAbsolute ≠ v4l2CidPanAbsolute := by decide
    simp only [axisAccess] at hx
    split_ifs at hx with hpan htilt
    · cases hx
      subst hpan
      refine ⟨?_, trivial⟩
      rw [axes, Function.update_self, Function.update_of_ne hne]
      rfl
    · cases hx
      subst htilt
      refine ⟨?_, trivial⟩
      rw [axes, Function.update_self, Function.update_of_ne hne.symm]
      rfl
  | ctrlQuery unit selector query n data => cases hx
  | queryctrl cid => cases r <;> cases hx
  | sleep millis => cases hx

theorem axes_of_no_access {i : ι} {op : Ioctl} {d d' : Driver} {r : op.Reply}
    (h : Driver.answer op d = (r, d')) (hx : axisAccess i ⟨op, r⟩ = none) : axes d' = axes d := by
  cases op with
  | sCtrl cid value =>
    cases h
    simp only [axisAccess] at hx
    split_ifs at hx with hpan htilt
    rw [axes, Function.update_of_ne (Ne.symm hpan), Function.update_of_ne (Ne.symm htilt)]
    rfl
  | _ =>
    cases h
    rfl

theorem caller_of_access {i : ι} {y : Exchange Ioctl Ioctl.Reply} {x : Access ι Int32}
    (h : axisAccess i y = some x) : x.caller = i := by
  obtain ⟨op, r⟩ := y
  cases op with
  | gCtrl cid =>
    cases r with
    | error e => cases h
    | ok v =>
      simp only [axisAccess] at h
      split_ifs at h
      · cases h
        rfl
      · cases h
        rfl
  | sCtrl cid value =>
    simp only [axisAccess] at h
    split_ifs at h
    · cases h
      rfl
    · cases h
      rfl
  | ctrlQuery unit selector query n data => cases h
  | queryctrl cid => cases h
  | sleep millis => cases h

/-- The initial pair, or one that a single `set_pan_tilt` writes. -/
def WholePair (call : ι → PanTiltCall) (d₀ : Driver) (pair : Int32 × Int32) : Prop :=
  pair = axes d₀ ∨ ∃ i, call i = .set pair.1 pair.2

/-- Each half is of the initial pair or of one that some `set_pan_tilt` writes. -/
def HalvesWritten (call : ι → PanTiltCall) (d₀ : Driver) (pair : Int32 × Int32) : Prop :=
  (pair.1 = (axes d₀).1 ∨ ∃ i tilt, call i = .set pair.1 tilt) ∧
    (pair.2 = (axes d₀).2 ∨ ∃ i pan, call i = .set pan pair.2)

variable {call : ι → PanTiltCall} {d₀ : Driver}

theorem call_of_role {i : ι} {pair : Int32 × Int32} (h : (call i).role = .writer pair) :
    call i = .set pair.1 pair.2 := by
  cases hcall : call i with
  | set pan tilt =>
    rw [hcall] at h
    cases h
    rfl
  | get =>
    rw [hcall] at h
    cases h
  | sample =>
    rw [hcall] at h
    cases h

theorem wholePair_of_written {pair : Int32 × Int32}
    (h : Written (fun i => (call i).role) (axes d₀) pair) : WholePair call d₀ pair := by
  rcases h with h | ⟨i, hrole⟩
  · exact .inl h
  · exact .inr ⟨i, call_of_role hrole⟩

theorem halvesWritten_of {pair : Int32 × Int32}
    (hpan : pair.1 = (axes d₀).1 ∨ ∃ i q, (call i).role = .writer q ∧ pair.1 = q.1)
    (htilt : pair.2 = (axes d₀).2 ∨ ∃ i q, (call i).role = .writer q ∧ pair.2 = q.2) :
    HalvesWritten call d₀ pair := by
  constructor
  · rcases hpan with hpan | ⟨i, q, hrole, hq⟩
    · exact .inl hpan
    · exact .inr ⟨i, q.2, hq ▸ call_of_role hrole⟩
  · rcases htilt with htilt | ⟨i, q, hrole, hq⟩
    · exact .inl htilt
    · exact .inr ⟨i, q.1, hq ▸ call_of_role hrole⟩

variable [DecidableEq ι]

theorem own_accesses (i : ι) (ls : List (DriverLabel ι)) :
    own i (accesses ls) = (ls.filterMap (Label.exchangeOf i)).filterMap (axisAccess i) := by
  rw [own, accesses, List.filter_filterMap, List.filterMap_filterMap]
  refine List.filterMap_congr fun l _ => ?_
  cases l with
  | environment => rfl
  | thread j op r =>
    show (axisAccess j ⟨op, r⟩).filter (fun x => x.caller = i) = _
    by_cases hj : j = i
    · subst hj
      rw [Label.exchangeOf, if_pos rfl]
      show _ = axisAccess j ⟨op, r⟩
      cases hx : axisAccess j ⟨op, r⟩ with
      | none => rfl
      | some x => rw [Option.filter_some, if_pos (decide_eq_true (caller_of_access hx))]
    · rw [Label.exchangeOf, if_neg hj]
      cases hx : axisAccess j ⟨op, r⟩ with
      | none => rfl
      | some x =>
        have hne : ¬ x.caller = i := fun he => hj ((caller_of_access hx).symm.trans he)
        rw [Option.filter_some, if_neg (by simpa using hne)]
        rfl

/-- In a run every read of an axis is answered with what the driver keeps, and it keeps what is written. -/
theorem answered_of_run {c d : DriverConfig ι} {ls : List (DriverLabel ι)}
    (h : (driverWorld ι).Run c ls d) :
    Answered (axes c.shared) (accesses ls) ∧ axes d.shared = after (axes c.shared) (accesses ls) := by
  induction h with
  | refl c => exact ⟨SplitPair.answered_nil _, rfl⟩
  | @cons c e d l ls step _ ih =>
    obtain ⟨hanswered, hafter⟩ := ih
    cases step with
    | environment heffect => exact absurd heffect id
    | @thread i op next r s head heffect =>
      have heffect : Driver.answer op c.shared = (r, s) := heffect
      cases hx : axisAccess i ⟨op, r⟩ with
      | none =>
        have haccesses : accesses (.thread i op r :: ls) = accesses ls := List.filterMap_cons_none hx
        rw [haccesses, ← axes_of_no_access heffect hx]
        exact ⟨hanswered, hafter⟩
      | some x =>
        obtain ⟨hstep, hagrees⟩ := axes_of_access heffect hx
        have haccesses : accesses (.thread i op r :: ls) = x :: accesses ls := List.filterMap_cons_some hx
        have hrest : axes s = x.step (axes c.shared) := hstep
        rw [haccesses]
        dsimp only at hanswered hafter
        rw [hrest] at hanswered hafter
        exact ⟨hanswered.cons hagrees, hafter⟩

/-! ## The pairs -/

def begun (call : ι → PanTiltCall) (d : Driver) : DriverConfig ι := ⟨fun i => (call i).onLinux, d⟩

/-- The replies that a call's two reads got. -/
def Read (i : ι) (pair : Int32 × Int32) (ls : List (DriverLabel ι)) : Prop :=
  .readFst i pair.1 ∈ accesses ls ∧ .readSnd i pair.2 ∈ accesses ls

variable {d : DriverConfig ι} {ls : List (DriverLabel ι)}

theorem served_of_run (h : (driverWorld ι).Run (begun call d₀) ls d) (i : ι) :
    ∀ x ∈ ls.filterMap (Label.exchangeOf i), Served x := by
  intro x hx
  obtain ⟨l, hl, hx⟩ := List.mem_filterMap.mp hx
  cases l with
  | environment => cases hx
  | thread j op r =>
    rw [Label.exchangeOf] at hx
    split_ifs at hx
    cases hx
    obtain ⟨s, s', heffect⟩ := h.performed hl
    exact served_of_answer heffect

theorem follows_of_run (h : (driverWorld ι).Run (begun call d₀) ls d) :
    Follows (fun i => (call i).role) (accesses ls) := by
  intro i
  rw [own_accesses]
  exact (call i).follows (h.steps i) (served_of_run h i)

theorem read_of_readsOnce {i : ι} {pair : Int32 × Int32}
    (h : ReadsOnce i pair (ls.filterMap (Label.exchangeOf i))) : Read i pair ls := by
  have hown : own i (accesses ls) = [.readFst i pair.1, .readSnd i pair.2] := (own_accesses i ls).trans h
  constructor
  · exact (SplitPair.mem_own.mp (hown ▸ List.mem_cons_self)).1
  · exact (SplitPair.mem_own.mp (hown ▸ List.mem_cons_of_mem _ List.mem_cons_self)).1

theorem returned_of_run (h : (driverWorld ι).Run (begun call d₀) ls d) {i : ι} {x : Float32 × Float32}
    (hx : d.threads i = .done (some x)) : ∃ pair, Read i pair ls ∧ x = normalised pair := by
  have hserved := served_of_run h i
  have hsteps : Steps (call i).onLinux _ (d.threads i) := h.steps i
  rw [hx] at hsteps
  have hreader : ∀ p, ReadsPair i p → Steps p (ls.filterMap (Label.exchangeOf i)) (.done (some x)) →
      ∃ pair, Read i pair ls ∧ x = normalised pair := by
    intro p hp hsteps
    obtain ⟨pair, -, hdone⟩ := hp _ _ hsteps hserved
    obtain ⟨honce, hvalue⟩ := hdone _ rfl
    exact ⟨pair, read_of_readsOnce honce, Option.some.inj hvalue⟩
  cases hcall : call i with
  | set pan tilt =>
    rw [hcall, onLinux_set] at hsteps
    obtain ⟨u, r, v, -, -, hdone⟩ := hsteps.bind_done
    cases (Program.steps_done.mp hdone).2
  | get =>
    rw [hcall] at hsteps
    exact hreader _ (readsPair_get i) hsteps
  | sample =>
    rw [hcall] at hsteps
    exact hreader _ (readsPair_sample i) hsteps

theorem not_midWrite_of_done (h : (driverWorld ι).Run (begun call d₀) ls d) {i : ι}
    {x : Option (Float32 × Float32)} (hx : d.threads i = .done x) : ¬ MidWrite i (accesses ls) := by
  rintro ⟨⟨v, hv⟩, hnone⟩
  have hsteps : Steps (call i).onLinux _ (d.threads i) := h.steps i
  obtain ⟨pair, hrole, -⟩ := (follows_of_run h).writer_of_mem hv rfl trivial
  cases hcall : call i with
  | set pan tilt =>
    rw [hcall] at hsteps
    have hown := (steps_set (i := i) hsteps (served_of_run h i)).2 x hx
    rw [← own_accesses] at hown
    exact hnone tilt (SplitPair.mem_own.mp (hown ▸ List.mem_cons_of_mem _ List.mem_cons_self)).1
  | get =>
    have hrole : (call i).role = .writer pair := hrole
    rw [hcall] at hrole
    cases hrole
  | sample =>
    have hrole : (call i).role = .writer pair := hrole
    rw [hcall] at hrole
    cases hrole

/-- Whatever the interleaving, each axis of a pair that is read, or is left at the end, is the initial one or one
that a `set_pan_tilt` wrote. Where no call accesses an axis between the two writes of another, or writes one
between the two reads of another, the whole pair is. -/
theorem pan_tilt_whole (call : ι → PanTiltCall) (d₀ : Driver) {d : DriverConfig ι}
    {ls : List (DriverLabel ι)} (h : (driverWorld ι).Run (begun call d₀) ls d) :
    (∀ i x, d.threads i = .done (some x) → ∃ pair, Read i pair ls ∧ x = normalised pair) ∧
    (∀ i pair, Read i pair ls → HalvesWritten call d₀ pair) ∧ HalvesWritten call d₀ (axes d.shared) ∧
    (Undivided (accesses ls) → (∀ i pair, Read i pair ls → WholePair call d₀ pair) ∧
      ((∀ i, ∃ x, d.threads i = .done x) → WholePair call d₀ (axes d.shared))) := by
  have hfollows := follows_of_run h
  obtain ⟨hanswered, hafter⟩ := answered_of_run h
  refine ⟨fun i x => returned_of_run h, fun i pair hread => ?_, ?_, fun hundivided =>
    ⟨fun i pair hread => ?_, fun hdone => ?_⟩⟩
  · exact halvesWritten_of (SplitPair.readFst_written hfollows hanswered hread.1)
      (SplitPair.readSnd_written hfollows hanswered hread.2)
  · rw [hafter]
    exact halvesWritten_of (SplitPair.fst_written hfollows) (SplitPair.snd_written hfollows)
  · exact wholePair_of_written
      (SplitPair.read_written hfollows hundivided hanswered hread.1 hread.2)
  · rw [hafter]
    refine wholePair_of_written (SplitPair.after_written hfollows hundivided fun i => ?_)
    obtain ⟨x, hx⟩ := hdone i
    exact not_midWrite_of_done h hx

end Runs

/-! ## A read between two writes -/

/-- `false` turns the camera from its origin, and `true` reads. -/
def turning : Bool → PanTiltCall
  | false => .set 270000 135000
  | true => .get

def centred : Driver := fun _ => 0

theorem turning_writes : ∃ next next', (turning false).onLinux = .perform (.sCtrl v4l2CidPanAbsolute 270000) next ∧
    next (.ok ()) = .perform (.sCtrl v4l2CidTiltAbsolute 135000) next' ∧ next' (.ok ()) = .done none := by
  have hcall := onLinux_set 270000 135000
  rewrite [pantiltSet_run] at hcall
  exact ⟨_, _, hcall, rfl, rfl⟩

theorem accesses_turning (ls : List (DriverLabel Bool)) :
    accesses (.thread false (.sCtrl v4l2CidPanAbsolute 270000) (.ok ()) :: ls) = .writeFst false 270000 :: accesses ls ∧
    accesses (.thread false (.sCtrl v4l2CidTiltAbsolute 135000) (.ok ()) :: ls) =
      .writeSnd false 135000 :: accesses ls :=
  ⟨rfl, rfl⟩

/-- A `pan_tilt` that nothing comes between. -/
theorem run_get {c : DriverConfig Bool} (h : c.threads true = PanTiltCall.onLinux .get) : ∃ ls q,
    (driverWorld Bool).Run c ls (c.set true (.done q) c.shared) ∧
      accesses ls = [.readFst true (axes c.shared).1, .readSnd true (axes c.shared).2] := by
  have hsteps : Steps (PanTiltCall.onLinux .get) [⟨.gCtrl v4l2CidPanAbsolute, .ok (axes c.shared).1⟩,
      ⟨.gCtrl v4l2CidTiltAbsolute, .ok (axes c.shared).2⟩] (.done (some _)) :=
    Program.steps_perform.mpr (.inr ⟨_, _, rfl, Program.steps_perform.mpr (.inr ⟨_, _, rfl, .refl _⟩)⟩)
  rw [← h] at hsteps
  refine ⟨_, _, .of_steps hsteps fun x hx => ?_, rfl⟩
  rcases List.mem_cons.mp hx with rfl | hx
  · rfl
  · rw [List.mem_singleton.mp hx]
    rfl

/-- The read comes between the writes of the two axes. -/
theorem torn_run : ∃ ls d, (driverWorld Bool).Run (begun turning centred) ls d ∧
    accesses ls = [.writeFst false 270000, .readFst true 270000, .readSnd true 0] := by
  obtain ⟨next, next', hset, -⟩ := turning_writes
  obtain ⟨c, hwrite, haxes, hget⟩ : ∃ c, (driverWorld Bool).Step (begun turning centred)
      (.thread false (.sCtrl v4l2CidPanAbsolute 270000) (.ok ())) c ∧
      axes c.shared = (270000, 0) ∧ c.threads true = PanTiltCall.onLinux .get :=
    ⟨_, .thread hset rfl, rfl, rfl⟩
  obtain ⟨ls, q, hrun, haccesses⟩ := run_get hget
  rw [haxes] at haccesses
  exact ⟨_, _, .cons hwrite hrun, (accesses_turning ls).1.trans (congrArg _ haccesses)⟩

/-- The read comes after both. -/
theorem whole_run : ∃ ls d, (driverWorld Bool).Run (begun turning centred) ls d ∧
    accesses ls = [.writeFst false 270000, .writeSnd false 135000, .readFst true 270000, .readSnd true 135000] ∧
    ∀ i, ∃ x, d.threads i = .done x := by
  obtain ⟨next, next', hset, hnext, hdone⟩ := turning_writes
  obtain ⟨b, hpan, hshared, hrest, hread⟩ : ∃ b, (driverWorld Bool).Step (begun turning centred)
      (.thread false (.sCtrl v4l2CidPanAbsolute 270000) (.ok ())) b ∧ axes b.shared = (270000, 0) ∧
      b.threads false = .perform (.sCtrl v4l2CidTiltAbsolute 135000) next' ∧
      b.threads true = PanTiltCall.onLinux .get :=
    ⟨_, .thread hset rfl, rfl, hnext, rfl⟩
  obtain ⟨c, htilt, haxes, hreturned, hget⟩ : ∃ c, (driverWorld Bool).Step b
      (.thread false (.sCtrl v4l2CidTiltAbsolute 135000) (.ok ())) c ∧ axes c.shared = ((axes b.shared).1, 135000) ∧
      c.threads false = .done none ∧ c.threads true = PanTiltCall.onLinux .get :=
    ⟨_, .thread hrest rfl, rfl, hdone, hread⟩
  obtain ⟨ls, q, hrun, haccesses⟩ := run_get hget
  rw [haxes, hshared] at haccesses
  refine ⟨_, _, .cons hpan (.cons htilt hrun), ?_, fun i => ?_⟩
  · rw [(accesses_turning _).1, (accesses_turning ls).2, haccesses]
  · cases i with
    | false => exact ⟨none, (Config.set_of_ne _ Bool.false_ne_true ..).trans hreturned⟩
    | true => exact ⟨q, Config.set_self ..⟩

/-- A read between the two writes of a `set_pan_tilt` mixes its pan with the tilt from before. -/
theorem torn_read : ¬ ∀ (call : Bool → PanTiltCall) (d₀ : Driver) {d : DriverConfig Bool}
    {ls : List (DriverLabel Bool)}, (driverWorld Bool).Run (begun call d₀) ls d →
      (∀ i pair, Read i pair ls → WholePair call d₀ pair) ∧
        ((∀ i, ∃ x, d.threads i = .done x) → WholePair call d₀ (axes d.shared)) := by
  intro hall
  obtain ⟨ls, d, hrun, haccesses⟩ := torn_run
  have hread : Read true (270000, 0) ls := by
    unfold Read
    rw [haccesses]
    simp
  rcases (hall turning centred hrun).1 true (270000, 0) hread with hpair | ⟨i, hpair⟩
  · exact absurd (congrArg Prod.fst hpair) (by decide)
  · cases i with
    | false => cases hpair
    | true => cases hpair

theorem undivided_whole : Undivided (ι := Bool) (V := Int32)
    [.writeFst false 270000, .writeSnd false 135000, .readFst true 270000, .readSnd true 135000] := by
  intro a x b hs i hi
  -- only `false` writes, and it has written both halves when `true` reads
  rcases a with _ | ⟨y, _ | ⟨z, _ | ⟨u, _ | ⟨v, a⟩⟩⟩⟩
  · simp [MidWrite, MidRead]
  · cases hs
    simpa [MidWrite, MidRead, Access.caller] using hi
  · cases hs
    simp [MidWrite, Access.IsWrite]
  · cases hs
    simp [MidWrite, Access.IsWrite]
  · exact absurd (congrArg List.length hs) (by simp)

/-- In one run the read comes between the writes, and in another after them. -/
theorem pan_tilt_whole_turning :
    (∃ ls d, (driverWorld Bool).Run (begun turning centred) ls d ∧ Read true (270000, 0) ls ∧
      HalvesWritten turning centred (270000, 0)) ∧
    ∃ ls d, (driverWorld Bool).Run (begun turning centred) ls d ∧ Undivided (accesses ls) ∧
      Read true (270000, 135000) ls ∧ WholePair turning centred (270000, 135000) ∧
      WholePair turning centred (axes d.shared) := by
  constructor
  · obtain ⟨ls, d, hrun, haccesses⟩ := torn_run
    have hread : Read true (270000, 0) ls := by
      unfold Read
      rw [haccesses]
      simp
    exact ⟨ls, d, hrun, hread, (pan_tilt_whole turning centred hrun).2.1 true (270000, 0) hread⟩
  · obtain ⟨ls, d, hrun, haccesses, hdone⟩ := whole_run
    have hundivided : Undivided (accesses ls) := by
      rw [haccesses]
      exact undivided_whole
    have hread : Read true (270000, 135000) ls := by
      unfold Read
      rw [haccesses]
      simp
    obtain ⟨-, -, -, hwhole⟩ := pan_tilt_whole turning centred hrun
    exact ⟨ls, d, hrun, hundivided, hread, (hwhole hundivided).1 true _ hread, (hwhole hundivided).2 hdone⟩

end Libobsbot.PanTilt

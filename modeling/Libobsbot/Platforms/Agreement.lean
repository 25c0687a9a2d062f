import Libobsbot.Platforms.Plain
import Libobsbot.Rpc.Poll

/-! # The two platforms agree

Behind one camera, what a program of portable transfers does on Linux is what it does on macOS: the same values and the
same failures, up to their wording, and the same state of the camera. A function of the C interface hides the wording
too.
-/

namespace Libobsbot.Platforms
open Foundations Uvcvideo V4l2Store Macos Xu
open Foundations.Program (Uses Akin Both CarriedAlike)
open Ffi.Raw Ffi.Sessions Ffi.Codes
set_option autoImplicit false

/-! ## One transfer -/

theorem Portable.short {op : TransportOp} (h : Portable op) : Short op := by
  have hwidth (entity selector : UInt8) : payloadWidth entity selector < 65536 := by
    unfold payloadWidth
    split_ifs <;> omega
  cases op with
  | uvcSet entity selector payload =>
    obtain ⟨-, hlen⟩ | ⟨-, hshort⟩ := h
    · exact hlen.trans_lt (hwidth entity selector)
    · exact hshort
  | uvcGet req entity selector n out =>
    obtain ⟨-, rfl⟩ | ⟨-, rfl⟩ := h
    · exact hwidth entity selector
    · show Meet2.modeRegisterPayloadLen < 65536
      decide
  | sleep millis => trivial

section Agreement
variable {σ τ ρ : Type} {device : UvcDevice σ} {good : σ → Prop} {iokit : (op : IokitOp) → τ → op.Reply × τ}
  {transport : TransportInner} {view : τ → σ} {kernel : (op : Ioctl) → ρ → op.Reply × ρ} {view' : ρ → σ}

/-- The two show one good state of the camera. -/
def Shared (view : τ → σ) (view' : ρ → σ) (good : σ → Prop) (t : τ) (u : ρ) : Prop := view t = view' u ∧ good (view t)

theorem carriedAlike (hcarries : Carries iokit transport view device) (hdrives : Drives kernel view' device)
    (hregisters : Registers device good) (op : TransportOp) (hop : Portable op) :
    CarriedAlike SameReply (fun op => (MacosTransport.answer transport op).body) UsbTransport.answer iokit kernel
      (Shared view view' good) op := by
  rintro t u ⟨hview, hgood⟩
  obtain ⟨r, t', hmacos, hconveyed⟩ := conveyed_onMacos hcarries hop.short t
  obtain ⟨r', u', hlinux, hconveyed'⟩ := @conveyed_onLinux _ _ _ _ _ _ u hdrives hregisters op hop (hview ▸ hgood)
  rw [← hview] at hconveyed'
  obtain ⟨hreply, hstate⟩ := hconveyed.same hconveyed'
  exact ⟨r, r', t', u', hmacos, hlinux, hreply, hstate, hconveyed.good hregisters hop hgood⟩

/-! ## Portable calls -/

/-- A C function whose registers are the driver's or the extension unit's. -/
def OnBoth : CFunction → Prop
  | .call call => ∀ register ∈ call.registers, register = modeRegister ∨ Dispatched register.1 register.2.1
  | _ => True

instance (f : CFunction) : Decidable (OnBoth f) := by
  cases f with
  | call call => exact inferInstanceAs (Decidable (∀ register ∈ call.registers, _))
  | _ => exact inferInstanceAs (Decidable True)

/-- The widths are those that the driver's bytes have. -/
theorem registers_width (call : Ffi.Sessions.Call) : ∀ register ∈ call.registers,
    Dispatched register.1 register.2.1 → register.2.2 = payloadWidth register.1 register.2.1 := by
  have hall : ∀ register ∈ allRegisters,
      Dispatched register.1 register.2.1 → register.2.2 = payloadWidth register.1 register.2.1 := by decide
  exact fun register h => hall register (mem_allRegisters call register h)

theorem portable_of_moves {call : Ffi.Sessions.Call} (hcall : OnBoth (.call call)) {op : TransportOp}
    (h : Moves call.registers op) : Portable op := by
  cases op with
  | uvcSet entity selector payload =>
    obtain hmode | hdispatched := hcall _ h
    · simp only [modeRegister, Prod.mk.injEq] at hmode
      exact .inr ⟨hmode.1, hmode.2.2.trans_lt (by decide)⟩
    · exact .inl ⟨hdispatched, registers_width call _ h hdispatched⟩
  | uvcGet req entity selector n out =>
    obtain hmode | hdispatched := hcall _ h.2
    · simp only [modeRegister, Prod.mk.injEq] at hmode
      exact .inr ⟨hmode.1, hmode.2.2⟩
    · exact .inl ⟨hdispatched, registers_width call _ h.2 hdispatched⟩
  | sleep millis => cases h

theorem portable_frame (frame : Bytes Meet2.rpcFrameLen) (selector : UInt8) :
    Uses Portable (uvcSet Meet2.xuEntityId selector frame.toList).run := by
  refine ⟨.inr ⟨rfl, ?_⟩, fun _ => trivial⟩
  rw [frame.length_eq]
  decide

theorem uses_liftChecked {α : Type} {allowed : TransportOp → Prop} (checked : Checked α) :
    Uses allowed (liftChecked checked).run := by
  cases checked <;> trivial

theorem portable_rpcRequestThenReply (request : Bytes Meet2.rpcFrameLen)
    (decode : List UInt8 → Checked (Option String)) : Uses Portable (rpcRequestThenReply request decode).run := by
  refine Program.uses_exceptBind (portable_frame request _) fun _ => ?_
  exact Rpc.uses_pollReply (fun out => .inr ⟨rfl, rfl⟩) (fun millis => trivial) _ _ _ _

theorem portable_get {n : ℕ} {req : UvcGet} {entity selector : UInt8} {out : Bytes n}
    (h : V4l2Store.Call.Admissible (.get entity selector n out)) : Uses Portable (uvcGet req entity selector out).run :=
  ⟨.inl h, fun _ => trivial⟩

/-- The poller's sample. -/
theorem portable_sampleStatus : Uses Portable sampleStatus := by
  have hi16 : Uses Portable (readPuI16 Uvc.Pu.brightness).run :=
    Program.uses_exceptBind (portable_get (by decide)) fun _ => trivial
  have hu16 (selector : UInt8) (h : V4l2Store.Call.Admissible (.get Uvc.processingUnit selector 2 (Bytes.zeros 2))) :
      Uses Portable (readPuU16 selector).run := Program.uses_exceptBind (portable_get h) fun _ => trivial
  unfold sampleStatus
  refine Program.uses_bind (uses_sampleInto hi16) fun _ => ?_
  refine Program.uses_bind (uses_sampleInto (hu16 _ (by decide))) fun _ => ?_
  refine Program.uses_bind (uses_sampleInto (hu16 _ (by decide))) fun _ => ?_
  refine Program.uses_bind (uses_sampleInto (portable_get (by decide))) fun _ => ?_
  exact uses_sampleInto (portable_get (by decide))

section Functions
variable {Location : Type} {handle : Option (Device Location)} {m : CMemory}

theorem portable_copyStringOut {outBuf bufLen : ℕ} {f : Device Location → DeviceM String}
    (h : ∀ device, Uses Portable (f device).run) : Uses Portable (copyStringOut handle outBuf bufLen f m) := by
  unfold copyStringOut
  cases handle with
  | none => trivial
  | some device =>
    dsimp only
    split
    · trivial
    · refine Program.uses_bind (h device) fun r => ?_
      cases r with
      | error e => trivial
      | ok s =>
        dsimp only
        split <;> trivial

theorem portable_function {f : CFunction} (h : OnBoth f) : Uses Portable (run handle m f) := by
  cases f with
  | call call => exact (uses_registers call).mono fun op hop => portable_of_moves h hop
  | setFaceFocus on =>
    refine uses_leaving (uses_withDevice fun device => ?_)
    exact Program.uses_exceptBind (uses_liftChecked _) fun request => portable_frame request _
  | firmware outBuf bufLen =>
    refine portable_copyStringOut fun device => ?_
    exact Program.uses_exceptBind (uses_liftChecked _) fun request => portable_rpcRequestThenReply request _
  | serial outBuf bufLen =>
    refine portable_copyStringOut fun device => ?_
    exact Program.uses_exceptBind (uses_liftChecked _) fun request => portable_rpcRequestThenReply request _

/-- A C client's calls, one after the other. -/
def client (handle : Option (Device Location)) : List CFunction → CMemory → TransportProgram (List Int32 × CMemory)
  | [], m => return ([], m)
  | f :: fs, m => do
    let (code, m) ← run handle m f
    let (codes, m) ← client handle fs m
    return (code :: codes, m)

theorem portable_client {fs : List CFunction} (h : ∀ f ∈ fs, OnBoth f) : Uses Portable (client handle fs m) := by
  induction fs generalizing m with
  | nil => trivial
  | cons f fs ih =>
    obtain ⟨hfirst, hrest⟩ := List.forall_mem_cons.mp h
    refine Program.uses_bind (portable_function hfirst) fun result => ?_
    exact Program.uses_bind (ih hrest) fun _ => trivial

theorem blind_client (fs : List CFunction) : Blind (client handle fs m) := by
  induction fs generalizing m with
  | nil => exact blind_done _
  | cons f fs ih =>
    refine (blind_function f).bind fun result _ heq => ?_
    subst heq
    refine ih.bind fun rest _ heq => ?_
    subst heq
    exact blind_done _

end Functions

/-! ## Programs -/

/-- A program of portable transfers that passes errors on, by `R`, comes to the same over IOKit as over the kernel's
ioctls, refusals of the camera included, and leaves the same on the camera. So do a C client's calls, code by code and
byte by byte. -/
theorem platforms_agree (hcarries : Carries iokit transport view device) (hdrives : Drives kernel view' device)
    (hregisters : Registers device good) {t : τ} {u : ρ} (hview : view t = view' u) (hgood : good (view t)) :
    (∀ {α : Type} {R : α → α → Prop} (p : TransportProgram α), Uses Portable p → Akin SameReply R p p →
      ∃ v w t' u', (onMacos transport p).run iokit t = (v, t') ∧ (onLinux p).run kernel u = (w, u') ∧
        Both R Eq v w ∧ view t' = view' u') ∧
    ∀ {Location : Type} (handle : Option (Device Location)) (fs : List CFunction) (m : CMemory),
      (∀ f ∈ fs, OnBoth f) → ∃ v t' u', (onMacos transport (client handle fs m)).run iokit t = (v, t') ∧
        (onLinux (client handle fs m)).run kernel u = (v, u') ∧ view t' = view' u' := by
  have hone := carriedAlike hcarries hdrives hregisters
  refine ⟨fun p huses hakin => ?_, fun handle fs m hfs => ?_⟩
  · obtain ⟨v, w, t', u', hmacos, hlinux, hboth, hview', -⟩ := hakin.run_translate hone huses ⟨hview, hgood⟩
    exact ⟨v, w, t', u', hmacos, hlinux, hboth, hview'⟩
  · obtain ⟨v, w, t', u', hmacos, hlinux, hboth, hview', -⟩ :=
      (blind_client fs).run_translate hone (portable_client hfs) ⟨hview, hgood⟩
    have heq : v = w := by
      cases hboth with
      | ok related => rw [related]
      | error related => rw [related]
    subst heq
    exact ⟨v, t', u', hmacos, hlinux, hview'⟩

end Agreement

/-- Ask for the range of a control, and take a sample. -/
def rangeAndSample (selector : UInt8) : TransportProgram (Result (Int32 × Int32) × Status) := do
  let range ← (Device.puRangeI16 selector).run
  let snap ← sampleStatus
  return (range, snap)

theorem portable_rangeAndSample {selector : UInt8}
    (h : V4l2Store.Call.Admissible (.get Uvc.processingUnit selector 2 (Bytes.zeros 2))) :
    Uses Portable (rangeAndSample selector) := by
  have hget (req : UvcGet) : Uses Portable (Device.puGetI16 req selector).run :=
    Program.uses_exceptBind (portable_get h) fun _ => trivial
  refine Program.uses_bind ?_ fun _ => Program.uses_bind portable_sampleStatus fun _ => trivial
  exact Program.uses_exceptBind (hget .min) fun _ => Program.uses_exceptBind (hget .max) fun _ => trivial

theorem akin_rangeAndSample (selector : UInt8) :
    Akin SameReply (fun x y => Both Eq SameError x.1 y.1 ∧ x.2 = y.2) (rangeAndSample selector)
      (rangeAndSample selector) := by
  have hrange : PassesOn (Device.puRangeI16 selector) := by
    refine passesOn_of_passes (FailFast.FailsFast.bind (FirstFailure.passes_get_then fun _ => ?_) fun _ =>
      FailFast.FailsFast.bind (FirstFailure.passes_get_then fun _ => ?_) fun _ => FailFast.failsFast_pure _)
    all_goals exact FailFast.failsFast_pure _
  exact hrange.bind fun _ _ hr => blind_sampleStatus.bind fun _ _ hsnap => .done ⟨hr, hsnap⟩

/-- Controls and modes, one control being unknown to the camera. -/
def brightened : List CFunction :=
  [.call (.setInteger .brightness (-30)), .call (.setInteger .contrast 40), .call (.integer .brightness 16),
    .call (.integer .contrast 24), .setFaceFocus 1, .call (.setMode .aiMode (1 : Int32)), .call (.aiMode 20)]

theorem platforms_agree_brightened :
    (∃ v w s, (onMacos ⟨1, 0⟩ (rangeAndSample Uvc.Pu.brightness)).run
          (plainIokit (keepingDevice [(3, 3)]) ⟨1, 0⟩) zeroCells = (v, s) ∧
        (onLinux (rangeAndSample Uvc.Pu.brightness)).run (plainDriver (keepingDevice [(3, 3)])) zeroCells = (w, s) ∧
        Both (fun x y => Both Eq SameError x.1 y.1 ∧ x.2 = y.2) Eq v w) ∧
      ∃ m s, (onMacos ⟨1, 0⟩ (client (some Rpc.sampleDevice) brightened fun _ => 0)).run
          (plainIokit (keepingDevice [(3, 3)]) ⟨1, 0⟩) zeroCells = (.ok ([0, -1, 0, -1, 0, 0, 0], m), s) ∧
        (onLinux (client (some Rpc.sampleDevice) brightened fun _ => 0)).run
          (plainDriver (keepingDevice [(3, 3)])) zeroCells = (.ok ([0, -1, 0, -1, 0, 0, 0], m), s) := by
  have hlive : (TransportInner.mk 1 0).dev ≠ 0 := by decide
  obtain ⟨hprograms, hclients⟩ := platforms_agree (carries_plainIokit (keepingDevice [(3, 3)]) hlive)
    (drives_plainDriver (keepingDevice [(3, 3)]) (keepingDevice_boundedTogether _)) (registers_keepingDevice _) rfl
    zeroCells_whole
  obtain ⟨v, w, s, s', hmacos, hlinux, hboth, rfl⟩ :=
    hprograms (rangeAndSample Uvc.Pu.brightness) (portable_rangeAndSample (by decide)) (akin_rangeAndSample _)
  obtain ⟨codes, t, t', hmacos', hlinux', rfl⟩ :=
    hclients (some Rpc.sampleDevice) brightened (fun _ => 0) (by decide)
  refine ⟨⟨v, w, s, hmacos, hlinux, hboth⟩, ?_⟩
  obtain ⟨m, hm⟩ : ∃ m, codes = .ok ([0, -1, 0, -1, 0, 0, 0], m) := ⟨_, (congrArg Prod.fst hlinux').symm⟩
  subst hm
  exact ⟨m, t, hmacos', hlinux'⟩

end Libobsbot.Platforms

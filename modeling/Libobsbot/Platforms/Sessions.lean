import Libobsbot.Platforms.Agreement

/-! # Sessions over the platforms' own calls

The panel was stated over transfers. Where IOKit and the driver take these to one camera, a session over USB requests or
over ioctls does what it does to the panel.
-/

namespace Libobsbot.Platforms
open Foundations Uvcvideo V4l2Store Macos
open Foundations.Program (Uses Akin Both CarriedAlike)
open Ffi.Sessions Ffi.Raw Ffi.Codes Xu
set_option autoImplicit false

/-- The camera of the panel answers the transfers of the calls as `device` does. -/
def Serves {σ : Type} (camera : PanelCamera σ) (device : UvcDevice σ) : Prop :=
  ∀ (call : Ffi.Sessions.Call) op s, Moves call.registers op →
    Conveyed device op s (camera.answer op s).1 (camera.answer op s).2

theorem short_of_moves {call : Ffi.Sessions.Call} {op : TransportOp} (h : Moves call.registers op) : Short op := by
  have hall : ∀ register ∈ allRegisters, register.2.2 < 65536 := by decide
  cases op with
  | uvcSet entity selector payload => exact hall _ (mem_allRegisters call _ h)
  | uvcGet req entity selector n out => exact hall _ (mem_allRegisters call _ h.2)
  | sleep millis => trivial

section Session
variable {σ Location : Type} {camera : PanelCamera σ} {device : UvcDevice σ} {handle : Option (Device Location)}
  {m : CMemory}

theorem blind_session (calls : List Ffi.Sessions.Call) : Blind (session handle calls m) := by
  induction calls generalizing m with
  | nil => exact blind_done _
  | cons call calls ih =>
    refine (blind_call call).bind fun result _ heq => ?_
    subst heq
    refine ih.bind fun rest _ heq => ?_
    subst heq
    exact blind_done _

/-- A machine that carries the transfers of a session to the camera runs the session as the panel's camera does. -/
theorem session_carried {Op τ : Type} {Reply : Op → Type} {answer : (op : Op) → τ → Reply op × τ}
    {f : (op : TransportOp) → Program Op Reply op.Reply} {view : τ → σ} {P : τ → Prop} {allowed : TransportOp → Prop}
    (hserves : Serves camera device) {calls : List Ffi.Sessions.Call}
    (hallowed : ∀ call ∈ calls, ∀ op, Moves call.registers op → allowed op)
    (hone : ∀ op t, allowed op → P t →
      ∃ r t', (f op).run answer t = (.ok r, t') ∧ Conveyed device op (view t) r (view t') ∧ P t')
    {t : τ} (ht : P t) {v : Except String (List Int32 × CMemory)} {s : σ}
    (hrun : (session handle calls m).run camera.answer (view t) = (v, s)) :
    ∃ t', ((session handle calls m).translate f).run answer t = (v, t') ∧ view t' = s := by
  have hcarried (op : TransportOp) (hop : allowed op ∧ ∃ call : Ffi.Sessions.Call, Moves call.registers op) :
      CarriedAlike SameReply f (fun op => .perform op .done) answer camera.answer (fun t s => view t = s ∧ P t) op := by
    rintro t s ⟨rfl, ht⟩
    obtain ⟨call, hmoves⟩ := hop.2
    obtain ⟨r, t', hfirst, hconveyed, ht'⟩ := hone op t hop.1 ht
    obtain ⟨hreply, hstate⟩ := hconveyed.same (hserves call op (view t) hmoves)
    exact ⟨r, _, t', _, hfirst, rfl, hreply, hstate, ht'⟩
  have huses : Uses (fun op => allowed op ∧ ∃ call : Ffi.Sessions.Call, Moves call.registers op)
      (session handle calls m) := uses_session fun call hcall op hmoves => ⟨hallowed call hcall op hmoves, call, hmoves⟩
  obtain ⟨v₁, v₂, t', s', hfirst, hsecond, hboth, hview, -⟩ :=
    (blind_session calls).run_translate hcarried huses ⟨rfl, ht⟩
  rw [Program.translate_perform, hrun] at hsecond
  cases hsecond
  refine ⟨t', ?_, hview⟩
  rw [hfirst]
  cases hboth with
  | ok related => rw [related]
  | error related => rw [related]

end Session

/-- A session does what it does to the panel: any session over the requests of macOS, and one of the controls that both
platforms route over the ioctls of Linux. -/
theorem platform_sessions_follow_panel {σ τ ρ Location : Type} {camera : PanelCamera σ} {device : UvcDevice σ}
    (hserves : Serves camera device) {iokit : (op : IokitOp) → τ → op.Reply × τ} {transport : TransportInner}
    {view : τ → σ} {kernel : (op : Ioctl) → ρ → op.Reply × ρ} {view' : ρ → σ} {good : σ → Prop} {panel : Panel}
    (handle : Device Location) (calls : List Ffi.Sessions.Call) (m : CMemory) :
    (Carries iokit transport view device → ∀ t, layout.Holds (camera.cells (view t)) panel → ∃ t',
        (onMacos transport (session (some handle) calls m)).run iokit t =
          (.ok ((Panel.session camera.work calls m panel).1, (Panel.session camera.work calls m panel).2.1), t') ∧
        layout.Holds (camera.cells (view t')) (Panel.session camera.work calls m panel).2.2) ∧
    (Drives kernel view' device → Registers device good → (∀ call ∈ calls, OnBoth (.call call)) →
      ∀ u, good (view' u) → layout.Holds (camera.cells (view' u)) panel → ∃ u',
        (onLinux (session (some handle) calls m)).run kernel u =
          (.ok ((Panel.session camera.work calls m panel).1, (Panel.session camera.work calls m panel).2.1), u') ∧
        layout.Holds (camera.cells (view' u')) (Panel.session camera.work calls m panel).2.2) := by
  refine ⟨fun hcarries t hholds => ?_, fun hdrives hregisters hcalls u hgood hholds => ?_⟩
  · obtain ⟨s, hrun, hcells⟩ := follows_session handle hholds calls m
    obtain ⟨t', hcarried, rfl⟩ := session_carried (P := fun _ => True) hserves
      (fun call _ op hmoves => short_of_moves hmoves) (fun op t hshort _ => by
        obtain ⟨r, t', hrun, hconveyed⟩ := conveyed_onMacos hcarries hshort t
        exact ⟨r, t', hrun, hconveyed, trivial⟩) trivial hrun
    exact ⟨t', hcarried, hcells⟩
  · obtain ⟨s, hrun, hcells⟩ := follows_session handle hholds calls m
    obtain ⟨u', hcarried, rfl⟩ := session_carried (P := fun u => good (view' u)) hserves
      (fun call hcall op hmoves => portable_of_moves (hcalls call hcall) hmoves) (fun op u hop hgood => by
        obtain ⟨r, u', hrun, hconveyed⟩ := conveyed_onLinux hdrives hregisters hop hgood
        exact ⟨r, u', hrun, hconveyed, hconveyed.good hregisters hop hgood⟩) hgood hrun
    exact ⟨u', hcarried, hcells⟩

theorem serves_keepingCamera : Serves keepingCamera (keepingDevice []) :=
  fun _ _ _ hmoves => conveyed_keepingAnswer hmoves

theorem platform_sessions_follow_panel_turning : ∃ s s' m,
    (onMacos ⟨1, 0⟩ (session (some Rpc.sampleDevice) turning fun _ => 0)).run
        (plainIokit (keepingDevice []) ⟨1, 0⟩) zeroCells = (.ok ([0, -5, 0, 0, 0, -2], m), s) ∧
      (onLinux (session (some Rpc.sampleDevice) turning fun _ => 0)).run
        (plainDriver (keepingDevice [])) zeroCells = (.ok ([0, -5, 0, 0, 0, -2], m), s') ∧
      m = (Memory.write (fun _ => 0) 16 [0xe2, 0xff, 0xff, 0xff]).write 20 [1, 0, 0, 0] := by
  have hlive : (TransportInner.mk 1 0).dev ≠ 0 := by decide
  obtain ⟨hmacos, hlinux⟩ := @platform_sessions_follow_panel _ _ _ _ _ _ serves_keepingCamera _ _ id _ id WholeCells
    zeroPanel Rpc.sampleDevice turning fun _ => 0
  obtain ⟨s, hrequests, -⟩ := hmacos (carries_plainIokit (keepingDevice []) hlive) zeroCells zeroCells_holds
  obtain ⟨s', hioctls, -⟩ := hlinux (drives_plainDriver (keepingDevice []) (keepingDevice_boundedTogether []))
    (registers_keepingDevice []) (by decide) zeroCells zeroCells_whole zeroCells_holds
  exact ⟨s, s', _, hrequests, hioctls, rfl⟩

end Libobsbot.Platforms

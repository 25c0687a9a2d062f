import Libobsbot.Source.Handle

/-! # The threads of an opened camera

The poller shares the transport, the stop flag and the cadence with any number of clients: callers of
`Device` methods, callers of `set_status_cadence`, and the thread that drops the handle. The camera is any
relation between an operation, its reply and the states around it. Every tick of the poller is logged with
the cadence set at that moment; no operation reads the log.
-/

namespace Libobsbot.Poller
open Foundations
open Foundations.Program (Uses UsesGiven Steps Exchange)
set_option autoImplicit false

/-! ## The shared state -/

/-- What a transfer may reply and do, and what the camera may do by itself. -/
structure CameraModel (κ : Type) where
  transfer : (op : TransportOp) → κ → op.Reply → κ → Prop
  moves : κ → κ → Prop

structure Tick where
  slept : ℕ
  target : ℕ
  cadenceMs : ℕ

structure HandleState (κ : Type) where
  camera : κ
  cadenceMs : ℕ
  ticks : List Tick

/-- What an operation does while the stop flag is `stop`. -/
inductive Effect {κ : Type} (camera : CameraModel κ) (stop : Bool) :
    (op : PollerOp) → HandleState κ → op.Reply → HandleState κ → Prop
  | transport {op : TransportOp} {s : HandleState κ} {r : op.Reply} {k : κ}
      (transfer : camera.transfer op s.camera r k) :
      Effect camera stop (.transport op) s r { s with camera := k }
  | loadStop (s : HandleState κ) : Effect camera stop .loadStop s stop s
  | loadCadence (s : HandleState κ) : Effect camera stop .loadCadence s s.cadenceMs s
  | storeCadence (s : HandleState κ) (periodMs : ℕ) :
      Effect camera stop (.storeCadence periodMs) s () { s with cadenceMs := periodMs }
  | send (s : HandleState κ) (event : Event) (received : Bool) :
      Effect camera stop (.send event) s received s
  | tick (s : HandleState κ) (slept target : ℕ) : Effect camera stop (.tick slept target) s ()
      { s with ticks := s.ticks ++ [⟨slept, target, s.cadenceMs⟩] }

/-! ## The threads -/

inductive HandleThread (ι : Type) where
  | poller
  | client (i : ι)
  deriving DecidableEq

abbrev HandleThread.Value {ι : Type} (α : ι → Type) : HandleThread ι → Type
  | poller => Unit
  | client i => α i

def world {κ : Type} (ι : Type) (camera : CameraModel κ) :
    World (HandleThread ι) (WorkerOp PollerOp) (WorkerOp.Reply PollerOp.Reply)
      (WorkerState (HandleState κ)) :=
  Worker.world (fun stop _ => Effect camera stop)
    fun s s' => ∃ k, camera.moves s.camera k ∧ s' = { s with camera := k }

abbrev HandleConfig (ι : Type) (α : ι → Type) (κ : Type) : Type :=
  Config (HandleThread ι) (WorkerOp PollerOp) (WorkerOp.Reply PollerOp.Reply) (HandleThread.Value α)
    (WorkerState (HandleState κ))

abbrev HandleLabel (ι : Type) : Type :=
  Label (HandleThread ι) (WorkerOp PollerOp) (WorkerOp.Reply PollerOp.Reply)

/-- The operations of the other threads: transfers, `set_status_cadence` and `drop`. -/
def ClientOp : WorkerOp PollerOp → Prop
  | .own (.transport _) => True
  | .own (.storeCadence periodMs) => ∃ cadence : Cadence, periodMs = cadence.periodMs
  | .setStop => True
  | .join => True
  | _ => False

/-- The handle has just been made, and the clients have yet to begin. -/
structure Opened {ι : Type} {α : ι → Type} {κ : Type} (serial : String) (rounds : ℕ)
    (c : HandleConfig ι α κ) : Prop where
  poller : c.threads .poller = Worker.thread (pollLoop serial rounds)
  clients : ∀ i, Uses ClientOp (c.threads (.client i))
  stop : c.shared.stop = false
  finished : c.shared.finished = false
  cadence : c.shared.inner.cadenceMs = initialCadence.periodMs
  ticks : c.shared.inner.ticks = []

theorem clientOp_setStatusCadence (cadence : Cadence) :
    Uses ClientOp (Worker.working (Device.setStatusCadence cadence)) :=
  ⟨⟨cadence, rfl⟩, fun _ => trivial⟩

theorem clientOp_drop : Uses ClientOp Device.drop :=
  ⟨trivial, fun _ => ⟨trivial, fun _ => trivial⟩⟩

theorem clientOp_onTransport {α : Type} (p : TransportProgram α) :
    Uses ClientOp (Worker.working (onTransport p)) := by
  induction p with
  | done a => trivial
  | crash m => trivial
  | perform op next ih => exact ⟨trivial, fun r => ih r⟩

/-! ## What the poller uses -/

theorem uses_onTransport {α : Type} {allowed : PollerOp → Prop} {p : TransportProgram α}
    (h : Uses (fun op => allowed (.transport op)) p) : Uses allowed (onTransport p) :=
  Program.uses_translate (fun _ hop => ⟨hop, fun _ => trivial⟩) h

section Uses
variable {may : (op : PollerOp) → op.Reply → Prop} {allowed : PollerOp → Prop}

theorem usesGiven_pollPause {target slept : ℕ} (hstop : allowed .loadStop)
    (htick : ∀ slept, pollerTickMs ∣ slept → slept < target → allowed (.tick slept target))
    (hslept : pollerTickMs ∣ slept) : UsesGiven may allowed (pollPause target slept) := by
  induction slept using pollPause.induct target with
  | case1 slept hlt ih =>
    rw [pollPause, if_pos hlt]
    refine ⟨hstop, fun stop _ => ?_⟩
    cases stop with
    | true => trivial
    | false =>
      exact ⟨htick slept hslept hlt, fun _ _ => ih (Nat.dvd_add hslept (Nat.dvd_refl _))⟩
  | case2 slept hge =>
    rw [pollPause, if_neg hge]
    trivial

/-- The poller as its operations see it, given what the cadence it loads is known to be. -/
theorem usesGiven_pollLoop (hstop : allowed .loadStop) (hcadence : allowed .loadCadence)
    (hsend : ∀ event, allowed (.send event))
    (hsample : Uses (fun op => allowed (.transport op)) sampleStatus)
    (htick : ∀ target slept, may .loadCadence target → pollerTickMs ∣ slept → slept < target →
      allowed (.tick slept target)) (serial : String) (rounds : ℕ) :
    UsesGiven may allowed (pollLoop serial rounds) := by
  induction rounds with
  | zero => trivial
  | succ rounds ih =>
    refine ⟨hstop, fun stop _ => ?_⟩
    cases stop with
    | true => trivial
    | false =>
      show UsesGiven may allowed (onTransport sampleStatus >>= _)
      refine Program.usesGiven_bind ((uses_onTransport hsample).given may) fun snapshot =>
        ⟨hsend _, fun received _ => ?_⟩
      cases received with
      | false => trivial
      | true =>
        refine ⟨hcadence, fun target htarget => ?_⟩
        show UsesGiven may allowed (pollPause target 0 >>= _)
        refine Program.usesGiven_bind (usesGiven_pollPause hstop
          (fun slept => htick target slept htarget) (Nat.dvd_zero _)) fun go => ?_
        cases go with
        | false => trivial
        | true => exact ih

end Uses

/-! ## A round at a camera whose replies never change -/

theorem pollPause_tick {target slept : ℕ} (h : slept < target) : pollPause target slept =
    Poller.loadStop >>= fun stop => if stop then .done false
      else Poller.tick slept target >>= fun _ => pollPause target (slept + pollerTickMs) := by
  rewrite [pollPause, if_pos h]
  rfl

/-- The camera whose replies never change. -/
def CameraModel.fixed (answer : (op : TransportOp) → op.Reply) : CameraModel Unit where
  transfer op _ r _ := r = answer op
  moves _ _ := False

def timedOut : (op : TransportOp) → op.Reply
  | .uvcSet _ _ _ => .error .timeout
  | .uvcGet _ _ _ _ out => (out, .error .timeout)
  | .sleep _ => ()

abbrev unreachable : CameraModel Unit := .fixed timedOut

def afterSample (serial : String) (rounds : ℕ) (snapshot : Status) : PollerProgram Unit :=
  Poller.send (.status serial snapshot) >>= fun received =>
    if received then Poller.loadCadence >>= fun target => pollPause target 0 >>= fun go =>
      if go then pollLoop serial rounds else .done ()
    else .done ()

/-- The sample of a camera whose replies never change. -/
def Samples (answer : (op : TransportOp) → op.Reply) (snapshot : Status) : Prop :=
  Program.run (fun op (_ : Unit) => (answer op, ())) sampleStatus () = (.ok snapshot, ())

theorem samples_timedOut : Samples timedOut Status.default := rfl

variable {answer : (op : TransportOp) → op.Reply} {snapshot : Status}

/-- The poller on its way from the check of the flag to its send. -/
theorem exists_sample (hsample : Samples answer snapshot) (serial : String) (rounds : ℕ)
    (s : HandleState Unit) : ∃ t, Steps (pollLoop serial (rounds + 1)) t (afterSample serial rounds snapshot) ∧
      ∀ x ∈ t, Effect (.fixed answer) false x.1 s x.2 s := by
  obtain ⟨t, ht, hanswers⟩ : ∃ t, Steps sampleStatus t (.done snapshot) ∧
      ∀ x ∈ t, x.2 = answer x.1 := Program.exists_steps (congrArg Prod.fst hsample)
  have hsteps : Steps (onTransport sampleStatus)
      (t.flatMap fun x => [⟨.transport x.1, x.2⟩]) (onTransport (.done snapshot)) :=
    ht.translate fun x => @Program.steps_one PollerOp PollerOp.Reply (.transport x.1) x.2
  have hround : Steps (pollLoop serial (rounds + 1)) _ (afterSample serial rounds snapshot) :=
    Program.steps_op_bind.mpr (.inr ⟨false, _, rfl, hsteps.bind (.refl _)⟩)
  refine ⟨_, hround, ?_⟩
  rw [List.append_nil, List.forall_mem_cons]
  refine ⟨.loadStop s, fun x hx => ?_⟩
  obtain ⟨y, hy, hxy⟩ := List.mem_flatMap.mp hx
  rw [List.mem_singleton.mp hxy]
  exact .transport (hanswers y hy)

theorem exists_round (hsample : Samples answer snapshot) (serial : String) (rounds : ℕ)
    (s : HandleState Unit) : ∃ t, Steps (pollLoop serial (rounds + 1)) t (pollPause s.cadenceMs 0 >>= fun go =>
      if go then pollLoop serial rounds else .done ()) ∧
      ∀ x ∈ t, Effect (.fixed answer) false x.1 s x.2 s := by
  obtain ⟨t, hsteps, hquiet⟩ := exists_sample hsample serial rounds s
  have hsend : Steps (afterSample serial rounds snapshot)
      [⟨.send (.status serial snapshot), true⟩, ⟨.loadCadence, s.cadenceMs⟩]
      (pollPause s.cadenceMs 0 >>= fun go => if go then pollLoop serial rounds else .done ()) :=
    Program.steps_op_bind.mpr (.inr ⟨true, _, rfl,
      Program.steps_op_bind.mpr (.inr ⟨s.cadenceMs, [], rfl, .refl _⟩)⟩)
  refine ⟨_, hsteps.trans hsend, fun x hx => ?_⟩
  rcases List.mem_append.mp hx with hx | hx
  · exact hquiet x hx
  · rcases List.mem_cons.mp hx with rfl | hx
    · exact .send s _ true
    · rw [List.mem_singleton.mp hx]
      exact .loadCadence s

section Steps
variable {ι : Type} [DecidableEq ι] {α : ι → Type} {c : HandleConfig ι α Unit}

/-- A part of the poller's program that changes nothing, among the other threads. -/
theorem quiet_run {p q : PollerProgram Unit} {t : List (Exchange PollerOp PollerOp.Reply)}
    (hstop : c.shared.stop = false) (hp : c.threads .poller = Worker.thread p) (hsteps : Steps p t q)
    (hquiet : ∀ x ∈ t, Effect (.fixed answer) false x.1 c.shared.inner x.2 c.shared.inner) :
    ∃ ls, (world ι (.fixed answer)).Run c ls (c.set .poller (Worker.thread q) c.shared) := by
  have hthread := Worker.thread_steps hsteps
  rw [← hp] at hthread
  refine ⟨_, .of_steps hthread fun x hx => ?_⟩
  obtain ⟨y, hy, rfl⟩ := List.mem_map.mp hx
  refine Worker.Effect.own ?_
  rw [hstop]
  exact hquiet y hy

theorem exists_round_run {serial : String} {rounds : ℕ} (hsample : Samples answer snapshot)
    (hstop : c.shared.stop = false)
    (hp : c.threads .poller = Worker.thread (pollLoop serial (rounds + 1))) :
    ∃ ls, (world ι (.fixed answer)).Run c ls (c.set .poller (Worker.thread
      (pollPause c.shared.inner.cadenceMs 0 >>= fun go =>
        if go then pollLoop serial rounds else .done ())) c.shared) := by
  obtain ⟨t, ht, hquiet⟩ := exists_round hsample serial rounds c.shared.inner
  exact quiet_run hstop hp ht hquiet

def logTick (s : WorkerState (HandleState Unit)) (slept target : ℕ) : WorkerState (HandleState Unit) :=
  { s with inner :=
    { s.inner with ticks := s.inner.ticks ++ [⟨slept, target, s.inner.cadenceMs⟩] } }

theorem tick_run {target slept : ℕ} {f : Bool → PollerProgram Unit} (hstop : c.shared.stop = false)
    (hlt : slept < target) (hp : c.threads .poller = Worker.thread (pollPause target slept >>= f)) :
    ∃ ls, (world ι unreachable).Run c ls (c.set .poller (Worker.thread
      (pollPause target (slept + pollerTickMs) >>= f)) (logTick c.shared slept target)) := by
  have hcheck : Steps (pollPause target slept >>= f) [⟨.loadStop, false⟩]
      (Poller.tick slept target >>= fun _ => pollPause target (slept + pollerTickMs) >>= f) := by
    rw [pollPause_tick hlt]
    exact Program.steps_op_bind.mpr (.inr ⟨false, [], rfl, .refl _⟩)
  have hsteps := Worker.thread_steps hcheck
  rw [← hp] at hsteps
  have hload : (world ι unreachable).Run c _ _ := .of_steps hsteps (by
    intro x hx
    rw [List.mem_singleton.mp hx]
    refine Worker.Effect.own ?_
    rw [hstop]
    exact .loadStop c.shared.inner)
  have hhead := c.set_self .poller (Worker.thread (Poller.tick slept target >>= fun _ =>
    pollPause target (slept + pollerTickMs) >>= f)) c.shared
  have htick : (world ι unreachable).Step _ _ _ :=
    .thread hhead (Worker.Effect.own (.tick c.shared.inner slept target))
  have hset := hload.snoc htick
  rw [Config.set, Function.update_idem] at hset
  exact ⟨_, hset⟩

end Steps

end Libobsbot.Poller

import Libobsbot.Poller.Threads

/-! # The cadence the poller follows

The poller loads the period once, after each sample, and sleeps that long in ticks. `set_status_cadence` can
change the period meanwhile, so the cadence in force is honoured at a tick iff it is the first of its
sleep or the period in force is no shorter than the one loaded (`cadence_honoured_iff`).
-/

namespace Libobsbot.Poller
open Foundations
open Foundations.Program (Uses UsesGiven Steps Exchange)
set_option autoImplicit false

def IsPeriod (periodMs : ℕ) : Prop := ∃ cadence : Cadence, periodMs = cadence.periodMs

theorem isPeriod_iff {periodMs : ℕ} : IsPeriod periodMs ↔ periodMs = 2500 ∨ periodMs = 25 := by
  constructor
  · rintro ⟨cadence, rfl⟩
    cases cadence with
    | slow => exact .inl rfl
    | fast => exact .inr rfl
  · rintro (rfl | rfl)
    · exact ⟨.slow, rfl⟩
    · exact ⟨.fast, rfl⟩

def Tick.Honours (t : Tick) : Prop := t.slept < t.cadenceMs

/-- Not a later tick of a sleep that is longer than the period set. -/
def Tick.Unshortened (t : Tick) : Prop := t.slept = 0 ∨ t.target ≤ t.cadenceMs

structure Tick.Regular (t : Tick) : Prop where
  slept : pollerTickMs ∣ t.slept
  below : t.slept < t.target
  target : IsPeriod t.target
  cadence : IsPeriod t.cadenceMs

/-- Both periods are a whole number of ticks, and the shorter one is a single tick. -/
theorem Tick.Regular.honours_iff {t : Tick} (h : t.Regular) : t.Honours ↔ t.Unshortened := by
  obtain ⟨n, hn⟩ := h.slept
  have hbelow := h.below
  unfold pollerTickMs at hn
  unfold Honours Unshortened
  obtain htarget | htarget := isPeriod_iff.mp h.target <;>
    obtain hcadence | hcadence := isPeriod_iff.mp h.cadence <;> omega

/-! ## The ticks of a run -/

def LoadsPeriod : (op : WorkerOp PollerOp) → WorkerOp.Reply PollerOp.Reply op → Prop
  | .own .loadCadence, periodMs => IsPeriod periodMs
  | _, _ => True

/-- Stores are of periods, ticks lie below a period, in steps of one tick. -/
def Ticking : WorkerOp PollerOp → Prop
  | .own (.storeCadence periodMs) => IsPeriod periodMs
  | .own (.tick slept target) => pollerTickMs ∣ slept ∧ slept < target ∧ IsPeriod target
  | _ => True

theorem usesGiven_poller (serial : String) (rounds : ℕ) :
    UsesGiven LoadsPeriod Ticking (Worker.thread (pollLoop serial rounds)) := by
  refine Worker.usesGiven_thread trivial (usesGiven_pollLoop trivial trivial (fun _ => trivial)
    (Program.uses_of_forall (fun _ => trivial) _) ?_ _ _)
  intro target slept htarget hslept hbelow
  exact ⟨hslept, hbelow, htarget⟩

theorem ticking_of_clientOp {op : WorkerOp PollerOp} (h : ClientOp op) : Ticking op := by
  cases op with
  | own op =>
    cases op with
    | storeCadence periodMs => exact h
    | tick slept target => exact absurd h id
    | _ => trivial
  | _ => trivial

structure Regular {κ : Type} (s : WorkerState (HandleState κ)) : Prop where
  cadence : IsPeriod s.inner.cadenceMs
  ticks : ∀ t ∈ s.inner.ticks, t.Regular

section Runs
variable {ι : Type} {α : ι → Type} {κ : Type} {camera : CameraModel κ}

theorem Regular.step [DecidableEq ι] {i : HandleThread ι} {op : WorkerOp PollerOp}
    {s s' : WorkerState (HandleState κ)} {r : WorkerOp.Reply PollerOp.Reply op} (hop : Ticking op)
    (hs : Regular s) (h : (world ι camera).perform i op s r s') : LoadsPeriod op r ∧ Regular s' := by
  cases h with
  | own own =>
    cases own with
    | transport transfer => exact ⟨trivial, hs.cadence, hs.ticks⟩
    | loadStop => exact ⟨trivial, hs⟩
    | loadCadence => exact ⟨hs.cadence, hs⟩
    | storeCadence => exact ⟨trivial, hop, hs.ticks⟩
    | send => exact ⟨trivial, hs⟩
    | tick =>
      refine ⟨trivial, hs.cadence, fun t ht => ?_⟩
      rcases List.mem_append.mp ht with ht | ht
      · exact hs.ticks t ht
      · rw [List.mem_singleton.mp ht]
        exact ⟨hop.1, hop.2.1, hop.2.2, hs.cadence⟩
  | finish => exact ⟨trivial, hs.cadence, hs.ticks⟩
  | setStop => exact ⟨trivial, hs.cadence, hs.ticks⟩
  | join finished => exact ⟨trivial, hs⟩

theorem Opened.regular [DecidableEq ι] {serial : String} {rounds : ℕ} {c d : HandleConfig ι α κ}
    {ls : List (HandleLabel ι)} (hc : Opened serial rounds c) (h : (world ι camera).Run c ls d) :
    Regular d.shared := by
  have huses : ∀ i, UsesGiven LoadsPeriod Ticking (c.threads i) := by
    intro i
    cases i with
    | poller =>
      rw [hc.poller]
      exact usesGiven_poller serial rounds
    | client i => exact ((hc.clients i).mono fun _ => ticking_of_clientOp).given _
  refine h.invariantGiven (fun {i op s r s'} hop hs heffect => hs.step hop heffect) ?_ huses ?_
  · rintro s s' hs ⟨t, ⟨k, -, rfl⟩, rfl⟩
    exact ⟨hs.cadence, hs.ticks⟩
  · refine ⟨⟨initialCadence, hc.cadence⟩, ?_⟩
    rw [hc.ticks]
    simp

/-- In every run the poller honours the cadence in force at all its ticks iff none of them is a later
tick of a sleep that is longer than the cadence in force. -/
theorem cadence_honoured_iff [DecidableEq ι] (camera : CameraModel κ) {serial : String} {rounds : ℕ}
    {c d : HandleConfig ι α κ} {ls : List (HandleLabel ι)} (hc : Opened serial rounds c)
    (h : (world ι camera).Run c ls d) :
    (∀ t ∈ d.shared.inner.ticks, t.Honours) ↔ ∀ t ∈ d.shared.inner.ticks, t.Unshortened := by
  have hregular := (hc.regular h).ticks
  constructor
  · intro hall t ht
    exact (hregular t ht).honours_iff.mp (hall t ht)
  · intro hall t ht
    exact (hregular t ht).honours_iff.mpr (hall t ht)

end Runs
/-! ## A switch within a sleep -/

def switching : HandleConfig Unit (fun _ => Unit) Unit where
  threads
    | .poller => Worker.thread (pollLoop "A" 1)
    | .client _ => Worker.working (Device.setStatusCadence .fast)
  shared := ⟨false, false, ⟨(), 2500, []⟩⟩

theorem switching_opened : Opened "A" 1 switching where
  poller := rfl
  clients _ := clientOp_setStatusCadence .fast
  stop := rfl
  finished := rfl
  cadence := rfl
  ticks := rfl

/-- The client's call comes after the first tick, on a target of 2500 ms. -/
theorem switching_run : ∃ ls d, (world Unit unreachable).Run switching ls d ∧
    d.shared.inner.ticks = [⟨0, 2500, 2500⟩, ⟨25, 2500, 25⟩] := by
  obtain ⟨ls, hround⟩ := exists_round_run (c := switching) samples_timedOut rfl switching_opened.poller
  have hpoller := switching.set_self .poller (Worker.thread (pollPause 2500 0 >>= fun go =>
    if go then pollLoop "A" 0 else .done ())) switching.shared
  obtain ⟨ms, hfirst⟩ := tick_run rfl (by decide : 0 < 2500) hpoller
  obtain ⟨d, hd⟩ : ∃ d, d = (switching.set .poller (Worker.thread (pollPause 2500 0 >>= fun go =>
    if go then pollLoop "A" 0 else .done ())) switching.shared).set .poller (Worker.thread
      (pollPause 2500 (0 + pollerTickMs) >>= fun go => if go then pollLoop "A" 0 else .done ()))
      (logTick switching.shared 0 2500) := ⟨_, rfl⟩
  have hclient : d.threads (.client ()) = Worker.working (Device.setStatusCadence .fast) := by
    rw [hd]
    rfl
  obtain ⟨e, he⟩ : ∃ e, e = d.set (.client ()) (.done ()) { d.shared with inner :=
    { d.shared.inner with cadenceMs := 25 } } := ⟨_, rfl⟩
  have hstore : (world Unit unreachable).Step d (.thread (.client ()) (.own (.storeCadence 25)) ()) e := by
    rw [he]
    exact .thread hclient (Worker.Effect.own (.storeCadence d.shared.inner 25))
  have hlater : e.threads .poller = Worker.thread (pollPause 2500 25 >>= fun go =>
      if go then pollLoop "A" 0 else .done ()) := by
    rw [he, hd]
    rfl
  obtain ⟨ks, hsecond⟩ := tick_run (by rw [he, hd]; rfl) (by decide : 25 < 2500) hlater
  refine ⟨_, _, ((hround.trans (hd ▸ hfirst)).snoc hstore).trans hsecond, ?_⟩
  rw [he, hd]
  rfl

/-- The fast cadence, set while the poller sleeps on the slow one, is not in force at the next tick. -/
theorem switch_not_honoured : ¬ ∀ (camera : CameraModel Unit) {serial : String} {rounds : ℕ}
    {c d : HandleConfig Unit (fun _ => Unit) Unit} {ls : List (HandleLabel Unit)},
    Opened serial rounds c → (world Unit camera).Run c ls d →
      ∀ t ∈ d.shared.inner.ticks, t.Honours := by
  intro hall
  obtain ⟨ls, d, hrun, hticks⟩ := switching_run
  have hlate := hall unreachable switching_opened hrun ⟨25, 2500, 25⟩ (by rw [hticks]; simp)
  exact absurd hlate (Nat.lt_irrefl 25)

/-- In that run the late tick breaks both sides of `cadence_honoured_iff`. -/
theorem cadence_honoured_iff_switching : ∃ d : HandleConfig Unit (fun _ => Unit) Unit,
    ⟨25, 2500, 25⟩ ∈ d.shared.inner.ticks ∧ ¬ ∀ t ∈ d.shared.inner.ticks, t.Honours := by
  obtain ⟨ls, d, hrun, hticks⟩ := switching_run
  have hmem : ⟨25, 2500, 25⟩ ∈ d.shared.inner.ticks := by
    rw [hticks]
    simp
  refine ⟨d, hmem, fun hall => ?_⟩
  have hlate : 25 = 0 ∨ 2500 ≤ 25 :=
    (cadence_honoured_iff unreachable switching_opened hrun).mp hall _ hmem
  omega

end Libobsbot.Poller

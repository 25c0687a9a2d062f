import Libobsbot.Foundations.Interleaving

/-! # A worker thread and its stop flag

An owner stops a worker by setting a flag and waiting for the worker to end. `own_after_stop` and
`own_after_join` say what any run leaves the worker to do from either moment on; `last_round` says it of the
loop most workers are: a check of the flag, a round, a pause that checks the flag as well.
-/

namespace Libobsbot.Foundations
set_option autoImplicit false

/-- The threads' own operations, the worker's end, and the two operations of its owner. -/
inductive WorkerOp (Op : Type) where
  | own (op : Op)
  | finish
  | setStop
  | join

abbrev WorkerOp.Reply {Op : Type} (Reply : Op → Type) : WorkerOp Op → Type
  | .own op => Reply op
  | .finish => Unit
  | .setStop => Unit
  | .join => Unit

structure WorkerState (σ : Type) where
  stop : Bool
  finished : Bool
  inner : σ

namespace Worker
open Program (Steps Exchange Uses)

variable {Op : Type} {Reply : Op → Type} {α β : Type}

abbrev Prog (Reply : Op → Type) (α : Type) : Type := Program (WorkerOp Op) (WorkerOp.Reply Reply) α

/-- A program over the threads' own operations. -/
def working (p : Program Op Reply α) : Prog Reply α :=
  p.translate fun op => .perform (.own op) .done

/-- The worker: its program, and then its end. -/
def thread (p : Program Op Reply α) : Prog Reply α :=
  working p >>= fun a => .perform .finish fun _ => .done a

def stopAndJoin : Prog Reply Unit := .perform .setStop fun _ => .perform .join .done

theorem thread_perform (op : Op) (next : Reply op → Program Op Reply α) :
    thread (.perform op next) = .perform (.own op) fun r => thread (next r) := rfl

theorem thread_done (a : α) :
    thread (.done a : Program Op Reply α) = .perform .finish fun _ => .done a := rfl

theorem usesGiven_thread {may : (op : WorkerOp Op) → WorkerOp.Reply Reply op → Prop}
    {allowed : WorkerOp Op → Prop} {p : Program Op Reply α} (hfinish : allowed .finish)
    (h : Program.UsesGiven (fun op r => may (.own op) r) (fun op => allowed (.own op)) p) :
    Program.UsesGiven may allowed (thread p) := by
  induction p with
  | done a => exact ⟨hfinish, fun _ _ => trivial⟩
  | crash m => trivial
  | perform op next ih => exact ⟨h.1, fun r hr => ih r (h.2 r hr)⟩

def ownOf : Exchange (WorkerOp Op) (WorkerOp.Reply Reply) → Option (Exchange Op Reply)
  | ⟨.own op, r⟩ => some ⟨op, r⟩
  | _ => none

theorem thread_steps {p q : Program Op Reply α} {t : List (Exchange Op Reply)} (h : Steps p t q) :
    Steps (thread p) (t.map fun x => (⟨.own x.1, x.2⟩ : Exchange (WorkerOp Op) (WorkerOp.Reply Reply)))
      (thread q) := by
  induction h with
  | refl p => exact .refl _
  | perform r _ ih => exact Program.steps_perform.mpr (.inr ⟨r, _, rfl, ih⟩)

/-- A run over the threads' own operations is a run of the program itself. -/
theorem steps_working {p : Program Op Reply α}
    {t : List (Exchange (WorkerOp Op) (WorkerOp.Reply Reply))} {q : Prog Reply α}
    (h : Steps (working p) t q) : ∃ u q', Steps p u q' ∧
      t = u.map (fun x => (⟨.own x.1, x.2⟩ : Exchange (WorkerOp Op) (WorkerOp.Reply Reply))) ∧
      q = working q' := by
  unfold working at h
  exact @Program.steps_translate_one Op Reply α (WorkerOp Op) (WorkerOp.Reply Reply) WorkerOp.own (fun _ r => r)
    (fun _ r => r) (fun _ _ => rfl) p t q h

theorem steps_thread {p : Program Op Reply α}
    {t : List (Exchange (WorkerOp Op) (WorkerOp.Reply Reply))} {q : Prog Reply α}
    (h : Steps (thread p) t q) : ∃ q', Steps p (t.filterMap ownOf) q' := by
  induction p generalizing t with
  | done a =>
    rw [thread_done] at h
    obtain ⟨rfl, -⟩ | ⟨r, u, rfl, hu⟩ := Program.steps_perform.mp h
    · exact ⟨_, .refl _⟩
    · obtain ⟨rfl, -⟩ := Program.steps_done.mp hu
      exact ⟨_, .refl _⟩
  | crash m =>
    cases h
    exact ⟨_, .refl _⟩
  | perform op next ih =>
    rw [thread_perform] at h
    obtain ⟨rfl, -⟩ | ⟨r, u, rfl, hu⟩ := Program.steps_perform.mp h
    · exact ⟨_, .refl _⟩
    · obtain ⟨q', hq'⟩ := ih r hu
      exact ⟨q', Program.steps_perform.mpr (.inr ⟨r, _, rfl, hq'⟩)⟩

/-! ## The threads around a worker -/

section Threads
variable {ι : Type} {σ : Type}

/-- What an operation does, given what the own operations do under either value of the flag. -/
inductive Effect (effect : Bool → ι → (op : Op) → σ → Reply op → σ → Prop) (i : ι) :
    (op : WorkerOp Op) → WorkerState σ → WorkerOp.Reply Reply op → WorkerState σ → Prop
  | own {op : Op} {r : Reply op} {s : WorkerState σ} {t : σ} (own : effect s.stop i op s.inner r t) :
    Effect effect i (.own op) s r { s with inner := t }
  | finish (s : WorkerState σ) : Effect effect i .finish s () { s with finished := true }
  | setStop (s : WorkerState σ) : Effect effect i .setStop s () { s with stop := true }
  | join {s : WorkerState σ} (finished : s.finished = true) : Effect effect i .join s () s

/-- What the state does by itself, it does to the inner state. -/
def world (effect : Bool → ι → (op : Op) → σ → Reply op → σ → Prop) (environment : σ → σ → Prop) :
    World ι (WorkerOp Op) (WorkerOp.Reply Reply) (WorkerState σ) where
  perform := Effect effect
  environment s s' := ∃ t, environment s.inner t ∧ s' = { s with inner := t }

variable [DecidableEq ι] {α : ι → Type}
  {effect : Bool → ι → (op : Op) → σ → Reply op → σ → Prop} {environment : σ → σ → Prop}
  {c d : Config ι (WorkerOp Op) (WorkerOp.Reply Reply) α (WorkerState σ)}
  {ls ms : List (Label ι (WorkerOp Op) (WorkerOp.Reply Reply))} {w : ι}

def ownExchange (w : ι) (l : Label ι (WorkerOp Op) (WorkerOp.Reply Reply)) :
    Option (Exchange Op Reply) :=
  (l.exchangeOf w).bind ownOf

abbrev ownExchanges (w : ι) (ls : List (Label ι (WorkerOp Op) (WorkerOp.Reply Reply))) :
    List (Exchange Op Reply) :=
  ls.filterMap (ownExchange w)

theorem ownExchanges_eq (w : ι) (ls : List (Label ι (WorkerOp Op) (WorkerOp.Reply Reply))) :
    ownExchanges w ls = (ls.filterMap (Label.exchangeOf w)).filterMap ownOf :=
  List.filterMap_filterMap.symm

theorem ownExchange_eq_some {l : Label ι (WorkerOp Op) (WorkerOp.Reply Reply)} {x : Exchange Op Reply}
    (h : ownExchange w l = some x) : l = .thread w (.own x.1) x.2 := by
  obtain ⟨y, hy, hx⟩ := Option.bind_eq_some_iff.mp h
  cases l with
  | environment => cases hy
  | thread i op r =>
    by_cases hi : i = w
    · subst hi
      rw [Label.exchangeOf, if_pos rfl] at hy
      cases hy
      cases op with
      | own op =>
        cases hx
        rfl
      | finish => cases hx
      | setStop => cases hx
      | join => cases hx
    · rw [Label.exchangeOf, if_neg hi] at hy
      cases hy

/-- Once set, the flag stays set, and a step under it finds it set. -/
theorem step_under_stop {l : Label ι (WorkerOp Op) (WorkerOp.Reply Reply)}
    (h : (world effect environment).Step c l d) (hstop : c.shared.stop = true) :
    d.shared.stop = true ∧
      ∀ x, ownExchange w l = some x → ∃ s t, effect true w x.1 s x.2 t := by
  cases h with
  | @thread i op next r s head heffect =>
    refine ⟨?_, fun x hx => ?_⟩
    · cases heffect with
      | own own => exact hstop
      | finish => exact hstop
      | setStop => rfl
      | join finished => exact hstop
    · cases ownExchange_eq_some hx
      cases heffect with
      | own own =>
        rw [hstop] at own
        exact ⟨_, _, own⟩
  | environment heffect =>
    obtain ⟨t, -, rfl⟩ := heffect
    exact ⟨hstop, fun x hx => by cases hx⟩

theorem run_under_stop (h : (world effect environment).Run c ls d) (hstop : c.shared.stop = true) :
    ∀ x ∈ ownExchanges w ls, ∃ s t, effect true w x.1 s x.2 t := by
  induction h with
  | refl c => simp
  | @cons c e d l ls step _ ih =>
    obtain ⟨hnext, hl⟩ := step_under_stop (w := w) step hstop
    intro x hx
    obtain ⟨l', hmem, hl'⟩ := List.mem_filterMap.mp hx
    rcases List.mem_cons.mp hmem with rfl | hmem
    · exact hl x hl'
    · exact ih hnext x (List.mem_filterMap.mpr ⟨l', hmem, hl'⟩)

/-- From the moment the flag is set, the worker goes on with its run and finds the flag set. -/
theorem own_after_stop {p : Program Op Reply (α w)} {i : ι}
    (h : (world effect environment).Run c (ls ++ .thread i .setStop () :: ms) d)
    (hw : c.threads w = thread p) :
    (∃ q, Steps p (ownExchanges w ls ++ ownExchanges w ms) q) ∧
      ∀ x ∈ ownExchanges w ms, ∃ s t, effect true w x.1 s x.2 t := by
  constructor
  · have hsteps := h.steps w
    rw [hw] at hsteps
    obtain ⟨q, hq⟩ := steps_thread hsteps
    have hset : ownExchange w (.thread i .setStop () : Label ι (WorkerOp Op) (WorkerOp.Reply Reply)) =
        none := by
      cases hx : ownExchange w (.thread i .setStop () : Label ι (WorkerOp Op) (WorkerOp.Reply Reply)) with
      | none => rfl
      | some x => cases ownExchange_eq_some hx
    rw [← ownExchanges_eq, ownExchanges, List.filterMap_append, List.filterMap_cons, hset] at hq
    exact ⟨q, hq⟩
  · obtain ⟨e, -, hrest⟩ := h.split
    cases hrest with
    | cons step hafter =>
      refine run_under_stop hafter ?_
      cases step with
      | thread head heffect =>
        cases heffect with
        | setStop => rfl

/-! ## The end of a worker -/

/-- The worker is at work and its end is not signalled, or it is done. -/
inductive Working (w : ι) (c : Config ι (WorkerOp Op) (WorkerOp.Reply Reply) α (WorkerState σ)) :
    Prop where
  | running (p : Program Op Reply (α w)) (threads : c.threads w = thread p)
      (unfinished : c.shared.finished = false)
  | ended (a : α w) (threads : c.threads w = .done a)

def OnlyEndsItself (w i : ι) : WorkerOp Op → Prop
  | .finish => i = w
  | _ => True

theorem step_working {l : Label ι (WorkerOp Op) (WorkerOp.Reply Reply)}
    (h : (world effect environment).Step c l d)
    (huses : ∀ i, Uses (OnlyEndsItself w i) (c.threads i)) (hc : Working w c) : Working w d := by
  cases h with
  | @thread i op next r s head heffect =>
    by_cases hi : i = w
    · subst hi
      cases hc with
      | ended a threads =>
        rw [threads] at head
        cases head
      | running p threads unfinished =>
        rw [threads] at head
        cases p with
        | done a =>
          rw [thread_done] at head
          cases head
          exact .ended a (Function.update_self ..)
        | crash m => cases head
        | perform op' next' =>
          rw [thread_perform] at head
          cases head
          cases heffect
          exact .running (next' r) (Function.update_self ..) unfinished
    · have hother : Function.update c.threads i (next r) w = c.threads w :=
        Function.update_of_ne (Ne.symm hi) _ _
      cases hc with
      | ended a threads => exact .ended a (hother.trans threads)
      | running p threads unfinished =>
        refine .running p (hother.trans threads) ?_
        cases heffect with
        | own own => exact unfinished
        | finish =>
          have hends := huses i
          rw [head] at hends
          exact absurd hends.1 hi
        | setStop => exact unfinished
        | join finished => exact unfinished
  | environment heffect =>
    obtain ⟨t, -, rfl⟩ := heffect
    cases hc with
    | ended a threads => exact .ended a threads
    | running p threads unfinished => exact .running p threads unfinished

theorem run_working (h : (world effect environment).Run c ls d)
    (huses : ∀ i, Uses (OnlyEndsItself w i) (c.threads i)) (hc : Working w c) : Working w d := by
  induction h with
  | refl c => exact hc
  | cons step _ ih => exact ih (step.uses huses) (step_working step huses hc)

theorem own_after_join {p : Program Op Reply (α w)} {i : ι}
    (h : (world effect environment).Run c (ls ++ .thread i .join () :: ms) d)
    (hw : c.threads w = thread p) (hfinished : c.shared.finished = false)
    (huses : ∀ i, Uses (OnlyEndsItself w i) (c.threads i)) : ownExchanges w ms = [] := by
  obtain ⟨e, hbefore, hrest⟩ := h.split
  have hworking := run_working hbefore huses (.running p hw hfinished)
  cases hrest with
  | cons step hafter =>
    cases step with
    | @thread _ _ next r s head heffect =>
      cases heffect with
      | join finished =>
        cases hworking with
        | running p' threads unfinished =>
          rw [unfinished] at finished
          cases finished
        | ended a threads =>
          have hne : w ≠ i := by
            rintro rfl
            rw [threads] at head
            cases head
          have hsteps : Steps (Function.update e.threads i (next ()) w) _ (d.threads w) := hafter.steps w
          have hdone : Function.update e.threads i (next ()) w = .done a :=
            (Function.update_of_ne hne _ _).trans threads
          rw [hdone] at hsteps
          rw [ownExchanges_eq, (Program.steps_done.mp hsteps).1]
          rfl

end Threads

/-! ## The loop of a worker -/

section Loop
variable {κ β : Type} {check : Op} (isStop : Reply check → Bool)
  (round : κ → Program Op Reply (Option κ)) (pause : κ → Program Op Reply Bool)

/-- The first `rounds` rounds: check, round, pause. Either of the last two can end the loop. -/
def loop : ℕ → κ → Program Op Reply Unit
  | 0, _ => .done ()
  | rounds + 1, k => .perform check fun r =>
    if isStop r then .done ()
    else round k >>= fun
      | none => .done ()
      | some k => pause k >>= fun go => if go then loop rounds k else .done ()

/-- Not a check that found the flag clear. -/
def UnderStop (x : Exchange Op Reply) : Prop := ∀ r, x = ⟨check, r⟩ → isStop r = true

variable {isStop round pause} {visible : Exchange Op Reply → Option β}
  (hcheck : ∀ r, visible ⟨check, r⟩ = none)
  (hpause : ∀ k t q, Steps (pause k) t q → t.filterMap visible = [])
include hcheck

/-- A loop that finds the flag set at its next check does nothing visible. -/
theorem loop_under_stop {rounds : ℕ} {k : κ} {t : List (Exchange Op Reply)}
    {q : Program Op Reply Unit} (h : Steps (loop isStop round pause rounds k) t q)
    (hstop : ∀ x ∈ t, UnderStop isStop x) : t.filterMap visible = [] := by
  cases rounds with
  | zero =>
    obtain ⟨rfl, -⟩ := Program.steps_done.mp h
    rfl
  | succ rounds =>
    rw [loop] at h
    obtain ⟨rfl, -⟩ | ⟨r, u, rfl, hu⟩ := Program.steps_perform.mp h
    · rfl
    · rw [if_pos (hstop _ List.mem_cons_self r rfl)] at hu
      obtain ⟨rfl, -⟩ := Program.steps_done.mp hu
      rw [List.filterMap_cons, hcheck]
      rfl

include hpause

/-- The pause, and what follows it. -/
theorem pause_under_stop {rounds : ℕ} {k : κ} {t : List (Exchange Op Reply)}
    {q : Program Op Reply Unit} (h : Steps (pause k >>= fun go =>
      if go then loop isStop round pause rounds k else .done ()) t q)
    (hstop : ∀ x ∈ t, UnderStop isStop x) : t.filterMap visible = [] := by
  obtain ⟨p, hp, -, -⟩ | ⟨u, go, v, rfl, hu, hv⟩ := Steps.bind_cases h
  · exact hpause _ _ _ hp
  · rw [List.filterMap_append, hpause _ _ _ hu]
    cases go with
    | false =>
      obtain ⟨rfl, -⟩ := Program.steps_done.mp hv
      rfl
    | true => exact loop_under_stop hcheck hv fun x hx => hstop x (List.mem_append_right _ hx)

/-- A run cut in the pause or later: nothing visible follows under the flag, or the cut is in a later
round. -/
theorem later_round {rounds : ℕ} {k : κ} {t v : List (Exchange Op Reply)} {q : Program Op Reply Unit}
    (h : Steps (pause k >>= fun go =>
      if go then loop isStop round pause rounds k else .done ()) (t ++ v) q)
    (hstop : ∀ x ∈ v, UnderStop isStop x) : v.filterMap visible = [] ∨
      ∃ w t', t = w ++ t' ∧ w.filterMap visible = [] ∧ Steps (loop isStop round pause rounds k) (t' ++ v) q := by
  have hquiet : (t ++ v).filterMap visible = [] → v.filterMap visible = [] := by
    intro htv
    rw [List.filterMap_append] at htv
    exact (List.append_eq_nil_iff.mp htv).2
  obtain ⟨p, hp, -, -⟩ | ⟨u₁, go, u₂, hsplit, hu, hnext⟩ := Steps.bind_cases h
  · exact .inl (hquiet (hpause _ _ _ hp))
  · cases go with
    | false =>
      obtain ⟨rfl, -⟩ := Program.steps_done.mp hnext
      rw [hsplit, List.append_nil] at hquiet
      exact .inl (hquiet (hpause _ _ _ hu))
    | true =>
      obtain ⟨t', rfl, rfl⟩ | ⟨v₁, rfl, rfl⟩ := List.append_eq_append_iff.mp hsplit.symm
      · exact .inr ⟨u₁, t', rfl, hpause _ _ _ hu, hnext⟩
      · have hpaused := hpause _ _ _ hu
        rw [List.filterMap_append] at hpaused
        rw [List.filterMap_append, (List.append_eq_nil_iff.mp hpaused).2]
        exact .inl (loop_under_stop hcheck hnext fun x hx => hstop x (List.mem_append_right _ hx))

/-- Wherever a run of the loop is cut, what is visible of the rest under the flag belongs to one round,
from some point of it on. `good` is what holds of the run and the loop's memory wherever a round begins. -/
theorem last_round {good : List (Exchange Op Reply) → κ → Prop}
    (hgood : ∀ s k t k', good s k → Steps (round k) t (.done (some k')) → good (s ++ t) k')
    (hquiet : ∀ s k w, good s k → w.filterMap visible = [] → good (s ++ w) k) {rounds : ℕ} {k : κ}
    {s t v : List (Exchange Op Reply)} {q : Program Op Reply Unit} (hk : good s k)
    (h : Steps (loop isStop round pause rounds k) (t ++ v) q) (hstop : ∀ x ∈ v, UnderStop isStop x) :
    v.filterMap visible = [] ∨ ∃ k' u a b c q', good (s ++ u) k' ∧ t = u ++ a ∧ v = b ++ c ∧
      Steps (round k') (a ++ b) q' ∧ c.filterMap visible = [] := by
  induction rounds generalizing s k t with
  | zero =>
    obtain ⟨htv, -⟩ := Program.steps_done.mp h
    obtain ⟨-, rfl⟩ := List.append_eq_nil_iff.mp htv
    exact .inl rfl
  | succ rounds ih =>
    cases t with
    | nil => exact .inl (loop_under_stop hcheck h hstop)
    | cons x t =>
      rw [loop, List.cons_append] at h
      obtain ⟨hnil, -⟩ | ⟨r, u, hu, hrest⟩ := Program.steps_perform.mp h
      · cases hnil
      obtain ⟨rfl, rfl⟩ := List.cons.inj hu
      have hchecked : good (s ++ [⟨check, r⟩]) k := hquiet _ _ _ hk (by simp [hcheck])
      by_cases hr : isStop r = true
      · rw [if_pos hr] at hrest
        obtain ⟨htv, -⟩ := Program.steps_done.mp hrest
        obtain ⟨-, rfl⟩ := List.append_eq_nil_iff.mp htv
        exact .inl rfl
      rw [if_neg hr] at hrest
      obtain ⟨p, hp, -, -⟩ | ⟨u₁, o, u₂, hsplit, hround, hnext⟩ := Steps.bind_cases hrest
      · exact .inr ⟨k, [⟨check, r⟩], t, v, [], p, hchecked, rfl, (List.append_nil v).symm, hp, rfl⟩
      obtain ⟨t', rfl, rfl⟩ | ⟨v₁, rfl, rfl⟩ := List.append_eq_append_iff.mp hsplit.symm
      · -- the cut is behind the round
        cases o with
        | none =>
          obtain ⟨htv, -⟩ := Program.steps_done.mp hnext
          obtain ⟨-, rfl⟩ := List.append_eq_nil_iff.mp htv
          exact .inl rfl
        | some k' =>
          obtain hnothing | ⟨w, t'', rfl, hw, hloop⟩ := later_round hcheck hpause hnext hstop
          · exact .inl hnothing
          · have hpaused := hquiet _ _ w (hgood _ k _ k' hchecked hround) hw
            obtain hnothing | ⟨k'', u, a, b, c, q', hk'', rfl, hv, hround', hc⟩ := ih hpaused hloop
            · exact .inl hnothing
            · refine .inr ⟨k'', ⟨check, r⟩ :: u₁ ++ w ++ u, a, b, c, q', ?_, by simp, hv, hround', hc⟩
              simpa using hk''
      · -- the cut is within the round
        refine .inr ⟨k, [⟨check, r⟩], t, v₁, u₂, .done o, hchecked, rfl, rfl, hround, ?_⟩
        cases o with
        | none =>
          obtain ⟨rfl, -⟩ := Program.steps_done.mp hnext
          rfl
        | some k' =>
          exact pause_under_stop hcheck hpause hnext fun x hx => hstop x (List.mem_append_right _ hx)

/-- What is visible of a run of the loop belongs to its rounds. -/
theorem mem_visible_loop {rounds : ℕ} {k : κ} {t : List (Exchange Op Reply)} {q : Program Op Reply Unit}
    (h : Steps (loop isStop round pause rounds k) t q) {y : β} (hy : y ∈ t.filterMap visible) :
    ∃ k' u q', Steps (round k') u q' ∧ y ∈ u.filterMap visible ∧ ∀ x ∈ u, x ∈ t := by
  induction rounds generalizing k t with
  | zero =>
    obtain ⟨rfl, -⟩ := Program.steps_done.mp h
    cases hy
  | succ rounds ih =>
    rw [loop] at h
    obtain ⟨rfl, -⟩ | ⟨r, t₁, rfl, h₁⟩ := Program.steps_perform.mp h
    · cases hy
    rw [List.filterMap_cons, hcheck] at hy
    by_cases hr : isStop r = true
    · rw [if_pos hr] at h₁
      obtain ⟨rfl, -⟩ := Program.steps_done.mp h₁
      cases hy
    rw [if_neg hr] at h₁
    obtain ⟨p, hp, -, -⟩ | ⟨t₂, o, t₃, rfl, hround, h₃⟩ := Steps.bind_cases h₁
    · exact ⟨k, t₁, p, hp, hy, fun x => List.mem_cons_of_mem _⟩
    rw [List.filterMap_append] at hy
    rcases List.mem_append.mp hy with hy | hy
    · exact ⟨k, t₂, _, hround, hy, fun x hx => List.mem_cons_of_mem _ (List.mem_append_left _ hx)⟩
    cases o with
    | none =>
      obtain ⟨rfl, -⟩ := Program.steps_done.mp h₃
      cases hy
    | some k' =>
      obtain ⟨p, hp, -, -⟩ | ⟨t₄, go, t₅, rfl, hpaused, h₅⟩ := Steps.bind_cases h₃
      · rw [hpause _ _ _ hp] at hy
        cases hy
      rw [List.filterMap_append, hpause _ _ _ hpaused, List.nil_append] at hy
      cases go with
      | false =>
        obtain ⟨rfl, -⟩ := Program.steps_done.mp h₅
        cases hy
      | true =>
        obtain ⟨k'', u, q', hu, hyu, hsub⟩ := ih h₅ hy
        refine ⟨k'', u, q', hu, hyu, fun x hx => List.mem_cons_of_mem _ ?_⟩
        exact List.mem_append_right _ (List.mem_append_right _ (hsub x hx))

end Loop
end Worker
end Libobsbot.Foundations

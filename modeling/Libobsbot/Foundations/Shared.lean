import Libobsbot.Foundations.Worker
import Mathlib.Data.Fintype.Card

/-! # A resource shared with a worker

Any number of owners hold one handle, and the handle and its worker hold a share of one resource each. The last owner
to let go of the handle stops the worker and waits for it before it drops the handle's share, and whoever drops the
last share releases the resource. So the release is that owner's, it happens once, and nothing else happens after it:
`released_after_use`.
-/

namespace Libobsbot.Foundations
set_option autoImplicit false

/-- The reply to a drop tells whether that was the last one. -/
inductive SharedOp (Op : Type) where
  | work (op : Op)
  | dropHandle
  | dropShare

abbrev SharedOp.Reply {Op : Type} (Reply : Op → Type) : SharedOp Op → Type
  | .work op => Reply op
  | .dropHandle => Bool
  | .dropShare => Bool

structure SharedState (σ : Type) where
  handles : ℕ
  shares : ℕ
  inner : σ

inductive Side (ι : Type) where
  | owner (i : ι)
  | worker
  deriving DecidableEq

abbrev Side.Value {ι : Type} (α : ι → Type) : Side ι → Type
  | .owner i => α i
  | .worker => Unit

namespace Shared
open Program (Steps Exchange Uses)

variable {Op : Type} {Reply : Op → Type} {β γ : Type}

abbrev Prog (Reply : Op → Type) (β : Type) : Type := Program (SharedOp Op) (SharedOp.Reply Reply) β

def atWork (p : Program Op Reply β) : Prog Reply β := p.translate fun op => .perform (.work op) .done

def dropShare (release : Program Op Reply Unit) : Prog Reply Unit :=
  .perform .dropShare fun last => if last then atWork release else .done ()

abbrev ThreadProg (Reply : Op → Type) (β : Type) : Type :=
  Program (WorkerOp (SharedOp Op)) (WorkerOp.Reply (SharedOp.Reply Reply)) β

/-- The worker drops its share at its end. -/
def workerThread (p : Program Op Reply γ) (release : Program Op Reply Unit) : ThreadProg Reply Unit :=
  Worker.thread (atWork p >>= fun _ => dropShare release)

/-- The last owner stops the worker, waits for it, and drops the share of the handle. -/
def letGo (release : Program Op Reply Unit) : ThreadProg Reply Unit :=
  .perform (.own .dropHandle) fun last =>
    if last then Worker.stopAndJoin >>= fun _ => Worker.working (dropShare release) else .done ()

def ownerThread (client : Program Op Reply β) (release : Program Op Reply Unit) : ThreadProg Reply β := do
  let b ← Worker.working (atWork client)
  letGo release
  return b

/-! ## The threads -/

section Threads
variable {ι σ : Type} {α : ι → Type}

inductive Effect (effect : Bool → Side ι → (op : Op) → σ → Reply op → σ → Prop) (stop : Bool) (i : Side ι) :
    (op : SharedOp Op) → SharedState σ → SharedOp.Reply Reply op → SharedState σ → Prop
  | work {op : Op} {r : Reply op} {s : SharedState σ} {t : σ} (work : effect stop i op s.inner r t) :
      Effect effect stop i (.work op) s r { s with inner := t }
  | dropHandle (s : SharedState σ) :
      Effect effect stop i .dropHandle s (s.handles == 1) { s with handles := s.handles - 1 }
  | dropShare (s : SharedState σ) :
      Effect effect stop i .dropShare s (s.shares == 1) { s with shares := s.shares - 1 }

def world (effect : Bool → Side ι → (op : Op) → σ → Reply op → σ → Prop) (environment : σ → σ → Prop) :
    World (Side ι) (WorkerOp (SharedOp Op)) (WorkerOp.Reply (SharedOp.Reply Reply)) (WorkerState (SharedState σ)) :=
  Worker.world (Effect effect) fun s s' => ∃ t, environment s.inner t ∧ s' = { s with inner := t }

abbrev SharedConfig (Reply : Op → Type) (α : ι → Type) (σ : Type) : Type :=
  Config (Side ι) (WorkerOp (SharedOp Op)) (WorkerOp.Reply (SharedOp.Reply Reply)) (Side.Value α)
    (WorkerState (SharedState σ))

abbrev SharedLabel (ι : Type) (Reply : Op → Type) : Type :=
  Label (Side ι) (WorkerOp (SharedOp Op)) (WorkerOp.Reply (SharedOp.Reply Reply))

/-- Every owner holds the handle, and no thread has begun. -/
def begun [Fintype ι] (clients : (i : ι) → Program Op Reply (α i)) (p : Program Op Reply γ)
    (release : Program Op Reply Unit) (s : σ) : SharedConfig Reply α σ where
  threads
    | .owner i => ownerThread (clients i) release
    | .worker => workerThread p release
  shared := ⟨false, false, ⟨Fintype.card ι, 2, s⟩⟩

variable (isRelease : Op → Bool)

/-- The part of a label that releases the resource. -/
def releaseOf : SharedLabel ι Reply → Option (Exchange Op Reply)
  | .thread _ (.own (.work op)) r => if isRelease op then some ⟨op, r⟩ else none
  | _ => none

def released (ls : List (SharedLabel ι Reply)) : List (Exchange Op Reply) := ls.filterMap (releaseOf isRelease)

/-- Not an operation on the resource, or one that releases it. -/
def OnlyReleases : SharedLabel ι Reply → Prop
  | .thread _ (.own (.work op)) _ => isRelease op = true
  | _ => True

/-- Where the worker is while the handle keeps its share. -/
inductive Working (release : Program Op Reply Unit) (c : SharedConfig Reply α σ) : Prop
  | running (γ : Type) (p : Program Op Reply γ) (plain : Uses (fun op => isRelease op = false) p)
      (thread : c.threads .worker = workerThread p release) (shares : c.shared.inner.shares = 2)
      (unfinished : c.shared.finished = false)
  | dropped (thread : c.threads .worker = Worker.thread (.done ())) (shares : c.shared.inner.shares = 1)
      (unfinished : c.shared.finished = false)
  | ended (thread : c.threads .worker = .done ()) (shares : c.shared.inner.shares = 1)

/-- The owners of `held` hold the handle, and the others have let go of it. -/
structure Serving (release : Program Op Reply Unit) (held : Finset ι) (c : SharedConfig Reply α σ) : Prop where
  handles : c.shared.inner.handles = held.card
  holding : ∀ i ∈ held, ∃ client : Program Op Reply (α i), Uses (fun op => isRelease op = false) client ∧
    c.threads (.owner i) = ownerThread client release
  gone : ∀ i ∉ held, ∃ a, c.threads (.owner i) = .done a
  nonempty : Nonempty ι → held.Nonempty
  worker : Working isRelease release c

/-- Where the last owner is, after these operations of the release. -/
inductive Closing (release : Program Op Reply Unit) (i : ι) (c : SharedConfig Reply α σ) :
    List (Exchange Op Reply) → Prop
  | stopping (a : α i) (thread : c.threads (.owner i) = .perform .setStop fun _ => .perform .join fun _ =>
        Worker.working (dropShare release) >>= fun _ => .done a)
      (worker : Working isRelease release c) : Closing release i c []
  | joining (a : α i)
      (thread : c.threads (.owner i) = .perform .join fun _ => Worker.working (dropShare release) >>= fun _ => .done a)
      (worker : Working isRelease release c) : Closing release i c []
  | dropping (a : α i)
      (thread : c.threads (.owner i) = Worker.working (dropShare release) >>= fun _ => .done a)
      (worker : c.threads .worker = .done ()) (shares : c.shared.inner.shares = 1) : Closing release i c []
  | releasing (a : α i) (rest : Program Op Reply Unit) {t : List (Exchange Op Reply)}
      (thread : c.threads (.owner i) = Worker.working (atWork rest) >>= fun _ => .done a)
      (releases : Uses (fun op => isRelease op = true) rest) (steps : Steps release t rest)
      (worker : c.threads .worker = .done ()) : Closing release i c t

inductive Holding (release : Program Op Reply Unit) (c : SharedConfig Reply α σ) :
    List (Exchange Op Reply) → Prop
  | serving (held : Finset ι) (serving : Serving isRelease release held c) : Holding release c []
  | closing (i : ι) {t : List (Exchange Op Reply)} (others : ∀ j, j ≠ i → ∃ a, c.threads (.owner j) = .done a)
      (closing : Closing isRelease release i c t) : Holding release c t

/-! ## Where the threads are -/

theorem workerThread_perform (op : Op) (next : Reply op → Program Op Reply γ) (release : Program Op Reply Unit) :
    workerThread (.perform op next) release = .perform (.own (.work op)) fun r => workerThread (next r) release := rfl

theorem workerThread_done (b : γ) (release : Program Op Reply Unit) :
    workerThread (.done b : Program Op Reply γ) release = .perform (.own .dropShare) fun last =>
      Worker.thread (if last then atWork release else .done ()) := rfl

theorem ownerThread_perform (op : Op) (next : Reply op → Program Op Reply β) (release : Program Op Reply Unit) :
    ownerThread (.perform op next) release = .perform (.own (.work op)) fun r => ownerThread (next r) release := rfl

theorem ownerThread_done (b : β) (release : Program Op Reply Unit) :
    ownerThread (.done b : Program Op Reply β) release = letGo release >>= fun _ => .done b := rfl

section Runs
variable {isRelease} {effect : Bool → Side ι → (op : Op) → σ → Reply op → σ → Prop}
  {environment : σ → σ → Prop} {release : Program Op Reply Unit} {c d : SharedConfig Reply α σ}
  {l : SharedLabel ι Reply}

/-- The other threads, or the resource, do not matter to the worker. -/
theorem Working.frame (h : Working isRelease release c) (thread : d.threads .worker = c.threads .worker)
    (shares : d.shared.inner.shares = c.shared.inner.shares) (finished : d.shared.finished = c.shared.finished) :
    Working isRelease release d := by
  cases h with
  | running γ p plain h hshares unfinished =>
    exact .running γ p plain (thread.trans h) (shares.trans hshares) (finished.trans unfinished)
  | dropped h hshares unfinished =>
    exact .dropped (thread.trans h) (shares.trans hshares) (finished.trans unfinished)
  | ended h hshares => exact .ended (thread.trans h) (shares.trans hshares)

theorem holding_begun [Fintype ι] {clients : (i : ι) → Program Op Reply (α i)} {p : Program Op Reply γ} {s : σ}
    (hclients : ∀ i, Uses (fun op => isRelease op = false) (clients i))
    (hp : Uses (fun op => isRelease op = false) p) :
    Holding isRelease release (begun clients p release s) [] :=
  .serving Finset.univ ⟨rfl, fun i _ => ⟨clients i, hclients i, rfl⟩, fun i hi => absurd (Finset.mem_univ i) hi,
    fun _ => Finset.univ_nonempty, .running γ p hp rfl rfl rfl⟩

theorem Holding.steps {t : List (Exchange Op Reply)} (h : Holding isRelease release c t) :
    ∃ rest, Steps release t rest := by
  cases h with
  | serving => exact ⟨release, .refl _⟩
  | closing i others closing =>
    cases closing with
    | releasing a rest thread releases steps worker => exact ⟨rest, steps⟩
    | _ => exact ⟨release, .refl _⟩

/-- Where all owners are done, so is the release. -/
theorem Holding.ended [Nonempty ι] {t : List (Exchange Op Reply)} (h : Holding isRelease release c t)
    (hdone : ∀ i, ∃ a, c.threads (.owner i) = .done a) : Steps release t (.done ()) := by
  cases h with
  | serving held serving =>
    obtain ⟨i, hi⟩ := serving.nonempty inferInstance
    obtain ⟨client, -, thread⟩ := serving.holding i hi
    obtain ⟨a, ha⟩ := hdone i
    rw [thread] at ha
    cases client <;> cases ha
  | closing i others closing =>
    obtain ⟨b, hb⟩ := hdone i
    cases closing with
    | stopping a thread worker => cases thread.symm.trans hb
    | joining a thread worker => cases thread.symm.trans hb
    | dropping a thread worker shares => cases thread.symm.trans hb
    | releasing a rest thread releases steps worker =>
      rw [thread] at hb
      cases rest with
      | done u => exact steps
      | crash m => cases hb
      | perform op next => cases hb

/-- Everybody but the last owner is done. -/
def Alone (c : SharedConfig Reply α σ) (i : ι) : Prop :=
  c.threads .worker = .done () ∧ ∀ j, j ≠ i → ∃ a, c.threads (.owner j) = .done a

/-- Where the release has begun, the last owner is alone with it. -/
theorem Holding.alone {t : List (Exchange Op Reply)} (h : Holding isRelease release c t) (ht : t ≠ []) :
    ∃ (i : ι) (a : α i) (rest : Program Op Reply Unit), Alone c i ∧
      c.threads (.owner i) = (Worker.working (atWork rest) >>= fun _ => .done a) ∧
      Uses (fun op => isRelease op = true) rest := by
  cases h with
  | serving => exact absurd rfl ht
  | closing i others closing =>
    cases closing with
    | releasing a rest thread releases steps worker => exact ⟨i, a, rest, ⟨worker, others⟩, thread, releases⟩
    | _ => exact absurd rfl ht

/-! ## One step, and a run -/

variable [DecidableEq ι]

theorem Working.step {op : WorkerOp (SharedOp Op)} {r : WorkerOp.Reply (SharedOp.Reply Reply) op}
    {next : WorkerOp.Reply (SharedOp.Reply Reply) op → ThreadProg Reply Unit} {s : WorkerState (SharedState σ)}
    (h : Working isRelease release c) (head : c.threads .worker = .perform op next)
    (heffect : Worker.Effect (Effect effect) Side.worker op c.shared r s) :
    Working isRelease release ⟨Function.update c.threads .worker (next r), s⟩ ∧
      s.inner.handles = c.shared.inner.handles ∧
      releaseOf isRelease (.thread .worker op r : SharedLabel ι Reply) = none := by
  cases h with
  | running γ p plain thread shares unfinished =>
    rw [thread] at head
    cases p with
    | crash m => cases head
    | done b =>
      rw [workerThread_done] at head
      cases head
      cases heffect with
      | own own =>
        cases own
        rw [shares]
        exact ⟨.dropped rfl rfl unfinished, rfl, rfl⟩
    | perform op' next' =>
      rw [workerThread_perform] at head
      cases head
      cases heffect with
      | own own =>
        cases own
        refine ⟨.running γ (next' r) (plain.2 r) rfl shares unfinished, rfl, ?_⟩
        rw [releaseOf, plain.1]
        rfl
  | dropped thread shares unfinished =>
    rw [thread] at head
    cases head
    cases heffect
    exact ⟨.ended rfl shares, rfl, rfl⟩
  | ended thread shares =>
    rw [thread] at head
    cases head

theorem others_update {i j : ι} (hj : j ≠ i) {p : ThreadProg Reply (α i)}
    (h : ∃ a, c.threads (.owner j) = .done a) :
    ∃ a, Function.update c.threads (.owner i) p (.owner j) = .done a := by
  obtain ⟨a, ha⟩ := h
  exact ⟨a, (Function.update_of_ne (fun heq => hj (Side.owner.inj heq)) _ _).trans ha⟩

/-- A step of an owner that holds the handle: it goes on, or lets go. -/
theorem Serving.step {held : Finset ι} {i : ι} {op : WorkerOp (SharedOp Op)}
    {r : WorkerOp.Reply (SharedOp.Reply Reply) op} {s : WorkerState (SharedState σ)}
    {next : WorkerOp.Reply (SharedOp.Reply Reply) op → ThreadProg Reply (α i)}
    (h : Serving isRelease release held c) (head : c.threads (.owner i) = .perform op next)
    (heffect : Worker.Effect (Effect effect) (Side.owner i) op c.shared r s) :
    Holding isRelease release ⟨Function.update c.threads (.owner i) (next r), s⟩
      (releaseOf isRelease (.thread (Side.owner i) op r)).toList := by
  have hheld : i ∈ held := by
    by_contra hgone
    obtain ⟨a, ha⟩ := h.gone i hgone
    cases ha.symm.trans head
  obtain ⟨client, plain, thread⟩ := h.holding i hheld
  rw [thread] at head
  cases client with
  | crash m => cases head
  | perform op' next' =>
    rw [ownerThread_perform] at head
    cases head
    cases heffect with
    | own own =>
      cases own
      have hnone : releaseOf isRelease (.thread (Side.owner i) (.own (.work op')) r) = none := by
        rw [releaseOf, plain.1]
        rfl
      rw [hnone]
      refine .serving held ⟨h.handles, fun j hj => ?_, fun j hj => ?_, h.nonempty, h.worker.frame rfl rfl rfl⟩
      · by_cases hji : j = i
        · subst hji
          exact ⟨next' r, plain.2 r, Function.update_self ..⟩
        · obtain ⟨client, hplain, hthread⟩ := h.holding j hj
          exact ⟨client, hplain, (Function.update_of_ne (fun heq => hji (Side.owner.inj heq)) _ _).trans hthread⟩
      · exact others_update (fun heq : j = i => hj (heq ▸ hheld)) (h.gone j hj)
  | done a =>
    rw [ownerThread_done] at head
    cases head
    cases heffect with
    | own own =>
      cases own
      rw [h.handles]
      by_cases hlast : held.card = 1
      · -- nobody else holds it
        obtain ⟨k, hk⟩ := Finset.card_eq_one.mp hlast
        obtain rfl : i = k := Finset.mem_singleton.mp (hk ▸ hheld)
        rw [hlast]
        refine .closing i (fun j hj => others_update hj (h.gone j ?_)) ?_
        · rw [hk, Finset.mem_singleton]
          exact hj
        · exact .stopping a (Function.update_self ..) (h.worker.frame rfl rfl rfl)
      · have hreply : (held.card == 1) = false := beq_eq_false_iff_ne.mpr hlast
        rw [hreply]
        have hpos : 0 < held.card := Finset.card_pos.mpr ⟨i, hheld⟩
        refine .serving (held.erase i) ⟨(Finset.card_erase_of_mem hheld).symm, fun j hj => ?_, fun j hj => ?_,
          fun _ => ?_, h.worker.frame rfl rfl rfl⟩
        · obtain ⟨hji, hj⟩ := Finset.mem_erase.mp hj
          obtain ⟨client, hplain, hthread⟩ := h.holding j hj
          exact ⟨client, hplain, (Function.update_of_ne (fun heq => hji (Side.owner.inj heq)) _ _).trans hthread⟩
        · by_cases hji : j = i
          · subst hji
            exact ⟨a, Function.update_self ..⟩
          · exact others_update hji (h.gone j fun hmem => hj (Finset.mem_erase.mpr ⟨hji, hmem⟩))
        · refine Finset.card_pos.mp ?_
          rw [Finset.card_erase_of_mem hheld]
          omega

/-- A step of the last owner. -/
theorem Closing.step {t : List (Exchange Op Reply)} {i : ι} {op : WorkerOp (SharedOp Op)}
    {r : WorkerOp.Reply (SharedOp.Reply Reply) op} {s : WorkerState (SharedState σ)}
    {next : WorkerOp.Reply (SharedOp.Reply Reply) op → ThreadProg Reply (α i)}
    (hrelease : Uses (fun op => isRelease op = true) release)
    (h : Closing isRelease release i c t) (head : c.threads (.owner i) = .perform op next)
    (heffect : Worker.Effect (Effect effect) (Side.owner i) op c.shared r s) :
    Closing isRelease release i ⟨Function.update c.threads (.owner i) (next r), s⟩
      (t ++ (releaseOf isRelease (.thread (Side.owner i) op r)).toList) := by
  cases h with
  | stopping a thread worker =>
    rw [thread] at head
    cases head
    cases heffect
    exact .joining a (Function.update_self ..) (worker.frame rfl rfl rfl)
  | joining a thread worker =>
    rw [thread] at head
    cases head
    cases heffect with
    | join finished =>
      -- the worker has signalled its end
      cases worker with
      | running γ p plain h shares unfinished =>
        rw [unfinished] at finished
        cases finished
      | dropped h shares unfinished =>
        rw [unfinished] at finished
        cases finished
      | ended h shares => exact .dropping a (Function.update_self ..) h shares
  | dropping a thread worker shares =>
    rw [thread] at head
    cases head
    cases heffect with
    | own own =>
      cases own
      rw [shares]
      exact .releasing a release (Function.update_self ..) hrelease (.refl _) worker
  | releasing a rest thread releases steps worker =>
    rw [thread] at head
    cases rest with
    | done u => cases head
    | crash m => cases head
    | perform op' next' =>
      cases head
      cases heffect with
      | own own =>
        cases own
        have hsome : releaseOf isRelease (.thread (Side.owner i) (.own (.work op')) r) = some ⟨op', r⟩ := by
          rw [releaseOf, releases.1]
          rfl
        rw [hsome]
        exact .releasing a (next' r) (Function.update_self ..) (releases.2 r)
          (steps.trans (Program.steps_perform.mpr (.inr ⟨r, [], rfl, .refl _⟩))) worker

/-- A step of the worker leaves the owners where they are. -/
theorem Holding.step_worker {t : List (Exchange Op Reply)} {op : WorkerOp (SharedOp Op)}
    {r : WorkerOp.Reply (SharedOp.Reply Reply) op} {s : WorkerState (SharedState σ)}
    {next : WorkerOp.Reply (SharedOp.Reply Reply) op → ThreadProg Reply Unit}
    (h : Holding isRelease release c t) (head : c.threads .worker = .perform op next)
    (heffect : Worker.Effect (Effect effect) Side.worker op c.shared r s) :
    Holding isRelease release ⟨Function.update c.threads .worker (next r), s⟩
      (t ++ (releaseOf isRelease (.thread .worker op r : SharedLabel ι Reply)).toList) := by
  cases h with
  | serving held serving =>
    obtain ⟨hworker, hhandles, hnone⟩ := serving.worker.step head heffect
    rw [hnone]
    exact .serving held ⟨hhandles.trans serving.handles, serving.holding, serving.gone, serving.nonempty, hworker⟩
  | closing i others closing =>
    cases closing with
    | stopping a thread worker =>
      obtain ⟨hworker, -, hnone⟩ := worker.step head heffect
      rw [hnone]
      exact .closing i others (.stopping a thread hworker)
    | joining a thread worker =>
      obtain ⟨hworker, -, hnone⟩ := worker.step head heffect
      rw [hnone]
      exact .closing i others (.joining a thread hworker)
    | dropping a thread worker shares => cases worker.symm.trans head
    | releasing a rest thread releases steps worker => cases worker.symm.trans head

theorem Holding.step {t : List (Exchange Op Reply)} (hrelease : Uses (fun op => isRelease op = true) release)
    (h : Holding isRelease release c t) (hstep : (world effect environment).Step c l d) :
    Holding isRelease release d (t ++ (releaseOf isRelease l).toList) := by
  cases hstep with
  | environment heffect =>
    obtain ⟨inner, ⟨t', -, rfl⟩, rfl⟩ := heffect
    have hnone : releaseOf isRelease (.environment : SharedLabel ι Reply) = none := rfl
    rw [hnone, Option.toList_none, List.append_nil]
    cases h with
    | serving held serving =>
      exact .serving held ⟨serving.handles, serving.holding, serving.gone, serving.nonempty,
        serving.worker.frame rfl rfl rfl⟩
    | closing i others closing =>
      cases closing with
      | stopping a thread worker => exact .closing i others (.stopping a thread (worker.frame rfl rfl rfl))
      | joining a thread worker => exact .closing i others (.joining a thread (worker.frame rfl rfl rfl))
      | dropping a thread worker shares => exact .closing i others (.dropping a thread worker shares)
      | releasing a rest thread releases steps worker =>
        exact .closing i others (.releasing a rest thread releases steps worker)
  | @thread side op next r s head heffect =>
    cases side with
    | worker => exact h.step_worker head heffect
    | owner j =>
      cases h with
      | serving held serving => exact serving.step head heffect
      | closing i others closing =>
        by_cases hji : j = i
        · subst hji
          exact .closing j (fun k hk => others_update hk (others k hk)) (closing.step hrelease head heffect)
        · obtain ⟨a, ha⟩ := others j hji
          cases ha.symm.trans head

theorem Holding.run {t : List (Exchange Op Reply)} {ls : List (SharedLabel ι Reply)}
    (hrelease : Uses (fun op => isRelease op = true) release) (h : Holding isRelease release c t)
    (hrun : (world effect environment).Run c ls d) :
    Holding isRelease release d (t ++ released isRelease ls) := by
  induction hrun generalizing t with
  | refl c => simpa [released] using h
  | @cons c e d l ls step _ ih =>
    have hl : released isRelease (l :: ls) = (releaseOf isRelease l).toList ++ released isRelease ls := by
      rw [released, List.filterMap_cons]
      cases releaseOf isRelease l <;> rfl
    rw [hl, ← List.append_assoc]
    exact ih (h.step hrelease step)

/-- From then on nothing but the release goes on. -/
theorem Holding.only_releases {t : List (Exchange Op Reply)} {ls : List (SharedLabel ι Reply)}
    (hrelease : Uses (fun op => isRelease op = true) release) (h : Holding isRelease release c t) (ht : t ≠ [])
    (hrun : (world effect environment).Run c ls d) : ∀ l ∈ ls, OnlyReleases isRelease l := by
  induction hrun generalizing t with
  | refl c => simp
  | @cons c e d l ls step _ ih =>
    refine List.forall_mem_cons.mpr ⟨?_, ih (h.step hrelease step) (by simp [ht])⟩
    obtain ⟨i, a, rest, ⟨worker, others⟩, thread, releases⟩ := h.alone ht
    cases step with
    | environment heffect => trivial
    | @thread side op next r s head heffect =>
      cases side with
      | worker => cases worker.symm.trans head
      | owner j =>
        by_cases hji : j = i
        · subst hji
          rw [thread] at head
          cases rest with
          | done u => cases head
          | crash m => cases head
          | perform op' next' =>
            cases head
            exact releases.1
        · obtain ⟨b, hb⟩ := others j hji
          cases hb.symm.trans head

/-- Whatever the interleaving, the release runs at most once and from its start, it is done when the owners are, and
it begins when everybody but one owner is done, so that behind its first operation nobody does anything else with the
resource. -/
theorem released_after_use [Fintype ι] {clients : (i : ι) → Program Op Reply (α i)} {p : Program Op Reply γ} {s : σ}
    {ls : List (SharedLabel ι Reply)} (hclients : ∀ i, Uses (fun op => isRelease op = false) (clients i))
    (hp : Uses (fun op => isRelease op = false) p) (hrelease : Uses (fun op => isRelease op = true) release)
    (h : (world effect environment).Run (begun clients p release s) ls d) :
    (∃ rest, Steps release (released isRelease ls) rest) ∧
    (Nonempty ι → (∀ i, ∃ a, d.threads (.owner i) = .done a) → Steps release (released isRelease ls) (.done ())) ∧
    (released isRelease ls ≠ [] → ∃ i, Alone d i) ∧
    ∀ before l after, ls = before ++ l :: after → releaseOf isRelease l ≠ none →
      ∀ l' ∈ after, OnlyReleases isRelease l' := by
  have hbegun : Holding isRelease release (begun clients p release s) [] := holding_begun hclients hp
  have hend : Holding isRelease release d (released isRelease ls) := hbegun.run hrelease h
  refine ⟨hend.steps, fun _ hdone => hend.ended hdone, fun hne => ?_, ?_⟩
  · obtain ⟨i, a, rest, halone, -⟩ := hend.alone hne
    exact ⟨i, halone⟩
  · rintro before l after rfl hl
    obtain ⟨e, hbefore, hafter⟩ := h.split
    cases hafter with
    | cons step hrest =>
      have hnext := (hbegun.run hrelease hbefore).step hrelease step
      refine hnext.only_releases hrelease ?_ hrest
      cases hlr : releaseOf isRelease l with
      | none => exact absurd hlr hl
      | some x => simp

end Runs

end Threads
end Shared
end Libobsbot.Foundations

import Libobsbot.Foundations.Interleaving

/-! # Calls under a lock

Threads make calls; a call is a program run under one lock, or a single operation without it. Where what
the threads share is touched under the lock only, a run of the threads is a run in which each call
happens at once: `Mutex.run_atomic`.
-/

namespace Libobsbot.Foundations
set_option autoImplicit false

inductive MutexOp (Op : Type) where
  | lock
  | unlock
  | own (op : Op)

abbrev MutexOp.Reply {Op : Type} (Reply : Op → Type) : MutexOp Op → Type
  | .lock => Unit
  | .unlock => Unit
  | .own op => Reply op

structure MutexState (ι σ : Type) where
  holder : Option ι
  inner : σ

namespace Mutex
open Program (Steps Exchange)

variable {Op : Type} {Reply : Op → Type} {α β σ ι : Type}

abbrev Prog (Reply : Op → Type) (α : Type) : Type := Program (MutexOp Op) (MutexOp.Reply Reply) α

def working (p : Program Op Reply α) : Prog Reply α :=
  p.translate fun op => .perform (.own op) .done

/-- The rest of a critical section, up to the release of the lock. -/
def releasing (body : Program Op Reply α) : Prog Reply α :=
  working body >>= fun a => .perform .unlock fun _ => .done a

def critical (body : Program Op Reply α) : Prog Reply α := .perform .lock fun _ => releasing body

/-- How a call is carried out. -/
inductive Carried (Reply : Op → Type) (α : Type) where
  | critical (body : Program Op Reply α)
  | plain (op : Op) (result : Reply op → α)

def Carried.program : Carried Reply α → Prog Reply α
  | .critical body => Mutex.critical body
  | .plain op result => .perform (.own op) fun r => .done (result r)

/-- What the call does, the lock left out. -/
def Carried.body : Carried Reply α → Program Op Reply α
  | .critical body => body
  | .plain op result => .perform op fun r => .done (result r)

/-! ## The threads -/

section Worlds
variable {Call : Type} {Result : Call → Type}

/-- Anyone may release the lock here; that only its holder does is proved. -/
inductive Effect (effect : (op : Op) → σ → Reply op → σ → Prop) (i : ι) :
    (op : MutexOp Op) → MutexState ι σ → MutexOp.Reply Reply op → MutexState ι σ → Prop
  | lock {s : MutexState ι σ} (free : s.holder = none) : Effect effect i .lock s () { s with holder := some i }
  | unlock (s : MutexState ι σ) : Effect effect i .unlock s () { s with holder := none }
  | own {op : Op} {r : Reply op} {s : MutexState ι σ} {t : σ} (own : effect op s.inner r t) :
      Effect effect i (.own op) s r { s with inner := t }

def world (effect : (op : Op) → σ → Reply op → σ → Prop) :
    World ι (MutexOp Op) (MutexOp.Reply Reply) (MutexState ι σ) where
  perform := Effect effect
  environment _ _ := False

/-- The operations of `t`, one after the other, take the state to the second one. -/
def Performed (effect : (op : Op) → σ → Reply op → σ → Prop) : σ → List (Exchange Op Reply) → σ → Prop
  | s, [], s' => s = s'
  | s, ⟨op, r⟩ :: t, s' => ∃ mid, effect op s r mid ∧ Performed effect mid t s'

/-- A call that happens at once. -/
def AtOnce (effect : (op : Op) → σ → Reply op → σ → Prop) (s : σ) (r : α) (s' : σ) : Carried Reply α → Prop
  | .critical body => ∃ t, Steps body t (.done r) ∧ Performed effect s t s'
  | .plain op result => ∃ r', effect op s r' s' ∧ result r' = r

def atomicWorld (effect : (op : Op) → σ → Reply op → σ → Prop)
    (carry : (call : Call) → Carried Reply (Result call)) : World ι Call Result σ where
  perform _ call s r s' := AtOnce effect s r s' (carry call)
  environment _ _ := False

/-- A plain operation neither changes what is shared nor depends on it. -/
def PlainQuiet (effect : (op : Op) → σ → Reply op → σ → Prop)
    (carry : (call : Call) → Carried Reply (Result call)) : Prop :=
  ∀ call op result, carry call = .plain op result → ∀ s r s', effect op s r s' →
    s' = s ∧ ∀ t, effect op t r t

theorem performed_snoc {effect : (op : Op) → σ → Reply op → σ → Prop} {s s' s'' : σ}
    {t : List (Exchange Op Reply)} {op : Op} {r : Reply op} (h : Performed effect s t s')
    (hop : effect op s' r s'') : Performed effect s (t ++ [⟨op, r⟩]) s'' := by
  induction t generalizing s with
  | nil =>
    have heq : s = s' := h
    subst heq
    exact ⟨s'', hop, rfl⟩
  | cons x t ih =>
    obtain ⟨mid, hfirst, hrest⟩ := h
    exact ⟨mid, hfirst, ih hrest⟩

section AtOnce
variable {effect : (op : Op) → σ → Reply op → σ → Prop} {s s' : σ} {r : α}

theorem atOnce_done {a : α} : AtOnce effect s r s' (.critical (.done a)) ↔ r = a ∧ s' = s := by
  constructor
  · rintro ⟨t, hsteps, hperformed⟩
    obtain ⟨rfl, hdone⟩ := Program.steps_done.mp hsteps
    cases hdone
    cases hperformed
    exact ⟨rfl, rfl⟩
  · rintro ⟨rfl, rfl⟩
    exact ⟨[], .refl _, rfl⟩

/-- Under the lock, a call of one operation. -/
theorem atOnce_one {op : Op} {f : Reply op → α} :
    AtOnce effect s r s' (.critical (.perform op fun x => .done (f x))) ↔ ∃ x, effect op s x s' ∧ r = f x := by
  constructor
  · rintro ⟨t, hsteps, hperformed⟩
    obtain ⟨-, hopen⟩ | ⟨x, u, rfl, hu⟩ := Program.steps_perform.mp hsteps
    · cases hopen
    obtain ⟨rfl, hdone⟩ := Program.steps_done.mp hu
    cases hdone
    obtain ⟨mid, heffect, hsame⟩ := hperformed
    cases hsame
    exact ⟨x, heffect, rfl⟩
  · rintro ⟨x, heffect, rfl⟩
    exact ⟨[⟨op, x⟩], .perform x (.refl _), s', heffect, rfl⟩

end AtOnce

/-- What a machine that answers does to the shared state. -/
def answering (answer : (op : Op) → σ → Reply op × σ) (op : Op) (s : σ) (r : Reply op) (s' : σ) : Prop :=
  answer op s = (r, s')

theorem performed_answering {answer : (op : Op) → σ → Reply op × σ} {s s' : σ} {t : List (Exchange Op Reply)} :
    Performed (answering answer) s t s' ↔ Program.Answered answer s t s' := by
  induction t generalizing s with
  | nil => exact Iff.rfl
  | cons x t ih =>
    obtain ⟨op, r⟩ := x
    constructor
    · rintro ⟨mid, hfirst, hrest⟩
      have heq : answer op s = (r, mid) := hfirst
      refine ⟨(congrArg Prod.fst heq).symm, ?_⟩
      rw [heq]
      exact ih.mp hrest
    · rintro ⟨rfl, hrest⟩
      exact ⟨_, rfl, ih.mpr hrest⟩

/-- Before a machine that answers, a call that happens at once is a run of its body. -/
theorem atOnce_answering {answer : (op : Op) → σ → Reply op × σ} {s s' : σ} {r : α} {call : Carried Reply α} :
    AtOnce (answering answer) s r s' call ↔ call.body.run answer s = (.ok r, s') := by
  cases call with
  | critical body =>
    rw [Carried.body, Program.run_eq_ok_iff]
    exact exists_congr fun t => and_congr_right fun _ => performed_answering
  | plain op result =>
    constructor
    · rintro ⟨r', heffect, rfl⟩
      have heq : answer op s = (r', s') := heffect
      rw [Carried.body, Program.run_perform, heq, Program.run_done]
    · intro h
      rw [Carried.body, Program.run_perform, Program.run_done] at h
      cases h
      exact ⟨_, rfl, rfl⟩

/-! ## The calls one at a time -/

variable (carry : (call : Call) → Carried Reply (Result call))

/-- A thread's calls, carried out. -/
def client (p : Program Call Result α) : Prog Reply α := p.translate fun call => (carry call).program

variable {carry} {effect : (op : Op) → σ → Reply op → σ → Prop} {γ : ι → Type}

/-- A thread in its critical section: what its call has done since `s`, and what is left of it. -/
def Inside (effect : (op : Op) → σ → Reply op → σ → Prop) (carry : (call : Call) → Carried Reply (Result call))
    (s s' : σ) (p : Prog Reply α) (p' : Program Call Result α) : Prop :=
  ∃ call next body t rest, p' = .perform call next ∧ carry call = .critical body ∧ Steps body t rest ∧
    Performed effect s t s' ∧ p = releasing rest >>= fun r => client carry (next r)

/-- The run of single operations next to the run of whole calls: they differ in the holder's call, which has
yet to happen in the second. -/
structure Matches (effect : (op : Op) → σ → Reply op → σ → Prop)
    (carry : (call : Call) → Carried Reply (Result call))
    (c : Config ι (MutexOp Op) (MutexOp.Reply Reply) γ (MutexState ι σ)) (c' : Config ι Call Result γ σ) :
    Prop where
  outside : ∀ i, c.shared.holder ≠ some i → c.threads i = client carry (c'.threads i)
  inside : ∀ i, c.shared.holder = some i →
    Inside effect carry c'.shared c.shared.inner (c.threads i) (c'.threads i)
  free : c.shared.holder = none → c.shared.inner = c'.shared

theorem client_critical {call : Call} {next : Result call → Program Call Result α}
    {body : Program Op Reply (Result call)} (h : carry call = .critical body) :
    client carry (.perform call next) = .perform .lock fun _ => releasing body >>= fun r => client carry (next r) := by
  show (carry call).program >>= _ = _
  rw [h]
  rfl

theorem client_plain {call : Call} {next : Result call → Program Call Result α} {op : Op}
    {result : Reply op → Result call} (h : carry call = .plain op result) :
    client carry (.perform call next) = .perform (.own op) fun r => client carry (next (result r)) := by
  show (carry call).program >>= _ = _
  rw [h]
  rfl

/-- Nobody holds the lock and nobody has made a call yet. -/
theorem matches_start {p : (i : ι) → Program Call Result (γ i)} {s : σ} :
    Matches effect carry ⟨fun i => client carry (p i), ⟨none, s⟩⟩ ⟨p, s⟩ :=
  ⟨fun _ _ => rfl, fun _ hi => absurd hi (by simp), fun _ => rfl⟩

theorem client_eq_done {p : Program Call Result α} {a : α} (h : client carry p = .done a) : p = .done a := by
  cases p with
  | done b =>
    cases h
    rfl
  | crash m => cases h
  | perform call next =>
    cases hcarry : carry call with
    | critical body =>
      rw [client_critical hcarry] at h
      cases h
    | plain op result =>
      rw [client_plain hcarry] at h
      cases h

/-- A thread that is done is done in the other run too, with the same value. -/
theorem Matches.done {c : Config ι (MutexOp Op) (MutexOp.Reply Reply) γ (MutexState ι σ)}
    {c' : Config ι Call Result γ σ} (h : Matches effect carry c c') {i : ι} {a : γ i}
    (hi : c.threads i = .done a) : c'.threads i = .done a := by
  by_cases hholder : c.shared.holder = some i
  · obtain ⟨call, next, body, t, rest, -, -, -, -, hleft⟩ := h.inside i hholder
    rw [hi] at hleft
    cases rest <;> cases hleft
  · exact client_eq_done ((h.outside i hholder).symm.trans hi)

/-- Where all threads are done, the lock is free and the shared states are one. -/
theorem Matches.shared {c : Config ι (MutexOp Op) (MutexOp.Reply Reply) γ (MutexState ι σ)}
    {c' : Config ι Call Result γ σ} (h : Matches effect carry c c') (hdone : ∀ i, ∃ a, c.threads i = .done a) :
    c.shared.inner = c'.shared := by
  refine h.free ?_
  cases hholder : c.shared.holder with
  | none => rfl
  | some i =>
    obtain ⟨call, next, body, t, rest, -, -, -, -, hleft⟩ := h.inside i hholder
    obtain ⟨a, ha⟩ := hdone i
    rw [ha] at hleft
    cases rest <;> cases hleft

/-! ## One step, and a run -/

variable [DecidableEq ι]

/-- What holds of the others and of one thread's new program holds of all. -/
theorem outside_update {threads : (i : ι) → Prog Reply (γ i)} {threads' : (i : ι) → Program Call Result (γ i)}
    {i : ι} {p : Prog Reply (γ i)} {p' : Program Call Result (γ i)} (hself : p = client carry p')
    (hothers : ∀ j, j ≠ i → threads j = client carry (threads' j)) (j : ι) :
    Function.update threads i p j = client carry (Function.update threads' i p' j) := by
  by_cases hj : j = i
  · subst hj
    rw [Function.update_self, Function.update_self, hself]
  · rw [Function.update_of_ne hj, Function.update_of_ne hj, hothers j hj]

section Step
variable {c d : Config ι (MutexOp Op) (MutexOp.Reply Reply) γ (MutexState ι σ)} {c' : Config ι Call Result γ σ}
  {i : ι} {op : MutexOp Op} {next : MutexOp.Reply Reply op → Prog Reply (γ i)} {r : MutexOp.Reply Reply op}
  {m : MutexState ι σ}

/-- A step of the thread that holds the lock. -/
theorem Matches.step_inside (h : Matches effect carry c c') (hi : c.shared.holder = some i)
    (head : c.threads i = .perform op next) (heffect : Effect effect i op c.shared r m) :
    Matches effect carry ⟨Function.update c.threads i (next r), m⟩ c' ∨
      ∃ l' d', (atomicWorld effect carry).Step c' l' d' ∧
        Matches effect carry ⟨Function.update c.threads i (next r), m⟩ d' := by
  obtain ⟨threads, holder, inner⟩ := c
  obtain ⟨threads', s⟩ := c'
  obtain ⟨houtside, hinside, -⟩ := h
  dsimp only at houtside hinside hi head heffect ⊢
  subst hi
  obtain ⟨call, next', body, t, rest, hcall, hcarry, hsteps, hperformed, hleft⟩ := hinside i rfl
  have hothers : ∀ j, j ≠ i → threads j = client carry (threads' j) :=
    fun j hj => houtside j fun he => hj (Option.some.inj he).symm
  cases rest with
  | crash m => exact absurd (hleft.symm.trans head) (by intro he; cases he)
  | done a =>
    -- the lock is released: the call happens now
    cases hleft.symm.trans head
    cases heffect
    have hcalled : AtOnce effect s a inner (carry call) := by
      rw [hcarry]
      exact ⟨t, hsteps, hperformed⟩
    refine .inr ⟨.thread i call a, ⟨Function.update threads' i (next' a), inner⟩, .thread hcall hcalled, ?_⟩
    exact ⟨fun j _ => outside_update rfl hothers j, fun j hj => by simp at hj, fun _ => rfl⟩
  | perform op' n =>
    cases hleft.symm.trans head
    cases heffect with
    | own hown =>
      refine .inl ⟨fun j hj => ?_, fun j hj => ?_, fun hnone => by simp at hnone⟩
      · have hne : j ≠ i := fun he => hj (congrArg some he.symm)
        exact (Function.update_of_ne hne _ _).trans (hothers j hne)
      · cases hj
        have hsteps' : Steps body (t ++ [⟨op', r⟩]) (n r) :=
          hsteps.trans (Program.steps_perform.mpr (.inr ⟨r, [], rfl, .refl _⟩))
        exact ⟨call, next', body, _, n r, hcall, hcarry, hsteps', performed_snoc hperformed hown,
          Function.update_self ..⟩

/-- A step of a thread outside: it takes the lock, or its call is a plain one. -/
theorem Matches.step_outside (hquiet : PlainQuiet effect carry) (h : Matches effect carry c c')
    (hi : c.shared.holder ≠ some i) (head : c.threads i = .perform op next)
    (heffect : Effect effect i op c.shared r m) :
    Matches effect carry ⟨Function.update c.threads i (next r), m⟩ c' ∨
      ∃ l' d', (atomicWorld effect carry).Step c' l' d' ∧
        Matches effect carry ⟨Function.update c.threads i (next r), m⟩ d' := by
  obtain ⟨threads, holder, inner⟩ := c
  obtain ⟨threads', s⟩ := c'
  obtain ⟨houtside, hinside, hfree⟩ := h
  dsimp only at houtside hinside hfree hi head heffect ⊢
  have hthread := houtside i hi
  cases hp : threads' i with
  | done a => exact absurd ((hp ▸ hthread).symm.trans head) (by intro he; cases he)
  | crash m => exact absurd ((hp ▸ hthread).symm.trans head) (by intro he; cases he)
  | perform call next' =>
    rw [hp] at hthread
    cases hcarry : carry call with
    | critical body =>
      rw [client_critical hcarry] at hthread
      cases hthread.symm.trans head
      cases heffect with
      | lock free =>
        dsimp only at free
        subst free
        refine .inl ⟨fun j hj => ?_, fun j hj => ?_, fun hnone => by simp at hnone⟩
        · have hne : j ≠ i := fun he => hj (congrArg some he.symm)
          exact (Function.update_of_ne hne _ _).trans (houtside j (by simp))
        · cases hj
          exact ⟨call, next', body, [], body, hp, hcarry, .refl _, (hfree rfl).symm, Function.update_self ..⟩
    | plain op' result =>
      rw [client_plain hcarry] at hthread
      cases hthread.symm.trans head
      cases heffect with
      | own hown =>
        obtain ⟨rfl, hanywhere⟩ := hquiet call op' result hcarry _ _ _ hown
        have hcalled : AtOnce effect s (result r) s (carry call) := by
          rw [hcarry]
          exact ⟨r, hanywhere s, rfl⟩
        refine .inr ⟨.thread i call (result r), ⟨Function.update threads' i (next' (result r)), s⟩,
          .thread hp hcalled, ?_, ?_, hfree⟩
        · intro j hj
          by_cases hji : j = i
          · subst hji
            show Function.update threads j _ j = client carry (Function.update threads' j _ j)
            rw [Function.update_self, Function.update_self]
          · exact (Function.update_of_ne hji _ _).trans
              ((houtside j hj).trans (congrArg (client carry) (Function.update_of_ne hji _ _).symm))
        · intro j hj
          have hji : j ≠ i := by
            rintro rfl
            exact hi hj
          simpa only [Function.update_of_ne hji] using hinside j hj

/-- A step is hidden in a call that has yet to happen, or it is the moment at which a call happens. -/
theorem Matches.step (hquiet : PlainQuiet effect carry) {l : Label ι (MutexOp Op) (MutexOp.Reply Reply)}
    (h : Matches effect carry c c') (hstep : (world effect).Step c l d) : Matches effect carry d c' ∨
      ∃ l' d', (atomicWorld effect carry).Step c' l' d' ∧ Matches effect carry d d' := by
  cases hstep with
  | environment hmoves => exact hmoves.elim
  | @thread i op next r m head heffect =>
    by_cases hi : c.shared.holder = some i
    · exact h.step_inside hi head heffect
    · exact h.step_outside hquiet hi head heffect

end Step

/-- Every run is a run in which each call happens at once. -/
theorem run_atomic (hquiet : PlainQuiet effect carry)
    {c d : Config ι (MutexOp Op) (MutexOp.Reply Reply) γ (MutexState ι σ)} {c' : Config ι Call Result γ σ}
    {ls : List (Label ι (MutexOp Op) (MutexOp.Reply Reply))} (hc : Matches effect carry c c')
    (h : (world effect).Run c ls d) :
    ∃ ls' d', (atomicWorld effect carry).Run c' ls' d' ∧ Matches effect carry d d' := by
  induction h generalizing c' with
  | refl c => exact ⟨[], c', .refl c', hc⟩
  | cons step _ ih =>
    obtain hhidden | ⟨l', d', hstep', hd⟩ := hc.step hquiet step
    · exact ih hhidden
    · obtain ⟨ls', e', hrun, he⟩ := ih hd
      exact ⟨l' :: ls', e', .cons hstep' hrun, he⟩

/-! ## Whole calls are runs too -/

/-- The lock is free and every thread is between two calls. -/
def between (c' : Config ι Call Result γ σ) (carry : (call : Call) → Carried Reply (Result call)) :
    Config ι (MutexOp Op) (MutexOp.Reply Reply) γ (MutexState ι σ) :=
  ⟨fun i => client carry (c'.threads i), ⟨none, c'.shared⟩⟩

theorem client_update (threads : (i : ι) → Program Call Result (γ i)) (i : ι) (p : Program Call Result (γ i)) :
    (fun j => client carry (Function.update threads i p j)) =
      Function.update (fun j => client carry (threads j)) i (client carry p) := by
  funext j
  by_cases hj : j = i
  · subst hj
    rw [Function.update_self, Function.update_self]
  · rw [Function.update_of_ne hj, Function.update_of_ne hj]

/-- The holder of the lock goes through its call undisturbed. -/
theorem run_inside {threads : (i : ι) → Prog Reply (γ i)} {i : ι} {k : α → Prog Reply (γ i)}
    {body rest : Program Op Reply α} {t : List (Exchange Op Reply)} {s s' : σ} (hsteps : Steps body t rest)
    (hperformed : Performed effect s t s') :
    ∃ ls, (world effect).Run ⟨Function.update threads i (releasing body >>= k), ⟨some i, s⟩⟩ ls
      ⟨Function.update threads i (releasing rest >>= k), ⟨some i, s'⟩⟩ := by
  induction hsteps generalizing s with
  | refl p =>
    have heq : s = s' := hperformed
    subst heq
    exact ⟨[], .refl _⟩
  | @perform op next r t q _ ih =>
    obtain ⟨mid, hop, hrest⟩ := hperformed
    obtain ⟨ls, hrun⟩ := ih hrest
    have hstep : (world effect).Step
        ⟨Function.update threads i (releasing (.perform op next) >>= k), ⟨some i, s⟩⟩ (.thread i (.own op) r)
        ⟨Function.update (Function.update threads i (releasing (.perform op next) >>= k)) i
          (releasing (next r) >>= k), ⟨some i, mid⟩⟩ :=
      .becomes (Function.update_self ..) (.own hop) rfl
    rw [Function.update_idem] at hstep
    exact ⟨_, .cons hstep hrun⟩

theorem run_of_step {c' d' : Config ι Call Result γ σ} {l' : Label ι Call Result}
    (hstep : (atomicWorld effect carry).Step c' l' d') :
    ∃ ls, (world effect).Run (between c' carry) ls (between d' carry) := by
  cases hstep with
  | environment hmoves => exact hmoves.elim
  | @thread i call next r s head heffect =>
    obtain ⟨threads', s₀⟩ := c'
    dsimp only at head heffect
    unfold between
    dsimp only
    rw [client_update]
    have hhead : client carry (threads' i) = client carry (.perform call next) := congrArg _ head
    have hcall : AtOnce effect s₀ r s (carry call) := heffect
    cases hcarry : carry call with
    | plain op result =>
      rw [hcarry] at hcall
      obtain ⟨r', hop, rfl⟩ := hcall
      rw [client_plain hcarry] at hhead
      exact ⟨_, .cons (.becomes hhead (.own hop) rfl) (.refl _)⟩
    | critical body =>
      rw [hcarry] at hcall
      obtain ⟨t, hsteps, hperformed⟩ := hcall
      rw [client_critical hcarry] at hhead
      have hlock := @World.Step.becomes _ _ _ _ _ _ (world effect) (fun j => client carry (threads' j)) ⟨none, s₀⟩
        ⟨some i, s₀⟩ i .lock _ () _ hhead (.lock rfl) rfl
      obtain ⟨ls, hinside⟩ := @run_inside _ _ _ _ _ effect γ _ (fun j => client carry (threads' j)) i
        (fun r => client carry (next r)) _ _ _ _ _ hsteps hperformed
      have hunlock : (world effect).Step
          ⟨Function.update (fun j => client carry (threads' j)) i
            (releasing (.done r) >>= fun r => client carry (next r)), ⟨some i, s⟩⟩ (.thread i .unlock ())
          ⟨Function.update (Function.update (fun j => client carry (threads' j)) i
            (releasing (.done r) >>= fun r => client carry (next r))) i (client carry (next r)), ⟨none, s⟩⟩ :=
        .becomes (Function.update_self ..) (.unlock _) rfl
      rw [Function.update_idem] at hunlock
      exact ⟨_, .cons hlock (hinside.snoc hunlock)⟩

/-- Every run in which each call happens at once is one that the threads can take. -/
theorem run_of_atomic {c' d' : Config ι Call Result γ σ} {ls' : List (Label ι Call Result)}
    (h : (atomicWorld effect carry).Run c' ls' d') :
    ∃ ls, (world effect).Run (between c' carry) ls (between d' carry) := by
  induction h with
  | refl c' => exact ⟨[], .refl _⟩
  | cons step _ ih =>
    obtain ⟨ls, hfirst⟩ := run_of_step step
    obtain ⟨ms, hrest⟩ := ih
    exact ⟨ls ++ ms, hfirst.trans hrest⟩

end Worlds
end Mutex
end Libobsbot.Foundations

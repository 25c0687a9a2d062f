import Libobsbot.Foundations.Program

/-! # Programs interleaved over shared state

Any number of threads run programs against one shared state. A `World` says what one operation of
one thread may do to the state and be answered, and what the state may do by itself. `Run` lists
every step taken; the library derives from it

* `Run.invariant`: what every step keeps, within the operations the threads use, holds in every state
  reached;
* `Run.steps`: a run, seen from one thread, is a run of that thread's own program;
* `Run.simulation`: a run of one world is a run of another, hidden steps left out.
-/

namespace Libobsbot.Foundations
set_option autoImplicit false

/-- What operations do to the shared state, and what it does on its own. -/
structure World (ι : Type) (Op : Type) (Reply : Op → Type) (σ : Type) where
  perform : ι → (op : Op) → σ → Reply op → σ → Prop
  environment : σ → σ → Prop

structure Config (ι : Type) (Op : Type) (Reply : Op → Type) (α : ι → Type) (σ : Type) where
  threads : (i : ι) → Program Op Reply (α i)
  shared : σ

inductive Label (ι : Type) (Op : Type) (Reply : Op → Type) where
  | thread (i : ι) (op : Op) (reply : Reply op)
  | environment

variable {ι : Type} [DecidableEq ι] {Op : Type} {Reply : Op → Type} {α : ι → Type} {σ : Type}

namespace Config

def set (c : Config ι Op Reply α σ) (i : ι) (p : Program Op Reply (α i)) (s : σ) :
    Config ι Op Reply α σ :=
  ⟨Function.update c.threads i p, s⟩

@[simp] theorem set_self (c : Config ι Op Reply α σ) (i : ι) (p : Program Op Reply (α i)) (s : σ) :
    (c.set i p s).threads i = p := Function.update_self ..

theorem set_of_ne (c : Config ι Op Reply α σ) {i j : ι} (h : j ≠ i) (p : Program Op Reply (α i)) (s : σ) :
    (c.set i p s).threads j = c.threads j := Function.update_of_ne h _ _

end Config

namespace Label

/-- The exchange of thread `i`, when the step is one of its own. -/
def exchangeOf (i : ι) : Label ι Op Reply → Option (Program.Exchange Op Reply)
  | .thread j op r => if j = i then some ⟨op, r⟩ else none
  | .environment => none

end Label

namespace World

inductive Step (W : World ι Op Reply σ) :
    Config ι Op Reply α σ → Label ι Op Reply → Config ι Op Reply α σ → Prop
  | thread {c : Config ι Op Reply α σ} {i : ι} {op : Op} {next : Reply op → Program Op Reply (α i)}
      {r : Reply op} {s : σ} (head : c.threads i = .perform op next)
      (effect : W.perform i op c.shared r s) :
      Step W c (.thread i op r) ⟨Function.update c.threads i (next r), s⟩
  | environment {c : Config ι Op Reply α σ} {s : σ} (effect : W.environment c.shared s) :
      Step W c .environment ⟨c.threads, s⟩

inductive Run (W : World ι Op Reply σ) :
    Config ι Op Reply α σ → List (Label ι Op Reply) → Config ι Op Reply α σ → Prop
  | refl (c : Config ι Op Reply α σ) : Run W c [] c
  | cons {c d e : Config ι Op Reply α σ} {l : Label ι Op Reply} {ls : List (Label ι Op Reply)}
      (step : Step W c l d) (rest : Run W d ls e) : Run W c (l :: ls) e

variable {W : World ι Op Reply σ}

/-- A thread's step, with what it becomes given by an equation. -/
theorem Step.becomes {threads : (i : ι) → Program Op Reply (α i)} {s s' : σ} {i : ι} {op : Op}
    {next : Reply op → Program Op Reply (α i)} {r : Reply op} {p : Program Op Reply (α i)}
    (head : threads i = .perform op next) (effect : W.perform i op s r s') (hp : next r = p) :
    Step W ⟨threads, s⟩ (.thread i op r) ⟨Function.update threads i p, s'⟩ := by
  subst hp
  exact .thread head effect

theorem Run.trans {c d e : Config ι Op Reply α σ} {ls ms : List (Label ι Op Reply)}
    (h : Run W c ls d) (h' : Run W d ms e) : Run W c (ls ++ ms) e := by
  induction h with
  | refl c => exact h'
  | cons step _ ih => exact .cons step (ih h')

theorem Run.snoc {c d e : Config ι Op Reply α σ} {ls : List (Label ι Op Reply)}
    {l : Label ι Op Reply} (h : Run W c ls d) (step : Step W d l e) : Run W c (ls ++ [l]) e :=
  h.trans (.cons step (.refl e))

/-- A run of one thread's program, by operations that leave the state as it is. -/
theorem Run.of_steps {c : Config ι Op Reply α σ} {i : ι} {q : Program Op Reply (α i)}
    {t : List (Program.Exchange Op Reply)} (h : Program.Steps (c.threads i) t q)
    (heffect : ∀ x ∈ t, W.perform i x.1 c.shared x.2 c.shared) :
    Run W c (t.map fun x => .thread i x.1 x.2) (c.set i q c.shared) := by
  obtain ⟨threads, s⟩ := c
  dsimp only at h heffect
  generalize hp : threads i = p at h
  induction h generalizing threads with
  | refl p =>
    rw [Config.set, ← hp, Function.update_eq_self]
    exact .refl _
  | @perform op next r t q _ ih =>
    obtain ⟨hfirst, hrest⟩ := List.forall_mem_cons.mp heffect
    have hnext := ih (Function.update threads i (next r)) hrest (Function.update_self ..)
    rw [Config.set, Function.update_idem] at hnext
    exact .cons (.thread hp hfirst) hnext

/-- No step makes a thread use more than it did. -/
theorem Step.uses {allowed : ι → Op → Prop} {c d : Config ι Op Reply α σ} {l : Label ι Op Reply}
    (h : Step W c l d) (huses : ∀ i, Program.Uses (allowed i) (c.threads i)) (i : ι) :
    Program.Uses (allowed i) (d.threads i) := by
  cases h with
  | @thread j op next r s head effect =>
    by_cases hi : i = j
    · subst hi
      have hj := huses i
      rw [head] at hj
      simpa only [Function.update_self] using hj.2 r
    · simpa only [Function.update_of_ne hi] using huses i
  | environment effect => exact huses i

theorem Run.split {c d : Config ι Op Reply α σ} {ls ms : List (Label ι Op Reply)}
    (h : Run W c (ls ++ ms) d) : ∃ e, Run W c ls e ∧ Run W e ms d := by
  induction ls generalizing c with
  | nil => exact ⟨c, .refl c, h⟩
  | cons l ls ih =>
    cases h with
    | cons step rest =>
      obtain ⟨e, hfirst, hsecond⟩ := ih rest
      exact ⟨e, .cons step hfirst, hsecond⟩

/-- A run whose steps another world allows is a run of that world. -/
theorem Run.mono {V : World ι Op Reply σ} {c d : Config ι Op Reply α σ} {ls : List (Label ι Op Reply)}
    (h : Run W c ls d)
    (perform : ∀ i op r s s', .thread i op r ∈ ls → W.perform i op s r s' → V.perform i op s r s')
    (environment : ∀ s s', W.environment s s' → V.environment s s') : Run V c ls d := by
  induction h with
  | refl c => exact .refl c
  | cons step _ ih =>
    have hrest := ih fun i op r s s' hmem => perform i op r s s' (List.mem_cons_of_mem _ hmem)
    cases step with
    | thread head effect => exact .cons (.thread head (perform _ _ _ _ _ List.mem_cons_self effect)) hrest
    | environment effect => exact .cons (.environment (environment _ _ effect)) hrest

/-- What holds at the start and is kept by every step holds in every state reached, when every reply is
one the threads reckon with and no thread performs more than its program then uses. -/
theorem Run.invariantGiven {may : ι → (op : Op) → Reply op → Prop} {allowed : ι → Op → Prop}
    {I : σ → Prop}
    (perform : ∀ {i op s r s'}, allowed i op → I s → W.perform i op s r s' → may i op r ∧ I s')
    (environment : ∀ {s s'}, I s → W.environment s s' → I s')
    {c d : Config ι Op Reply α σ} {ls : List (Label ι Op Reply)} (h : Run W c ls d)
    (huses : ∀ i, Program.UsesGiven (may i) (allowed i) (c.threads i)) (hc : I c.shared) :
    I d.shared := by
  induction h with
  | refl c => exact hc
  | cons step _ ih =>
    cases step with
    | @thread i op next r s head effect =>
      have hi := huses i
      rw [head] at hi
      obtain ⟨hreply, hs⟩ := perform hi.1 hc effect
      refine ih (fun j => ?_) hs
      by_cases hj : j = i
      · subst hj
        simpa only [Function.update_self] using hi.2 r hreply
      · simpa only [Function.update_of_ne hj] using huses j
    | environment effect => exact ih huses (environment hc effect)

/-- What holds at the start and is kept by every step holds in every state reached, and no thread
performs more than its program uses. -/
theorem Run.invariant {allowed : ι → Op → Prop} {I : σ → Prop}
    (perform : ∀ {i op s r s'}, allowed i op → I s → W.perform i op s r s' → I s')
    (environment : ∀ {s s'}, I s → W.environment s s' → I s')
    {c d : Config ι Op Reply α σ} {ls : List (Label ι Op Reply)} (h : Run W c ls d)
    (huses : ∀ i, Program.Uses (allowed i) (c.threads i)) (hc : I c.shared) : I d.shared := by
  have hgiven : ∀ i, Program.UsesGiven (fun _ _ => True) (allowed i) (c.threads i) :=
    fun i => (huses i).given _
  refine h.invariantGiven (fun {i op s r s'} hop hs heffect => ?_) environment hgiven hc
  exact ⟨trivial, perform hop hs heffect⟩

/-- Seen from thread `i`, a run is a run of its own program by its own steps. -/
theorem Run.steps {c d : Config ι Op Reply α σ} {ls : List (Label ι Op Reply)} (h : Run W c ls d)
    (i : ι) : Program.Steps (c.threads i) (ls.filterMap (Label.exchangeOf i)) (d.threads i) := by
  induction h with
  | refl c => exact .refl _
  | @cons c c' d l ls step _ ih =>
    cases step with
    | @thread j op next r s head effect =>
      by_cases hj : j = i
      · subst hj
        simp only [Function.update_self] at ih
        simp only [List.filterMap_cons, Label.exchangeOf, if_true, head]
        exact .perform r ih
      · simp only [Function.update_of_ne (Ne.symm hj)] at ih
        simpa only [List.filterMap_cons, Label.exchangeOf, if_neg hj] using ih
    | environment effect =>
      simpa only [List.filterMap_cons, Label.exchangeOf] using ih

theorem Run.performed {c d : Config ι Op Reply α σ} {ls : List (Label ι Op Reply)} (h : Run W c ls d)
    {i : ι} {op : Op} {r : Reply op} (hmem : .thread i op r ∈ ls) : ∃ s s', W.perform i op s r s' := by
  induction h with
  | refl c => cases hmem
  | cons step _ ih =>
    rcases List.mem_cons.mp hmem with rfl | hmem
    · cases step with
      | thread head effect => exact ⟨_, _, effect⟩
    · exact ih hmem

theorem Run.done {c d : Config ι Op Reply α σ} {ls : List (Label ι Op Reply)} (h : Run W c ls d)
    {i : ι} {a : α i} (hi : c.threads i = .done a) : d.threads i = .done a := by
  have hsteps := h.steps i
  rw [hi] at hsteps
  exact (Program.steps_done.mp hsteps).2

/-! ## Simulation -/

section Simulation
variable {ι' : Type} [DecidableEq ι'] {Op' : Type} {Reply' : Op' → Type} {α' : ι' → Type} {σ' : Type}
  {V : World ι' Op' Reply' σ'}

/-- Where every step of `W` is a step of `V` or hidden from it, a run of `W` is a run of `V` once the
hidden steps are left out. -/
theorem Run.simulation {S : Config ι Op Reply α σ → Config ι' Op' Reply' α' σ' → Prop}
    {visible : Label ι Op Reply → Option (Label ι' Op' Reply')}
    (hidden : ∀ {c l d c'}, S c c' → Step W c l d → visible l = none → S d c')
    (shown : ∀ {c l d c' l'}, S c c' → Step W c l d → visible l = some l' →
      ∃ d', Step V c' l' d' ∧ S d d')
    {c d : Config ι Op Reply α σ} {ls : List (Label ι Op Reply)} (h : Run W c ls d)
    {c' : Config ι' Op' Reply' α' σ'} (hc : S c c') :
    ∃ d', Run V c' (ls.filterMap visible) d' ∧ S d d' := by
  induction h generalizing c' with
  | refl c => exact ⟨c', .refl c', hc⟩
  | @cons c e d l ls step _ ih =>
    cases hl : visible l with
    | none =>
      obtain ⟨d', hrun, hd⟩ := ih (hidden hc step hl)
      exact ⟨d', by rwa [List.filterMap_cons, hl], hd⟩
    | some l' =>
      obtain ⟨e', hstep, he⟩ := shown hc step hl
      obtain ⟨d', hrun, hd⟩ := ih he
      refine ⟨d', ?_, hd⟩
      rw [List.filterMap_cons, hl]
      exact .cons hstep hrun

end Simulation

end World
end Libobsbot.Foundations

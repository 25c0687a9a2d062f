import Libobsbot.Foundations.FailFast

/-! # Two runs of one program

A relational logic of programs over replies. `same` says which replies to one operation pass for the same. `Akin same R
p q`: the two ask for the same operations as long as their replies pass for the same, and come to values that `R`
relates. Two machines that carry out each operation so that their replies pass for the same then come to related values
with akin programs: `Akin.run_translate`. A program that ends at its first failure is akin to itself where replies
differ in their failures only: `FailFast.FailsFast.akin`.
-/

namespace Libobsbot.Foundations.Program
set_option autoImplicit false

/-- Both succeed or both fail. -/
inductive Both {ε δ α β : Type} (R : α → β → Prop) (E : ε → δ → Prop) : Except ε α → Except δ β → Prop
  | ok {a : α} {b : β} (related : R a b) : Both R E (.ok a) (.ok b)
  | error {e : ε} {d : δ} (related : E e d) : Both R E (.error e) (.error d)

variable {Op : Type} {Reply : Op → Type} {α β α' β' : Type} {same : (op : Op) → Reply op → Reply op → Prop}

inductive Akin (same : (op : Op) → Reply op → Reply op → Prop) (R : α → β → Prop) :
    Program Op Reply α → Program Op Reply β → Prop
  | done {a : α} {b : β} (related : R a b) : Akin same R (.done a) (.done b)
  | crash (message : String) : Akin same R (.crash message) (.crash message)
  | perform {op : Op} {next : Reply op → Program Op Reply α} {next' : Reply op → Program Op Reply β}
      (rest : ∀ r r', same op r r' → Akin same R (next r) (next' r')) :
      Akin same R (.perform op next) (.perform op next')

variable {R : α → β → Prop} {S : α' → β' → Prop} {p : Program Op Reply α} {q : Program Op Reply β}

theorem Akin.bind {f : α → Program Op Reply α'} {g : β → Program Op Reply β'} (h : Akin same R p q)
    (hf : ∀ a b, R a b → Akin same S (f a) (g b)) : Akin same S (p >>= f) (q >>= g) := by
  induction h with
  | done related => exact hf _ _ related
  | crash message => exact .crash message
  | perform _ ih => exact .perform fun r r' hr => ih r r' hr

/-! ## On two machines -/

section Machines
variable {Op₁ Op₂ : Type} {Reply₁ : Op₁ → Type} {Reply₂ : Op₂ → Type} {σ₁ σ₂ : Type}
  {f : (op : Op) → Program Op₁ Reply₁ (Reply op)} {g : (op : Op) → Program Op₂ Reply₂ (Reply op)}
  {answer₁ : (op : Op₁) → σ₁ → Reply₁ op × σ₁} {answer₂ : (op : Op₂) → σ₂ → Reply₂ op × σ₂}
  {Rel : σ₁ → σ₂ → Prop} {allowed : Op → Prop}

/-- One operation, carried out by both. -/
def CarriedAlike (same : (op : Op) → Reply op → Reply op → Prop) (f : (op : Op) → Program Op₁ Reply₁ (Reply op))
    (g : (op : Op) → Program Op₂ Reply₂ (Reply op)) (answer₁ : (op : Op₁) → σ₁ → Reply₁ op × σ₁)
    (answer₂ : (op : Op₂) → σ₂ → Reply₂ op × σ₂) (Rel : σ₁ → σ₂ → Prop) (op : Op) : Prop :=
  ∀ s₁ s₂, Rel s₁ s₂ → ∃ r₁ r₂ s₁' s₂', (f op).run answer₁ s₁ = (.ok r₁, s₁') ∧
    (g op).run answer₂ s₂ = (.ok r₂, s₂') ∧ same op r₁ r₂ ∧ Rel s₁' s₂'

theorem Akin.run_translate (h : Akin same R p q)
    (hone : ∀ op, allowed op → CarriedAlike same f g answer₁ answer₂ Rel op) (hp : Uses allowed p) {s₁ : σ₁} {s₂ : σ₂}
    (hs : Rel s₁ s₂) : ∃ v w s₁' s₂', (p.translate f).run answer₁ s₁ = (v, s₁') ∧
      (q.translate g).run answer₂ s₂ = (w, s₂') ∧ Both R Eq v w ∧ Rel s₁' s₂' := by
  induction h generalizing s₁ s₂ with
  | done related => exact ⟨_, _, s₁, s₂, rfl, rfl, .ok related, hs⟩
  | crash message => exact ⟨_, _, s₁, s₂, rfl, rfl, .error rfl, hs⟩
  | @perform op next next' _ ih =>
    obtain ⟨r₁, r₂, t₁, t₂, hfirst₁, hfirst₂, hsame, ht⟩ := hone op hp.1 s₁ s₂ hs
    obtain ⟨v, w, s₁', s₂', hrest₁, hrest₂, hboth, hs'⟩ := ih r₁ r₂ hsame (hp.2 r₁) ht
    refine ⟨v, w, s₁', s₂', ?_, ?_, hboth, hs'⟩
    · show (f op >>= fun r => (next r).translate f).run answer₁ s₁ = _
      rw [run_bind, hfirst₁]
      exact hrest₁
    · show (g op >>= fun r => (next' r).translate g).run answer₂ s₂ = _
      rw [run_bind, hfirst₂]
      exact hrest₂

/-- A program is its own translation. -/
theorem translate_perform (p : Program Op Reply α) : p.translate (fun op => .perform op .done) = p := by
  induction p with
  | done a => rfl
  | crash message => rfl
  | perform op next ih => exact congrArg (Program.perform op) (funext ih)

end Machines

end Libobsbot.Foundations.Program

namespace Libobsbot.Foundations.FailFast
open Program

/-! ## Fallible programs -/

variable {Op : Type} {Reply : Op → Type} {ε α : Type} {same : (op : Op) → Reply op → Reply op → Prop}
  {E : ε → ε → Prop} {failureOf : Exchange Op Reply → Option ε} {own : ε → Prop}

/-- Replies that pass for the same are equal, or failures both. -/
def FailAlike (same : (op : Op) → Reply op → Reply op → Prop) (E : ε → ε → Prop)
    (failureOf : Exchange Op Reply → Option ε) : Prop :=
  ∀ op r r', same op r r' → (failureOf ⟨op, r⟩ = none ∧ r = r') ∨
    ∃ e e', failureOf ⟨op, r⟩ = some e ∧ failureOf ⟨op, r'⟩ = some e' ∧ E e e'

theorem Stops.akin {p : Program Op Reply (Except ε α)} (h : Stops failureOf own p)
    (hsame : FailAlike same E failureOf) (hown : ∀ e, own e → E e e) : Akin same (Both Eq E) p p := by
  induction p with
  | done r =>
    cases r with
    | ok a => exact .done (.ok rfl)
    | error e => exact .done (.error (hown e (h e rfl)))
  | crash message => exact .crash message
  | perform op next ih =>
    refine .perform fun r r' hr => ?_
    obtain ⟨hnone, rfl⟩ | ⟨e, e', he, he', hE⟩ := hsame op r r' hr
    · exact ih r ((h r).2 hnone)
    · rw [(h r).1 e he, (h r').1 e' he']
      exact .done (.error hE)

theorem FailsFast.akin {m : ExceptT ε (Program Op Reply) α} (h : FailsFast failureOf own m)
    (hsame : FailAlike same E failureOf) (hown : ∀ e, own e → E e e) : Akin same (Both Eq E) m.run m.run :=
  Stops.akin h hsame hown

end Libobsbot.Foundations.FailFast

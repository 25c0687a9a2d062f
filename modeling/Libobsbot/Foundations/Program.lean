import Mathlib

/-! # Programs over replying operations

A `Program` is done, has crashed, or performs one operation and goes on with its reply. Nothing here
fixes what an operation does: the same program is read by

* `Steps p t q`: `p` reaches `q` by the operations and replies listed in `t`, whatever answers them;
* `Uses`: every operation on every path is allowed;
* `run`: a state machine answers every operation;
* `translate`: every operation is carried out by a program over other operations.
-/

namespace Libobsbot.Foundations
set_option autoImplicit false

inductive Program (Op : Type) (Reply : Op → Type) (α : Type) : Type where
  | done (value : α)
  | crash (message : String)
  | perform (op : Op) (next : Reply op → Program Op Reply α)

namespace Program
variable {Op : Type} {Reply : Op → Type} {α β γ : Type}

def bind : Program Op Reply α → (α → Program Op Reply β) → Program Op Reply β
  | .done a, f => f a
  | .crash m, _ => .crash m
  | .perform op next, f => .perform op fun r => (next r).bind f

instance : Monad (Program Op Reply) where
  pure := .done
  bind := bind

@[simp] theorem pure_eq (a : α) : (pure a : Program Op Reply α) = .done a := rfl

@[simp] theorem done_bind (a : α) (f : α → Program Op Reply β) :
    ((.done a : Program Op Reply α) >>= f) = f a := rfl

@[simp] theorem crash_bind (m : String) (f : α → Program Op Reply β) :
    ((.crash m : Program Op Reply α) >>= f) = .crash m := rfl

@[simp] theorem perform_bind (op : Op) (next : Reply op → Program Op Reply α)
    (f : α → Program Op Reply β) :
    ((.perform op next : Program Op Reply α) >>= f) = .perform op fun r => next r >>= f := rfl

theorem bind_done (p : Program Op Reply α) : (p >>= .done) = p := by
  induction p with
  | done a => rfl
  | crash m => rfl
  | perform op next ih =>
    rw [perform_bind]
    exact congrArg _ (funext ih)

theorem bind_bind (p : Program Op Reply α) (f : α → Program Op Reply β)
    (g : β → Program Op Reply γ) : ((p >>= f) >>= g) = (p >>= fun a => f a >>= g) := by
  induction p with
  | done a => rfl
  | crash m => rfl
  | perform op next ih =>
    simp only [perform_bind]
    exact congrArg _ (funext ih)

instance : LawfulMonad (Program Op Reply) :=
  LawfulMonad.mk' _ bind_done (fun _ _ => rfl) bind_bind

/-! ## Runs of one program -/

abbrev Exchange (Op : Type) (Reply : Op → Type) : Type := Σ op : Op, Reply op

/-- `Steps p t q`: answered as `t` lists, `p` performs the operations of `t` and becomes `q`. -/
inductive Steps : Program Op Reply α → List (Exchange Op Reply) → Program Op Reply α → Prop
  | refl (p : Program Op Reply α) : Steps p [] p
  | perform {op : Op} {next : Reply op → Program Op Reply α} (r : Reply op)
      {t : List (Exchange Op Reply)} {q : Program Op Reply α} (rest : Steps (next r) t q) :
      Steps (.perform op next) (⟨op, r⟩ :: t) q

theorem Steps.trans {p q s : Program Op Reply α} {t u : List (Exchange Op Reply)}
    (h : Steps p t q) (h' : Steps q u s) : Steps p (t ++ u) s := by
  induction h with
  | refl p => exact h'
  | perform r _ ih => exact .perform r (ih h')

theorem Steps.split {p q : Program Op Reply α} {t u : List (Exchange Op Reply)}
    (h : Steps p (t ++ u) q) : ∃ s, Steps p t s ∧ Steps s u q := by
  induction t generalizing p with
  | nil => exact ⟨p, .refl p, h⟩
  | cons x t ih =>
    cases h with
    | perform r rest =>
      obtain ⟨s, h₁, h₂⟩ := ih rest
      exact ⟨s, .perform r h₁, h₂⟩

theorem steps_done {a : α} {t : List (Exchange Op Reply)} {q : Program Op Reply α} :
    Steps (.done a) t q ↔ t = [] ∧ q = .done a := by
  constructor
  · intro h
    cases h
    exact ⟨rfl, rfl⟩
  · rintro ⟨rfl, rfl⟩
    exact .refl _

theorem steps_perform {op : Op} {next : Reply op → Program Op Reply α}
    {t : List (Exchange Op Reply)} {q : Program Op Reply α} :
    Steps (.perform op next) t q ↔
      (t = [] ∧ q = .perform op next) ∨ ∃ r u, t = ⟨op, r⟩ :: u ∧ Steps (next r) u q := by
  constructor
  · intro h
    cases h with
    | refl => exact .inl ⟨rfl, rfl⟩
    | perform r rest => exact .inr ⟨r, _, rfl, rest⟩
  · rintro (⟨rfl, rfl⟩ | ⟨r, u, rfl, h⟩)
    · exact .refl _
    · exact .perform r h

theorem steps_one (op : Op) (r : Reply op) :
    Steps (.perform op .done : Program Op Reply (Reply op)) [⟨op, r⟩] (.done r) :=
  .perform r (.refl _)

theorem steps_op_bind {op : Op} {f : Reply op → Program Op Reply β}
    {t : List (Exchange Op Reply)} {q : Program Op Reply β} :
    Steps ((.perform op .done : Program Op Reply (Reply op)) >>= f) t q ↔
      (t = [] ∧ q = .perform op f) ∨ ∃ r u, t = ⟨op, r⟩ :: u ∧ Steps (f r) u q :=
  steps_perform

theorem Steps.bind_left {p q : Program Op Reply α} {t : List (Exchange Op Reply)}
    (h : Steps p t q) (f : α → Program Op Reply β) : Steps (p >>= f) t (q >>= f) := by
  induction h with
  | refl p => exact .refl _
  | perform r _ ih => exact .perform r ih

theorem Steps.bind {p : Program Op Reply α} {f : α → Program Op Reply β} {a : α}
    {t u : List (Exchange Op Reply)} {q : Program Op Reply β} (h : Steps p t (.done a))
    (h' : Steps (f a) u q) : Steps (p >>= f) (t ++ u) q :=
  (h.bind_left f).trans h'

/-- Where the rest asks for nothing more. -/
theorem Steps.bind_last {p : Program Op Reply α} {f : α → Program Op Reply β} {a : α} {b : β}
    {t : List (Exchange Op Reply)} (h : Steps p t (.done a)) (hf : f a = .done b) :
    Steps (p >>= f) t (.done b) := by
  have hrest : Steps (f a) [] (.done b) := by
    rw [hf]
    exact .refl _
  have hbind := h.bind hrest
  rwa [List.append_nil] at hbind

theorem bind_ne_done {p : Program Op Reply α} (hp : ∀ a, p ≠ .done a)
    (f : α → Program Op Reply β) (b : β) : (p >>= f) ≠ .done b := by
  cases p with
  | done a => exact absurd rfl (hp a)
  | crash m => intro h; cases h
  | perform op next => intro h; cases h

/-- A run of a sequence is either still in its first part or is a run of the first part to a value
and then a run of the second. -/
theorem Steps.bind_cases {p : Program Op Reply α} {f : α → Program Op Reply β}
    {t : List (Exchange Op Reply)} {q : Program Op Reply β} (h : Steps (p >>= f) t q) :
    (∃ p', Steps p t p' ∧ (∀ a, p' ≠ .done a) ∧ q = p' >>= f) ∨
      ∃ u a v, t = u ++ v ∧ Steps p u (.done a) ∧ Steps (f a) v q := by
  induction p generalizing t with
  | done a => exact .inr ⟨[], a, t, rfl, .refl _, h⟩
  | crash m =>
    cases h
    exact .inl ⟨.crash m, .refl _, by simp, rfl⟩
  | perform op next ih =>
    rw [perform_bind, steps_perform] at h
    obtain ⟨rfl, rfl⟩ | ⟨r, u, rfl, hu⟩ := h
    · exact .inl ⟨.perform op next, .refl _, by simp, rfl⟩
    · obtain ⟨p', hp', hne, rfl⟩ | ⟨u₁, a, v, rfl, h₁, h₂⟩ := ih r hu
      · exact .inl ⟨p', .perform r hp', hne, rfl⟩
      · exact .inr ⟨⟨op, r⟩ :: u₁, a, v, rfl, .perform r h₁, h₂⟩

theorem Steps.bind_done {p : Program Op Reply α} {f : α → Program Op Reply β}
    {t : List (Exchange Op Reply)} {b : β} (h : Steps (p >>= f) t (.done b)) :
    ∃ u a v, t = u ++ v ∧ Steps p u (.done a) ∧ Steps (f a) v (.done b) := by
  obtain ⟨p', -, hne, he⟩ | hsplit := h.bind_cases
  · exact absurd he.symm (bind_ne_done hne f b)
  · exact hsplit

theorem Steps.unique {p : Program Op Reply α} {t : List (Exchange Op Reply)} {a b : α}
    (h : Steps p t (.done a)) (h' : Steps p t (.done b)) : a = b := by
  induction t generalizing p with
  | nil =>
    cases h
    cases h'
    rfl
  | cons x t ih =>
    cases h with
    | perform r rest =>
      cases h' with
      | perform _ rest' => exact ih rest rest'

/-! ## The operations a program uses -/

def Uses (allowed : Op → Prop) : Program Op Reply α → Prop
  | .done _ => True
  | .crash _ => True
  | .perform op next => allowed op ∧ ∀ r, Uses allowed (next r)

theorem Uses.mono {P Q : Op → Prop} {p : Program Op Reply α} (hPQ : ∀ op, P op → Q op)
    (h : Uses P p) : Uses Q p := by
  induction p with
  | done a => trivial
  | crash m => trivial
  | perform op next ih => exact ⟨hPQ op h.1, fun r => ih r (h.2 r)⟩

theorem uses_of_forall {allowed : Op → Prop} (h : ∀ op, allowed op) (p : Program Op Reply α) :
    Uses allowed p := by
  induction p with
  | done a => trivial
  | crash m => trivial
  | perform op next ih => exact ⟨h op, ih⟩

theorem Uses.of_steps {allowed : Op → Prop} {p q : Program Op Reply α}
    {t : List (Exchange Op Reply)} (h : Uses allowed p) (hsteps : Steps p t q) :
    ∀ x ∈ t, allowed x.1 := by
  induction hsteps with
  | refl p => simp
  | perform r _ ih => exact List.forall_mem_cons.mpr ⟨h.1, ih (h.2 r)⟩

/-- A run of a sequence whose second part performs nothing is a run of the first. -/
theorem Steps.bind_silent {p : Program Op Reply α} {f : α → Program Op Reply β}
    {t : List (Exchange Op Reply)} {b : β} (h : Steps (p >>= f) t (.done b))
    (hf : ∀ a, Uses (fun _ => False) (f a)) : ∃ a, Steps p t (.done a) ∧ f a = .done b := by
  obtain ⟨u, a, v, rfl, hu, hv⟩ := h.bind_done
  have hnone : v = [] := List.eq_nil_iff_forall_not_mem.mpr fun x hx => (hf a).of_steps hv x hx
  subst hnone
  rw [List.append_nil]
  cases hlast : f a with
  | done b' =>
    rw [hlast] at hv
    obtain ⟨-, hdone⟩ := steps_done.mp hv
    exact ⟨a, hu, hdone ▸ hlast⟩
  | crash m =>
    rw [hlast] at hv
    cases hv
  | perform op next =>
    rw [hlast] at hv
    cases hv

/-- `Uses`, where replies are known to satisfy `may`. -/
def UsesGiven (may : (op : Op) → Reply op → Prop) (allowed : Op → Prop) : Program Op Reply α → Prop
  | .done _ => True
  | .crash _ => True
  | .perform op next => allowed op ∧ ∀ r, may op r → UsesGiven may allowed (next r)

theorem Uses.given {allowed : Op → Prop} {p : Program Op Reply α} (h : Uses allowed p)
    (may : (op : Op) → Reply op → Prop) : UsesGiven may allowed p := by
  induction p with
  | done a => trivial
  | crash m => trivial
  | perform op next ih => exact ⟨h.1, fun r _ => ih r (h.2 r)⟩

theorem UsesGiven.uses {allowed : Op → Prop} {p : Program Op Reply α}
    (h : UsesGiven (fun _ _ => True) allowed p) : Uses allowed p := by
  induction p with
  | done a => trivial
  | crash m => trivial
  | perform op next ih => exact ⟨h.1, fun r => ih r (h.2 r trivial)⟩

theorem usesGiven_bind {may : (op : Op) → Reply op → Prop} {allowed : Op → Prop}
    {p : Program Op Reply α} {f : α → Program Op Reply β} (hp : UsesGiven may allowed p)
    (hf : ∀ a, UsesGiven may allowed (f a)) : UsesGiven may allowed (p >>= f) := by
  induction p with
  | done a => exact hf a
  | crash m => trivial
  | perform op next ih => exact ⟨hp.1, fun r hr => ih r (hp.2 r hr)⟩

theorem uses_bind {allowed : Op → Prop} {p : Program Op Reply α} {f : α → Program Op Reply β}
    (hp : Uses allowed p) (hf : ∀ a, Uses allowed (f a)) : Uses allowed (p >>= f) := by
  induction p with
  | done a => exact hf a
  | crash m => trivial
  | perform op next ih => exact ⟨hp.1, fun r => ih r (hp.2 r)⟩

theorem uses_exceptBind {ε : Type} {allowed : Op → Prop} {m : ExceptT ε (Program Op Reply) α}
    {f : α → ExceptT ε (Program Op Reply) β} (hm : Uses allowed m.run)
    (hf : ∀ a, Uses allowed (f a).run) : Uses allowed (m >>= f).run := by
  rw [ExceptT.run_bind]
  refine uses_bind hm fun r => ?_
  cases r with
  | error e => trivial
  | ok a => exact hf a

/-! ## The values a program comes to -/

def YieldsGiven (may : (op : Op) → Reply op → Prop) (P : α → Prop) : Program Op Reply α → Prop
  | .done a => P a
  | .crash _ => True
  | .perform op next => ∀ r, may op r → YieldsGiven may P (next r)

/-- Every value that a run of the program comes to satisfies `P`. -/
abbrev Yields (P : α → Prop) : Program Op Reply α → Prop := YieldsGiven (fun _ _ => True) P

def OnOk {ε : Type} (P : α → Prop) : Except ε α → Prop
  | .ok a => P a
  | .error _ => True

section Yields
variable {may : (op : Op) → Reply op → Prop} {P : β → Prop} {Q : α → Prop}

theorem YieldsGiven.of_steps {p : Program Op Reply α} {t : List (Exchange Op Reply)} {a : α}
    (h : YieldsGiven may Q p) (hsteps : Steps p t (.done a)) (hmay : ∀ x ∈ t, may x.1 x.2) : Q a := by
  induction t generalizing p with
  | nil =>
    cases hsteps
    exact h
  | cons x t ih =>
    obtain ⟨hfirst, hrest⟩ := List.forall_mem_cons.mp hmay
    cases hsteps with
    | perform r rest => exact ih (h r hfirst) rest hrest

theorem yieldsGiven_true (p : Program Op Reply α) : YieldsGiven may (fun _ => True) p := by
  induction p with
  | done a => trivial
  | crash m => trivial
  | perform op next ih => exact fun r _ => ih r

theorem yieldsGiven_bind {p : Program Op Reply α} {f : α → Program Op Reply β} (hp : YieldsGiven may Q p)
    (hf : ∀ a, Q a → YieldsGiven may P (f a)) : YieldsGiven may P (p >>= f) := by
  induction p with
  | done a => exact hf a hp
  | crash m => trivial
  | perform op next ih => exact fun r hr => ih r (hp r hr)

theorem yieldsGiven_exceptBind {ε : Type} {m : ExceptT ε (Program Op Reply) α}
    {f : α → ExceptT ε (Program Op Reply) β} (hm : YieldsGiven may (OnOk Q) m.run)
    (hf : ∀ a, Q a → YieldsGiven may (OnOk P) (f a).run) : YieldsGiven may (OnOk P) (m >>= f).run := by
  rw [ExceptT.run_bind]
  refine yieldsGiven_bind hm fun r hr => ?_
  cases r with
  | error e => trivial
  | ok a => exact hf a hr

end Yields

/-! ## A state machine answers -/

variable {σ : Type}

/-- The value (or the crash) of a program whose operations `answer` carries out, with the state
it leaves. -/
def run (answer : (op : Op) → σ → Reply op × σ) : Program Op Reply α → σ → Except String α × σ
  | .done a, s => (.ok a, s)
  | .crash m, s => (.error m, s)
  | .perform op next, s => run answer (next (answer op s).1) (answer op s).2

@[simp] theorem run_done (answer : (op : Op) → σ → Reply op × σ) (a : α) (s : σ) :
    run answer (.done a) s = (.ok a, s) := rfl

@[simp] theorem run_perform (answer : (op : Op) → σ → Reply op × σ) (op : Op)
    (next : Reply op → Program Op Reply α) (s : σ) :
    run answer (.perform op next) s = run answer (next (answer op s).1) (answer op s).2 := rfl

theorem run_bind (answer : (op : Op) → σ → Reply op × σ) (p : Program Op Reply α)
    (f : α → Program Op Reply β) (s : σ) : run answer (p >>= f) s =
      match run answer p s with
      | (.ok a, s') => run answer (f a) s'
      | (.error m, s') => (.error m, s') := by
  induction p generalizing s with
  | done a => rfl
  | crash m => rfl
  | perform op next ih => exact ih _ _

section Failing
variable {ε : Type} {answer : (op : Op) → σ → Reply op × σ} {m : ExceptT ε (Program Op Reply) α}
variable {f : α → ExceptT ε (Program Op Reply) β} {s s' : σ}

theorem run_exceptBind_ok {a : α} (h : run answer m.run s = (.ok (.ok a), s')) :
    run answer (m >>= f).run s = run answer (f a).run s' := by
  rw [ExceptT.run_bind, run_bind, h]

theorem run_exceptLift {p : Program Op Reply α} {a : α} (h : run answer p s = (.ok a, s')) :
    run answer (ExceptT.lift p : ExceptT ε (Program Op Reply) α).run s = (.ok (.ok a), s') := by
  rw [ExceptT.run_lift, map_eq_pure_bind, run_bind, h]
  rfl

end Failing

/-- Fixed answers that take a program to a value take it there by some run. -/
theorem exists_steps {answer : (op : Op) → Reply op} {p : Program Op Reply α} {a : α}
    (h : (run (fun op (_ : Unit) => (answer op, ())) p ()).1 = .ok a) :
    ∃ t, Steps p t (.done a) ∧ ∀ x ∈ t, x.2 = answer x.1 := by
  induction p with
  | done b =>
    cases h
    exact ⟨[], .refl _, by simp⟩
  | crash m => cases h
  | perform op next ih =>
    obtain ⟨t, ht, hanswers⟩ := ih (answer op) h
    exact ⟨⟨op, answer op⟩ :: t, .perform _ ht, List.forall_mem_cons.mpr ⟨rfl, hanswers⟩⟩

/-- A run to a value, answered as given, comes to the value it comes to under those answers. -/
theorem Steps.run_eq {answer : (op : Op) → Reply op} {p q : Program Op Reply α}
    {t : List (Exchange Op Reply)} (h : Steps p t q) (hanswers : ∀ x ∈ t, x.2 = answer x.1) :
    run (fun op (_ : Unit) => (answer op, ())) p () = run (fun op (_ : Unit) => (answer op, ())) q () := by
  induction h with
  | refl p => rfl
  | @perform op next r t q _ ih =>
    obtain ⟨hfirst, hrest⟩ := List.forall_mem_cons.mp hanswers
    have hr : r = answer op := hfirst
    rw [run_perform, ← hr]
    exact ih hrest

/-- The replies of `t` are the machine's, from the first state to the second. -/
def Answered (answer : (op : Op) → σ → Reply op × σ) : σ → List (Exchange Op Reply) → σ → Prop
  | s, [], s' => s = s'
  | s, ⟨op, r⟩ :: t, s' => r = (answer op s).1 ∧ Answered answer (answer op s).2 t s'

theorem run_eq_ok_iff {answer : (op : Op) → σ → Reply op × σ} {p : Program Op Reply α} {a : α} {s s' : σ} :
    run answer p s = (.ok a, s') ↔ ∃ t, Steps p t (.done a) ∧ Answered answer s t s' := by
  induction p generalizing s with
  | done b =>
    constructor
    · intro h
      cases h
      exact ⟨[], .refl _, rfl⟩
    · rintro ⟨t, ht, hs⟩
      obtain ⟨rfl, hdone⟩ := steps_done.mp ht
      cases hdone
      cases hs
      rfl
  | crash m =>
    constructor
    · intro h
      cases h
    · rintro ⟨t, ht, -⟩
      cases ht
  | perform op next ih =>
    rw [run_perform, ih]
    constructor
    · rintro ⟨t, ht, hs⟩
      exact ⟨⟨op, (answer op s).1⟩ :: t, .perform _ ht, rfl, hs⟩
    · rintro ⟨t, ht, hs⟩
      obtain ⟨-, hdone⟩ | ⟨r, u, rfl, hu⟩ := steps_perform.mp ht
      · cases hdone
      · obtain ⟨rfl, hs⟩ := hs
        exact ⟨u, hu, hs⟩

/-- What a program comes to does not depend on the state where the replies it asks for do not. -/
theorem Uses.run_congr {allowed : Op → Prop} {p : Program Op Reply α} (h : Uses allowed p)
    {answer : (op : Op) → σ → Reply op × σ}
    (hfixed : ∀ op, allowed op → ∀ s s', (answer op s).1 = (answer op s').1) (s s' : σ) :
    (run answer p s).1 = (run answer p s').1 := by
  induction p generalizing s s' with
  | done a => rfl
  | crash m => rfl
  | perform op next ih =>
    rw [run_perform, run_perform, hfixed op h.1 s s']
    exact ih _ (h.2 _) _ _

def CrashFree : Program Op Reply α → Prop
  | .done _ => True
  | .crash _ => False
  | .perform _ next => ∀ r, CrashFree (next r)

theorem CrashFree.bind {p : Program Op Reply α} {f : α → Program Op Reply β} (hp : CrashFree p)
    (hf : ∀ a, CrashFree (f a)) : CrashFree (p >>= f) := by
  induction p with
  | done a => exact hf a
  | crash m => exact hp.elim
  | perform op next ih => exact fun r => ih r (hp r)

theorem CrashFree.run {p : Program Op Reply α} (hp : CrashFree p) (answer : (op : Op) → σ → Reply op × σ)
    (s : σ) : ∃ a s', Program.run answer p s = (.ok a, s') := by
  induction p generalizing s with
  | done a => exact ⟨a, s, rfl⟩
  | crash m => exact hp.elim
  | perform op next ih => exact ih _ (hp _) _

/-! ## Operations carried out by programs -/

variable {Op' : Type} {Reply' : Op' → Type}

def translate (f : (op : Op) → Program Op' Reply' (Reply op)) :
    Program Op Reply α → Program Op' Reply' α
  | .done a => .done a
  | .crash m => .crash m
  | .perform op next => f op >>= fun r => translate f (next r)

theorem translate_bind (f : (op : Op) → Program Op' Reply' (Reply op)) (p : Program Op Reply α)
    (g : α → Program Op Reply β) :
    translate f (p >>= g) = translate f p >>= fun a => translate f (g a) := by
  induction p with
  | done a => rfl
  | crash m => rfl
  | perform op next ih =>
    show (f op >>= fun r => translate f (next r >>= g)) = (f op >>= fun r => translate f (next r)) >>= _
    rw [bind_bind]
    exact congrArg _ (funext ih)

/-- A run of a program is a run of its translation, each operation carried out as `u` lists. -/
theorem Steps.translate {f : (op : Op) → Program Op' Reply' (Reply op)}
    {u : Exchange Op Reply → List (Exchange Op' Reply')}
    (hu : ∀ x, Steps (f x.1) (u x) (.done x.2)) {p q : Program Op Reply α}
    {t : List (Exchange Op Reply)} (h : Steps p t q) :
    Steps (Program.translate f p) (t.flatMap u) (Program.translate f q) := by
  induction h with
  | refl p => exact .refl _
  | @perform op next r t q _ ih =>
    have hrun := (hu ⟨op, r⟩).bind (f := fun r => Program.translate f (next r)) ih
    rw [List.flatMap_cons]
    exact hrun

/-- Where every operation is carried out by one operation, a run of the translation is that of a run. -/
theorem steps_translate_one {g : Op → Op'} {result : (op : Op) → Reply' (g op) → Reply op}
    {back : (op : Op) → Reply op → Reply' (g op)} (hback : ∀ op r, back op (result op r) = r)
    {p : Program Op Reply α} {t : List (Exchange Op' Reply')} {q : Program Op' Reply' α}
    (h : Steps (Program.translate (fun op => .perform (g op) fun r => .done (result op r)) p) t q) :
    ∃ u q', Steps p u q' ∧ t = u.map (fun x => (⟨g x.1, back x.1 x.2⟩ : Exchange Op' Reply')) ∧
      q = Program.translate (fun op => .perform (g op) fun r => .done (result op r)) q' := by
  induction p generalizing t with
  | done a =>
    obtain ⟨rfl, rfl⟩ := steps_done.mp h
    exact ⟨[], _, .refl _, rfl, rfl⟩
  | crash m =>
    cases h
    exact ⟨[], _, .refl _, rfl, rfl⟩
  | perform op next ih =>
    obtain ⟨rfl, rfl⟩ | ⟨r, u, rfl, hu⟩ := steps_perform.mp h
    · exact ⟨[], _, .refl _, rfl, rfl⟩
    · obtain ⟨v, q', hv, rfl, rfl⟩ := ih (result op r) hu
      refine ⟨⟨op, result op r⟩ :: v, q', .perform _ hv, ?_, rfl⟩
      rw [List.map_cons, hback]

theorem uses_translate {allowed : Op → Prop} {allowed' : Op' → Prop}
    {f : (op : Op) → Program Op' Reply' (Reply op)} {p : Program Op Reply α}
    (hf : ∀ op, allowed op → Uses allowed' (f op)) (hp : Uses allowed p) :
    Uses allowed' (translate f p) := by
  induction p with
  | done a => trivial
  | crash m => trivial
  | perform op next ih => exact uses_bind (hf op hp.1) fun r => ih r (hp.2 r)

end Program
end Libobsbot.Foundations

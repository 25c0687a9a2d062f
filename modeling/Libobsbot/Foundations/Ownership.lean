import Libobsbot.Foundations.Mutex

/-! # References that a program holds

Operations hand out references to objects outside the program, need some to be held and give some up. A
`Contract` says which; `Holds` follows the references held along a run, and `Owning` is the rule of a
program: started with exactly these references it needs none it does not hold, and what it holds at its end
is a function of its value. References are counted: one handed out twice is to be given up twice.
-/

namespace Libobsbot.Foundations
set_option autoImplicit false

structure Contract (Op : Type) (Reply : Op → Type) (Ref : Type) where
  needs : Op → List Ref
  consumes : Op → Multiset Ref
  hands : (op : Op) → Reply op → Multiset Ref

namespace Ownership
open Program (Steps Exchange Yields OnOk)

variable {Op : Type} {Reply : Op → Type} {Ref : Type} [DecidableEq Ref] {α β ε : Type}

/-- `Holds C held t held'`: along `t`, what is needed or given up is held, and `held'` is held at the end. -/
inductive Holds (C : Contract Op Reply Ref) : Multiset Ref → List (Exchange Op Reply) → Multiset Ref → Prop
  | nil (held : Multiset Ref) : Holds C held [] held
  | cons {held held' : Multiset Ref} {op : Op} {r : Reply op} {t : List (Exchange Op Reply)}
      (live : ∀ x ∈ C.needs op, x ∈ held) (owned : C.consumes op ≤ held)
      (rest : Holds C (held - C.consumes op + C.hands op r) t held') : Holds C held (⟨op, r⟩ :: t) held'

variable {C : Contract Op Reply Ref}

def handed (C : Contract Op Reply Ref) (t : List (Exchange Op Reply)) : Multiset Ref :=
  (t.map fun x => C.hands x.1 x.2).sum

def consumed (C : Contract Op Reply Ref) (t : List (Exchange Op Reply)) : Multiset Ref :=
  (t.map fun x => C.consumes x.1).sum

/-- Nothing is lost: what is held at the end is what was held and handed out, less what was given up. -/
theorem Holds.balance {held held' : Multiset Ref} {t : List (Exchange Op Reply)} (h : Holds C held t held') :
    held + handed C t = held' + consumed C t := by
  induction h with
  | nil held => simp [handed, consumed]
  | @cons held held' op r t live owned rest ih =>
    obtain ⟨kept, rfl⟩ := Multiset.le_iff_exists_add.mp owned
    rw [add_tsub_cancel_left] at ih
    have hhanded : handed C (⟨op, r⟩ :: t) = C.hands op r + handed C t := by simp [handed]
    have hconsumed : consumed C (⟨op, r⟩ :: t) = C.consumes op + consumed C t := by simp [consumed]
    calc C.consumes op + kept + handed C (⟨op, r⟩ :: t)
        = C.consumes op + (kept + C.hands op r + handed C t) := by simp only [hhanded, add_assoc]
      _ = C.consumes op + (held' + consumed C t) := by rw [ih]
      _ = held' + consumed C (⟨op, r⟩ :: t) := by rw [hconsumed, add_left_comm]

/-! ## The rule of a program -/

/-- Started with exactly `held`, `p` keeps to the contract and ends with exactly `post a`, where `a` is its
value. -/
def Owning (C : Contract Op Reply Ref) : Multiset Ref → Program Op Reply α → (α → Multiset Ref) → Prop
  | held, .done a, post => held = post a
  | _, .crash _, _ => True
  | held, .perform op next, post => (∀ x ∈ C.needs op, x ∈ held) ∧ C.consumes op ≤ held ∧
      ∀ r, Owning C (held - C.consumes op + C.hands op r) (next r) post

theorem Owning.steps {held : Multiset Ref} {p q : Program Op Reply α} {post : α → Multiset Ref}
    {t : List (Exchange Op Reply)} (h : Owning C held p post) (hsteps : Steps p t q) :
    ∃ held', Holds C held t held' ∧ Owning C held' q post := by
  induction hsteps generalizing held with
  | refl p => exact ⟨held, .nil held, h⟩
  | perform r _ ih =>
    obtain ⟨live, owned, hnext⟩ := h
    obtain ⟨held', hholds, hq⟩ := ih (hnext r)
    exact ⟨held', .cons live owned hholds, hq⟩

theorem owning_done {held : Multiset Ref} {a : α} {post : α → Multiset Ref} (h : held = post a) :
    Owning C held (.done a) post := h

theorem owning_bind_of_yields {P : α → Prop} {held : Multiset Ref} {p : Program Op Reply α}
    {f : α → Program Op Reply β} {mid : α → Multiset Ref} {post : β → Multiset Ref}
    (h : Owning C held p mid) (hp : Yields P p) (hf : ∀ a, P a → Owning C (mid a) (f a) post) :
    Owning C held (p >>= f) post := by
  induction p generalizing held with
  | done a =>
    have heq : held = mid a := h
    rw [heq]
    exact hf a hp
  | crash m => trivial
  | perform op next ih =>
    obtain ⟨live, owned, hnext⟩ := h
    exact ⟨live, owned, fun r => ih r (hnext r) (hp r trivial)⟩

theorem owning_bind {held : Multiset Ref} {p : Program Op Reply α} {f : α → Program Op Reply β}
    {mid : α → Multiset Ref} {post : β → Multiset Ref} (h : Owning C held p mid)
    (hf : ∀ a, Owning C (mid a) (f a) post) : Owning C held (p >>= f) post :=
  owning_bind_of_yields h (Program.yieldsGiven_true p) fun a _ => hf a

theorem owning_call {held : Multiset Ref} {op : Op} {f : Reply op → Program Op Reply α} {post : α → Multiset Ref}
    (kept : Multiset Ref) (hheld : held = kept + C.consumes op) (live : ∀ x ∈ C.needs op, x ∈ held)
    (hf : ∀ r, Owning C (kept + C.hands op r) (f r) post) :
    Owning C held ((.perform op .done : Program Op Reply (Reply op)) >>= f) post := by
  subst hheld
  refine ⟨live, Multiset.le_add_left _ _, fun r => ?_⟩
  rw [add_tsub_cancel_right]
  exact hf r

theorem owning_exceptBind {P : α → Prop} {held : Multiset Ref} {m : ExceptT ε (Program Op Reply) α}
    {f : α → ExceptT ε (Program Op Reply) β} {mid : Except ε α → Multiset Ref}
    {post : Except ε β → Multiset Ref} (h : Owning C held m.run mid) (hm : Yields (OnOk P) m.run)
    (hok : ∀ a, P a → Owning C (mid (.ok a)) (f a).run post)
    (herror : ∀ e, mid (.error e) = post (.error e)) : Owning C held (m >>= f).run post := by
  rw [ExceptT.run_bind]
  refine owning_bind_of_yields h hm fun r hr => ?_
  cases r with
  | error e => exact herror e
  | ok a => exact hok a hr

theorem owning_exceptLift {held : Multiset Ref} {p : Program Op Reply α}
    {f : α → ExceptT ε (Program Op Reply) β} {mid : α → Multiset Ref} {post : Except ε β → Multiset Ref}
    (h : Owning C held p mid) (hf : ∀ a, Owning C (mid a) (f a).run post) :
    Owning C held (ExceptT.lift p >>= f).run post := by
  rw [ExceptT.run_bind_lift]
  exact owning_bind h hf

theorem owning_exceptCall {held : Multiset Ref} {op : Op} {f : Reply op → ExceptT ε (Program Op Reply) α}
    {post : Except ε α → Multiset Ref} (kept : Multiset Ref) (hheld : held = kept + C.consumes op)
    (live : ∀ x ∈ C.needs op, x ∈ held) (hf : ∀ r, Owning C (kept + C.hands op r) (f r).run post) :
    Owning C held (ExceptT.lift (.perform op .done : Program Op Reply (Reply op)) >>= f).run post := by
  rw [ExceptT.run_bind_lift]
  exact owning_call kept hheld live hf

/-- What else is held is neither needed nor lost. -/
theorem Owning.frame {held : Multiset Ref} {p : Program Op Reply α} {post : α → Multiset Ref}
    (h : Owning C held p post) (others : Multiset Ref) :
    Owning C (held + others) p fun a => post a + others := by
  induction p generalizing held with
  | done a =>
    have heq : held = post a := h
    exact congrArg (· + others) heq
  | crash m => trivial
  | perform op next ih =>
    obtain ⟨live, owned, hnext⟩ := h
    refine ⟨fun x hx => Multiset.mem_add.mpr (.inl (live x hx)), owned.trans (Multiset.le_add_right _ _), ?_⟩
    intro r
    have heq : held + others - C.consumes op + C.hands op r =
        held - C.consumes op + C.hands op r + others := by
      rw [← tsub_add_eq_add_tsub owned, add_right_comm]
    rw [heq]
    exact ih r (hnext r)

/-- A program whose operations need nothing but `lent`, and leave it as it is, borrows it. -/
theorem owning_borrow {lent : Multiset Ref} {p : Program Op Reply α}
    (h : Program.Uses (fun op => (∀ x ∈ C.needs op, x ∈ lent) ∧ C.consumes op = 0 ∧ ∀ r, C.hands op r = 0) p) :
    Owning C lent p fun _ => lent := by
  induction p with
  | done a => rfl
  | crash m => trivial
  | perform op next ih =>
    obtain ⟨⟨live, hconsumes, hhands⟩, hnext⟩ := h
    refine ⟨live, hconsumes ▸ Multiset.zero_le _, fun r => ?_⟩
    rw [hconsumes, hhands r, tsub_zero, add_zero]
    exact ih r (hnext r)

/-- A program whose operations are carried out by programs that borrow `lent` borrows it. -/
theorem owning_translate {Op' : Type} {Reply' : Op' → Type} {lent : Multiset Ref}
    {f : (op : Op') → Program Op Reply (Reply' op)} (hf : ∀ op, Owning C lent (f op) fun _ => lent)
    (p : Program Op' Reply' α) : Owning C lent (p.translate f) fun _ => lent := by
  induction p with
  | done a => rfl
  | crash m => trivial
  | perform op next ih => exact owning_bind (hf op) ih

/-! ## Under a lock -/

/-- The lock itself refers to nothing. -/
def locked (C : Contract Op Reply Ref) : Contract (MutexOp Op) (MutexOp.Reply Reply) Ref where
  needs
    | .own op => C.needs op
    | _ => []
  consumes
    | .own op => C.consumes op
    | _ => 0
  hands
    | .own op, r => C.hands op r
    | .lock, _ => 0
    | .unlock, _ => 0

theorem owning_working {held : Multiset Ref} {p : Program Op Reply α} {post : α → Multiset Ref}
    (h : Owning C held p post) : Owning (locked C) held (Mutex.working p) post := by
  induction p generalizing held with
  | done a => exact h
  | crash m => trivial
  | perform op next ih =>
    obtain ⟨live, owned, hnext⟩ := h
    exact ⟨live, owned, fun r => ih r (hnext r)⟩

theorem yields_working {P : α → Prop} {p : Program Op Reply α} (h : Yields P p) : Yields P (Mutex.working p) := by
  induction p with
  | done a => exact h
  | crash m => trivial
  | perform op next ih => exact fun r _ => ih r (h r trivial)

theorem owning_critical {held : Multiset Ref} {body : Program Op Reply α} {post : α → Multiset Ref}
    (h : Owning C held body post) : Owning (locked C) held (Mutex.critical body) post := by
  refine @owning_call _ _ _ _ α (locked C) held .lock (fun _ => Mutex.releasing body) post held
    (add_zero held).symm (by simp [locked]) fun _ => ?_
  refine owning_bind (owning_working ((add_zero held).symm ▸ h)) fun a => ?_
  refine @owning_call _ _ _ _ α (locked C) (post a) .unlock (fun _ => .done a) post (post a)
    (add_zero (post a)).symm (by simp [locked]) fun _ => ?_
  exact owning_done (add_zero _)

/-! ## Programs that keep nothing -/

/-- In every run each operation is given what it needs, and at the end every reference handed out has been
given up, as often as it was handed out. -/
def Returns (C : Contract Op Reply Ref) (p : Program Op Reply α) : Prop :=
  ∀ t q, Steps p t q → ∃ held, Holds C 0 t held ∧ ∀ a, q = .done a → held = 0 ∧ handed C t = consumed C t

theorem Owning.returns {p : Program Op Reply α} (h : Owning C 0 p fun _ => 0) : Returns C p := by
  intro t q hsteps
  obtain ⟨held, hholds, hq⟩ := h.steps hsteps
  refine ⟨held, hholds, fun a ha => ?_⟩
  subst ha
  have hnone : held = 0 := hq
  have hbalance := hholds.balance
  rw [hnone, zero_add, zero_add] at hbalance
  exact ⟨hnone, hbalance⟩

end Ownership
end Libobsbot.Foundations

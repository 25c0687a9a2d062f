import Libobsbot.Foundations.Program

/-! # Two runs that observe the same

A relational logic for programs that may fail. `observe` says what is kept of an exchange and `enough` which
observations are good for anything. `Alike observe enough m m' R`: wherever `m` and `m'` both succeed on the same
observations, all of them enough, `R` holds between their values. The observations may go on after the two runs, so
that the relation follows the sequences the programs are made of.
-/

namespace Libobsbot.Foundations.TwoRuns
open Program
set_option autoImplicit false

variable {Op : Type} {Reply : Op → Type} {ε α α' β β' O : Type}

/-- A successful run of a sequence is a successful run of each part. -/
theorem steps_exceptBind_ok {m : ExceptT ε (Program Op Reply) α}
    {f : α → ExceptT ε (Program Op Reply) β} {t : List (Exchange Op Reply)} {b : β}
    (h : Steps (m >>= f).run t (.done (.ok b))) :
    ∃ u a v, t = u ++ v ∧ Steps m.run u (.done (.ok a)) ∧ Steps (f a).run v (.done (.ok b)) := by
  rw [ExceptT.run_bind] at h
  obtain ⟨u, r, v, rfl, hu, hv⟩ := h.bind_done
  cases r with
  | ok a => exact ⟨u, a, v, rfl, hu, hv⟩
  | error e =>
    obtain ⟨-, hdone⟩ := steps_done.mp hv
    cases hdone

def Alike (observe : Exchange Op Reply → Option O) (enough : O → Prop)
    (m : ExceptT ε (Program Op Reply) α) (m' : ExceptT ε (Program Op Reply) α')
    (R : α → α' → Prop) : Prop :=
  ∀ t t' a a' rest rest', Steps m.run t (.done (.ok a)) → Steps m'.run t' (.done (.ok a')) →
    t.filterMap observe ++ rest = t'.filterMap observe ++ rest' →
    (∀ o ∈ t.filterMap observe, enough o) → rest = rest' ∧ R a a'

section Rules
variable {observe : Exchange Op Reply → Option O} {enough : O → Prop}
  {m : ExceptT ε (Program Op Reply) α} {m' : ExceptT ε (Program Op Reply) α'} {R : α → α' → Prop}

theorem Alike.related (h : Alike observe enough m m' R) {t t' : List (Exchange Op Reply)} {a : α} {a' : α'}
    (ht : Steps m.run t (.done (.ok a))) (ht' : Steps m'.run t' (.done (.ok a')))
    (hsame : t.filterMap observe = t'.filterMap observe) (henough : ∀ o ∈ t.filterMap observe, enough o) :
    R a a' := by
  have hsame' : t.filterMap observe ++ [] = t'.filterMap observe ++ [] := by
    rw [List.append_nil, List.append_nil, hsame]
  exact (h t t' a a' [] [] ht ht' hsame' henough).2

theorem alike_done {r : Except ε α} {r' : Except ε α'} (h : ∀ a a', r = .ok a → r' = .ok a' → R a a') :
    Alike observe enough (.mk (.done r)) (.mk (.done r')) R := by
  intro t t' a a' rest rest' ht ht' hsame _
  obtain ⟨rfl, hr⟩ := steps_done.mp ht
  obtain ⟨rfl, hr'⟩ := steps_done.mp ht'
  cases hr
  cases hr'
  exact ⟨hsame, h a a' rfl rfl⟩

theorem alike_refl {r : Except ε α} :
    Alike observe enough (.mk (.done r) : ExceptT ε (Program Op Reply) α) (.mk (.done r)) Eq := by
  apply alike_done
  intro a a' ha ha'
  rw [ha] at ha'
  exact Except.ok.inj ha'

theorem alike_pure {a : α} {a' : α'} (h : R a a') :
    Alike observe enough (pure a : ExceptT ε (Program Op Reply) α) (pure a') R := by
  apply alike_done
  intro b b' hb hb'
  cases hb
  cases hb'
  exact h

/-- One operation each, observed whenever it succeeds. -/
theorem alike_perform {op op' : Op} {result : Reply op → Except ε α} {result' : Reply op' → Except ε α'}
    (h : ∀ r r' a a', result r = .ok a → result' r' = .ok a' →
      ∃ o o', observe ⟨op, r⟩ = some o ∧ observe ⟨op', r'⟩ = some o' ∧ (o = o' → enough o → R a a')) :
    Alike observe enough (.mk (.perform op fun r => .done (result r)))
      (.mk (.perform op' fun r => .done (result' r))) R := by
  intro t t' a a' rest rest' ht ht' hsame henough
  obtain ⟨rfl, hp⟩ | ⟨r, u, rfl, hu⟩ := steps_perform.mp ht
  · cases hp
  obtain ⟨rfl, hp⟩ | ⟨r', u', rfl, hu'⟩ := steps_perform.mp ht'
  · cases hp
  obtain ⟨rfl, hr⟩ := steps_done.mp hu
  obtain ⟨rfl, hr'⟩ := steps_done.mp hu'
  obtain ⟨o, o', ho, ho', hrelated⟩ := h r r' a a' (Program.done.inj hr).symm (Program.done.inj hr').symm
  have hobserved : List.filterMap observe [⟨op, r⟩] = [o] := List.filterMap_cons_some ho
  have hobserved' : List.filterMap observe [⟨op', r'⟩] = [o'] := List.filterMap_cons_some ho'
  rw [hobserved, hobserved'] at hsame
  rw [hobserved] at henough
  obtain ⟨hfirst, hrest⟩ := List.cons.inj hsame
  exact ⟨hrest, hrelated hfirst (henough o List.mem_cons_self)⟩

theorem Alike.bind (h : Alike observe enough m m' R) {f : α → ExceptT ε (Program Op Reply) β}
    {f' : α' → ExceptT ε (Program Op Reply) β'} {S : β → β' → Prop}
    (hf : ∀ a a', R a a' → Alike observe enough (f a) (f' a') S) :
    Alike observe enough (m >>= f) (m' >>= f') S := by
  intro t t' b b' rest rest' ht ht' hsame henough
  obtain ⟨u, a, v, rfl, hu, hv⟩ := steps_exceptBind_ok ht
  obtain ⟨u', a', v', rfl, hu', hv'⟩ := steps_exceptBind_ok ht'
  rw [List.filterMap_append, List.filterMap_append, List.append_assoc, List.append_assoc] at hsame
  rw [List.filterMap_append] at henough
  have hfirst : ∀ o ∈ u.filterMap observe, enough o := fun o ho => henough o (List.mem_append_left _ ho)
  have hsecond : ∀ o ∈ v.filterMap observe, enough o := fun o ho => henough o (List.mem_append_right _ ho)
  obtain ⟨hrest, hrelated⟩ := h u u' a a' _ _ hu hu' hsame hfirst
  exact hf a a' hrelated v v' b b' rest rest' hv hv' hrest hsecond

end Rules

end Libobsbot.Foundations.TwoRuns

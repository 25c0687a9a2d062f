import Libobsbot.Foundations.Program
import Mathlib.Data.Multiset.AddSub

/-! # What references refer to

A program is handed references and passes them on, and only the service behind its operations knows what they refer to.
What is held is a multiset of references with their referents. It is coherent: while a reference is held, it refers to
one thing. `Ensures` is the rule of a program that starts with part of what is held, whatever the rest of it is.
-/

namespace Libobsbot.Foundations.Referents
open Program (Steps Exchange)
set_option autoImplicit false

variable {Op : Type} {Reply : Op → Type} {Ref Thing : Type} {α β ε : Type}

abbrev Held (Ref Thing : Type) : Type := Multiset (Ref × Thing)

def Coherent (held : Held Ref Thing) : Prop := ∀ r x y, (r, x) ∈ held → (r, y) ∈ held → x = y

theorem mem_last {held : Held Ref Thing} {x : Ref × Thing} : x ∈ held + {x} := by simp

theorem Coherent.agree {kept held : Held Ref Thing} {r : Ref} {x y : Thing} (h : Coherent (kept + held))
    (hx : (r, x) ∈ held) (hy : (r, y) ∈ kept + held) : y = x := h r y x hy (by simp [hx])

/-- What is left once a reference is given up is known, as it is known what the reference refers to. -/
theorem Coherent.rest {kept base left : Held Ref Thing} {r : Ref} {x y : Thing}
    (h : Coherent (kept + (base + {(r, x)}))) (heq : kept + (base + {(r, x)}) = left + {(r, y)}) :
    y = x ∧ left = kept + base := by
  have hmem : (r, y) ∈ kept + (base + {(r, x)}) := by simp [heq]
  obtain rfl : y = x := h.agree mem_last hmem
  rw [← add_assoc] at heq
  exact ⟨rfl, (add_right_cancel heq).symm⟩

/-- `S held op r held'`: the service may answer `op` with `r`, and `held'` is held then. -/
abbrev Service (Op : Type) (Reply : Op → Type) (Ref Thing : Type) : Type :=
  Held Ref Thing → (op : Op) → Reply op → Held Ref Thing → Prop

/-- A run that the service answers, from what is held before it to what is held after it. -/
inductive Served (S : Service Op Reply Ref Thing) : Held Ref Thing → List (Exchange Op Reply) → Held Ref Thing → Prop
  | nil (held : Held Ref Thing) : Served S held [] held
  | cons {held held' : Held Ref Thing} {op : Op} {r : Reply op} {t : List (Exchange Op Reply)}
      (mid : Held Ref Thing) (answer : S held op r mid) (coherent : Coherent mid) (rest : Served S mid t held') :
      Served S held (⟨op, r⟩ :: t) held'

variable {S : Service Op Reply Ref Thing}

theorem Served.split {held held' : Held Ref Thing} {t u : List (Exchange Op Reply)}
    (h : Served S held (t ++ u) held') : ∃ mid, Served S held t mid ∧ Served S mid u held' := by
  induction t generalizing held with
  | nil => exact ⟨held, .nil held, h⟩
  | cons x t ih =>
    cases h with
    | cons next answer coherent rest =>
      obtain ⟨mid, hfirst, hlast⟩ := ih rest
      exact ⟨mid, .cons next answer coherent hfirst, hlast⟩

/-- Whatever else is held, it is still held in the end, along with what `post` says of the value. -/
def Ensures (S : Service Op Reply Ref Thing) (held : Held Ref Thing) (p : Program Op Reply α)
    (post : α → Held Ref Thing → Prop) : Prop :=
  ∀ kept t a held', Coherent (kept + held) → Served S (kept + held) t held' → Steps p t (.done a) →
    ∃ now, held' = kept + now ∧ Coherent held' ∧ post a now

theorem Ensures.mono {held : Held Ref Thing} {p : Program Op Reply α} {post post' : α → Held Ref Thing → Prop}
    (h : Ensures S held p post) (hpost : ∀ a now, post a now → post' a now) : Ensures S held p post' := by
  intro kept t a held' hcoherent hserved hsteps
  obtain ⟨now, heq, hcoherent', ha⟩ := h kept t a held' hcoherent hserved hsteps
  exact ⟨now, heq, hcoherent', hpost a now ha⟩

/-- A program that starts with nothing. -/
theorem Ensures.alone {p : Program Op Reply α} {post : α → Held Ref Thing → Prop} (h : Ensures S 0 p post)
    {t : List (Exchange Op Reply)} {a : α} {held' : Held Ref Thing} (hserved : Served S 0 t held')
    (hsteps : Steps p t (.done a)) : post a held' := by
  have hcoherent : Coherent ((0 : Held Ref Thing) + 0) := fun r x y hx => by simp at hx
  obtain ⟨now, heq, -, ha⟩ := h 0 t a held' hcoherent (by simpa using hserved) hsteps
  rw [heq, zero_add]
  exact ha

end Libobsbot.Foundations.Referents

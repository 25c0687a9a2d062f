import Libobsbot.Foundations.Program

/-! # Runs of a translated program

A run of `translate f p` falls into runs of the single operations of `p`, of which the last one may still be under way.
-/

namespace Libobsbot.Foundations.Program
set_option autoImplicit false

variable {Op Op' : Type} {Reply : Op → Type} {Reply' : Op' → Type} {α : Type}
  {f : (op : Op) → Program Op' Reply' (Reply op)}

/-- The first trace carries out the operations of the second one, one after the other. -/
inductive Carries (f : (op : Op) → Program Op' Reply' (Reply op)) :
    List (Exchange Op' Reply') → List (Exchange Op Reply) → Prop
  | nil : Carries f [] []
  | cons {op : Op} {r : Reply op} {u low : List (Exchange Op' Reply')} {high : List (Exchange Op Reply)}
      (first : Steps (f op) u (.done r)) (rest : Carries f low high) : Carries f (u ++ low) (⟨op, r⟩ :: high)

theorem Carries.split {low : List (Exchange Op' Reply')} {high : List (Exchange Op Reply)}
    {x : Exchange Op Reply} {high' : List (Exchange Op Reply)} (h : Carries f low (high ++ x :: high')) :
    ∃ before u after, low = before ++ u ++ after ∧ Carries f before high ∧ Steps (f x.1) u (.done x.2) ∧
      Carries f after high' := by
  induction high generalizing low with
  | nil =>
    cases h with
    | @cons op r u low _ first rest => exact ⟨[], u, low, rfl, .nil, first, rest⟩
  | cons y high ih =>
    cases h with
    | cons first rest =>
      obtain ⟨before, u, after, rfl, hbefore, hu, hafter⟩ := ih rest
      exact ⟨_, u, after, by simp, .cons first hbefore, hu, hafter⟩

/-- What is behind the last operation that is done: nothing, or the beginning of the next one. -/
def Begun (f : (op : Op) → Program Op' Reply' (Reply op)) (p : Program Op Reply α)
    (part : List (Exchange Op' Reply')) (q : Program Op' Reply' α) : Prop :=
  (part = [] ∧ q = p.translate f) ∨
    ∃ op next rest, p = .perform op next ∧ Steps (f op) part rest ∧ (∀ r, rest ≠ .done r) ∧
      q = rest >>= fun r => (next r).translate f

theorem Steps.translated {p : Program Op Reply α} {t : List (Exchange Op' Reply')} {q : Program Op' Reply' α}
    (h : Steps (p.translate f) t q) : ∃ low part high p', t = low ++ part ∧ Carries f low high ∧
      Steps p high p' ∧ Begun f p' part q := by
  induction p generalizing t with
  | done a =>
    obtain ⟨rfl, rfl⟩ := steps_done.mp h
    exact ⟨[], [], [], .done a, rfl, .nil, .refl _, .inl ⟨rfl, rfl⟩⟩
  | crash m =>
    cases h
    exact ⟨[], [], [], .crash m, rfl, .nil, .refl _, .inl ⟨rfl, rfl⟩⟩
  | perform op next ih =>
    obtain ⟨rest, hrest, hne, hq⟩ | ⟨u, r, v, rfl, hu, hv⟩ := Steps.bind_cases h
    · exact ⟨[], t, [], .perform op next, rfl, .nil, .refl _, .inr ⟨op, next, rest, rfl, hrest, hne, hq⟩⟩
    · obtain ⟨low, part, high, p', rfl, hlow, hhigh, hpart⟩ := ih r hv
      exact ⟨u ++ low, part, ⟨op, r⟩ :: high, p', by simp, .cons hu hlow, .perform r hhigh, hpart⟩

/-- Nothing of the next operation has been done. -/
theorem Begun.of_nil {p : Program Op Reply α} {q : Program Op' Reply' α} (h : Begun f p [] q) :
    q = p.translate f := by
  obtain ⟨-, hq⟩ | ⟨op, next, rest, rfl, hrest, -, rfl⟩ := h
  · exact hq
  · generalize hop : f op = p at hrest
    cases hrest
    rw [← hop]
    rfl

/-- A run, each operation carried out by a run of its own, is a run of the translation. -/
theorem Steps.carried {p q : Program Op Reply α} {high : List (Exchange Op Reply)}
    {P : Exchange Op' Reply' → Prop} (h : Steps p high q)
    (hcarried : ∀ x ∈ high, ∃ u, Steps (f x.1) u (.done x.2) ∧ ∀ y ∈ u, P y) :
    ∃ low, Carries f low high ∧ Steps (p.translate f) low (q.translate f) ∧ ∀ y ∈ low, P y := by
  induction h with
  | refl p => exact ⟨[], .nil, .refl _, by simp⟩
  | @perform op next r t q _ ih =>
    obtain ⟨hfirst, hrest⟩ := List.forall_mem_cons.mp hcarried
    obtain ⟨u, hu, hP⟩ := hfirst
    obtain ⟨low, hlow, hsteps, hP'⟩ := ih hrest
    refine ⟨u ++ low, .cons hu hlow, ?_, List.forall_mem_append.mpr ⟨hP, hP'⟩⟩
    exact @Steps.bind _ _ _ _ (f op) (fun r => (next r).translate f) r u low _ hu hsteps

end Libobsbot.Foundations.Program

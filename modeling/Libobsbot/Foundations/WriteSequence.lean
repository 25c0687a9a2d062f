import Libobsbot.Foundations.Program

/-! # A sequence of writes that may be refused

A store keeps a value at each key. The writes on it are numbered as they are tried, and `refuses` says which of
them it refuses and why; a refused write leaves the store as it was. `attemptAll` tries a list of writes in order
up to the first refusal, which `report` turns into the caller's error. Nothing is undone, so what a failed sequence
leaves is the store with the writes before the refused one. `Writes` says that a program does this and nothing else.
-/

namespace Libobsbot.Foundations.WriteSequence
set_option autoImplicit false

structure Attempts (K V : Type) where
  store : K → V
  tried : ℕ

variable {K V E E' : Type} [DecidableEq K]

/-- The next write, refused or carried out. -/
def attempt (refuses : ℕ → Option E) (k : K) (v : V) (s : Attempts K V) :
    Except E Unit × Attempts K V :=
  match refuses s.tried with
  | some e => (.error e, { s with tried := s.tried + 1 })
  | none => (.ok (), ⟨Function.update s.store k v, s.tried + 1⟩)

/-- The writes in order, up to the first that is refused. -/
def attemptAll (refuses : ℕ → Option E) (report : K × V → E → E') :
    List (K × V) → Attempts K V → Except E' Unit × Attempts K V
  | [], s => (.ok (), s)
  | w :: ws, s => match attempt refuses w.1 w.2 s with
    | (.ok (), s) => attemptAll refuses report ws s
    | (.error e, s) => (.error (report w e), s)

def applyAll (ws : List (K × V)) (store : K → V) : K → V :=
  ws.foldl (fun store w => Function.update store w.1 w.2) store

/-! ## One write -/

section One
variable {refuses : ℕ → Option E} {s : Attempts K V} {e : E}

theorem attempt_refused (k : K) (v : V) (h : refuses s.tried = some e) :
    attempt refuses k v s = (.error e, ⟨s.store, s.tried + 1⟩) := by
  unfold attempt
  rw [h]

theorem attempt_accepted (k : K) (v : V) (h : refuses s.tried = none) :
    attempt refuses k v s = (.ok (), ⟨Function.update s.store k v, s.tried + 1⟩) := by
  unfold attempt
  rw [h]

end One

/-! ## What a list of writes leaves -/

section All
variable {refuses : ℕ → Option E} {report : K × V → E → E'}

theorem attemptAll_cons_refused {s : Attempts K V} {e : E} (w : K × V) (ws : List (K × V))
    (h : refuses s.tried = some e) :
    attemptAll refuses report (w :: ws) s = (.error (report w e), ⟨s.store, s.tried + 1⟩) := by
  simp only [attemptAll, attempt_refused w.1 w.2 h]

theorem attemptAll_cons_accepted {s : Attempts K V} (w : K × V) (ws : List (K × V))
    (h : refuses s.tried = none) : attemptAll refuses report (w :: ws) s =
      attemptAll refuses report ws ⟨Function.update s.store w.1 w.2, s.tried + 1⟩ := by
  simp only [attemptAll, attempt_accepted w.1 w.2 h]

/-- A sequence fails at its first refused write, and the writes before that one stay. -/
theorem attemptAll_error {ws : List (K × V)} {s s' : Attempts K V} {e' : E'}
    (h : attemptAll refuses report ws s = (.error e', s')) :
    ∃ completed w rest e, ws = completed ++ w :: rest ∧ e' = report w e ∧
      refuses (s.tried + completed.length) = some e ∧
      (∀ i < completed.length, refuses (s.tried + i) = none) ∧
      s'.store = applyAll completed s.store := by
  induction ws generalizing s with
  | nil => cases h
  | cons w ws ih =>
    cases hrefuses : refuses s.tried with
    | some e =>
      rw [attemptAll_cons_refused w ws hrefuses] at h
      cases h
      exact ⟨[], w, ws, e, rfl, rfl, hrefuses, by simp, rfl⟩
    | none =>
      rw [attemptAll_cons_accepted w ws hrefuses] at h
      obtain ⟨completed, w', rest, e, rfl, rfl, hat, hbefore, hstore⟩ := ih h
      refine ⟨w :: completed, w', rest, e, rfl, rfl, ?_, ?_, hstore⟩
      · rw [List.length_cons, ← hat, Nat.add_right_comm, Nat.add_assoc]
      · intro i hi
        cases i with
        | zero => exact hrefuses
        | succ i =>
          have hi' : i < completed.length := Nat.lt_of_succ_lt_succ hi
          rw [← hbefore i hi', Nat.add_right_comm, Nat.add_assoc]

/-- What a failed sequence of two writes leaves: nothing, or the first write alone. -/
theorem attemptAll_pair_error {w₁ w₂ : K × V} {s s' : Attempts K V} {e' : E'}
    (h : attemptAll refuses report [w₁, w₂] s = (.error e', s')) :
    (∃ e, refuses s.tried = some e ∧ e' = report w₁ e ∧ s'.store = s.store) ∨
      ∃ e, refuses s.tried = none ∧ refuses (s.tried + 1) = some e ∧ e' = report w₂ e ∧
        s'.store = Function.update s.store w₁.1 w₁.2 := by
  obtain ⟨completed, w, rest, e, hsplit, rfl, hat, hbefore, hstore⟩ := attemptAll_error h
  match completed with
  | [] =>
    cases hsplit
    exact .inl ⟨e, hat, rfl, hstore⟩
  | [w'] =>
    cases hsplit
    exact .inr ⟨e, hbefore 0 Nat.one_pos, hat, rfl, hstore⟩
  | _ :: _ :: completed =>
    have hlen := congrArg List.length hsplit
    simp only [List.length_cons, List.length_append, List.length_nil] at hlen
    omega

theorem attemptAll_one_error {w : K × V} {s s' : Attempts K V} {e' : E'}
    (h : attemptAll refuses report [w] s = (.error e', s')) :
    ∃ e, refuses s.tried = some e ∧ e' = report w e ∧ s'.store = s.store := by
  obtain ⟨completed, w', rest, e, hsplit, rfl, hat, -, hstore⟩ := attemptAll_error h
  match completed with
  | [] =>
    cases hsplit
    exact ⟨e, hat, rfl, hstore⟩
  | _ :: completed =>
    have hlen := congrArg List.length hsplit
    simp only [List.length_cons, List.length_append, List.length_nil] at hlen
    omega

theorem attemptAll_append (ws vs : List (K × V)) (s : Attempts K V) :
    attemptAll refuses report (ws ++ vs) s = match attemptAll refuses report ws s with
      | (.ok (), s') => attemptAll refuses report vs s'
      | (.error e, s') => (.error e, s') := by
  induction ws generalizing s with
  | nil => rfl
  | cons w ws ih =>
    rw [List.cons_append]
    cases hrefuses : refuses s.tried with
    | some e => rw [attemptAll_cons_refused _ _ hrefuses, attemptAll_cons_refused _ _ hrefuses]
    | none =>
      rw [attemptAll_cons_accepted _ _ hrefuses, attemptAll_cons_accepted _ _ hrefuses]
      exact ih _

end All

/-! ## Programs that write -/

section Programs
variable {Op : Type} {Reply : Op → Type}
  {answer : (op : Op) → Attempts K V → Reply op × Attempts K V} {refuses : ℕ → Option E}
  {report : K × V → E → E'}

/-- Answered by `answer`, the program tries these writes in order, up to the first that is refused. -/
def Writes (answer : (op : Op) → Attempts K V → Reply op × Attempts K V) (refuses : ℕ → Option E)
    (report : K × V → E → E') (m : ExceptT E' (Program Op Reply) Unit) (ws : List (K × V)) : Prop :=
  ∀ s, m.run.run answer s =
    (.ok (attemptAll refuses report ws s).1, (attemptAll refuses report ws s).2)

theorem writes_one {op : Op} {result : Reply op → Except E' Unit} {w : K × V}
    (h : ∀ s, (result (answer op s).1, (answer op s).2) =
      ((attempt refuses w.1 w.2 s).1.mapError (report w), (attempt refuses w.1 w.2 s).2)) :
    Writes answer refuses report (.mk (.perform op fun r => .done (result r))) [w] := by
  intro s
  obtain ⟨hresult, hstate⟩ := Prod.mk.inj (h s)
  show ((.ok (result (answer op s).1) : Except String (Except E' Unit)), (answer op s).2) = _
  rw [hresult, hstate]
  cases hrefuses : refuses s.tried with
  | some e => rw [attempt_refused _ _ hrefuses, attemptAll_cons_refused _ _ hrefuses, Except.mapError]
  | none =>
    rw [attempt_accepted _ _ hrefuses, attemptAll_cons_accepted _ _ hrefuses]
    rfl

theorem Writes.append {m n : ExceptT E' (Program Op Reply) Unit} {ws vs : List (K × V)}
    (hm : Writes answer refuses report m ws) (hn : Writes answer refuses report n vs) :
    Writes answer refuses report (do m; n) (ws ++ vs) := by
  intro s
  show Program.run answer (m.run >>= ExceptT.bindCont fun _ => n) s = _
  rw [Program.run_bind, hm s, attemptAll_append]
  cases hresult : attemptAll refuses report ws s with
  | mk r s' =>
    cases r with
    | error e => rfl
    | ok u => exact hn s'

theorem Writes.error {m : ExceptT E' (Program Op Reply) Unit} {ws : List (K × V)} {s s' : Attempts K V}
    {e : E'} (hm : Writes answer refuses report m ws)
    (h : m.run.run answer s = (.ok (.error e), s')) :
    attemptAll refuses report ws s = (.error e, s') := by
  rw [hm s] at h
  obtain ⟨hresult, hstate⟩ := Prod.mk.inj h
  exact Prod.ext (Except.ok.inj hresult) hstate

end Programs

end Libobsbot.Foundations.WriteSequence

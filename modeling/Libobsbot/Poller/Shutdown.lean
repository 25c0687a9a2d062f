import Libobsbot.Poller.Threads

/-! # The end of the status poller

`poll_loop` is a worker's loop whose rounds send at most one event, so whatever the stop flag cuts it at, at
most one event is still sent, and none once `Device::drop` has joined it.
-/

namespace Libobsbot.Poller
open Foundations
open Foundations.Program (Uses Steps Exchange)
set_option autoImplicit false

def stops : PollerOp.Reply .loadStop → Bool := fun stop => stop

/-- What the loop does between its check and its pause. -/
def pollRound (serial : String) : PollerProgram (Option ℕ) := do
  let snapshot ← onTransport sampleStatus
  if ← Poller.send (.status serial snapshot) then
    return some (← Poller.loadCadence)
  else return none

theorem pollLoop_eq (serial : String) (rounds k : ℕ) : pollLoop serial rounds =
    Worker.loop stops (fun _ => pollRound serial) (fun target => pollPause target 0) rounds k := by
  induction rounds generalizing k with
  | zero => rfl
  | succ rounds ih =>
    unfold pollLoop Worker.loop pollRound
    refine congrArg (Program.perform _) (funext fun stop => ?_)
    cases stop with
    | true => rfl
    | false =>
      show (onTransport sampleStatus >>= _) = (onTransport sampleStatus >>= _) >>= _
      rw [Program.bind_bind]
      refine congrArg _ (funext fun snapshot => ?_)
      refine congrArg (Program.perform _) (funext fun received => ?_)
      cases received with
      | false => rfl
      | true =>
        refine congrArg (Program.perform _) (funext fun target => ?_)
        show (pollPause target 0 >>= _) = pollPause target 0 >>= _
        simp only [ih target]
        rfl

/-- The event of a send, received or not. -/
def sentOf : Exchange PollerOp PollerOp.Reply → Option Event
  | ⟨.send event, _⟩ => some event
  | _ => none

def Unsent : PollerOp → Prop
  | .send _ => False
  | _ => True

theorem sent_of_unsent {α : Type} {p q : PollerProgram α}
    {t : List (Exchange PollerOp PollerOp.Reply)} (huses : Uses Unsent p) (h : Steps p t q) :
    t.filterMap sentOf = [] := by
  refine List.filterMap_eq_nil_iff.mpr fun x hx => ?_
  have hunsent := huses.of_steps h x hx
  obtain ⟨op, r⟩ := x
  cases op with
  | send event => exact absurd hunsent id
  | _ => rfl

theorem sent_pause {target : ℕ} {t : List (Exchange PollerOp PollerOp.Reply)}
    {q : PollerProgram Bool} (h : Steps (pollPause target 0) t q) : t.filterMap sentOf = [] := by
  refine sent_of_unsent (Program.UsesGiven.uses ?_) h
  exact usesGiven_pollPause trivial (fun _ _ _ => trivial) (Nat.dvd_zero _)

theorem sent_round {serial : String} {t : List (Exchange PollerOp PollerOp.Reply)}
    {q : PollerProgram (Option ℕ)} (h : Steps (pollRound serial) t q) :
    (t.filterMap sentOf).length ≤ 1 := by
  have hsample : Uses Unsent (onTransport sampleStatus) :=
    uses_onTransport (Program.uses_of_forall (fun _ => trivial) _)
  obtain ⟨p, hp, -, -⟩ | ⟨u, snapshot, v, rfl, hu, hv⟩ := Steps.bind_cases h
  · rw [sent_of_unsent hsample hp]
    exact Nat.zero_le 1
  · rw [List.filterMap_append, sent_of_unsent hsample hu, List.nil_append]
    obtain ⟨rfl, -⟩ | ⟨received, w, rfl, hw⟩ := Program.steps_op_bind.mp hv
    · exact Nat.zero_le 1
    · have hrest : w.filterMap sentOf = [] := by
        refine sent_of_unsent ?_ hw
        cases received with
        | false => trivial
        | true => exact ⟨trivial, fun _ => trivial⟩
      rw [List.filterMap_cons, hrest]
      exact Nat.le_refl 1

/-! ## After the flag, and after the join -/

section Runs
variable {ι : Type} [DecidableEq ι] {α : ι → Type} {κ : Type} {camera : CameraModel κ} {serial : String}
  {rounds : ℕ} {c d : HandleConfig ι α κ} {ls ms : List (HandleLabel ι)} {i : HandleThread ι}

def statusEvents (ls : List (HandleLabel ι)) : List Event :=
  (Worker.ownExchanges .poller ls).filterMap sentOf

theorem Opened.after_stop (hc : Opened serial rounds c)
    (h : (world ι camera).Run c (ls ++ .thread i .setStop () :: ms) d) :
    (statusEvents ms).length ≤ 1 := by
  obtain ⟨⟨q, hsteps⟩, hstop⟩ := Worker.own_after_stop h hc.poller
  rw [pollLoop_eq serial rounds 0] at hsteps
  have hunder : ∀ x ∈ Worker.ownExchanges .poller ms, Worker.UnderStop stops x := by
    rintro x hx r rfl
    obtain ⟨s, t, heffect⟩ := hstop _ hx
    cases heffect
    rfl
  obtain hnothing | ⟨k, u, a, b, c, q', -, -, hms, hround, hrest⟩ := @Worker.last_round _ _ _ _ _ _ _ _ sentOf
    (fun _ => rfl) (fun _ _ _ => sent_pause) (fun _ _ => True) (fun _ _ _ _ _ _ => trivial)
    (fun _ _ _ _ _ => trivial) _ _ [] _ _ _ trivial hsteps hunder
  · rw [statusEvents, hnothing]
    exact Nat.zero_le 1
  · have hsent := sent_round hround
    rw [List.filterMap_append, List.length_append] at hsent
    rw [statusEvents, hms, List.filterMap_append, hrest, List.append_nil]
    omega

theorem Opened.after_join (hc : Opened serial rounds c)
    (h : (world ι camera).Run c (ls ++ .thread i .join () :: ms) d) : statusEvents ms = [] := by
  have huses : ∀ j, Uses (Worker.OnlyEndsItself .poller j) (c.threads j) := by
    intro j
    cases j with
    | poller =>
      refine Program.uses_of_forall (fun op => ?_) _
      cases op with
      | finish => rfl
      | _ => trivial
    | client j =>
      refine (hc.clients j).mono fun op hop => ?_
      cases op with
      | finish => exact absurd hop id
      | _ => trivial
  rw [statusEvents, Worker.own_after_join h hc.poller hc.finished huses]
  rfl

end Runs
end Libobsbot.Poller

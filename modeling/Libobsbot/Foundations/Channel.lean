import Mathlib

/-! # One queue, many receivers

An unbounded first-in first-out channel whose receivers share one queue: a receive call takes the oldest
event for its own receiver, or finds the queue empty. A schedule is any order of sends and receive
calls. Nothing is lost or reordered (`taken_append_queue`), but an event has one taker, so a receiver
has everything iff no other receiver ever called while an event was waiting (`received_eq_sent_iff`).
-/

namespace Libobsbot.Foundations
set_option autoImplicit false

inductive ChannelCall (ι E : Type) where
  | send (event : E)
  | receive (receiver : ι)
  deriving DecidableEq

def ChannelCall.isReceiveOf {ι E : Type} [DecidableEq ι] (i : ι) : ChannelCall ι E → Bool
  | .send _ => false
  | .receive j => j = i

/-- The waiting events, and every event taken with its receiver. -/
structure Channel (ι E : Type) where
  queue : List E
  taken : List (ι × E)

namespace Channel
variable {ι E : Type}

def empty : Channel ι E := ⟨[], []⟩

@[simp] theorem empty_queue : (empty : Channel ι E).queue = [] := rfl

@[simp] theorem empty_taken : (empty : Channel ι E).taken = [] := rfl

def step (c : Channel ι E) : ChannelCall ι E → Channel ι E
  | .send event => { c with queue := c.queue ++ [event] }
  | .receive i =>
    match c.queue with
    | [] => c
    | event :: rest => { queue := rest, taken := c.taken ++ [(i, event)] }

def run (c : Channel ι E) (schedule : List (ChannelCall ι E)) : Channel ι E := schedule.foldl step c

theorem run_append (c : Channel ι E) (s s' : List (ChannelCall ι E)) :
    c.run (s ++ s') = (c.run s).run s' :=
  List.foldl_append

def sentBy : List (ChannelCall ι E) → List E
  | [] => []
  | .send event :: rest => event :: sentBy rest
  | .receive _ :: rest => sentBy rest

theorem sentBy_append (s s' : List (ChannelCall ι E)) :
    sentBy (s ++ s') = sentBy s ++ sentBy s' := by
  induction s with
  | nil => rfl
  | cons call s ih =>
    cases call with
    | send event => exact congrArg (event :: ·) ih
    | receive i => exact ih

/-- Everything sent has been taken, oldest first, or is waiting. -/
theorem taken_append_queue (c : Channel ι E) (schedule : List (ChannelCall ι E)) :
    (c.run schedule).taken.map Prod.snd ++ (c.run schedule).queue =
      c.taken.map Prod.snd ++ c.queue ++ sentBy schedule := by
  induction schedule generalizing c with
  | nil => simp [run, sentBy]
  | cons call rest ih =>
    apply (ih (c.step call)).trans
    cases call with
    | send event => simp [step, sentBy]
    | receive i =>
      cases hq : c.queue with
      | nil => simp [step, hq, sentBy]
      | cons event queue => simp [step, hq, sentBy]

theorem queue_of_no_sends (c : Channel ι E) {schedule : List (ChannelCall ι E)}
    (h : sentBy schedule = []) : (c.run schedule).queue = c.queue.drop schedule.length := by
  induction schedule generalizing c with
  | nil => rfl
  | cons call rest ih =>
    cases call with
    | send event => cases h
    | receive i =>
      apply (ih (c.step (.receive i)) h).trans
      cases hq : c.queue with
      | nil => simp [step, hq]
      | cons event queue => simp [step, hq]

theorem taken_prefix (c : Channel ι E) (schedule : List (ChannelCall ι E)) :
    c.taken <+: (c.run schedule).taken := by
  induction schedule generalizing c with
  | nil => exact List.prefix_refl _
  | cons call rest ih =>
    refine List.IsPrefix.trans ?_ (ih (c.step call))
    cases call with
    | send event => exact List.prefix_refl _
    | receive i =>
      cases hq : c.queue with
      | nil => simp [step, hq]
      | cons event queue => simp [step, hq]

/-- No other receiver calls while an event is waiting. -/
def Exclusive (i : ι) : Channel ι E → List (ChannelCall ι E) → Prop
  | _, [] => True
  | c, .send event :: rest => Exclusive i (c.step (.send event)) rest
  | c, .receive j :: rest => (j = i ∨ c.queue = []) ∧ Exclusive i (c.step (.receive j)) rest

/-- The calls of a schedule under which only `i` takes events are the exclusive ones. -/
theorem exclusive_iff (i : ι) (c : Channel ι E) (schedule : List (ChannelCall ι E)) :
    Exclusive i c schedule ↔
      ∃ new, (c.run schedule).taken = c.taken ++ new ∧ ∀ x ∈ new, x.1 = i := by
  induction schedule generalizing c with
  | nil => exact iff_of_true trivial ⟨[], by simp [run], by simp⟩
  | cons call rest ih =>
    cases call with
    | send event => exact ih (c.step (.send event))
    | receive j =>
      rw [Exclusive, ih]
      show _ ↔ ∃ new, ((c.step (.receive j)).run rest).taken = _ ∧ _
      cases hq : c.queue with
      | nil =>
        have hstep : c.step (.receive j) = c := by simp [step, hq]
        rw [hstep]
        simp
      | cons event queue =>
        have hstep : (c.step (.receive j)).taken = c.taken ++ [(j, event)] := by simp [step, hq]
        rw [hstep]
        constructor
        · rintro ⟨hj, new, hnew, hall⟩
          have hji : j = i := hj.resolve_right (by simp)
          refine ⟨(j, event) :: new, by simp [hnew], ?_⟩
          simpa [hji] using hall
        · rintro ⟨new, hnew, hall⟩
          obtain ⟨later, hlater⟩ := taken_prefix (c.step (.receive j)) rest
          rw [← hlater, hstep, List.append_assoc] at hnew
          obtain rfl := List.append_cancel_left hnew
          exact ⟨.inl (hall (j, event) (by simp)), later, by rw [← hlater, hstep],
            fun x hx => hall x (by simp [hx])⟩

variable [DecidableEq ι]

/-- What receiver `i` has got, in order. -/
def received (i : ι) (c : Channel ι E) : List E :=
  (c.taken.filter fun x => x.1 = i).map Prod.snd

/-- After the last send, `i` makes as many calls as there were events. -/
def KeepsReceiving (i : ι) (schedule : List (ChannelCall ι E)) : Prop :=
  ∃ front back, schedule = front ++ back ∧ sentBy back = [] ∧
    (sentBy schedule).length ≤ back.countP (ChannelCall.isReceiveOf i)

theorem KeepsReceiving.queue_eq_nil {i : ι} {schedule : List (ChannelCall ι E)}
    (h : KeepsReceiving i schedule) : ((empty : Channel ι E).run schedule).queue = [] := by
  obtain ⟨front, back, rfl, hback, hcount⟩ := h
  have hfront := congrArg List.length (taken_append_queue (empty : Channel ι E) front)
  have hcalls : back.countP (ChannelCall.isReceiveOf i) ≤ back.length := List.countP_le_length
  rw [sentBy_append, hback, List.append_nil] at hcount
  simp only [empty_queue, empty_taken, List.map_nil, List.nil_append, List.length_append] at hfront
  rw [run_append, queue_of_no_sends _ hback, List.drop_eq_nil_iff]
  omega

/-- A receiver that keeps receiving gets everything iff it is the only one to call while an event is
waiting. -/
theorem received_eq_sent_iff {i : ι} {schedule : List (ChannelCall ι E)}
    (h : KeepsReceiving i schedule) :
    received i ((empty : Channel ι E).run schedule) = sentBy schedule ↔
      Exclusive i empty schedule := by
  have hall := taken_append_queue (empty : Channel ι E) schedule
  rw [h.queue_eq_nil, List.append_nil] at hall
  simp only [empty_queue, empty_taken, List.map_nil, List.nil_append] at hall
  rw [exclusive_iff, ← hall]
  constructor
  · intro he
    refine ⟨_, (List.nil_append _).symm, fun x hx => ?_⟩
    have hlen := congrArg List.length he
    rw [received, List.length_map, List.length_map, List.length_filter_eq_length_iff] at hlen
    simpa using hlen x hx
  · rintro ⟨new, hnew, honly⟩
    have htaken : ((empty : Channel ι E).run schedule).taken = new := hnew
    rw [received, List.filter_eq_self.mpr]
    intro x hx
    simpa using honly x (htaken ▸ hx)

end Channel
end Libobsbot.Foundations

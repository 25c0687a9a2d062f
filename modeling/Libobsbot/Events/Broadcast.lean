import Libobsbot.Foundations.Channel
import Libobsbot.Source.Types

/-! # Who gets an event

`Devices::new` makes one channel. Its sender is cloned into the watcher and every status poller, and
`Devices::events` clones its receiver; `obsbot_devices_poll_event` receives through a clone of its own on
every call. Clones share the queue: an event reaches one of them.
-/

namespace Libobsbot.Events
open Foundations
open Foundations.Channel (KeepsReceiving Exclusive received sentBy)
set_option autoImplicit false

/-- Who holds a clone of `events_tx`. -/
inductive Sender where
  | watcher
  | poller (serial : String)

/-- Who holds a clone of `events_rx`: a caller of `Devices::events`, or the caller of
`obsbot_devices_poll_event`, whatever clone a call of it makes. -/
inductive Receiver where
  | events (n : ℕ)
  | pollEvent
  deriving DecidableEq

inductive EventsCall where
  | send (sender : Sender) (event : Event)
  | receive (receiver : Receiver)

/-- Every clone works on the one channel. -/
def EventsCall.onChannel : EventsCall → ChannelCall Receiver Event
  | .send _ event => .send event
  | .receive receiver => .receive receiver

abbrev onChannel (schedule : List EventsCall) : List (ChannelCall Receiver Event) :=
  schedule.map EventsCall.onChannel

def eventsChannel (schedule : List EventsCall) : Channel Receiver Event :=
  Channel.empty.run (onChannel schedule)

def sentEvents : List EventsCall → List Event
  | [] => []
  | .send _ event :: rest => event :: sentEvents rest
  | .receive _ :: rest => sentEvents rest

theorem sentBy_onChannel (schedule : List EventsCall) :
    sentBy (onChannel schedule) = sentEvents schedule := by
  induction schedule with
  | nil => rfl
  | cons call rest ih =>
    cases call with
    | send sender event => exact congrArg (event :: ·) ih
    | receive receiver => exact ih

/-- A receiver that keeps receiving gets every event, in the order sent, iff no other receiver made a
receive call while an event was waiting. -/
theorem broadcast_iff_exclusive (schedule : List EventsCall) (i : Receiver)
    (h : KeepsReceiving i (onChannel schedule)) :
    received i (eventsChannel schedule) = sentEvents schedule ↔
      Exclusive i Channel.empty (onChannel schedule) := by
  rw [← sentBy_onChannel]
  exact Channel.received_eq_sent_iff h

theorem broadcast_iff_exclusive_alone :
    received (.events 0) (eventsChannel [.send .watcher (.deviceAdded "A"),
      .send (.poller "A") (.status "A" Status.default), .receive (.events 0),
      .receive (.events 0), .receive (.events 1)]) =
      [.deviceAdded "A", .status "A" Status.default] := by
  refine (broadcast_iff_exclusive _ (.events 0) ⟨[.send (.deviceAdded "A"),
    .send (.status "A" Status.default)], _, rfl, rfl, by decide⟩).mpr ?_
  simp [Exclusive, EventsCall.onChannel, Channel.step]

/-- Two receivers, one event: the first to call takes it from the other. -/
theorem receivers_compete : ¬ ∀ (schedule : List EventsCall) (i : Receiver),
    KeepsReceiving i (onChannel schedule) →
      received i (eventsChannel schedule) = sentEvents schedule := by
  intro hall
  have hgot := hall [.send .watcher (.deviceAdded "A"), .receive (.events 0), .receive (.events 1)]
    (.events 1) ⟨[.send (.deviceAdded "A")], _, rfl, rfl, by decide⟩
  cases hgot

end Libobsbot.Events

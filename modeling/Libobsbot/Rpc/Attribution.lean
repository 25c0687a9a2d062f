import Libobsbot.Rpc.Slot

/-! # A reply is only ever taken for its own command

Nothing spans a call's SET and its GETs, so any caller's reply, and any stale one, can be in the slot at
any GET. A call still returns nothing but a reply to its own command: whatever is in the slot answers a
request of the log, replies carry their request's command pair, and the decoders accept one pair each.
-/

namespace Libobsbot.Rpc
open Foundations
set_option autoImplicit false

variable {ι : Type} {Location : Type} {camera : Camera ι} {call : ι → RpcCall Location}

/-- `read` found a reply to a request of caller `i`'s command. -/
def OwnCommand (camera : Camera ι) (call : ι → RpcCall Location) (s : RpcState ι) (i : ι)
    (read : Read ι) : Prop :=
  ∃ n request, read.origin = some n ∧ s.requests[n]? = some request ∧
    camera.answers request.bytes read.bytes ∧
    Meet2.commandAt request.bytes = (call i).command.ids ∧
    ∀ j, request.caller = some j → (call j).command = (call i).command

/-- What a decoder accepts is a reply to a request of its command, and no request frame. -/
theorem Traced.accepted {s : RpcState ι} (hs : Traced camera (fun i => (call i).command.ids) s)
    {i : ι} {read : Read ι} (hread : read ∈ s.reads) {v : (call i).Value}
    (hv : (call i).decode read.bytes.toList = .ok (some v)) :
    OwnCommand camera call s i read ∧ ∀ other : RpcCall Location, other.request ≠ .ok read.bytes := by
  obtain ⟨hreply, hids⟩ := (call i).decode_acceptsOnly _ _ hv
  constructor
  · have hsource := hs.reads read hread
    cases horigin : read.origin with
    | none =>
      rw [horigin] at hsource
      exact absurd hreply hsource
    | some n =>
      rw [horigin] at hsource
      obtain ⟨request, hn, hanswers⟩ := hsource
      have hcommand := (camera.carries hanswers).symm.trans hids
      refine ⟨n, request, horigin, hn, hanswers, hcommand, fun j hj => ?_⟩
      have hmine := hs.requests request (List.mem_of_getElem? hn) j hj
      exact RpcCommand.ids_injective (hmine.symm.trans hcommand)
  · intro other hother
    obtain ⟨frame, hframe, -, hno⟩ := other.request_eq
    obtain rfl : frame = read.bytes := Except.ok.inj (hframe.symm.trans hother)
    exact hno hreply

/-- In any run, a call that returns `Ok(v)` decoded `v` from one of its own GETs, and everything a
caller's decoder accepts is a reply to a request of its own command. -/
theorem ok_is_reply_to_own_command [DecidableEq ι] (camera : Camera ι) (call : ι → RpcCall Location)
    {c d : Config ι TransportOp TransportOp.Reply (fun i => Result (call i).Value) (RpcState ι)}
    {ls : List (Label ι TransportOp TransportOp.Reply)} (hc : Begins camera call c)
    (h : camera.world.Run c ls d) {i : ι} (hreads : (call i).Reads) {v : (call i).Value}
    (hv : d.threads i = .done (.ok v)) :
    (∃ read ∈ d.shared.reads, read.reader = i ∧
      (call i).decode read.bytes.toList = .ok (some v)) ∧
    ∀ read ∈ d.shared.reads, read.reader = i → ∀ w,
      (call i).decode read.bytes.toList = .ok (some w) → w = v ∧
        OwnCommand camera call d.shared i read ∧
        ∀ other : RpcCall Location, other.request ≠ .ok read.bytes := by
  cases hc.polled h hreads with
  | rejected all open_ => exact absurd hv (open_ v)
  | accepted front last w split before decoded returned =>
    obtain rfl : v = w := by
      rw [returned] at hv
      cases hv
      rfl
    constructor
    · have hlast : last ∈ readsOf i d.shared := by simp [split]
      obtain ⟨read, hread, hreader, hbytes⟩ := mem_readsOf.mp hlast
      exact ⟨read, hread, hreader, by rw [hbytes, decoded]⟩
    · intro read hread hreader w hw
      have hmem : read.bytes.toList ∈ front ++ [last] :=
        split ▸ mem_readsOf.mpr ⟨read, hread, hreader, rfl⟩
      refine ⟨?_, (hc.traced h).accepted hread hw⟩
      rcases List.mem_append.mp hmem with hfront | hlast
      · exact absurd hw (before _ hfront w)
      · rw [List.mem_singleton.mp hlast, decoded] at hw
        cases hw
        rfl

/-- The firmware caller among two, with a stale serial reply in the slot at the start. -/
theorem ok_is_reply_to_own_command_stale :
    ∃ d : Config Bool TransportOp TransportOp.Reply (fun i => Result (twoCallers i).Value)
        (RpcState Bool),
      d.threads false = .done (.ok "4.4.6.1") ∧ ∃ read ∈ d.shared.reads,
        OwnCommand (Camera.plain fun _ _ => True) twoCallers d.shared false read := by
  obtain ⟨frame, hframe, hids, -⟩ := (twoCallers false).request_eq
  obtain ⟨earlier, -, hearlier, -⟩ := (twoCallers true).request_eq
  have hc : Begins (Camera.plain fun _ _ => True) twoCallers ⟨fun i => (twoCallers i).program,
      ⟨sampleReply .serial, some 0, [⟨none, earlier.toList⟩], [], []⟩⟩ :=
    ⟨fun _ => rfl, ⟨_, rfl, plain_answers_sample hearlier⟩, rfl, by simp⟩
  have hanswers : (Camera.plain fun _ _ => True : Camera Bool).answers frame.toList
      (sampleReply .firmware) := plain_answers_sample hids
  have hdecode : Meet2.decodeFirmwareReply (sampleReply .firmware).toList =
      .ok (some "4.4.6.1") := by decide
  have hrun := prompt_run ((hc.threads false).trans ((twoCallers false).program_eq trivial hframe))
    trivial hanswers hdecode
  have hdone := Function.update_self false (.done (.ok "4.4.6.1"))
    fun i => (twoCallers i).program
  obtain ⟨⟨read, hread, hreader, haccept⟩, hall⟩ :=
    ok_is_reply_to_own_command _ twoCallers hc hrun (i := false) trivial hdone
  exact ⟨_, hdone, read, hread, (hall read hread hreader _ haccept).2.1⟩

end Libobsbot.Rpc

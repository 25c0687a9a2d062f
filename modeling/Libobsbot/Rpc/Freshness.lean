import Libobsbot.Rpc.Slot

/-! # Whose reply a call in a sequence of calls returns

Calls made one after another by one caller, against a camera that answers each request some time after it
receives it. A decoder looks at the command pair only, and the sequence bytes are fixed per command, so a
reply to an earlier call of the same command passes for a reply to this one (`repeated_call_stale`). A call
that starts when no such reply is in the slot or still to come returns its own (`clean_session_fresh`).
-/

namespace Libobsbot.Rpc
open Foundations
set_option autoImplicit false

variable {Location : Type} {camera : Camera Unit}

/-- The camera answers only what it has received and not answered yet, in any order and at any time. -/
def Camera.Asynchronous {ι : Type} (camera : Camera ι) : Prop :=
  ∀ s n, camera.mayAnswer s n → n ∈ s.pending

/-! ## Sessions -/

structure FinishedCall (camera : Camera Unit) (Location : Type) where
  call : RpcCall Location
  result : Result call.Value
  before : RpcState Unit
  finish : Config Unit TransportOp TransportOp.Reply (fun _ => Result call.Value) (RpcState Unit)
  labels : List (Label Unit TransportOp TransportOp.Reply)
  run : camera.world.Run ⟨fun _ => call.program, before⟩ labels finish
  returned : finish.threads () = .done result

/-- Calls made one after another. The camera may answer before, during, between and after them. -/
inductive Session (camera : Camera Unit) :
    RpcState Unit → List (FinishedCall camera Location) → RpcState Unit → Prop
  | nil (s : RpcState Unit) : Session camera s [] s
  | idle {s s' t : RpcState Unit} {calls : List (FinishedCall camera Location)}
      (answer : camera.Answer s s') (rest : Session camera s' calls t) : Session camera s calls t
  | call (c : FinishedCall camera Location) {calls : List (FinishedCall camera Location)}
      {t : RpcState Unit} (rest : Session camera c.finish.shared calls t) :
      Session camera c.before (c :: calls) t

/-- `bytes` answers a request SET from the `n`-th on. -/
def AnswersSince (camera : Camera Unit) (n : ℕ) (requests : List (Request Unit))
    (origin : Option ℕ) (bytes : Bytes Meet2.rpcFrameLen) : Prop :=
  ∃ m request, origin = some m ∧ n ≤ m ∧ requests[m]? = some request ∧
    camera.answers request.bytes bytes

/-- An `Ok` result decodes a reply to a request that this very call SET. -/
def FinishedCall.Fresh (c : FinishedCall camera Location) : Prop :=
  ∀ v, c.result = .ok v → ∃ read ∈ c.finish.shared.reads.drop c.before.reads.length,
    c.call.decode read.bytes.toList = .ok (some v) ∧
    ∃ n frame, read.origin = some n ∧ c.before.requests.length ≤ n ∧
      c.call.request = .ok frame ∧ c.finish.shared.requests[n]? = some ⟨some (), frame.toList⟩ ∧
      camera.answers frame.toList read.bytes

/-- Neither in the slot nor still to come is there a reply that the call would take for its own. -/
structure StartsClean (call : RpcCall Location) (s : RpcState Unit) : Prop where
  slot : ∀ v, call.decode s.slot.toList ≠ .ok (some v)
  pending : ∀ n ∈ s.pending, ∀ request, s.requests[n]? = some request →
    Meet2.commandAt request.bytes ≠ call.command.ids

/-! ## One call -/

/-- What holds in every state of a call that started clean, at `n` requests and `k` reads: whatever the
call could take for its own reply answers a request it SET. -/
structure Clean (camera : Camera Unit) (call : RpcCall Location) (frame : List UInt8) (n k : ℕ)
    (s : RpcState Unit) : Prop where
  slot : ∀ v, call.decode s.slot.toList = .ok (some v) →
    AnswersSince camera n s.requests s.origin s.slot
  reads : ∀ read ∈ s.reads.drop k, ∀ v, call.decode read.bytes.toList = .ok (some v) →
    AnswersSince camera n s.requests read.origin read.bytes
  pending : ∀ m ∈ s.pending, m < n → ∀ request, s.requests[m]? = some request →
    Meet2.commandAt request.bytes ≠ call.command.ids
  own : ∀ m request, n ≤ m → s.requests[m]? = some request → request = ⟨some (), frame⟩
  requests_grow : n ≤ s.requests.length
  reads_grow : k ≤ s.reads.length

theorem AnswersSince.append {n : ℕ} {requests : List (Request Unit)} {origin : Option ℕ}
    {bytes : Bytes Meet2.rpcFrameLen} (h : AnswersSince camera n requests origin bytes)
    (more : List (Request Unit)) : AnswersSince camera n (requests ++ more) origin bytes := by
  obtain ⟨m, request, ho, hn, hm, ha⟩ := h
  have hlt : m < requests.length := (List.getElem?_eq_some_iff.mp hm).1
  exact ⟨m, request, ho, hn, by rw [List.getElem?_append_left hlt, hm], ha⟩

section Call
variable {call : RpcCall Location} {frame : List UInt8} {n k : ℕ}

theorem Clean.receive {s : RpcState Unit} (hs : Clean camera call frame n k s) :
    Clean camera call frame n k (s.receive () frame) where
  slot v hv := (hs.slot v hv).append _
  reads read hread v hv := (hs.reads read hread v hv).append _
  pending m hm hlt request hrequest := by
    have hlength := hs.requests_grow
    rcases List.mem_append.mp hm with hm | hm
    · apply hs.pending m hm hlt request
      rwa [RpcState.receive, List.getElem?_append_left (by omega)] at hrequest
    · rw [List.mem_singleton.mp hm] at hlt
      omega
  own m request hle hrequest := by
    by_cases hm : m < s.requests.length
    · rw [RpcState.receive, List.getElem?_append_left hm] at hrequest
      exact hs.own m request hle hrequest
    · rw [RpcState.receive, List.getElem?_append_right (by omega)] at hrequest
      exact List.mem_singleton.mp (List.mem_of_getElem? hrequest)
  requests_grow := by
    have := hs.requests_grow
    simp [RpcState.receive]
    omega
  reads_grow := hs.reads_grow

theorem Clean.read {s : RpcState Unit} (hs : Clean camera call frame n k s) :
    Clean camera call frame n k (s.read ()) where
  slot := hs.slot
  reads read hread v hv := by
    rw [RpcState.read, List.drop_append_of_le_length hs.reads_grow] at hread
    rcases List.mem_append.mp hread with hread | hread
    · exact hs.reads read hread v hv
    · obtain rfl := List.mem_singleton.mp hread
      exact hs.slot v hv
  pending := hs.pending
  own := hs.own
  requests_grow := hs.requests_grow
  reads_grow := by
    have := hs.reads_grow
    simp [RpcState.read]
    omega

theorem Clean.transfer {op : TransportOp} {s s' : RpcState Unit} {r : op.Reply}
    (hop : SetsOnly frame op) (hs : Clean camera call frame n k s) (h : Transfer () op s r s') :
    Clean camera call frame n k s' := by
  cases h with
  | set payload =>
    obtain rfl : payload = frame := hop
    exact hs.receive
  | get out => exact hs.read
  | setFails payload e => exact hs
  | getFails out left e => exact hs
  | sleep millis => exact hs

/-- An answer to an earlier request carries another command, so the call rejects it. -/
theorem Clean.answer (hcamera : camera.Asynchronous) {s s' : RpcState Unit}
    (hs : Clean camera call frame n k s) (h : camera.Answer s s') :
    Clean camera call frame n k s' := by
  cases h with
  | @reply m request bytes may received answers =>
    refine ⟨fun v hv => ?_, hs.reads, fun m' hm' => hs.pending m' (List.mem_of_mem_erase hm'), hs.own,
      hs.requests_grow, hs.reads_grow⟩
    by_cases hm : n ≤ m
    · exact ⟨m, request, rfl, hm, received, answers⟩
    · have hother := hs.pending m (hcamera s m may) (by omega) request received
      obtain ⟨-, hids⟩ := call.decode_acceptsOnly _ v hv
      exact absurd ((camera.carries answers).symm.trans hids) hother

theorem StartsClean.clean {s : RpcState Unit} (hs : StartsClean call s) :
    Clean camera call frame s.requests.length s.reads.length s where
  slot v hv := absurd hv (hs.slot v)
  reads read hread := by simp at hread
  pending m hm _ := hs.pending m hm
  own m request hle hrequest := by
    rw [List.getElem?_eq_none hle] at hrequest
    cases hrequest
  requests_grow := le_refl _
  reads_grow := le_refl _

end Call

namespace FinishedCall

theorem clean (c : FinishedCall camera Location) (hcamera : camera.Asynchronous)
    (hclean : StartsClean c.call c.before) {frame : Bytes Meet2.rpcFrameLen}
    (hframe : c.call.request = .ok frame) :
    Clean camera c.call frame.toList c.before.requests.length c.before.reads.length
      c.finish.shared := by
  refine c.run.invariant ?_ (fun hs ha => hs.answer hcamera ha)
    (fun _ => c.call.uses_program hframe) hclean.clean
  intro i op s r s' hop hs ht
  exact hs.transfer hop ht

/-- The reads of a call are what its GETs returned, so an `Ok` value decodes one of them. -/
theorem decoded (c : FinishedCall camera Location) (hreads : c.call.Reads) {v : c.call.Value}
    (hv : c.result = .ok v) : ∃ read ∈ c.finish.shared.reads.drop c.before.reads.length,
      c.call.decode read.bytes.toList = .ok (some v) := by
  have hall : ∀ s : RpcState Unit, readsOf () s = s.reads.map fun r => r.bytes.toList := by
    intro s
    rw [readsOf, List.filter_eq_self.mpr (by simp)]
  have hrun := readsOf_run c.run ()
  rw [hall, hall] at hrun
  have hdrop := congrArg (List.drop c.before.reads.length) hrun
  rw [← List.map_drop, List.drop_left' (List.length_map _)] at hdrop
  have hpolled := c.call.steps_program hreads (c.run.steps ())
  rw [← hdrop, c.returned, hv] at hpolled
  cases hpolled with
  | rejected all open_ => exact absurd rfl (open_ v)
  | accepted front last w split before decoded returned =>
    cases returned
    have hlast : last ∈ (c.finish.shared.reads.drop c.before.reads.length).map
        fun r => r.bytes.toList := by simp [split]
    obtain ⟨read, hread, rfl⟩ := List.mem_map.mp hlast
    exact ⟨read, hread, decoded⟩

theorem fresh_of_startsClean (c : FinishedCall camera Location) (hcamera : camera.Asynchronous)
    (hreads : c.call.Reads) (hclean : StartsClean c.call c.before) : c.Fresh := by
  intro v hv
  obtain ⟨frame, hframe, -⟩ := c.call.request_eq
  have hinv := c.clean hcamera hclean hframe
  obtain ⟨read, hread, hdecode⟩ := c.decoded hreads hv
  obtain ⟨n, request, horigin, hle, hn, hanswers⟩ := hinv.reads read hread v hdecode
  obtain rfl := hinv.own n request hle hn
  exact ⟨read, hread, hdecode, n, frame, horigin, hle, hframe, hn, hanswers⟩

end FinishedCall

/-- In every session whose reading calls all start clean, every one of them is fresh. -/
theorem clean_session_fresh (camera : Camera Unit) (hcamera : camera.Asynchronous)
    {s t : RpcState Unit} {calls : List (FinishedCall camera Location)}
    (h : Session camera s calls t) (hclean : ∀ c ∈ calls, c.call.Reads → StartsClean c.call c.before) :
    ∀ c ∈ calls, c.call.Reads → c.Fresh := by
  induction h with
  | nil s => simp
  | idle answer rest ih => exact ih hclean
  | call c rest ih =>
    obtain ⟨hfirst, hrest⟩ := List.forall_mem_cons.mp hclean
    exact List.forall_mem_cons.mpr
      ⟨fun hreads => c.fresh_of_startsClean hcamera hreads (hfirst hreads), ih hrest⟩

theorem prompt_call (call : RpcCall Location) (hreads : call.Reads) (s : RpcState Unit) :
    ∃ c : FinishedCall (Camera.plain fun s n => n ∈ s.pending) Location, ∃ frame,
      c.call = call ∧ c.before = s ∧ c.finish.shared =
        ((s.receive () frame).answer s.requests.length (sampleReply call.command)).read () := by
  obtain ⟨frame, hframe, hids, -⟩ := call.request_eq
  obtain ⟨v, hv⟩ := (RpcCall.decodable_iff hreads).mp (sampleReply_decodable call.command)
  have hanswers : (Camera.plain fun s n => n ∈ s.pending : Camera Unit).answers frame.toList
      (sampleReply call.command) := plain_answers_sample hids
  have hrun := prompt_run (c := ⟨fun _ => call.program, s⟩) (i := ())
    (call.program_eq hreads hframe) (List.mem_append_right _ List.mem_cons_self) hanswers hv
  exact ⟨⟨call, .ok v, s, _, _, hrun, rfl⟩, frame.toList, rfl, rfl, rfl⟩

/-- The firmware and then the serial, from a camera that has answered nothing yet. -/
theorem clean_session_fresh_pair :
    ∃ calls : List (FinishedCall (Camera.plain fun s n => n ∈ s.pending) Unit),
      calls.map FinishedCall.call =
        [.firmwareFromCamera sampleDevice, .serialFromCamera sampleDevice] ∧
      ∀ c ∈ calls, c.call.Reads → c.Fresh := by
  obtain ⟨c, frame, hcall, hbefore, hafter⟩ := prompt_call
    (.firmwareFromCamera sampleDevice) trivial (untouched Unit)
  obtain ⟨c', frame', hcall', hbefore', -⟩ := prompt_call (.serialFromCamera sampleDevice)
    trivial c.finish.shared
  have hsession : Session _ c.before [c, c'] c'.finish.shared :=
    .call c (hbefore' ▸ .call c' (.nil _))
  have hfirst : StartsClean c.call c.before := by
    rw [hcall, hbefore]
    refine ⟨fun v hv => ?_, by simp [untouched]⟩
    have hnone : Meet2.decodeFirmwareReply (Bytes.zeros 60).toList = .ok none := by decide
    cases hnone.symm.trans hv
  have hsecond : StartsClean c'.call c'.before := by
    rw [hcall', hbefore', hafter]
    refine ⟨fun v hv => ?_, by simp [untouched, RpcState.read, RpcState.answer, RpcState.receive]⟩
    have hnone : Meet2.decodeSerialReply (sampleReply .firmware).toList = .ok none := by decide
    cases hnone.symm.trans hv
  refine ⟨[c, c'], by simp [hcall, hcall'], ?_⟩
  apply clean_session_fresh _ (fun s n h => h) hsession
  exact List.forall_mem_cons.mpr ⟨fun _ => hfirst, List.forall_mem_cons.mpr ⟨fun _ => hsecond, by simp⟩⟩

/-! ## Stale replies -/

/-- A call that finds a reply it accepts at its first GET returns it, whichever request that answers. -/
theorem immediate_run {call : RpcCall Location} (hreads : call.Reads) {s : RpcState Unit}
    {v : call.Value} (hv : call.decode s.slot.toList = .ok (some v)) :
    ∃ frame ls finish, call.request = .ok frame ∧
      camera.world.Run ⟨fun _ => call.program, s⟩ ls finish ∧
      finish.threads () = .done (.ok v) ∧ finish.shared = (s.receive () frame.toList).read () := by
  obtain ⟨frame, hframe, -⟩ := call.request_eq
  have hget := Function.update_self () (pollGet call.decode 0 9 (Bytes.zeros _))
    fun _ => call.program
  refine ⟨frame, _, _, hframe, .cons (set_step (call.program_eq hreads hframe))
    (.cons (accept_step hget hv) (.refl _)), rfl, rfl⟩

/-- From any state that is not clean for a call, the call can return `Ok` of a reply to an earlier
request. -/
theorem unclean_start_stale (call : RpcCall Location) (hreads : call.Reads) {s : RpcState Unit}
    (horigin : ∀ n, s.origin = some n → n < s.requests.length) (hunclean : ¬ StartsClean call s) :
    ∃ c : FinishedCall (Camera.plain fun s n => n ∈ s.pending) Location,
      c.call = call ∧ c.before = s ∧ ¬ c.Fresh := by
  -- it is enough to reach a slot that the call accepts before the call SETs its request
  have stale : ∀ {ls : List (Label Unit TransportOp TransportOp.Reply)} {u : RpcState Unit},
      (Camera.plain fun s n => n ∈ s.pending).world.Run ⟨fun _ => call.program, s⟩ ls
        ⟨fun _ => call.program, u⟩ →
      u.reads = s.reads → (∀ n, u.origin = some n → n < s.requests.length) →
      ∀ v, call.decode u.slot.toList = .ok (some v) →
      ∃ c : FinishedCall (Camera.plain fun s n => n ∈ s.pending) Location,
        c.call = call ∧ c.before = s ∧ ¬ c.Fresh := by
    intro ls u hbefore hsame hearlier v hv
    obtain ⟨frame, ms, finish, -, hrun, hdone, hshared⟩ := immediate_run hreads hv
    refine ⟨⟨call, .ok v, s, finish, ls ++ ms, hbefore.trans hrun, hdone⟩, rfl, rfl, fun hfresh => ?_⟩
    obtain ⟨read, hread, -, n, -, hn, hle, -⟩ := hfresh v rfl
    have hlog : finish.shared.reads = s.reads ++ [⟨(), u.origin, u.slot⟩] := by
      rw [hshared, ← hsame]
      rfl
    rw [hlog, List.drop_left] at hread
    obtain rfl := List.mem_singleton.mp hread
    exact absurd (hearlier n hn) (Nat.not_lt.mpr hle)
  by_cases hslot : ∃ v, call.decode s.slot.toList = .ok (some v)
  · obtain ⟨v, hv⟩ := hslot
    exact stale (.refl _) rfl horigin v hv
  · obtain ⟨n, hn, request, hrequest, hids⟩ : ∃ n ∈ s.pending, ∃ request,
        s.requests[n]? = some request ∧ Meet2.commandAt request.bytes = call.command.ids := by
      by_contra hnone
      push Not at hnone
      exact hunclean ⟨fun v hv => hslot ⟨v, hv⟩, hnone⟩
    -- the camera answers the earlier request of the same command first
    obtain ⟨v, hv⟩ := (RpcCall.decodable_iff hreads).mp (sampleReply_decodable call.command)
    have hanswers : (Camera.plain fun s n => n ∈ s.pending : Camera Unit).answers request.bytes
        (sampleReply call.command) := plain_answers_sample hids
    refine stale (u := s.answer n (sampleReply call.command))
      (.cons (.environment (.reply hn hrequest hanswers)) (.refl _)) rfl ?_ v hv
    intro m hm
    obtain rfl := Option.some.inj hm
    exact (List.getElem?_eq_some_iff.mp hrequest).1

/-- Two firmware calls: the second can return the reply to the first. -/
theorem repeated_call_stale : ¬ ∀ camera : Camera Unit, camera.Asynchronous →
    ∀ {s t : RpcState Unit} {calls : List (FinishedCall camera Unit)}, Session camera s calls t →
      ∀ c ∈ calls, c.call.Reads → c.Fresh := by
  intro hall
  obtain ⟨c, frame, hcall, hbefore, hafter⟩ := prompt_call
    (.firmwareFromCamera sampleDevice) trivial (untouched Unit)
  have hdecode : Meet2.decodeFirmwareReply c.finish.shared.slot.toList = .ok (some "4.4.6.1") := by
    rw [hafter]
    show Meet2.decodeFirmwareReply (sampleReply .firmware).toList = _
    decide
  have horigin : ∀ n, c.finish.shared.origin = some n → n < c.finish.shared.requests.length := by
    rw [hafter]
    intro n hn
    cases hn
    exact Nat.zero_lt_one
  obtain ⟨c', hcall', hbefore', hstale⟩ := unclean_start_stale
    (.firmwareFromCamera sampleDevice) trivial horigin fun hclean => hclean.slot _ hdecode
  have hsession : Session _ c.before [c, c'] c'.finish.shared :=
    .call c (hbefore' ▸ .call c' (.nil _))
  exact hstale (hall _ (fun s n h => h) hsession c' (by simp) (hcall' ▸ trivial))

end Libobsbot.Rpc

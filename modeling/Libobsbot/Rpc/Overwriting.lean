import Libobsbot.Rpc.Slot

/-! # A reply can be overwritten before its caller reads it

The slot holds one reply and nothing keeps other callers off it between a call's SET and its GETs. A camera
that answers every request in order can therefore replace a reply that its caller has not read
(`replies_overwritten`). What a caller does get is the reply that is still there at its next GET
(`reply_taken_at_next_get`).
-/

namespace Libobsbot.Rpc
open Foundations
set_option autoImplicit false

variable {ι : Type} {Location : Type} {camera : Camera ι}

def Camera.InOrder (camera : Camera ι) : Prop :=
  ∀ s n, camera.mayAnswer s n → s.pending.head? = some n

theorem Transfer.slot_eq {i : ι} {op : TransportOp} {s s' : RpcState ι} {r : op.Reply}
    (h : Transfer i op s r s') : s'.slot = s.slot := by
  cases h <;> rfl

/-- The camera of two callers that answers the oldest request it has not answered. -/
def orderly : Camera Bool := Camera.plain fun s n => s.pending.head? = some n

variable [DecidableEq ι]

/-- While the camera answers nothing, the slot keeps what it holds. -/
theorem quiet_run {α : ι → Type} {c d : Config ι TransportOp TransportOp.Reply α (RpcState ι)}
    {ls : List (Label ι TransportOp TransportOp.Reply)} (h : camera.world.Run c ls d)
    (hquiet : .environment ∉ ls) : d.shared.slot = c.shared.slot := by
  induction h with
  | refl c => rfl
  | cons step _ ih =>
    cases step with
    | @thread i op next r s head effect =>
      have hslot : s.slot = _ := effect.slot_eq
      exact (ih fun hl => hquiet (List.mem_cons_of_mem _ hl)).trans hslot
    | environment effect => exact absurd List.mem_cons_self hquiet

/-- A call whose request the camera has answered, with the reply still in the slot at the call's next
GET, gets that reply there and does not return `BadResponse`. -/
theorem reply_taken_at_next_get (camera : Camera ι) (hcamera : camera.Intelligible)
    (call : ι → RpcCall Location)
    {c e d d' f : Config ι TransportOp TransportOp.Reply (fun i => Result (call i).Value) (RpcState ι)}
    {ls ms ks : List (Label ι TransportOp TransportOp.Reply)} (hc : Begins camera call c)
    (hbefore : camera.world.Run c ls e) {i : ι} (hreads : (call i).Reads) {n : ℕ} {request : Request ι}
    (hrequest : e.shared.requests[n]? = some request) (hown : request.caller = some i)
    (hanswered : e.shared.origin = some n) (hbetween : camera.world.Run e ms d)
    (hquiet : .environment ∉ ms) {out buf : Bytes Meet2.rpcFrameLen} {len : ℕ}
    (hget : camera.world.Step d (.thread i (.uvcGet .cur Meet2.xuEntityId Meet2.xuSelRpc
      Meet2.rpcFrameLen out) (buf, .ok len)) d') (hafter : camera.world.Run d' ks f) :
    ∃ v, (call i).decode e.shared.slot.toList = .ok (some v) ∧ f.threads i = .done (.ok v) := by
  -- the slot decodes, because it answers the caller's own request
  have htraced := hc.traced hbefore
  have hsource := htraced.slot
  rw [hanswered] at hsource
  obtain ⟨request', hrequest', hanswers⟩ := hsource
  obtain rfl : request = request' := Option.some.inj (hrequest.symm.trans hrequest')
  have hids := htraced.requests request (List.mem_of_getElem? hrequest) i hown
  obtain ⟨v, hv⟩ := (RpcCall.decodable_iff hreads).mp (hcamera _ hanswers hids)
  refine ⟨v, hv, hafter.done ?_⟩
  -- the GET reads it
  have hlog := readsOf_get hget
  rw [quiet_run hbetween hquiet] at hlog
  cases hc.polled ((hbefore.trans hbetween).snoc hget) hreads with
  | rejected all open_ => exact absurd hv (all _ (by simp [hlog]) v)
  | accepted front last w split before decoded returned =>
    rw [hlog] at split
    obtain ⟨-, hlast⟩ := List.append_inj' split rfl
    rw [← List.cons.inj hlast |>.1, hv] at decoded
    cases decoded
    exact returned

/-- The firmware caller, whose reply is in the slot while the serial caller SETs its request. -/
theorem reply_taken_at_next_get_firmware :
    ∃ f : Config Bool TransportOp TransportOp.Reply (fun i => Result (twoCallers i).Value)
        (RpcState Bool),
      ∃ v, Meet2.decodeFirmwareReply (sampleReply .firmware).toList = .ok (some v) ∧
        f.threads false = .done (.ok v) := by
  obtain ⟨frame, hframe, hids, -⟩ := (twoCallers false).request_eq
  obtain ⟨frame', hframe', -, -⟩ := (twoCallers true).request_eq
  have hc := begins_untouched orderly twoCallers
  have hanswers : orderly.answers frame.toList (sampleReply .firmware) := plain_answers_sample hids
  have hfirst := (hc.threads false).trans ((twoCallers false).program_eq trivial hframe)
  have hother := (Function.update_of_ne (by decide : true ≠ false) (pollGet
    Meet2.decodeFirmwareReply 0 9 (Bytes.zeros _)) fun i => (twoCallers i).program).trans
      ((twoCallers true).program_eq trivial hframe')
  have hpoll := (Function.update_of_ne (by decide : false ≠ true) (pollGet
    Meet2.decodeSerialReply 0 9 (Bytes.zeros _)) (Function.update
      (fun i => (twoCallers i).program) false (pollGet Meet2.decodeFirmwareReply 0 9
        (Bytes.zeros _)))).trans (Function.update_self ..)
  have hdecode : Meet2.decodeFirmwareReply (sampleReply .firmware).toList =
      .ok (some "4.4.6.1") := by decide
  have hset : orderly.world.Step _ _ _ := set_step (s := untouched Bool) hfirst
  have hanswer : orderly.Answer ((untouched Bool).receive false frame.toList) _ :=
    .reply rfl rfl hanswers
  have hbefore := World.Run.cons hset (.cons (.environment hanswer) (.refl _))
  exact ⟨_, reply_taken_at_next_get orderly (Camera.plain_intelligible _) twoCallers hc hbefore
    (i := false) trivial (n := 0) rfl rfl rfl (.cons (set_step (i := true) hother) (.refl _)) (by simp)
    (accept_step hpoll hdecode) (.refl _)⟩

/-! ## The overwritten reply -/

/-- A caller that only ever finds a reply it rejects makes all its GETs and returns `BadResponse`. -/
theorem gives_up {β : ι → Type} {i : ι} {decode : List UInt8 → Checked (Option (β i))}
    {attempt remaining : ℕ} {out : Bytes Meet2.rpcFrameLen}
    {c : Config ι TransportOp TransportOp.Reply (fun i => Result (β i)) (RpcState ι)}
    (h : c.threads i = (pollReply decode attempt remaining out).run)
    (hreject : decode c.shared.slot.toList = .ok none) :
    ∃ ls d bytes, camera.world.Run c ls d ∧
      d.threads i = .done (.error (.badResponse Meet2.xuSelRpc bytes)) ∧
      (readsOf i d.shared).length = (readsOf i c.shared).length + remaining := by
  induction remaining generalizing attempt out c with
  | zero => exact ⟨[], c, _, .refl c, h, rfl⟩
  | succ remaining ih =>
    -- one rejected GET, from a configuration that is about to make it
    have turn : ∀ {c : Config ι TransportOp TransportOp.Reply (fun i => Result (β i)) (RpcState ι)},
        c.threads i = pollGet decode attempt remaining out →
        decode c.shared.slot.toList = .ok none →
        ∃ ls d bytes, camera.world.Run c ls d ∧
          d.threads i = .done (.error (.badResponse Meet2.xuSelRpc bytes)) ∧
          (readsOf i d.shared).length = (readsOf i c.shared).length + (remaining + 1) := by
      intro c hget hreject
      have hpoll := Function.update_self i (pollReply decode (attempt + 1) remaining c.shared.slot).run
        c.threads
      obtain ⟨ls, d, bytes, hrun, hdone, hlen⟩ :=
        ih (c := ⟨Function.update c.threads i _, c.shared.read i⟩) hpoll hreject
      refine ⟨_, d, bytes, .cons (reject_step hget hreject) hrun, hdone, ?_⟩
      rw [hlen, readsOf_read, if_pos rfl, List.length_append, List.length_singleton]
      omega
    rw [pollReply_succ] at h
    by_cases hfirst : 0 < attempt
    · rw [if_pos hfirst] at h
      have hget := Function.update_self i (pollGet decode attempt remaining out) c.threads
      obtain ⟨ls, d, bytes, hrun, hdone, hlen⟩ :=
        turn (c := ⟨Function.update c.threads i _, c.shared⟩) hget hreject
      exact ⟨_, d, bytes, .cons (.becomes h (Transfer.sleep _) rfl) hrun, hdone, hlen⟩
    · rw [if_neg hfirst] at h
      exact turn h hreject

/-- Two callers SET their requests, and the camera answers both before either makes a GET. -/
theorem both_answered {β : ι → Type} {i j : ι} (hij : j ≠ i)
    {c : Config ι TransportOp TransportOp.Reply (fun i => Result (β i)) (RpcState ι)}
    {decode : List UInt8 → Checked (Option (β i))} {decode' : List UInt8 → Checked (Option (β j))}
    {frame frame' reply reply' : Bytes Meet2.rpcFrameLen} {s : RpcState ι}
    (hi : c.threads i = setThenPoll frame decode) (hj : c.threads j = setThenPoll frame' decode')
    (hs : (c.shared.receive i frame.toList).receive j frame'.toList = s)
    {n m : ℕ} {request request' : Request ι} (hmay : camera.mayAnswer s n)
    (hmay' : camera.mayAnswer (s.answer n reply) m) (hn : s.requests[n]? = some request)
    (hm : s.requests[m]? = some request') (hanswers : camera.answers request.bytes reply)
    (hanswers' : camera.answers request'.bytes reply') :
    ∃ ls e, camera.world.Run c ls e ∧
      e.threads i = (pollReply decode 0 Meet2.rpcReplyPollAttempts (Bytes.zeros _)).run ∧
      e.shared = (s.answer n reply).answer m reply' := by
  subst hs
  have hsecond := (Function.update_of_ne hij (pollGet decode 0 9 (Bytes.zeros _)) c.threads).trans hj
  have hpoll : (pollReply decode 0 Meet2.rpcReplyPollAttempts (Bytes.zeros _)).run =
      pollGet decode 0 9 (Bytes.zeros _) := pollReply_first decode 9 _
  have hfirst : camera.Answer _ _ := .reply hmay hn hanswers
  have hlast : camera.Answer _ _ := .reply hmay' hm hanswers'
  refine ⟨_, _, .cons (set_step hi) (.cons (set_step hsecond)
    (.cons (.environment hfirst) (.cons (.environment hlast) (.refl _)))), ?_, rfl⟩
  rw [hpoll]
  exact (Function.update_of_ne hij.symm _ _).trans (Function.update_self ..)

/-- Two callers, a camera that answers in order: both requests are answered before the first caller's
first GET, and the first caller returns `BadResponse`. -/
theorem replies_overwritten : ¬ ∀ (camera : Camera Bool), camera.InOrder → camera.Intelligible →
    ∀ (call : Bool → RpcCall Unit)
      {c e d : Config Bool TransportOp TransportOp.Reply (fun i => Result (call i).Value)
        (RpcState Bool)}
      {ls ms : List (Label Bool TransportOp TransportOp.Reply)},
    Begins camera call c → camera.world.Run c ls e → ∀ {i : Bool} {n : ℕ} {request : Request Bool},
    e.shared.requests[n]? = some request → request.caller = some i → n ∉ e.shared.pending →
    camera.world.Run e ms d → (readsOf i e.shared).length < (readsOf i d.shared).length →
    ∀ selector bytes, d.threads i ≠ .done (.error (.badResponse selector bytes)) := by
  intro hall
  obtain ⟨frame, hframe, hids, -⟩ := (twoCallers false).request_eq
  obtain ⟨frame', hframe', hids', -⟩ := (twoCallers true).request_eq
  have hc := begins_untouched orderly twoCallers
  have hanswers : orderly.answers frame.toList (sampleReply .firmware) := plain_answers_sample hids
  have hanswers' : orderly.answers frame'.toList (sampleReply .serial) := plain_answers_sample hids'
  obtain ⟨ls, e, hbefore, hpolls, hshared⟩ := both_answered (by decide : true ≠ false)
    ((hc.threads false).trans ((twoCallers false).program_eq trivial hframe))
    ((hc.threads true).trans ((twoCallers true).program_eq trivial hframe'))
    rfl (n := 0) (m := 1) rfl rfl rfl rfl hanswers hanswers'
  -- from then on the first caller finds the serial reply at every GET
  have hreject : Meet2.decodeFirmwareReply e.shared.slot.toList = .ok none := by
    rw [hshared]
    show Meet2.decodeFirmwareReply (sampleReply .serial).toList = .ok none
    decide
  obtain ⟨ms, d, bytes, hafter, hdone, hcount⟩ := gives_up hpolls hreject
  have hpending : e.shared.pending = [] := by
    rw [hshared]
    rfl
  refine hall orderly (fun s n h => h) (Camera.plain_intelligible _) twoCallers hc hbefore (n := 0)
    (by rw [hshared]; rfl) rfl (by simp [hpending]) hafter ?_ _ bytes hdone
  rw [hcount]
  exact Nat.lt_add_of_pos_right (by decide)

end Libobsbot.Rpc

import Libobsbot.Rpc.Calls
import Libobsbot.Rpc.Parsing

/-! # The two request loops

`rpc_request_then_reply` and `learn_mac` each have a loop of their own. Here both are written out as they stand, with
the request and the decoder left open; both are SET, then `pollReply`, and `Meets` is what a finished run of either can
look like, transfer by transfer.
-/

namespace Libobsbot.PollLoops
open Foundations
open Foundations.Program (Steps Exchange)
set_option autoImplicit false

section Copies
variable {α : Type}

/-- `Device::rpc_request_then_reply`. -/
def rpcRequestThenReply (request : Bytes Meet2.rpcFrameLen) (decode : List UInt8 → Checked (Option α)) :
    DeviceM α := do
  uvcSet Meet2.xuEntityId Meet2.xuSelRpc request.toList
  let mut reply := Bytes.zeros Meet2.rpcFrameLen
  for attempt in List.range Meet2.rpcReplyPollAttempts do
    if 0 < attempt then
      sleep Meet2.rpcReplyPollDelayMs
    let (_, left) ← uvcGet .cur Meet2.xuEntityId Meet2.xuSelRpc reply
    reply := left
    if let some decoded ← liftChecked (decode reply.toList) then
      return decoded
  throw (.badResponse Meet2.xuSelRpc reply.toList)

/-- `learn_mac`, of any request and decoder. -/
def learnMac (request : Checked (Bytes Meet2.rpcFrameLen)) (decode : List UInt8 → Checked (Option α)) :
    DeviceM α := do
  let request ← liftChecked request
  uvcSet Meet2.xuEntityId Meet2.xuSelRpc request.toList
  let mut reply := Bytes.zeros Meet2.rpcFrameLen
  for attempt in List.range Meet2.rpcReplyPollAttempts do
    if 0 < attempt then
      sleep Meet2.rpcReplyPollDelayMs
    let (_, left) ← uvcGet .cur Meet2.xuEntityId Meet2.xuSelRpc reply
    reply := left
    if let some mac ← liftChecked (decode reply.toList) then
      return mac
  throw (.badResponse Meet2.xuSelRpc reply.toList)

/-- What a loop does after its last attempt, or after a `return` in one. -/
def afterLoop (s : Option α × Bytes Meet2.rpcFrameLen) : DeviceM α :=
  match s.1 with
  | some v => return v
  | none => throw (.badResponse Meet2.xuSelRpc s.2.toList)

/-- How an attempt ends: the loop is left with the decoded value, or goes on with the buffer. -/
def afterDecode (left : Bytes Meet2.rpcFrameLen) :
    Option α → DeviceM (ForInStep (Option α × Bytes Meet2.rpcFrameLen))
  | some v => return .done (some v, left)
  | none => return .yield (none, left)

def attemptGet (decode : List UInt8 → Checked (Option α)) (reply : Bytes Meet2.rpcFrameLen) :
    DeviceM (ForInStep (Option α × Bytes Meet2.rpcFrameLen)) := do
  let r ← uvcGet .cur Meet2.xuEntityId Meet2.xuSelRpc reply
  let decoded ← liftChecked (decode r.2.toList)
  afterDecode r.2 decoded

variable {decode : List UInt8 → Checked (Option α)}

theorem attemptGet_bind (attempt remaining : ℕ) (reply : Bytes Meet2.rpcFrameLen)
    {next : ForInStep (Option α × Bytes Meet2.rpcFrameLen) → DeviceM α}
    (hdone : ∀ s, next (.done s) = afterLoop s)
    (hyield : ∀ left, next (.yield (none, left)) = pollReply decode (attempt + 1) remaining left) :
    (attemptGet decode reply >>= next).run = Rpc.pollGet decode attempt remaining reply := by
  unfold attemptGet
  rw [bind_assoc]
  refine Rpc.run_pollGet decode (g := fun left decoded => afterDecode left decoded >>= next) ?_ ?_ ?_
  · intro len left
    rw [bind_assoc]
  · intro left v
    show next (.done (some v, left)) = _
    rw [hdone]
    rfl
  · exact hyield

/-- The loop of either copy, from an attempt on, is `pollReply`. -/
theorem forIn_eq_pollReply
    {body : ℕ → Option α × Bytes Meet2.rpcFrameLen → DeviceM (ForInStep (Option α × Bytes Meet2.rpcFrameLen))}
    (hbody : ∀ attempt reply, body attempt (none, reply) =
      if 0 < attempt then sleep Meet2.rpcReplyPollDelayMs >>= fun _ => attemptGet decode reply
      else attemptGet decode reply)
    (attempt remaining : ℕ) (reply : Bytes Meet2.rpcFrameLen) :
    (forIn (List.range' attempt remaining) (none, reply) body >>= afterLoop) =
      pollReply decode attempt remaining reply := by
  induction remaining generalizing attempt reply with
  | zero => rfl
  | succ remaining ih =>
    apply ExceptT.ext
    rw [List.range'_succ, List.forIn_cons, hbody, bind_assoc, Rpc.pollReply_succ]
    by_cases hfirst : 0 < attempt
    · rewrite [if_pos hfirst, if_pos hfirst, bind_assoc]
      refine congrArg (Program.perform _) (funext fun _ => ?_)
      exact attemptGet_bind attempt remaining reply (fun _ => rfl) fun left => ih (attempt + 1) left
    · rewrite [if_neg hfirst, if_neg hfirst]
      exact attemptGet_bind attempt remaining reply (fun _ => rfl) fun left => ih (attempt + 1) left

theorem rpcRequestThenReply_run (request : Bytes Meet2.rpcFrameLen) :
    (rpcRequestThenReply request decode).run = Rpc.setThenPoll request decode := by
  refine congrArg (Program.perform _) (funext fun r => ?_)
  cases r with
  | error e => rfl
  | ok _ =>
    apply congrArg ExceptT.run
    have hloop := fun body hbody => @forIn_eq_pollReply _ decode body hbody 0
      Meet2.rpcReplyPollAttempts (Bytes.zeros Meet2.rpcFrameLen)
    rw [← List.range_eq_range'] at hloop
    refine Eq.trans (bind_congr fun s => ?_) (hloop _ fun attempt reply => ?_)
    · obtain ⟨found, left⟩ := s
      cases found <;> rfl
    · by_cases hfirst : 0 < attempt
      · rw [if_pos hfirst, if_pos hfirst]
        refine bind_congr fun _ => bind_congr fun got => bind_congr fun decoded => ?_
        cases decoded <;> rfl
      · rw [if_neg hfirst, if_neg hfirst]
        refine bind_congr fun got => bind_congr fun decoded => ?_
        cases decoded <;> rfl

theorem learnMac_run (request : Bytes Meet2.rpcFrameLen) :
    (learnMac (.ok request) decode).run = Rpc.setThenPoll request decode :=
  rpcRequestThenReply_run request

end Copies

/-! ## Finished runs -/

section Finished
variable {α : Type}

/-- What a GET left in the buffer, and what it returned. -/
abbrev Got : Type := Bytes Meet2.rpcFrameLen × Result ℕ

/-- The transfers of the GETs with these replies, from an attempt on: each is handed the buffer the one before it left,
and each but the very first waits. -/
def transfers : ℕ → Bytes Meet2.rpcFrameLen → List Got → List (Exchange TransportOp TransportOp.Reply)
  | _, _, [] => []
  | attempt, reply, got :: gets =>
    (if 0 < attempt then [⟨.sleep Meet2.rpcReplyPollDelayMs, ()⟩] else []) ++
      ⟨.uvcGet .cur Meet2.xuEntityId Meet2.xuSelRpc Meet2.rpcFrameLen reply, got⟩ ::
        transfers (attempt + 1) got.1 gets

def Undecodable (decode : List UInt8 → Checked (Option α)) (got : Got) : Prop :=
  ∃ len, got.2 = .ok len ∧ decode got.1.toList = .ok none

/-- The buffer as the last GET left it. -/
def lastBuffer (reply : Bytes Meet2.rpcFrameLen) (gets : List Got) : Bytes Meet2.rpcFrameLen :=
  gets.foldl (fun _ got => got.1) reply

/-- The first GET that fails or decodes is the last one and decides; within a budget, or the budget is spent. -/
inductive Outcome (decode : List UInt8 → Checked (Option α)) (budget : ℕ) (reply : Bytes Meet2.rpcFrameLen) :
    List Got → Result α → Prop
  | failed {front : List Got} {buf : Bytes Meet2.rpcFrameLen} {e : Error}
      (before : ∀ got ∈ front, Undecodable decode got) (within : front.length < budget) :
      Outcome decode budget reply (front ++ [(buf, .error e)]) (.error e)
  | decoded {front : List Got} {buf : Bytes Meet2.rpcFrameLen} {len : ℕ} {v : α}
      (before : ∀ got ∈ front, Undecodable decode got) (within : front.length < budget)
      (accepted : decode buf.toList = .ok (some v)) :
      Outcome decode budget reply (front ++ [(buf, .ok len)]) (.ok v)
  | exhausted {gets : List Got} (all : ∀ got ∈ gets, Undecodable decode got) (spent : gets.length = budget) :
      Outcome decode budget reply gets (.error (.badResponse 0x02 (lastBuffer reply gets).toList))

variable {decode : List UInt8 → Checked (Option α)}

theorem Outcome.cons {budget : ℕ} {reply buf : Bytes Meet2.rpcFrameLen} {len : ℕ} {gets : List Got} {r : Result α}
    (hnone : decode buf.toList = .ok none) (h : Outcome decode budget buf gets r) :
    Outcome decode (budget + 1) reply ((buf, .ok len) :: gets) r := by
  have hfirst : Undecodable decode (buf, .ok len) := ⟨len, rfl, hnone⟩
  cases h with
  | failed before within =>
    rw [← List.cons_append]
    exact .failed (List.forall_mem_cons.mpr ⟨hfirst, before⟩) (Nat.succ_lt_succ within)
  | decoded before within accepted =>
    rw [← List.cons_append]
    exact .decoded (List.forall_mem_cons.mpr ⟨hfirst, before⟩) (Nat.succ_lt_succ within) accepted
  | exhausted all spent =>
    exact .exhausted (List.forall_mem_cons.mpr ⟨hfirst, all⟩) (congrArg Nat.succ spent)

/-- An outcome, taken apart at its first GET. -/
theorem Outcome.uncons {budget : ℕ} {reply : Bytes Meet2.rpcFrameLen} {gets : List Got} {r : Result α}
    (h : Outcome decode (budget + 1) reply gets r) : ∃ buf got rest, gets = (buf, got) :: rest ∧
      ((∃ e, got = .error e ∧ rest = [] ∧ r = .error e) ∨
        (∃ len v, got = .ok len ∧ rest = [] ∧ decode buf.toList = .ok (some v) ∧ r = .ok v) ∨
        ∃ len, got = .ok len ∧ decode buf.toList = .ok none ∧ Outcome decode budget buf rest r) := by
  cases h with
  | @failed front buf e before within =>
    cases front with
    | nil => exact ⟨buf, _, [], rfl, .inl ⟨e, rfl, rfl, rfl⟩⟩
    | cons first front =>
      obtain ⟨⟨len, hlen, hnone⟩, hrest⟩ := List.forall_mem_cons.mp before
      exact ⟨first.1, first.2, _, rfl, .inr (.inr ⟨len, hlen, hnone, .failed hrest (Nat.lt_of_succ_lt_succ within)⟩)⟩
  | @decoded front buf len v before within accepted =>
    cases front with
    | nil => exact ⟨buf, _, [], rfl, .inr (.inl ⟨len, v, rfl, rfl, accepted, rfl⟩)⟩
    | cons first front =>
      obtain ⟨⟨len, hlen, hnone⟩, hrest⟩ := List.forall_mem_cons.mp before
      exact ⟨first.1, first.2, _, rfl,
        .inr (.inr ⟨len, hlen, hnone, .decoded hrest (Nat.lt_of_succ_lt_succ within) accepted⟩)⟩
  | exhausted all spent =>
    cases gets with
    | nil => cases spent
    | cons first rest =>
      obtain ⟨⟨len, hlen, hnone⟩, hrest⟩ := List.forall_mem_cons.mp all
      exact ⟨first.1, first.2, rest, rfl,
        .inr (.inr ⟨len, hlen, hnone, .exhausted hrest (Nat.succ.inj spent)⟩)⟩

/-- The transfers of one attempt and of what follows it. -/
theorem steps_attempt {attempt remaining : ℕ} {reply : Bytes Meet2.rpcFrameLen}
    {t : List (Exchange TransportOp TransportOp.Reply)} {r : Result α} :
    Steps (pollReply decode attempt (remaining + 1) reply).run t (.done r) ↔ ∃ buf got u,
      t = (if 0 < attempt then [⟨.sleep Meet2.rpcReplyPollDelayMs, ()⟩] else []) ++
        ⟨.uvcGet .cur Meet2.xuEntityId Meet2.xuSelRpc Meet2.rpcFrameLen reply, (buf, got)⟩ :: u ∧
      Steps (Rpc.afterGet decode attempt remaining buf got) u (.done r) := by
  have hget : ∀ u, Steps (Rpc.pollGet decode attempt remaining reply) u (.done r) ↔ ∃ buf got v,
      u = ⟨.uvcGet .cur Meet2.xuEntityId Meet2.xuSelRpc Meet2.rpcFrameLen reply, (buf, got)⟩ :: v ∧
        Steps (Rpc.afterGet decode attempt remaining buf got) v (.done r) := by
    intro u
    rw [Rpc.pollGet, Program.steps_perform]
    constructor
    · rintro (⟨-, hdone⟩ | ⟨⟨buf, got⟩, v, rfl, hv⟩)
      · cases hdone
      · exact ⟨buf, got, v, rfl, hv⟩
    · rintro ⟨buf, got, v, rfl, hv⟩
      exact .inr ⟨(buf, got), v, rfl, hv⟩
  rw [Rpc.pollReply_succ, Rpc.steps_turn]
  constructor
  · rintro (⟨⟨-, hdone⟩, -⟩ | ⟨u, rfl, hu⟩)
    · cases hdone
    · obtain ⟨buf, got, v, rfl, hv⟩ := (hget u).mp hu
      exact ⟨buf, got, v, rfl, hv⟩
  · rintro ⟨buf, got, v, rfl, hv⟩
    exact .inr ⟨_, rfl, (hget _).mpr ⟨buf, got, v, rfl, hv⟩⟩

theorem steps_pollReply_iff {attempt remaining : ℕ} {reply : Bytes Meet2.rpcFrameLen}
    {t : List (Exchange TransportOp TransportOp.Reply)} {r : Result α} :
    Steps (pollReply decode attempt remaining reply).run t (.done r) ↔
      ∃ gets, t = transfers attempt reply gets ∧ Outcome decode remaining reply gets r := by
  induction remaining generalizing attempt reply t with
  | zero =>
    constructor
    · intro h
      obtain ⟨rfl, hdone⟩ := Program.steps_done.mp h
      cases hdone
      exact ⟨[], rfl, .exhausted (by simp) rfl⟩
    · rintro ⟨gets, rfl, houtcome⟩
      cases houtcome with
      | failed before within => exact absurd within (Nat.not_lt_zero _)
      | decoded before within accepted => exact absurd within (Nat.not_lt_zero _)
      | exhausted all spent =>
        obtain rfl := List.eq_nil_of_length_eq_zero spent
        exact .refl _
  | succ remaining ih =>
    rw [steps_attempt]
    constructor
    · rintro ⟨buf, got, u, rfl, hu⟩
      cases got with
      | error e =>
        obtain ⟨rfl, hdone⟩ := Program.steps_done.mp hu
        cases hdone
        exact ⟨[(buf, .error e)], rfl, @Outcome.failed _ _ _ _ [] buf e (by simp) (Nat.succ_pos _)⟩
      | ok len =>
        rw [Rpc.afterGet] at hu
        cases hdecode : decode buf.toList with
        | error m =>
          rw [hdecode] at hu
          cases hu
        | ok decoded =>
          rw [hdecode] at hu
          cases decoded with
          | some v =>
            obtain ⟨rfl, hdone⟩ := Program.steps_done.mp hu
            cases hdone
            exact ⟨[(buf, .ok len)], rfl, @Outcome.decoded _ _ _ _ [] buf len v (by simp) (Nat.succ_pos _) hdecode⟩
          | none =>
            obtain ⟨gets, rfl, houtcome⟩ := ih.mp hu
            exact ⟨(buf, .ok len) :: gets, rfl, houtcome.cons hdecode⟩
    · rintro ⟨gets, rfl, houtcome⟩
      obtain ⟨buf, got, rest, rfl, hcases⟩ := houtcome.uncons
      refine ⟨buf, got, transfers (attempt + 1) buf rest, rfl, ?_⟩
      obtain ⟨e, rfl, rfl, rfl⟩ | ⟨len, v, rfl, rfl, hdecode, rfl⟩ | ⟨len, rfl, hdecode, hrest⟩ := hcases
      · exact .refl _
      · rw [Rpc.afterGet, hdecode]
        exact .refl _
      · rw [Rpc.afterGet, hdecode]
        exact ih.mpr ⟨rest, rfl, hrest⟩

/-- A finished run: the SET fails and nothing is read, or it is followed by the GETs of an outcome. -/
def Meets (request : Bytes Meet2.rpcFrameLen) (decode : List UInt8 → Checked (Option α))
    (t : List (Exchange TransportOp TransportOp.Reply)) (r : Result α) : Prop :=
  (∃ e, t = [⟨.uvcSet Meet2.xuEntityId Meet2.xuSelRpc request.toList, Except.error e⟩] ∧ r = .error e) ∨
    ∃ gets, t = ⟨.uvcSet Meet2.xuEntityId Meet2.xuSelRpc request.toList, Except.ok ()⟩ ::
        transfers 0 (Bytes.zeros Meet2.rpcFrameLen) gets ∧
      Outcome decode Meet2.rpcReplyPollAttempts (Bytes.zeros Meet2.rpcFrameLen) gets r

theorem steps_setThenPoll {request : Bytes Meet2.rpcFrameLen} {t : List (Exchange TransportOp TransportOp.Reply)}
    {r : Result α} : Steps (Rpc.setThenPoll request decode) t (.done r) ↔ Meets request decode t r := by
  rw [Rpc.setThenPoll, Program.steps_perform]
  constructor
  · rintro (⟨-, hdone⟩ | ⟨set, u, rfl, hu⟩)
    · cases hdone
    · cases set with
      | error e =>
        obtain ⟨rfl, hdone⟩ := Program.steps_done.mp hu
        cases hdone
        exact .inl ⟨e, rfl, rfl⟩
      | ok _ =>
        obtain ⟨gets, rfl, houtcome⟩ := steps_pollReply_iff.mp hu
        exact .inr ⟨gets, rfl, houtcome⟩
  · rintro (⟨e, rfl, rfl⟩ | ⟨gets, rfl, houtcome⟩)
    · exact .inr ⟨Except.error e, [], rfl, .refl _⟩
    · exact .inr ⟨Except.ok (), _, rfl, steps_pollReply_iff.mpr ⟨gets, rfl, houtcome⟩⟩

theorem crashFree_pollReply (htotal : ∀ buf, ∃ v, decode buf = .ok v) (attempt remaining : ℕ)
    (reply : Bytes Meet2.rpcFrameLen) : Program.CrashFree (pollReply decode attempt remaining reply).run := by
  induction remaining generalizing attempt reply with
  | zero => trivial
  | succ remaining ih =>
    have hget : Program.CrashFree (Rpc.pollGet decode attempt remaining reply) := by
      rintro ⟨buf, got⟩
      cases got with
      | error e => trivial
      | ok len =>
        obtain ⟨decoded, hdecoded⟩ := htotal buf.toList
        show Program.CrashFree (Rpc.afterGet decode attempt remaining buf (.ok len))
        rw [Rpc.afterGet, hdecoded]
        cases decoded with
        | some v => trivial
        | none => exact ih _ _
    rw [Rpc.pollReply_succ]
    by_cases hfirst : 0 < attempt
    · rw [if_pos hfirst]
      exact fun _ => hget
    · rw [if_neg hfirst]
      exact hget

theorem crashFree_setThenPoll (htotal : ∀ buf, ∃ v, decode buf = .ok v) (request : Bytes Meet2.rpcFrameLen) :
    Program.CrashFree (Rpc.setThenPoll request decode) := by
  intro r
  cases r with
  | error e => trivial
  | ok _ => exact crashFree_pollReply htotal _ _ _

/-- Whatever answers, the exchange comes to an outcome, by the transfers that go with it. -/
theorem setThenPoll_run (htotal : ∀ buf, ∃ v, decode buf = .ok v) (request : Bytes Meet2.rpcFrameLen) {σ : Type}
    (answer : (op : TransportOp) → σ → op.Reply × σ) (s : σ) : ∃ t r s',
      Program.run answer (Rpc.setThenPoll request decode) s = (.ok r, s') ∧ Program.Answered answer s t s' ∧
        Meets request decode t r := by
  obtain ⟨r, s', hrun⟩ := (crashFree_setThenPoll htotal request).run answer s
  obtain ⟨t, ht, hanswered⟩ := Program.run_eq_ok_iff.mp hrun
  exact ⟨t, r, s', hrun, hanswered, steps_setThenPoll.mp ht⟩

end Finished

/-- Both loops, on every transport: one SET, its error or else one GET after the other up to the first that fails or
decodes, and at the end of the attempts the buffer of the last. They are one program where request and decoder are the
same, and the methods are these loops. -/
theorem poll_loops_meet_specification :
    (∀ {α : Type} (request : Bytes Meet2.rpcFrameLen) (decode : List UInt8 → Checked (Option α)),
      (∀ t r, Steps (rpcRequestThenReply request decode).run t (.done r) ↔ Meets request decode t r) ∧
      (∀ t r, Steps (learnMac (.ok request) decode).run t (.done r) ↔ Meets request decode t r) ∧
      (rpcRequestThenReply request decode).run = (learnMac (.ok request) decode).run ∧
      ((∀ buf, ∃ v, decode buf = .ok v) → ∀ {σ : Type} (answer : (op : TransportOp) → σ → op.Reply × σ) (s : σ),
        ∃ t r s', Program.run answer (rpcRequestThenReply request decode).run s = (.ok r, s') ∧
          Program.run answer (learnMac (.ok request) decode).run s = (.ok r, s') ∧
          Program.Answered answer s t s' ∧ Meets request decode t r)) ∧
    (∀ (request : Bytes Meet2.rpcFrameLen) (decode : List UInt8 → Checked (Option String)),
      Libobsbot.rpcRequestThenReply request decode = rpcRequestThenReply request decode) ∧
    (∃ request, Meet2.buildMacQueryRequest = .ok request ∧
      Libobsbot.learnMac = learnMac (.ok request) Meet2.decodeMacQueryReply) := by
  refine ⟨fun request decode => ⟨fun t r => ?_, fun t r => ?_, ?_, fun htotal σ answer s => ?_⟩, ?_, ?_⟩
  · rw [rpcRequestThenReply_run]
    exact steps_setThenPoll
  · rw [learnMac_run]
    exact steps_setThenPoll
  · rw [rpcRequestThenReply_run, learnMac_run]
  · rw [rpcRequestThenReply_run, learnMac_run]
    obtain ⟨t, r, s', hrun, hanswered, hmeets⟩ := setThenPoll_run htotal request answer s
    exact ⟨t, r, s', hrun, hrun, hanswered, hmeets⟩
  · intro request decode
    apply ExceptT.ext
    rw [rpcRequestThenReply_run]
    exact congrArg (Program.perform _) (funext fun r => by cases r <;> rfl)
  · obtain ⟨request, hrequest, -⟩ := (.learnMac : Rpc.RpcCall Unit).request_eq
    refine ⟨request, hrequest, ?_⟩
    apply ExceptT.ext
    rw [learnMac_run]
    exact Rpc.run_exchange Meet2.decodeMacQueryReply hrequest

/-- A camera that is unplugged once it has taken the request. -/
def unplugged : (op : TransportOp) → Unit → op.Reply × Unit
  | .uvcSet _ _ _, s => (.ok (), s)
  | .uvcGet _ _ _ _ out, s => ((out, .error .notFound), s)
  | .sleep _, s => ((), s)

theorem poll_loops_meet_specification_unplugged : ∃ t r s',
    Program.run unplugged (learnMac (.ok (Bytes.zeros Meet2.rpcFrameLen)) Meet2.decodeMacQueryReply).run () =
      (.ok r, s') ∧
    Program.Answered unplugged () t s' ∧ Meets (Bytes.zeros Meet2.rpcFrameLen) Meet2.decodeMacQueryReply t r := by
  obtain ⟨-, -, -, hruns⟩ := poll_loops_meet_specification.1 (Bytes.zeros Meet2.rpcFrameLen) Meet2.decodeMacQueryReply
  obtain ⟨t, r, s', -, hrun, hanswered, hmeets⟩ :=
    hruns (Meet2.ReplyDecoder.decode_total .macQuery) unplugged ()
  exact ⟨t, r, s', hrun, hanswered, hmeets⟩

end Libobsbot.PollLoops

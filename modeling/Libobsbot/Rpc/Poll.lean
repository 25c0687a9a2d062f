import Libobsbot.Source.Device

/-! # The poll loop

`rpc_request_then_reply` and `learn_mac` poll selector 0x02 with the same loop. `pollReply_succ` is its one
turn, and `steps_pollReply` says what any run of it has read: rejected buffers, then at most one accepted
buffer, which it returns.
-/

namespace Libobsbot.Rpc
open Foundations
open Foundations.Program (Steps Exchange Uses)
set_option autoImplicit false

/-! ## One turn -/

section Poll
variable {α : Type} (decode : List UInt8 → Checked (Option α))

/-- What a turn does with the buffer its GET left. -/
def afterGet (attempt remaining : ℕ) (buf : Bytes Meet2.rpcFrameLen) :
    Result ℕ → TransportProgram (Result α)
  | .error e => .done (.error e)
  | .ok _ =>
    match decode buf.toList with
    | .error m => .crash m
    | .ok (some v) => .done (.ok v)
    | .ok none => (pollReply decode (attempt + 1) remaining buf).run

def pollGet (attempt remaining : ℕ) (reply : Bytes Meet2.rpcFrameLen) :
    TransportProgram (Result α) :=
  .perform (.uvcGet .cur Meet2.xuEntityId Meet2.xuSelRpc Meet2.rpcFrameLen reply) fun r =>
    afterGet decode attempt remaining r.1 r.2

/-- A GET whose buffer is decoded and acted on as a turn does. -/
theorem run_pollGet {attempt remaining : ℕ} {reply : Bytes Meet2.rpcFrameLen}
    {f : ℕ × Bytes Meet2.rpcFrameLen → DeviceM α}
    {g : Bytes Meet2.rpcFrameLen → Option α → DeviceM α}
    (hf : ∀ len buf, f (len, buf) = liftChecked (decode buf.toList) >>= g buf)
    (hsome : ∀ buf v, g buf (some v) = return v)
    (hnone : ∀ buf, g buf none = pollReply decode (attempt + 1) remaining buf) :
    (uvcGet .cur Meet2.xuEntityId Meet2.xuSelRpc reply >>= f).run =
      pollGet decode attempt remaining reply := by
  apply congrArg (Program.perform _)
  funext r
  obtain ⟨buf, got⟩ := r
  cases got with
  | error e => rfl
  | ok len =>
    show (f (len, buf)).run = afterGet decode attempt remaining buf (.ok len)
    rw [hf, afterGet]
    cases decode buf.toList with
    | error m => rfl
    | ok decoded =>
      cases decoded with
      | some v =>
        show (g buf (some v)).run = _
        rw [hsome]
        rfl
      | none =>
        show (g buf none).run = _
        rw [hnone]

/-- One turn: the delay from the second attempt on, then the GET. -/
theorem pollReply_succ (attempt remaining : ℕ) (reply : Bytes Meet2.rpcFrameLen) :
    (pollReply decode attempt (remaining + 1) reply).run =
      if 0 < attempt then
        .perform (.sleep Meet2.rpcReplyPollDelayMs) fun _ =>
          pollGet decode attempt remaining reply
      else pollGet decode attempt remaining reply := by
  unfold pollReply
  by_cases h : 0 < attempt
  · rewrite [if_pos h, if_pos h]
    apply congrArg (Program.perform _)
    funext _
    exact run_pollGet decode (fun _ _ => rfl) (fun _ _ => rfl) fun _ => rfl
  · rewrite [if_neg h, if_neg h]
    exact run_pollGet decode (fun _ _ => rfl) (fun _ _ => rfl) fun _ => rfl

theorem pollReply_first (remaining : ℕ) (reply : Bytes Meet2.rpcFrameLen) :
    (pollReply decode 0 (remaining + 1) reply).run = pollGet decode 0 remaining reply :=
  (pollReply_succ decode 0 remaining reply).trans (if_neg (Nat.lt_irrefl 0))

/-- The wait before an attempt, as transfers. -/
def pause (attempt : ℕ) : List (Exchange TransportOp TransportOp.Reply) :=
  if 0 < attempt then [⟨.sleep Meet2.rpcReplyPollDelayMs, ()⟩] else []

/-- A run that stands before the wait, or has it behind. -/
theorem steps_turn (attempt : ℕ) {p q : TransportProgram (Result α)}
    {t : List (Exchange TransportOp TransportOp.Reply)} :
    Steps (if 0 < attempt then .perform (.sleep Meet2.rpcReplyPollDelayMs) fun _ => p else p) t q ↔
      (t = [] ∧ q = .perform (.sleep Meet2.rpcReplyPollDelayMs) fun _ => p) ∧ 0 < attempt ∨
        ∃ u, t = pause attempt ++ u ∧ Steps p u q := by
  unfold pause
  by_cases hfirst : 0 < attempt
  · rw [if_pos hfirst, if_pos hfirst, Program.steps_perform]
    constructor
    · rintro (hopen | ⟨_, u, rfl, hu⟩)
      · exact .inl ⟨hopen, hfirst⟩
      · exact .inr ⟨u, rfl, hu⟩
    · rintro (⟨hopen, -⟩ | ⟨u, rfl, hu⟩)
      · exact .inl hopen
      · exact .inr ⟨(), u, rfl, hu⟩
  · rw [if_neg hfirst, if_neg hfirst]
    constructor
    · exact fun h => .inr ⟨t, rfl, h⟩
    · rintro (⟨-, hpositive⟩ | ⟨u, rfl, hu⟩)
      · exact absurd hpositive hfirst
      · exact hu

/-! ## What the loop has read -/

/-- The bytes of a successful GET. -/
def gotBytes : Exchange TransportOp TransportOp.Reply → Option (List UInt8)
  | ⟨.uvcGet _ _ _ _ _, (buf, .ok _)⟩ => some buf.toList
  | _ => none

theorem gotBytes_pause (attempt : ℕ) : (pause attempt).filterMap gotBytes = [] := by
  unfold pause
  split_ifs <;> rfl

/-- Where a caller stands after the buffers in `read`: it has rejected all of them and has not
returned a value, or it accepted the last and returned what that decodes to. -/
inductive Polled (read : List (List UInt8)) (q : TransportProgram (Result α)) : Prop where
  | rejected (all : ∀ b ∈ read, ∀ v, decode b ≠ .ok (some v)) (open_ : ∀ v, q ≠ .done (.ok v))
  | accepted (front : List (List UInt8)) (last : List UInt8) (v : α) (split : read = front ++ [last])
      (before : ∀ b ∈ front, ∀ w, decode b ≠ .ok (some w)) (decoded : decode last = .ok (some v))
      (returned : q = .done (.ok v))

variable {decode}

theorem Polled.cons {b : List UInt8} {read : List (List UInt8)} {q : TransportProgram (Result α)}
    (hb : ∀ v, decode b ≠ .ok (some v)) (h : Polled decode read q) :
    Polled decode (b :: read) q := by
  cases h with
  | rejected all open_ => exact .rejected (List.forall_mem_cons.mpr ⟨hb, all⟩) open_
  | accepted front last v split before decoded returned =>
    exact .accepted (b :: front) last v (by rw [split, List.cons_append])
      (List.forall_mem_cons.mpr ⟨hb, before⟩) decoded returned

/-- Every run of the loop, wherever it has got to. -/
theorem steps_pollReply {attempt remaining : ℕ} {reply : Bytes Meet2.rpcFrameLen}
    {t : List (Exchange TransportOp TransportOp.Reply)} {q : TransportProgram (Result α)}
    (h : Steps (pollReply decode attempt remaining reply).run t q) :
    Polled decode (t.filterMap gotBytes) q := by
  induction remaining generalizing attempt reply t with
  | zero =>
    obtain ⟨rfl, rfl⟩ := Program.steps_done.mp h
    exact .rejected (by simp) (by simp)
  | succ remaining ih =>
    have hget : ∀ {t}, Steps (pollGet decode attempt remaining reply) t q →
        Polled decode (t.filterMap gotBytes) q := by
      intro t h
      rcases Program.steps_perform.mp h with ⟨rfl, rfl⟩ | ⟨⟨buf, got⟩, u, rfl, hu⟩
      · exact .rejected (by simp) (by simp)
      · cases got with
        | error e =>
          obtain ⟨rfl, rfl⟩ := Program.steps_done.mp hu
          exact .rejected (by simp [gotBytes]) (by simp)
        | ok len =>
          show Polled decode (buf.toList :: u.filterMap gotBytes) q
          rw [afterGet] at hu
          cases hdecode : decode buf.toList with
          | error m =>
            rw [hdecode] at hu
            cases hu
            exact .rejected (by simp [hdecode]) (by simp)
          | ok decoded =>
            rw [hdecode] at hu
            cases decoded with
            | some v =>
              obtain ⟨rfl, rfl⟩ := Program.steps_done.mp hu
              exact .accepted [] buf.toList v rfl (by simp) hdecode rfl
            | none => exact (ih hu).cons (by simp [hdecode])
    rw [pollReply_succ] at h
    obtain ⟨⟨rfl, rfl⟩, -⟩ | ⟨u, rfl, hu⟩ := (steps_turn attempt).mp h
    · exact .rejected (by simp) (by simp)
    · rw [List.filterMap_append, gotBytes_pause, List.nil_append]
      exact hget hu

/-- One turn that reads `b` and goes on as the loop does from there. -/
theorem exists_turn {attempt remaining : ℕ} {b : Bytes Meet2.rpcFrameLen}
    (reply : Bytes Meet2.rpcFrameLen) {t : List (Exchange TransportOp TransportOp.Reply)}
    {q : TransportProgram (Result α)}
    (h : Steps (afterGet decode attempt remaining b (.ok Meet2.rpcFrameLen)) t q) :
    ∃ u, Steps (pollReply decode attempt (remaining + 1) reply).run u q ∧
      u.filterMap gotBytes = b.toList :: t.filterMap gotBytes := by
  have hget : Steps (pollGet decode attempt remaining reply) (⟨.uvcGet .cur Meet2.xuEntityId
      Meet2.xuSelRpc Meet2.rpcFrameLen reply, (b, Except.ok Meet2.rpcFrameLen)⟩ :: t) q := by
    rw [pollGet]
    exact Program.steps_perform.mpr (.inr ⟨_, t, rfl, h⟩)
  have hturn := (steps_turn attempt).mpr (.inr ⟨_, rfl, hget⟩)
  rw [← pollReply_succ] at hturn
  refine ⟨_, hturn, ?_⟩
  rw [List.filterMap_append, gotBytes_pause]
  rfl

/-- Rejected replies within the budget and then an accepted one: the loop returns what that decodes
to. -/
theorem exists_pollReply {before : List (Bytes Meet2.rpcFrameLen)} {last : Bytes Meet2.rpcFrameLen}
    {v : α} (hbefore : ∀ b ∈ before, decode b.toList = .ok none)
    (hlast : decode last.toList = .ok (some v)) {remaining : ℕ}
    (hbudget : before.length ≤ remaining) (attempt : ℕ) (reply : Bytes Meet2.rpcFrameLen) :
    ∃ t, Steps (pollReply decode attempt (remaining + 1) reply).run t (.done (.ok v)) ∧
      t.filterMap gotBytes = before.map Bytes.toList ++ [last.toList] := by
  induction before generalizing attempt remaining reply with
  | nil =>
    refine exists_turn reply (t := []) ?_
    rw [afterGet, hlast]
    exact .refl _
  | cons b before ih =>
    obtain ⟨n, rfl⟩ : ∃ n, remaining = n + 1 := Nat.exists_eq_add_one.mpr (Nat.zero_lt_of_lt hbudget)
    have hrest : before.length ≤ n := Nat.le_of_succ_le_succ hbudget
    obtain ⟨t, ht, hread⟩ := ih (fun c hc => hbefore c (List.mem_cons_of_mem _ hc))
      hrest (attempt + 1) b
    have hturn : Steps (afterGet decode attempt (n + 1) b (.ok Meet2.rpcFrameLen)) t
        (.done (.ok v)) := by
      rw [afterGet, hbefore b List.mem_cons_self]
      exact ht
    obtain ⟨u, hu, hreads⟩ := exists_turn reply hturn
    refine ⟨u, hu, ?_⟩
    rw [hreads, hread]
    rfl

/-- The loop uses its GET and its delay only. -/
theorem uses_pollReply {allowed : TransportOp → Prop} (hget : ∀ out, allowed
      (.uvcGet .cur Meet2.xuEntityId Meet2.xuSelRpc Meet2.rpcFrameLen out))
    (hsleep : ∀ millis, allowed (.sleep millis)) (decode : List UInt8 → Checked (Option α))
    (attempt remaining : ℕ) (reply : Bytes Meet2.rpcFrameLen) :
    Uses allowed (pollReply decode attempt remaining reply).run := by
  induction remaining generalizing attempt reply with
  | zero => trivial
  | succ remaining ih =>
    have hturn : Uses allowed (pollGet decode attempt remaining reply) := by
      refine ⟨hget reply, fun r => ?_⟩
      obtain ⟨buf, got⟩ := r
      cases got with
      | error e => trivial
      | ok len =>
        show Uses allowed (afterGet decode attempt remaining buf (.ok len))
        rw [afterGet]
        cases decode buf.toList with
        | error m => trivial
        | ok decoded =>
          cases decoded with
          | some v => trivial
          | none => exact ih _ _
    rw [pollReply_succ]
    by_cases hfirst : 0 < attempt
    · rw [if_pos hfirst]
      exact ⟨hsleep _, fun _ => hturn⟩
    · rw [if_neg hfirst]
      exact hturn

end Poll

/-! ## SET, then poll -/

def setThenPoll {α : Type} (frame : Bytes Meet2.rpcFrameLen)
    (decode : List UInt8 → Checked (Option α)) : TransportProgram (Result α) :=
  .perform (.uvcSet Meet2.xuEntityId Meet2.xuSelRpc frame.toList) fun r =>
    match r with
    | .ok () => (pollReply decode 0 Meet2.rpcReplyPollAttempts (Bytes.zeros Meet2.rpcFrameLen)).run
    | .error e => .done (.error e)

theorem run_exchange {α : Type} {request : Checked (Bytes Meet2.rpcFrameLen)}
    {frame : Bytes Meet2.rpcFrameLen} (decode : List UInt8 → Checked (Option α))
    (hframe : request = .ok frame) :
    (do
      let request ← liftChecked request
      uvcSet Meet2.xuEntityId Meet2.xuSelRpc request.toList
      pollReply decode 0 Meet2.rpcReplyPollAttempts (Bytes.zeros Meet2.rpcFrameLen) :
        DeviceM α).run = setThenPoll frame decode := by
  subst hframe
  exact congrArg (Program.perform _) (funext fun r => by cases r <;> rfl)

end Libobsbot.Rpc

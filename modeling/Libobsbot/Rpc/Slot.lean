import Libobsbot.Foundations.Interleaving
import Libobsbot.Rpc.Calls

/-! # The reply slot

Selector 0x02 of the camera as its callers see it: a SET hands over a request, a GET copies the one reply
slot, and the camera puts replies into the slot by itself. Next to the slot the state keeps what no caller
sees: every request with its caller, which of them the slot answers, which are still unanswered, and every
GET with what it read. A `Camera` chooses what it answers, when, and with which bytes; all that is fixed is
that a reply carries its request's command pair.
-/

namespace Libobsbot.Rpc
open Foundations
open Foundations.Program (Steps Exchange Uses)
set_option autoImplicit false

/-- A request the camera has received; one from before the run has no caller. -/
structure Request (ι : Type) where
  caller : Option ι
  bytes : List UInt8

/-- A successful GET: who made it, which request the slot answered then, and the slot. -/
structure Read (ι : Type) where
  reader : ι
  origin : Option ℕ
  bytes : Bytes Meet2.rpcFrameLen

structure RpcState (ι : Type) where
  slot : Bytes Meet2.rpcFrameLen
  /-- The index of the request that the slot answers. -/
  origin : Option ℕ
  requests : List (Request ι)
  pending : List ℕ
  reads : List (Read ι)

namespace RpcState
variable {ι : Type}

def receive (s : RpcState ι) (caller : ι) (payload : List UInt8) : RpcState ι :=
  { s with
    requests := s.requests ++ [⟨some caller, payload⟩]
    pending := s.pending ++ [s.requests.length] }

def read (s : RpcState ι) (reader : ι) : RpcState ι :=
  { s with reads := s.reads ++ [⟨reader, s.origin, s.slot⟩] }

def answer (s : RpcState ι) (n : ℕ) (reply : Bytes Meet2.rpcFrameLen) : RpcState ι :=
  { s with slot := reply, origin := some n, pending := s.pending.erase n }

end RpcState

structure Camera (ι : Type) where
  mayAnswer : RpcState ι → ℕ → Prop
  answers : List UInt8 → Bytes Meet2.rpcFrameLen → Prop
  carries : ∀ {request reply}, answers request reply →
    Meet2.commandAt reply.toList = Meet2.commandAt request

variable {ι : Type}

/-- One transport call on the camera. A failed transfer leaves the camera as it was. -/
inductive Transfer : ι → (op : TransportOp) → RpcState ι → op.Reply → RpcState ι → Prop
  | set {i : ι} {s : RpcState ι} (payload : List UInt8) :
      Transfer i (.uvcSet Meet2.xuEntityId Meet2.xuSelRpc payload) s (.ok ()) (s.receive i payload)
  | setFails {i : ι} {s : RpcState ι} (payload : List UInt8) (e : Error) :
      Transfer i (.uvcSet Meet2.xuEntityId Meet2.xuSelRpc payload) s (.error e) s
  | get {i : ι} {s : RpcState ι} (out : Bytes Meet2.rpcFrameLen) :
      Transfer i (.uvcGet .cur Meet2.xuEntityId Meet2.xuSelRpc Meet2.rpcFrameLen out) s
        (s.slot, .ok Meet2.rpcFrameLen) (s.read i)
  | getFails {i : ι} {s : RpcState ι} (out left : Bytes Meet2.rpcFrameLen) (e : Error) :
      Transfer i (.uvcGet .cur Meet2.xuEntityId Meet2.xuSelRpc Meet2.rpcFrameLen out) s
        (left, .error e) s
  | sleep {i : ι} {s : RpcState ι} (millis : ℕ) : Transfer i (.sleep millis) s () s

inductive Camera.Answer (camera : Camera ι) : RpcState ι → RpcState ι → Prop
  | reply {s : RpcState ι} {n : ℕ} {request : Request ι} {bytes : Bytes Meet2.rpcFrameLen}
      (may : camera.mayAnswer s n) (received : s.requests[n]? = some request)
      (answers : camera.answers request.bytes bytes) : Answer camera s (s.answer n bytes)

def Camera.world (camera : Camera ι) : World ι TransportOp TransportOp.Reply (RpcState ι) where
  perform := Transfer
  environment := camera.Answer

/-! ## What a caller has read -/

section Reads
variable [DecidableEq ι] {camera : Camera ι} {α : ι → Type}

def readsOf (i : ι) (s : RpcState ι) : List (List UInt8) :=
  (s.reads.filter fun r => r.reader = i).map fun r => r.bytes.toList

theorem mem_readsOf {i : ι} {s : RpcState ι} {b : List UInt8} :
    b ∈ readsOf i s ↔ ∃ r ∈ s.reads, r.reader = i ∧ r.bytes.toList = b := by
  simp [readsOf, and_assoc]

theorem readsOf_read (i j : ι) (s : RpcState ι) : readsOf i (s.read j) =
    readsOf i s ++ if j = i then [s.slot.toList] else [] := by
  by_cases hj : j = i
  · simp [readsOf, RpcState.read, hj]
  · simp [readsOf, RpcState.read, hj]

theorem readsOf_transfer {i j : ι} {op : TransportOp} {s s' : RpcState ι} {r : op.Reply}
    (h : Transfer j op s r s') : readsOf i s' = readsOf i s ++
      ((Label.thread j op r : Label ι TransportOp TransportOp.Reply).exchangeOf i).toList.filterMap
        gotBytes := by
  by_cases hj : j = i
  · subst hj
    cases h with
    | get out => simp [readsOf_read, Label.exchangeOf, gotBytes]
    | set payload => simp [Label.exchangeOf, gotBytes, readsOf, RpcState.receive]
    | setFails payload e => simp [Label.exchangeOf, gotBytes]
    | getFails out left e => simp [Label.exchangeOf, gotBytes]
    | sleep millis => simp [Label.exchangeOf, gotBytes]
  · cases h with
    | get out => simp [readsOf_read, Label.exchangeOf, hj]
    | set payload => simp [Label.exchangeOf, hj, readsOf, RpcState.receive]
    | _ => simp [Label.exchangeOf, hj]

theorem readsOf_get {c d : Config ι TransportOp TransportOp.Reply α (RpcState ι)} {i : ι}
    {out buf : Bytes Meet2.rpcFrameLen} {len : ℕ} (h : camera.world.Step c
      (.thread i (.uvcGet .cur Meet2.xuEntityId Meet2.xuSelRpc Meet2.rpcFrameLen out)
        (buf, .ok len)) d) :
    readsOf i d.shared = readsOf i c.shared ++ [c.shared.slot.toList] := by
  cases h with
  | thread head effect =>
    cases effect with
    | get out => rw [readsOf_read, if_pos rfl]

/-- Along a run, what a caller reads is what its own GETs returned. -/
theorem readsOf_run {c d : Config ι TransportOp TransportOp.Reply α (RpcState ι)}
    {ls : List (Label ι TransportOp TransportOp.Reply)} (h : camera.world.Run c ls d) (i : ι) :
    readsOf i d.shared =
      readsOf i c.shared ++ (ls.filterMap (Label.exchangeOf i)).filterMap gotBytes := by
  induction h with
  | refl c => simp
  | @cons c c' d l ls step _ ih =>
    cases step with
    | @thread j op next r s head effect =>
      have hstep : readsOf i s = _ := readsOf_transfer (i := i) effect
      rw [ih, hstep, List.append_assoc, List.filterMap_cons]
      cases (Label.thread j op r : Label ι TransportOp TransportOp.Reply).exchangeOf i with
      | none => rfl
      | some x =>
        rw [Option.toList_some, ← List.filterMap_append]
        rfl
    | environment effect =>
      cases effect
      exact ih

end Reads

/-! ## Where the slot's contents come from -/

/-- `bytes` answers the request at `origin`; without an origin it is no reply at all (an echoed
request frame, zeros). -/
def Sourced (camera : Camera ι) (requests : List (Request ι)) (origin : Option ℕ)
    (bytes : Bytes Meet2.rpcFrameLen) : Prop :=
  match origin with
  | none => ¬ Meet2.IsReply bytes.toList
  | some n => ∃ request, requests[n]? = some request ∧ camera.answers request.bytes bytes

theorem Sourced.append {camera : Camera ι} {requests : List (Request ι)} {origin : Option ℕ}
    {bytes : Bytes Meet2.rpcFrameLen} (h : Sourced camera requests origin bytes)
    (more : List (Request ι)) : Sourced camera (requests ++ more) origin bytes := by
  cases origin with
  | none => exact h
  | some n =>
    obtain ⟨request, hn, ha⟩ := h
    have hlt : n < requests.length := (List.getElem?_eq_some_iff.mp hn).1
    exact ⟨request, by rw [List.getElem?_append_left hlt, hn], ha⟩

/-- The slot and everything read from it is sourced, and a caller's requests carry its own command
pair. -/
structure Traced (camera : Camera ι) (mine : ι → UInt8 × UInt8) (s : RpcState ι) : Prop where
  slot : Sourced camera s.requests s.origin s.slot
  reads : ∀ r ∈ s.reads, Sourced camera s.requests r.origin r.bytes
  requests : ∀ request ∈ s.requests, ∀ j, request.caller = some j →
    Meet2.commandAt request.bytes = mine j

section Traced
variable {camera : Camera ι} {mine : ι → UInt8 × UInt8}

theorem Traced.transfer {i : ι} {op : TransportOp} {s s' : RpcState ι} {r : op.Reply}
    {frame : List UInt8} (hframe : Meet2.commandAt frame = mine i) (hop : SetsOnly frame op)
    (hs : Traced camera mine s) (h : Transfer i op s r s') : Traced camera mine s' := by
  cases h with
  | set payload =>
    obtain rfl : payload = frame := hop
    refine ⟨hs.slot.append _, fun r hr => (hs.reads r hr).append _, fun request hr j hj => ?_⟩
    rcases List.mem_append.mp hr with hr | hr
    · exact hs.requests request hr j hj
    · obtain rfl := List.mem_singleton.mp hr
      obtain rfl := Option.some.inj hj
      exact hframe
  | get out =>
    refine ⟨hs.slot, fun r hr => ?_, hs.requests⟩
    rcases List.mem_append.mp hr with hr | hr
    · exact hs.reads r hr
    · obtain rfl := List.mem_singleton.mp hr
      exact hs.slot
  | setFails payload e => exact hs
  | getFails out left e => exact hs
  | sleep millis => exact hs

theorem Traced.answer {s s' : RpcState ι} (hs : Traced camera mine s) (h : camera.Answer s s') :
    Traced camera mine s' := by
  cases h with
  | reply may received answers => exact ⟨⟨_, received, answers⟩, hs.reads, hs.requests⟩

end Traced

/-! ## Concurrent calls -/

section Calls
variable [DecidableEq ι] {Location : Type}

/-- Every caller is about to make its call; nothing of this run has happened. -/
structure Begins (camera : Camera ι) (call : ι → RpcCall Location)
    (c : Config ι TransportOp TransportOp.Reply (fun i => Result (call i).Value) (RpcState ι)) :
    Prop where
  threads : ∀ i, c.threads i = (call i).program
  slot : Sourced camera c.shared.requests c.shared.origin c.shared.slot
  reads : c.shared.reads = []
  requests : ∀ request ∈ c.shared.requests, request.caller = none

variable {camera : Camera ι} {call : ι → RpcCall Location}
  {c d : Config ι TransportOp TransportOp.Reply (fun i => Result (call i).Value) (RpcState ι)}
  {ls : List (Label ι TransportOp TransportOp.Reply)}

theorem Begins.traced (hc : Begins camera call c) (h : camera.world.Run c ls d) :
    Traced camera (fun i => (call i).command.ids) d.shared := by
  choose frame hframe hids _ using fun i => (call i).request_eq
  have huses : ∀ i, Uses (SetsOnly (frame i).toList) (c.threads i) := by
    intro i
    rw [hc.threads i]
    exact (call i).uses_program (hframe i)
  refine h.invariant ?_ (fun hs ha => hs.answer ha) huses ?_
  · intro i op s r s' hop hs ht
    exact hs.transfer (hids i) hop ht
  · exact ⟨hc.slot, by simp [hc.reads], fun r hr j hj => by simp [hc.requests r hr] at hj⟩

theorem Begins.polled (hc : Begins camera call c) (h : camera.world.Run c ls d) {i : ι}
    (hreads : (call i).Reads) : Polled (call i).decode (readsOf i d.shared) (d.threads i) := by
  have hsteps := h.steps i
  rw [hc.threads i] at hsteps
  have hrun := readsOf_run h i
  have hnone : readsOf i c.shared = [] := by simp [readsOf, hc.reads]
  rw [hnone, List.nil_append] at hrun
  rw [hrun]
  exact (call i).steps_program hreads hsteps

end Calls

/-! ## Cameras whose replies decode -/

/-- A reply to a command's request decodes as a reply to that command. -/
def Camera.Intelligible (camera : Camera ι) : Prop :=
  ∀ {request : List UInt8} {reply : Bytes Meet2.rpcFrameLen} (command : RpcCommand),
    camera.answers request reply → Meet2.commandAt request = command.ids →
      command.Decodable reply.toList

/-- The camera that answers when `mayAnswer` lets it, with any reply that decodes. -/
def Camera.plain (mayAnswer : RpcState ι → ℕ → Prop) : Camera ι where
  mayAnswer := mayAnswer
  answers request reply := Meet2.commandAt reply.toList = Meet2.commandAt request ∧
    ∀ command : RpcCommand, Meet2.commandAt request = command.ids → command.Decodable reply.toList
  carries h := h.1

theorem Camera.plain_intelligible (mayAnswer : RpcState ι → ℕ → Prop) :
    (Camera.plain mayAnswer).Intelligible :=
  fun command h hids => h.2 command hids

/-- The firmware and serial replies of `getStatus.pcapng`, a device hash that ends in the MAC tail, and
an acknowledgement without payload. -/
def sampleReply : RpcCommand → Bytes Meet2.rpcFrameLen
  | .firmware => ⟨[0xaa, 0x29, 0x01, 0x00, 0x0c, 0x00, 0xf0, 0x45, 0x0d, 0x0a, 0x08, 0x04, 0x08, 0x00,
      0x2d, 0xaa, 0x01, 0x06, 0x04, 0x04] ++ List.replicate 40 0, rfl⟩
  | .serial => ⟨[0xaa, 0x29, 0x03, 0x00, 0x0c, 0x00, 0x00, 0x46, 0x0d, 0x0a, 0xc8, 0x18, 0x0e, 0x00,
      0x22, 0x38, 0x52, 0x4d, 0x4f, 0x4d, 0x57, 0x59, 0x49, 0x31, 0x31, 0x34, 0x31, 0x4c, 0x43,
      0x56] ++ List.replicate 30 0, rfl⟩
  | .deviceHash => ⟨[0xaa, 0x29, 0x00, 0x00, 0x0c, 0x00, 0xa0, 0x49, 0x0d, 0x0a, 0x08, 0x18, 0x18, 0x00,
      0xa1, 0x1c] ++ List.replicate 18 0 ++ [0xad, 0xb6, 0x1b, 0x98, 0xdc, 0x8d] ++
      List.replicate 20 0, rfl⟩
  | .faceFocus => ⟨[0xaa, 0x29, 0x04, 0x00, 0x0c, 0x00, 0x00, 0x00, 0x0d, 0x0a, 0x02, 0x36] ++
      List.replicate 48 0, rfl⟩

theorem commandAt_sampleReply (command : RpcCommand) :
    Meet2.commandAt (sampleReply command).toList = command.ids := by
  cases command <;> rfl

theorem sampleReply_decodable (command : RpcCommand) :
    command.Decodable (sampleReply command).toList := by
  cases command with
  | firmware => exact ⟨"4.4.6.1", by decide⟩
  | serial => exact ⟨"RMOMWYI1141LCV", by decide⟩
  | deviceHash => exact ⟨⟨[0xad, 0xb6, 0x1b, 0x98, 0xdc, 0x8d], rfl⟩, by decide⟩
  | faceFocus => trivial

theorem plain_answers_sample {mayAnswer : RpcState ι → ℕ → Prop} {request : List UInt8}
    {command : RpcCommand} (h : Meet2.commandAt request = command.ids) :
    (Camera.plain mayAnswer).answers request (sampleReply command) := by
  refine ⟨(commandAt_sampleReply command).trans h.symm, fun command' h' => ?_⟩
  obtain rfl := RpcCommand.ids_injective (h.symm.trans h')
  exact sampleReply_decodable command

def sampleDevice : Device Unit where
  info := ⟨Meet2.vendorId, Meet2.productIdMeet2, .meet2, "", ()⟩
  storedFirmware := "4.4.6.1"
  mac := ⟨[0xad, 0xb6, 0x1b, 0x98, 0xdc, 0x8d], rfl⟩

/-- Two callers: `false` asks for the firmware, `true` for the serial. -/
def twoCallers : Bool → RpcCall Unit
  | false => .firmwareFromCamera sampleDevice
  | true => .serialFromCamera sampleDevice

def untouched (ι : Type) : RpcState ι := ⟨Bytes.zeros Meet2.rpcFrameLen, none, [], [], []⟩

theorem begins_untouched [DecidableEq ι] (camera : Camera ι) {Location : Type}
    (call : ι → RpcCall Location) :
    Begins camera call ⟨fun i => (call i).program, untouched ι⟩ where
  threads _ := rfl
  slot := by
    show ¬ Meet2.IsReply (Bytes.zeros Meet2.rpcFrameLen).toList
    decide
  reads := rfl
  requests := by simp [untouched]

/-! ## Single steps of a call -/

section Turns
variable [DecidableEq ι] {camera : Camera ι} {β : ι → Type}
  {threads : (i : ι) → TransportProgram (Result (β i))} {s : RpcState ι} {i : ι}
  {decode : List UInt8 → Checked (Option (β i))}

theorem set_step {frame : Bytes Meet2.rpcFrameLen} (h : threads i = setThenPoll frame decode) :
    camera.world.Step ⟨threads, s⟩
      (.thread i (.uvcSet Meet2.xuEntityId Meet2.xuSelRpc frame.toList) (.ok ()))
      ⟨Function.update threads i (pollGet decode 0 9 (Bytes.zeros Meet2.rpcFrameLen)),
        s.receive i frame.toList⟩ := by
  apply World.Step.becomes h (Transfer.set frame.toList)
  exact pollReply_first decode 9 _

theorem accept_step {attempt remaining : ℕ} {out : Bytes Meet2.rpcFrameLen} {v : β i}
    (h : threads i = pollGet decode attempt remaining out)
    (hdecode : decode s.slot.toList = .ok (some v)) :
    camera.world.Step ⟨threads, s⟩
      (.thread i (.uvcGet .cur Meet2.xuEntityId Meet2.xuSelRpc Meet2.rpcFrameLen out)
        (s.slot, .ok Meet2.rpcFrameLen))
      ⟨Function.update threads i (.done (.ok v)), s.read i⟩ := by
  apply World.Step.becomes h (Transfer.get out)
  rw [afterGet, hdecode]

theorem reject_step {attempt remaining : ℕ} {out : Bytes Meet2.rpcFrameLen}
    (h : threads i = pollGet decode attempt remaining out)
    (hdecode : decode s.slot.toList = .ok none) :
    camera.world.Step ⟨threads, s⟩
      (.thread i (.uvcGet .cur Meet2.xuEntityId Meet2.xuSelRpc Meet2.rpcFrameLen out)
        (s.slot, .ok Meet2.rpcFrameLen))
      ⟨Function.update threads i (pollReply decode (attempt + 1) remaining s.slot).run,
        s.read i⟩ := by
  apply World.Step.becomes h (Transfer.get out)
  rw [afterGet, hdecode]

/-- A call that the camera answers between its SET and its first GET. -/
theorem prompt_run {c : Config ι TransportOp TransportOp.Reply (fun i => Result (β i)) (RpcState ι)}
    {frame reply : Bytes Meet2.rpcFrameLen} {v : β i}
    (h : c.threads i = setThenPoll frame decode)
    (hmay : camera.mayAnswer (c.shared.receive i frame.toList) c.shared.requests.length)
    (hanswers : camera.answers frame.toList reply) (hdecode : decode reply.toList = .ok (some v)) :
    camera.world.Run c
      [.thread i (.uvcSet Meet2.xuEntityId Meet2.xuSelRpc frame.toList) (.ok ()), .environment,
        .thread i (.uvcGet .cur Meet2.xuEntityId Meet2.xuSelRpc Meet2.rpcFrameLen
          (Bytes.zeros Meet2.rpcFrameLen)) (reply, .ok Meet2.rpcFrameLen)]
      ⟨Function.update c.threads i (.done (.ok v)),
        ((c.shared.receive i frame.toList).answer c.shared.requests.length reply).read i⟩ := by
  refine .cons (set_step h) (.cons (.environment (.reply hmay List.getElem?_concat_length
    hanswers)) ?_)
  have hget := Function.update_self i (pollGet decode 0 9 (Bytes.zeros Meet2.rpcFrameLen)) c.threads
  apply World.Run.cons (accept_step hget hdecode)
  rw [Function.update_idem]
  exact .refl _

end Turns

end Libobsbot.Rpc

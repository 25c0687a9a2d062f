import Libobsbot.Rpc.Poll
import Libobsbot.Rpc.Replies

/-! # The calls on selector 0x02

`firmware_from_camera`, `serial_from_camera` and `learn_mac` SET one request frame and poll for its reply;
`set_face_focus` only SETs. `RpcCall` gathers what tells them apart: the command, the frame, the decoder.
-/

namespace Libobsbot.Rpc
open Foundations
open Foundations.Program (Steps Exchange Uses)
set_option autoImplicit false

/-! ## Commands and calls -/

inductive RpcCommand where
  | firmware | serial | deviceHash | faceFocus
  deriving DecidableEq

/-- The `(cmd_id, sub_cmd_id)` pair on the wire. -/
def RpcCommand.ids : RpcCommand → UInt8 × UInt8
  | .firmware => Meet2.rpcGetFirmware
  | .serial => Meet2.rpcGetSerial
  | .deviceHash => Meet2.rpcGetDeviceHash
  | .faceFocus => (0x02, 0x36)

theorem RpcCommand.ids_injective {c c' : RpcCommand} (h : c.ids = c'.ids) : c = c' := by
  cases c <;> cases c' <;> first | rfl | exact absurd h (by decide)

/-- `buf` decodes as a reply to the command; nothing reads the reply to face focus. -/
def RpcCommand.Decodable : RpcCommand → List UInt8 → Prop
  | .firmware, buf => ∃ v, Meet2.decodeFirmwareReply buf = .ok (some v)
  | .serial, buf => ∃ v, Meet2.decodeSerialReply buf = .ok (some v)
  | .deviceHash, buf => ∃ v, Meet2.decodeMacQueryReply buf = .ok (some v)
  | .faceFocus, _ => True

inductive RpcCall (Location : Type) where
  | firmwareFromCamera (self : Device Location)
  | serialFromCamera (self : Device Location)
  | learnMac
  | setFaceFocus (self : Device Location) (on : Bool)

namespace RpcCall
variable {Location : Type}

def command : RpcCall Location → RpcCommand
  | .firmwareFromCamera _ => .firmware
  | .serialFromCamera _ => .serial
  | .learnMac => .deviceHash
  | .setFaceFocus _ _ => .faceFocus

abbrev Value : RpcCall Location → Type
  | .firmwareFromCamera _ => String
  | .serialFromCamera _ => String
  | .learnMac => Bytes 6
  | .setFaceFocus _ _ => Unit

def program : (call : RpcCall Location) → TransportProgram (Result call.Value)
  | .firmwareFromCamera self => self.firmwareFromCamera.run
  | .serialFromCamera self => self.serialFromCamera.run
  | .learnMac => Libobsbot.learnMac.run
  | .setFaceFocus self on => (self.setFaceFocus on).run

def request : RpcCall Location → Checked (Bytes Meet2.rpcFrameLen)
  | .firmwareFromCamera self =>
    Meet2.buildRpcFrame 0x01 0x01 0x0D 0x08 0x04 [] 18 self.mac.toList
  | .serialFromCamera self =>
    Meet2.buildRpcFrame 0x01 0x03 0x0D 0xC8 0x18 [] 24 (self.mac.toList ++ [0x01, 0x01])
  | .learnMac => Meet2.buildMacQueryRequest
  | .setFaceFocus self on =>
    Meet2.buildRpcFrame 0x25 0x04 0x02 0x02 0x36 [u8FromBool on, 0x00, 0x00, 0x00] 26
      (self.mac.toList ++ [0x01, 0x01])

/-- The decoder a call polls with; `set_face_focus` reads no reply. -/
def decode : (call : RpcCall Location) → List UInt8 → Checked (Option call.Value)
  | .firmwareFromCamera _ => Meet2.decodeFirmwareReply
  | .serialFromCamera _ => Meet2.decodeSerialReply
  | .learnMac => Meet2.decodeMacQueryReply
  | .setFaceFocus _ _ => fun _ => .ok none

def Reads : RpcCall Location → Prop
  | .setFaceFocus _ _ => False
  | _ => True

theorem decodable_iff {call : RpcCall Location} (hreads : call.Reads) {buf : List UInt8} :
    call.command.Decodable buf ↔ ∃ v, call.decode buf = .ok (some v) := by
  cases call with
  | setFaceFocus self on => exact hreads.elim
  | _ => rfl

theorem request_eq (call : RpcCall Location) : ∃ frame, call.request = .ok frame ∧
    Meet2.commandAt frame.toList = call.command.ids ∧ ¬ Meet2.IsReply frame.toList := by
  have hmac : ∀ self : Device Location, self.mac.toList.length = 6 := fun self => self.mac.length_eq
  cases call with
  | firmwareFromCamera self =>
    exact Meet2.buildRpcFrame_request ⟨by decide, by decide, by rw [hmac]; decide⟩
  | serialFromCamera self =>
    exact Meet2.buildRpcFrame_request ⟨by decide, by decide, by
      rw [List.length_append, hmac]
      decide⟩
  | learnMac => exact Meet2.buildRpcFrame_request ⟨by decide, by decide, by decide⟩
  | setFaceFocus self on =>
    exact Meet2.buildRpcFrame_request ⟨Nat.le_of_ble_eq_true rfl, Nat.le_of_ble_eq_true rfl, by
      rw [List.length_append, hmac]
      decide⟩

theorem decode_acceptsOnly (call : RpcCall Location) :
    Meet2.AcceptsOnly call.decode call.command.ids := by
  cases call with
  | firmwareFromCamera self => exact Meet2.decodeFirmwareReply_acceptsOnly
  | serialFromCamera self => exact Meet2.decodeSerialReply_acceptsOnly
  | learnMac => exact Meet2.decodeMacQueryReply_acceptsOnly
  | setFaceFocus self on =>
    intro buf v h
    cases h

theorem program_eq (call : RpcCall Location) (hreads : call.Reads)
    {frame : Bytes Meet2.rpcFrameLen} (hframe : call.request = .ok frame) :
    call.program = setThenPoll frame call.decode := by
  cases call with
  | firmwareFromCamera self => exact run_exchange Meet2.decodeFirmwareReply hframe
  | serialFromCamera self => exact run_exchange Meet2.decodeSerialReply hframe
  | learnMac => exact run_exchange Meet2.decodeMacQueryReply hframe
  | setFaceFocus self on => exact hreads.elim

theorem setFaceFocus_program_eq (self : Device Location) (on : Bool)
    {frame : Bytes Meet2.rpcFrameLen} (hframe : request (.setFaceFocus self on) = .ok frame) :
    program (.setFaceFocus self on) =
      (uvcSet Meet2.xuEntityId Meet2.xuSelRpc frame.toList).run := by
  show ExceptT.run (liftChecked (request (.setFaceFocus self on)) >>= _) = _
  rw [hframe]
  rfl

end RpcCall

/-! ## What a call reads and SETs -/

/-- Every run of a reading call: what it reads comes from its poll loop. -/
theorem RpcCall.steps_program {Location : Type} {call : RpcCall Location} (hreads : call.Reads)
    {t : List (Exchange TransportOp TransportOp.Reply)}
    {q : TransportProgram (Result call.Value)} (h : Steps call.program t q) :
    Polled call.decode (t.filterMap gotBytes) q := by
  obtain ⟨frame, hframe, -⟩ := call.request_eq
  rw [call.program_eq hreads hframe] at h
  rcases Program.steps_perform.mp h with ⟨rfl, rfl⟩ | ⟨r, u, rfl, hu⟩
  · exact .rejected (by simp) (by intro v hv; cases hv)
  · cases r with
    | ok _ =>
      show Polled call.decode (u.filterMap gotBytes) q
      exact steps_pollReply hu
    | error e =>
      obtain ⟨rfl, rfl⟩ := Program.steps_done.mp hu
      exact .rejected (by simp [gotBytes]) (by simp)

def SetsOnly (frame : List UInt8) : TransportOp → Prop
  | .uvcSet _ _ payload => payload = frame
  | _ => True

theorem RpcCall.uses_program {Location : Type} (call : RpcCall Location)
    {frame : Bytes Meet2.rpcFrameLen} (hframe : call.request = .ok frame) :
    Uses (SetsOnly frame.toList) call.program := by
  by_cases hreads : call.Reads
  · rw [call.program_eq hreads hframe]
    refine ⟨rfl, fun r => ?_⟩
    cases r with
    | error e => trivial
    | ok _ => exact uses_pollReply (fun _ => trivial) (fun _ => trivial) _ _ _ _
  · cases call with
    | setFaceFocus self on =>
      rw [setFaceFocus_program_eq self on hframe]
      exact ⟨rfl, fun _ => trivial⟩
    | _ => exact absurd trivial hreads

end Libobsbot.Rpc

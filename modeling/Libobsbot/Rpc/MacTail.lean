import Libobsbot.Rpc.Slot
import Libobsbot.Source.Handle

/-! # The MAC tail, from the handshake to the frames

`learn_mac` takes six bytes of the first device-hash reply it meets, `Device::new` keeps them, and three
calls put them into their frames, each at an offset of its own. `open_of_reads` and
`exists_open` say what the handshake learns, `request_layout` what a frame does with it. No method
takes the handle mutably, so it is the same value at every later call.
-/

namespace Libobsbot.Rpc
open Foundations
open Foundations.Program (Steps Exchange Uses)
set_option autoImplicit false

/-! ## The device hash -/

/-- A device-hash reply with `mac` in bytes 18 to 24 of its payload. -/
def CarriesMac (mac : Bytes 6) (buf : List UInt8) : Prop :=
  Meet2.IsReply buf ∧ Meet2.commandAt buf = Meet2.rpcGetDeviceHash ∧
    24 ≤ (Meet2.payloadOf buf).length ∧ ((Meet2.payloadOf buf).drop 18).take 6 = mac.toList

instance (mac : Bytes 6) (buf : List UInt8) : Decidable (CarriesMac mac buf) :=
  inferInstanceAs (Decidable (_ ∧ _ ∧ _ ∧ _))

theorem decodeMacQueryReply_carried {mac : Bytes 6} {buf : List UInt8} (h : CarriesMac mac buf) :
    Meet2.decodeMacQueryReply buf = .ok (some mac) := by
  obtain ⟨hreply, hids, hlen, hmac⟩ := h
  have hno : ¬ (((Meet2.commandAt buf).1, (Meet2.commandAt buf).2) ≠ Meet2.rpcGetDeviceHash ∨
      (Meet2.payloadOf buf).length < 24) := by
    rw [not_or]
    exact ⟨not_not.mpr hids, by omega⟩
  have hslice : slice (Meet2.payloadOf buf) 18 24 = .ok mac.toList := by
    rw [slice_of_le (by omega) hlen, List.drop_take, hmac]
  rw [Meet2.decodeMacQueryReply, Meet2.parseRpcReply_of_isReply hreply]
  apply (if_neg hno).trans
  rw [hslice]
  show Except.ok (if hsix : mac.toList.length = 6 then some (⟨mac.toList, hsix⟩ : Bytes 6) else none) = _
  rw [dif_pos mac.length_eq]

theorem decodeMacQueryReply_foreign {buf : List UInt8} (h : ∀ mac, ¬ CarriesMac mac buf) :
    Meet2.decodeMacQueryReply buf = .ok none := by
  by_cases hreply : Meet2.IsReply buf
  · rw [Meet2.decodeMacQueryReply, Meet2.parseRpcReply_of_isReply hreply]
    refine if_pos ?_
    by_contra hno
    rw [not_or, not_not] at hno
    obtain ⟨hids, hlen⟩ := hno
    have hsix : (((Meet2.payloadOf buf).drop 18).take 6).length = 6 := by
      rw [List.length_take, List.length_drop]
      omega
    exact h ⟨_, hsix⟩ ⟨hreply, hids, by omega, rfl⟩
  · rw [Meet2.decodeMacQueryReply, Meet2.parseRpcReply_of_not_isReply hreply]
    rfl

/-! ## Opening a camera -/

section Open
variable {Location : Type} {openTransport : DeviceInfo Location → Result Unit}
  {info : DeviceInfo Location}

theorem open_run (h : openTransport info = .ok ()) : (Devices.open openTransport info).run =
    learnMac.run >>= fun r => .done (r.map (Device.new info)) := by
  unfold Devices.open
  rw [h]
  show (learnMac.run >>= fun r => _) = learnMac.run >>= fun r => _
  congr 1
  funext r
  cases r with
  | error e => rfl
  | ok mac => rfl

/-- A run of `open` whose last reply carries `mac` has returned the handle with `mac`. -/
theorem open_of_reads {mac : Bytes 6} {before : List (Bytes Meet2.rpcFrameLen)}
    {hash : Bytes Meet2.rpcFrameLen} (hopened : openTransport info = .ok ())
    (hhash : CarriesMac mac hash.toList) {t : List (Exchange TransportOp TransportOp.Reply)}
    {q : TransportProgram (Result (Device Location))}
    (h : Steps (Devices.open openTransport info).run t q)
    (hreads : t.filterMap gotBytes = before.map Bytes.toList ++ [hash.toList]) :
    q = .done (.ok (Device.new info mac)) := by
  have haccept := decodeMacQueryReply_carried hhash
  have hlast : hash.toList ∈ before.map Bytes.toList ++ [hash.toList] := by simp
  have hpolled : ∀ {u} {p : TransportProgram (Result (Bytes 6))}, Steps learnMac.run u p →
      Polled Meet2.decodeMacQueryReply (u.filterMap gotBytes) p := fun hu =>
    @RpcCall.steps_program Unit .learnMac trivial _ _ hu
  rw [open_run hopened] at h
  rcases Steps.bind_cases h with ⟨p, hp, hopen, rfl⟩ | ⟨u, r, v, rfl, hu, hv⟩
  · cases hreads ▸ hpolled hp with
    | rejected all _ => exact absurd haccept (all _ hlast mac)
    | accepted _ _ m _ _ _ returned => exact absurd returned (hopen _)
  · obtain ⟨rfl, rfl⟩ := Program.steps_done.mp hv
    rw [List.append_nil] at hreads
    cases hreads ▸ hpolled hu with
    | rejected all _ => exact absurd haccept (all _ hlast mac)
    | accepted front last m split _ decoded returned =>
      cases returned
      obtain ⟨-, hsame⟩ := List.append_inj' split rfl
      obtain ⟨rfl, -⟩ := List.cons.inj hsame
      rw [haccept] at decoded
      cases decoded
      rfl

/-- Fewer foreign replies than the poll budget, then the device hash: `open` gets to read it. -/
theorem exists_open {mac : Bytes 6} {before : List (Bytes Meet2.rpcFrameLen)}
    {hash : Bytes Meet2.rpcFrameLen} (hopened : openTransport info = .ok ())
    (hbudget : before.length < Meet2.rpcReplyPollAttempts)
    (hbefore : ∀ b ∈ before, ∀ m, ¬ CarriesMac m b.toList) (hhash : CarriesMac mac hash.toList) :
    ∃ t, Steps (Devices.open openTransport info).run t (.done (.ok (Device.new info mac))) ∧
      t.filterMap gotBytes = before.map Bytes.toList ++ [hash.toList] := by
  obtain ⟨frame, hframe, -⟩ := (RpcCall.learnMac : RpcCall Unit).request_eq
  have hprogram : learnMac.run = setThenPoll frame Meet2.decodeMacQueryReply :=
    RpcCall.program_eq .learnMac trivial hframe
  obtain ⟨t, ht, hreads⟩ := exists_pollReply
    (fun b hb => decodeMacQueryReply_foreign (hbefore b hb)) (decodeMacQueryReply_carried hhash)
    (Nat.le_of_lt_succ hbudget) 0 (Bytes.zeros Meet2.rpcFrameLen)
  have hset : Steps learnMac.run (⟨.uvcSet Meet2.xuEntityId Meet2.xuSelRpc frame.toList,
      Except.ok ()⟩ :: t) (.done (.ok mac)) := by
    rw [hprogram, setThenPoll]
    exact Program.steps_perform.mpr (.inr ⟨Except.ok (), t, rfl, ht⟩)
  have hrun := hset.bind (f := fun r : Result (Bytes 6) => Program.done (r.map (Device.new info)))
    (.refl (.done (Except.ok (Device.new info mac))))
  rw [List.append_nil, ← open_run hopened] at hrun
  exact ⟨_, hrun, hreads⟩

end Open

/-! ## The frames -/

inductive MacCall where
  | firmwareFromCamera
  | serialFromCamera
  | setFaceFocus (on : Bool)

namespace MacCall
variable {Location : Type}

def on : MacCall → Device Location → RpcCall Location
  | firmwareFromCamera, self => .firmwareFromCamera self
  | serialFromCamera, self => .serialFromCamera self
  | setFaceFocus on, self => .setFaceFocus self on

def macOffset : MacCall → ℕ
  | firmwareFromCamera => 18
  | serialFromCamera => 24
  | setFaceFocus _ => 26

def suffix : MacCall → List UInt8
  | firmwareFromCamera => []
  | serialFromCamera => [0x01, 0x01]
  | setFaceFocus _ => [0x01, 0x01]

end MacCall

/-- A frame whose tail is a MAC and a fixed suffix: only the MAC's six bytes depend on it. -/
theorem frame_around_mac (seqByte subSeq cmdSet cmdId subCmdId : UInt8) (payload : List UInt8)
    (tailOffset : ℕ) (suffix : List UInt8) (hpayload : 16 + payload.length ≤ tailOffset)
    (hfits : tailOffset + 6 + suffix.length ≤ Meet2.rpcFrameLen) :
    ∃ front back, front.length = tailOffset ∧ suffix <+: back ∧ ∀ mac : Bytes 6, ∃ frame,
      Meet2.buildRpcFrame seqByte subSeq cmdSet cmdId subCmdId payload tailOffset
        (mac.toList ++ suffix) = .ok frame ∧ frame.toList = front ++ (mac.toList ++ back) := by
  refine ⟨Meet2.frameBody seqByte subSeq cmdSet cmdId subCmdId payload ++
    List.replicate (tailOffset - (16 + payload.length)) 0, suffix ++
    List.replicate (Meet2.rpcFrameLen - (tailOffset + (6 + suffix.length))) 0, ?_,
    List.prefix_append _ _, fun mac => ?_⟩
  · rw [List.length_append, Meet2.frameBody_length, List.length_replicate]
    omega
  · have htail : (mac.toList ++ suffix).length = 6 + suffix.length := by
      rw [List.length_append, mac.length_eq]
    have hadmits : Meet2.AdmitsFrame payload tailOffset (mac.toList ++ suffix) :=
      ⟨by omega, hpayload, by omega⟩
    obtain ⟨frame, hbuild, hbytes⟩ :=
      Meet2.buildRpcFrame_eq seqByte subSeq cmdSet cmdId subCmdId hadmits
    refine ⟨frame, hbuild, ?_⟩
    rw [hbytes, Meet2.frameRest, htail]
    simp only [List.append_assoc]

/-- Around the six bytes of the MAC, the request frame of a call does not depend on the handle. -/
theorem request_layout (c : MacCall) : ∃ front back, front.length = c.macOffset ∧
    c.suffix <+: back ∧ ∀ {Location : Type} (self : Device Location), ∃ frame,
      (c.on self).request = .ok frame ∧ frame.toList = front ++ (self.mac.toList ++ back) := by
  cases c with
  | firmwareFromCamera =>
    obtain ⟨front, back, hfront, hback, hframe⟩ := frame_around_mac 0x01 0x01 0x0D 0x08 0x04 []
      18 [] (by decide) (by decide)
    refine ⟨front, back, hfront, hback, fun self => ?_⟩
    obtain ⟨frame, hbuild, hbytes⟩ := hframe self.mac
    rw [List.append_nil] at hbuild
    exact ⟨frame, hbuild, hbytes⟩
  | serialFromCamera =>
    obtain ⟨front, back, hfront, hback, hframe⟩ := frame_around_mac 0x01 0x03 0x0D 0xC8 0x18 []
      24 [0x01, 0x01] (by decide) (by decide)
    exact ⟨front, back, hfront, hback, fun self => hframe self.mac⟩
  | setFaceFocus on =>
    obtain ⟨front, back, hfront, hback, hframe⟩ := frame_around_mac 0x25 0x04 0x02 0x02 0x36
      [u8FromBool on, 0x00, 0x00, 0x00] 26 [0x01, 0x01]
      (Nat.le_of_ble_eq_true rfl) (Nat.le_of_ble_eq_true rfl)
    exact ⟨front, back, hfront, hback, fun self => hframe self.mac⟩

theorem program_begins (c : MacCall) {Location : Type} (self : Device Location)
    {frame : Bytes Meet2.rpcFrameLen} (hframe : (c.on self).request = .ok frame) :
    ∃ next, (c.on self).program =
      .perform (.uvcSet Meet2.xuEntityId Meet2.xuSelRpc frame.toList) next := by
  cases c with
  | firmwareFromCamera => exact ⟨_, RpcCall.program_eq (.firmwareFromCamera self) trivial hframe⟩
  | serialFromCamera => exact ⟨_, RpcCall.program_eq (.serialFromCamera self) trivial hframe⟩
  | setFaceFocus on => exact ⟨_, RpcCall.setFaceFocus_program_eq self on hframe⟩

/-- What a call SETs carries the handle's MAC at the call's offset, the suffix behind it, and no other
byte that depends on the handle. -/
def Embeds (Location : Type) (c : MacCall) (mac : Bytes 6) (frame : List UInt8) : Prop :=
  (frame.drop c.macOffset).take 6 = mac.toList ∧ c.suffix <+: frame.drop (c.macOffset + 6) ∧
    ∀ (other : Device Location) (frame' : Bytes Meet2.rpcFrameLen),
      (c.on other).request = .ok frame' → ∀ i, ¬ (c.macOffset ≤ i ∧ i < c.macOffset + 6) →
        frame[i]? = frame'.toList[i]?

theorem embeds_request {Location : Type} (c : MacCall) (self : Device Location)
    {frame : Bytes Meet2.rpcFrameLen} (hframe : (c.on self).request = .ok frame) :
    Embeds Location c self.mac frame.toList := by
  obtain ⟨front, back, hfront, hback, hlayout⟩ := request_layout c
  have hbytes : ∀ (other : Device Location) (frame' : Bytes Meet2.rpcFrameLen),
      (c.on other).request = .ok frame' → frame'.toList = front ++ (other.mac.toList ++ back) := by
    intro other frame' h
    obtain ⟨frame'', hbuild, hlist⟩ := hlayout other
    rw [hbuild] at h
    cases h
    exact hlist
  rw [hbytes self frame hframe]
  refine ⟨?_, ?_, fun other frame' h i hi => ?_⟩
  · rw [← hfront, List.drop_left, List.take_left' self.mac.length_eq]
  · rw [← List.drop_drop, ← hfront, List.drop_left, List.drop_left' self.mac.length_eq]
    exact hback
  · rw [hbytes other frame' h]
    by_cases hlow : i < c.macOffset
    · rw [List.getElem?_append_left (by omega), List.getElem?_append_left (by omega)]
    · have hhigh : c.macOffset + 6 ≤ i := by omega
      have hself := self.mac.length_eq
      have hother := other.mac.length_eq
      rw [List.getElem?_append_right (by omega), List.getElem?_append_right (by omega),
        List.getElem?_append_right (by omega), List.getElem?_append_right (by omega), hself, hother]

/-- Fewer foreign replies than the poll budget and then a device hash with `mac`: `open` returns the
handle with `mac`, and whatever the camera replies later, every call's frame is built and carries it. -/
theorem learned_mac_embedded {Location : Type} (openTransport : DeviceInfo Location → Result Unit)
    (info : DeviceInfo Location) {mac : Bytes 6} {before : List (Bytes Meet2.rpcFrameLen)}
    {hash : Bytes Meet2.rpcFrameLen} (hopened : openTransport info = .ok ())
    (hbudget : before.length < Meet2.rpcReplyPollAttempts)
    (hbefore : ∀ b ∈ before, ∀ m, ¬ CarriesMac m b.toList) (hhash : CarriesMac mac hash.toList) :
    ∃ self : Device Location,
      (∃ t, Steps (Devices.open openTransport info).run t (.done (.ok self)) ∧
        t.filterMap gotBytes = before.map Bytes.toList ++ [hash.toList]) ∧
      (∀ t q, Steps (Devices.open openTransport info).run t q →
        t.filterMap gotBytes = before.map Bytes.toList ++ [hash.toList] → q = .done (.ok self)) ∧
      ∀ c : MacCall,
        (∃ frame next, (c.on self).request = .ok frame ∧ (c.on self).program =
          .perform (.uvcSet Meet2.xuEntityId Meet2.xuSelRpc frame.toList) next) ∧
        ∀ t q, Steps (c.on self).program t q → ∀ entity selector payload r,
          ⟨.uvcSet entity selector payload, r⟩ ∈ t → Embeds Location c mac payload := by
  refine ⟨Device.new info mac, exists_open hopened hbudget hbefore hhash,
    fun t q h hreads => open_of_reads hopened hhash h hreads, fun c => ?_⟩
  obtain ⟨frame, hframe, -⟩ := (c.on (Device.new info mac)).request_eq
  obtain ⟨next, hprogram⟩ := program_begins c (Device.new info mac) hframe
  refine ⟨⟨frame, next, hframe, hprogram⟩, fun t q h entity selector payload r hmem => ?_⟩
  have huses := (c.on (Device.new info mac)).uses_program hframe
  obtain rfl : payload = frame.toList := huses.of_steps h _ hmem
  exact embeds_request c (Device.new info mac) hframe

/-- A stale serial reply, then the device hash. -/
theorem learned_mac_embedded_stale : ∃ self : Device Unit, ∀ on : Bool, ∃ frame,
    ((MacCall.setFaceFocus on).on self).request = .ok frame ∧
      Embeds Unit (.setFaceFocus on) sampleDevice.mac frame.toList := by
  have hforeign : ∀ b ∈ [sampleReply .serial], ∀ m, ¬ CarriesMac m b.toList := by
    intro b hb m hcarries
    rw [List.mem_singleton.mp hb] at hcarries
    exact absurd hcarries.2.1 (by decide)
  have hhash : CarriesMac sampleDevice.mac (sampleReply .deviceHash).toList := by decide
  obtain ⟨self, -, -, hcalls⟩ := learned_mac_embedded (fun _ => .ok ()) sampleDevice.info rfl
    (by decide) hforeign hhash
  refine ⟨self, fun on => ?_⟩
  obtain ⟨⟨frame, next, hframe, hprogram⟩, hembeds⟩ := hcalls (.setFaceFocus on)
  have hset : Steps ((MacCall.setFaceFocus on).on self).program [⟨.uvcSet Meet2.xuEntityId
      Meet2.xuSelRpc frame.toList, Except.ok ()⟩] (next (Except.ok ())) := by
    rw [hprogram]
    exact Program.steps_perform.mpr (.inr ⟨Except.ok (), [], rfl, .refl _⟩)
  exact ⟨frame, hframe, hembeds _ _ hset _ _ _ _ List.mem_cons_self⟩

end Libobsbot.Rpc

import Libobsbot.Controls.ReportedBytes
import Libobsbot.Ffi.Outputs
import Libobsbot.Poller.StatusEvents
import Libobsbot.Rpc.Firmware
import Libobsbot.Rpc.PollLoops
import Libobsbot.Rpc.SerialText

/-! # Strings across the C interface

A string field takes the first 63 bytes of any string. The two strings that a camera sends never need the cut: a reply
has 60 bytes, its firmware text is four numbers below 256, and its serial is the graphic part of at most 44 bytes.
-/

namespace Libobsbot.Ffi.Raw
open Foundations
open Foundations.Program (Steps Exchange)
set_option autoImplicit false

/-! ## One field -/

section Field
variable {m : CMemory} {s : String}

theorem read_copied (m : CMemory) (buf : ℕ) (s : String) :
    (copyIntoBuf buf obsbotStrMax s (m.write buf (List.replicate 64 0))).read buf 64 = cField s := by
  have h := @copyIntoBuf_next m buf buf 64 [] s rfl (Nat.le_refl _)
  rw [List.nil_append, List.nil_append, Nat.sub_self, List.replicate_zero, List.append_nil] at h
  rw [h, ← cField_length s, Memory.read_write]

theorem copyIntoBuf_outside (m : CMemory) {buf a : ℕ} (s : String) (h : a < buf ∨ buf + 64 ≤ a) :
    copyIntoBuf buf obsbotStrMax s m a = m a := by
  rw [copyIntoBuf_eq, Memory.write_outside]
  rw [List.length_append, List.length_take, List.length_singleton]
  omega

/-- A short string without NULs is not cut: the field reads back as it. -/
theorem isCString_cField {before after : List UInt8} {addr a : ℕ} (haddr : a = addr + before.length)
    (hzero : ∀ b ∈ utf8Bytes s, b ≠ 0) (hlen : (utf8Bytes s).length ≤ 63) :
    (m.write addr (before ++ cField s ++ after)).IsCString a (utf8Bytes s) := by
  refine ⟨hzero, ?_⟩
  have hfield : cField s = (utf8Bytes s ++ [0]) ++ List.replicate (63 - (utf8Bytes s).length) 0 := by
    rw [cField, List.take_of_length_le hlen, Nat.min_eq_left hlen, ← List.replicate_one, List.append_assoc,
      List.replicate_append_replicate]
    congr 2
    omega
  have hsplit : before ++ cField s ++ after =
      before ++ (utf8Bytes s ++ [0]) ++ (List.replicate (63 - (utf8Bytes s).length) 0 ++ after) := by
    rw [hfield]
    simp only [List.append_assoc]
  rw [hsplit]
  exact Memory.read_part haddr (by rw [List.length_append, List.length_singleton])

end Field

/-! ## Strings in a buffer -/

section Buffer
variable {Location : Type} {handle : Option (Device Location)} {m m' : CMemory} {code : Int32}
  {t : List (Exchange TransportOp TransportOp.Reply)} {outBuf bufLen : ℕ} {f : Device Location → DeviceM String}

theorem copyStringOut_ok_iff (h : Steps (copyStringOut handle outBuf bufLen f m) t (.done (code, m'))) :
    code = obsbotOk ↔ ∃ device s, handle = some device ∧ outBuf ≠ 0 ∧
      Steps (f device).run t (.done (.ok s)) ∧ (utf8Bytes s).length + 1 ≤ bufLen := by
  obtain ⟨hargs, rfl, -⟩ | ⟨device, rfl, hout, ⟨e, he, rfl, -⟩ | ⟨s, hs, ⟨hlong, rfl, -⟩ | ⟨hfits, rfl, -⟩⟩⟩ :=
    copyStringOut_cases h
  · refine iff_of_false (by decide) ?_
    rintro ⟨device, s, hdevice, hout, -, hfits⟩
    obtain hnone | hzero | hzero := hargs
    · rw [hnone] at hdevice
      cases hdevice
    · exact hout hzero
    · omega
  · refine iff_of_false (mapError_ne_ok e) ?_
    rintro ⟨device', s, hdevice, -, hs, -⟩
    cases hdevice
    cases he.unique hs
  · refine iff_of_false (by decide) ?_
    rintro ⟨device', s', hdevice, -, hs', hfits⟩
    cases hdevice
    cases hs.unique hs'
    omega
  · exact iff_of_true rfl ⟨device, s, rfl, hout, hs, hfits⟩

theorem copyStringOut_written {device : Device Location} {s : String}
    (h : Steps (copyStringOut (some device) outBuf bufLen f m) t (.done (code, m')))
    (hs : Steps (f device).run t (.done (.ok s))) (hok : code = obsbotOk) :
    m'.read outBuf ((utf8Bytes s).length + 1) = utf8Bytes s ++ [0] ∧
      ∀ a, (a < outBuf ∨ outBuf + ((utf8Bytes s).length + 1) ≤ a) → m' a = m a := by
  have hwritten : m' = m.write outBuf (utf8Bytes s ++ [0]) := by
    obtain ⟨hfailed, -⟩ | ⟨-, s', ⟨device', hdevice, -, hs'⟩, hm⟩ := steps_copyStringOut h
    · exact absurd hok hfailed
    · cases hdevice
      cases hs.unique hs'
      exact hm
  have hlen : (utf8Bytes s ++ [0]).length = (utf8Bytes s).length + 1 := List.length_append
  subst hwritten
  rw [← hlen]
  exact ⟨Memory.read_write, fun a ha => Memory.write_outside ha⟩

end Buffer

/-! ## What a camera sends -/

section Camera
variable {Location : Type} {t : List (Exchange TransportOp TransportOp.Reply)}

theorem exists_buffer {call : Rpc.RpcCall Location} (hreads : call.Reads) {v : call.Value}
    (h : Steps call.program t (.done (.ok v))) :
    ∃ buf : Bytes Meet2.rpcFrameLen, call.decode buf.toList = .ok (some v) := by
  obtain ⟨frame, hframe, -⟩ := call.request_eq
  rw [call.program_eq hreads hframe] at h
  obtain ⟨e, -, hfailed⟩ | ⟨gets, -, houtcome⟩ := PollLoops.steps_setThenPoll.mp h
  · cases hfailed
  · cases houtcome with
    | decoded before within accepted => exact ⟨_, accepted⟩

/-- Text that a field takes whole and that no NUL cuts short. -/
def Short (s : String) : Prop := (∀ b ∈ utf8Bytes s, b ≠ 0) ∧ (utf8Bytes s).length ≤ 63

theorem mem_version {v : FirmwareVersion} {c : Char} (h : c ∈ v.toString.toList) : 46 ≤ c.toNat ∧ c.toNat ≤ 57 := by
  have hdigit : ∀ n : ℕ, c ∈ Nat.toDigits 10 n → 46 ≤ c.toNat ∧ c.toNat ≤ 57 := by
    intro n hn
    obtain ⟨hlow, hhigh⟩ := Char.isDigit_iff_toNat.mp (Nat.isDigit_of_mem_toDigits (by norm_num) (by norm_num) hn)
    exact ⟨Nat.le_trans (by decide) hlow, hhigh⟩
  have hdot : c = '.' → 46 ≤ c.toNat ∧ c.toNat ≤ 57 := by
    rintro rfl
    decide
  rw [FirmwareVersion.toString_toList] at h
  simp only [List.intercalate, List.intersperse, List.flatten_cons, List.flatten_nil, List.append_nil,
    List.mem_append, List.mem_singleton] at h
  obtain h | h | h | h | h | h | h := h
  · exact hdigit _ h
  · exact hdot h
  · exact hdigit _ h
  · exact hdot h
  · exact hdigit _ h
  · exact hdot h
  · exact hdigit _ h

theorem length_version (v : FirmwareVersion) : v.toString.toList.length ≤ 15 := by
  have hthree : ∀ b : UInt8, (Nat.toDigits 10 b.toNat).length ≤ 3 := by
    intro b
    have hb := b.toNat_lt
    rw [Nat.length_toDigits_le_iff (by norm_num) (by norm_num)]
    omega
  have hmajor := hthree v.major
  have hminor := hthree v.minor
  have hpatch := hthree v.patch
  have hbuild := hthree v.build
  rw [FirmwareVersion.toString_toList]
  simp only [List.intercalate, List.intersperse, List.flatten_cons, List.flatten_nil, List.append_nil,
    List.length_append, List.length_singleton]
  omega

theorem short_version (v : FirmwareVersion) : Short v.toString := by
  have hbytes : utf8Bytes v.toString = v.toString.toList.map Char.toUInt8 := by
    conv_lhs => rw [← String.ofList_toList (s := v.toString)]
    exact utf8Bytes_ofList fun c hc => Nat.lt_of_le_of_lt (mem_version hc).2 (by norm_num)
  have hlen := length_version v
  rw [Short, hbytes, List.length_map]
  refine ⟨fun b hb => ?_, by omega⟩
  obtain ⟨c, hc, rfl⟩ := List.mem_map.mp hb
  obtain ⟨hlow, hhigh⟩ := mem_version hc
  have hnat : c.toUInt8.toNat = c.toNat := Nat.mod_eq_of_lt (show c.toNat < 256 by omega)
  intro hzero
  rw [hzero] at hnat
  change 0 = c.toNat at hnat
  omega

theorem short_firmware {self : Device Location} {s : String}
    (h : Steps self.firmwareFromCamera.run t (.done (.ok s))) : Short s := by
  obtain ⟨buf, hbuf⟩ := decoded_of_firmwareFromCamera h
  rw [← (Meet2.parse_decoded hbuf).2.2]
  exact short_version _

theorem short_serial {self : Device Location} {s : String}
    (h : Steps self.serialFromCamera.run t (.done (.ok s))) : Short s := by
  obtain ⟨buf, hbuf⟩ := @exists_buffer _ t (.serialFromCamera self) trivial s h
  have hdecode : Meet2.decodeSerialReply buf.toList = .ok (some s) := hbuf
  obtain ⟨s', hs, hbytes, -, -, hgraphic⟩ | ⟨hnone, -⟩ := Meet2.decodeSerialReply_text buf.toList
  · rw [hs] at hdecode
    cases hdecode
    refine ⟨hbytes ▸ hgraphic.ne_zero, ?_⟩
    have hpayload : (Meet2.payloadOf buf.toList).length ≤ 44 := by
      have hlen := buf.length_eq
      rw [Meet2.payloadOf, List.length_take, List.length_drop, hlen]
      exact (Nat.min_le_right _ _).trans (by decide)
    rw [hbytes]
    exact ((List.takeWhile_sublist _).length_le.trans hpayload).trans (by norm_num)
  · rw [hnone] at hdecode
    cases hdecode

end Camera

/-! ## The structures -/

section Structures
variable {Location : Type} {m m' : CMemory}

def serialOf : Event → String
  | .deviceAdded serial => serial
  | .deviceRemoved serial => serial
  | .status serial _ => serial

/-- The snapshot whose strings the status part holds. -/
def snapshotOf : Event → Status
  | .status _ snapshot => snapshot
  | _ => Status.default

theorem cField_empty : cField "" = List.replicate 64 0 := by decide +kernel

theorem statusBytes_fields (snap : Status) : ∃ rest,
    statusBytes snap = cField snap.firmware ++ (cField snap.serial ++ rest) :=
  ⟨i32ToLe snap.brightness ++ (i32ToLe snap.contrast ++ (i32ToLe snap.saturation ++ (f32ToLe snap.zoom ++
    (f32ToLe snap.pan ++ f32ToLe snap.tilt)))), by simp only [statusBytes, List.append_assoc]⟩

theorem eventBytes_fields (event : Event) : ∃ kind rest, kind.length = 4 ∧ eventBytes event =
    kind ++ cField (serialOf event) ++
      (cField (snapshotOf event).firmware ++ (cField (snapshotOf event).serial ++ rest)) := by
  have hzeros : List.replicate 152 (0 : UInt8) = cField "" ++ (cField "" ++ List.replicate 24 0) := by
    rw [cField_empty, List.replicate_append_replicate, List.replicate_append_replicate]
  cases event with
  | deviceAdded serial => exact ⟨_, _, i32ToLe_length _, by rw [eventBytes, hzeros]; rfl⟩
  | deviceRemoved serial => exact ⟨_, _, i32ToLe_length _, by rw [eventBytes, hzeros]; rfl⟩
  | status serial snapshot =>
    obtain ⟨rest, hrest⟩ := statusBytes_fields snapshot
    exact ⟨_, rest, i32ToLe_length _, by rw [eventBytes, hrest]; rfl⟩

theorem event_fields {out : ℕ} {event : Event} (h : m' = m.write out (eventBytes event)) :
    m'.read (out + 4) 64 = cField (serialOf event) ∧
    m'.read (out + 68) 64 = cField (snapshotOf event).firmware ∧
    m'.read (out + 132) 64 = cField (snapshotOf event).serial ∧
    ∀ a, (a < out ∨ out + 220 ≤ a) → m' a = m a := by
  obtain ⟨kind, rest, hkind, hbytes⟩ := eventBytes_fields event
  subst h
  refine ⟨?_, ?_, ?_, fun a ha => Memory.write_outside (by rwa [eventBytes_length])⟩
  · rw [hbytes]
    exact Memory.read_part (by rw [hkind]) (cField_length _)
  · rw [hbytes, ← List.append_assoc]
    exact Memory.read_part (by simp [hkind]) (cField_length _)
  · rw [hbytes, ← List.append_assoc, ← List.append_assoc]
    exact Memory.read_part (by simp [hkind]) (cField_length _)

theorem status_fields {out : ℕ} {snap : Status} (h : m' = m.write out (statusBytes snap)) :
    m'.read out 64 = cField snap.firmware ∧ m'.read (out + 64) 64 = cField snap.serial ∧
    ∀ a, (a < out ∨ out + 152 ≤ a) → m' a = m a := by
  obtain ⟨rest, hbytes⟩ := statusBytes_fields snap
  subst h
  refine ⟨?_, ?_, fun a ha => Memory.write_outside (by rwa [statusBytes_length])⟩
  · rw [hbytes, ← List.nil_append (cField snap.firmware)]
    exact Memory.read_part rfl (cField_length _)
  · rw [hbytes, ← List.append_assoc]
    exact Memory.read_part (by rw [cField_length]) (cField_length _)

theorem steps_status_strings {self : Device Location} {t : List (Exchange TransportOp TransportOp.Reply)}
    {snap : Status} (h : Steps self.status.run t (.done (.ok snap))) : ∃ firmware serial t₁ t₂ t₃,
      t = t₁ ++ (t₂ ++ t₃) ∧ Steps self.firmwareFromCamera.run t₁ (.done firmware) ∧
      Steps self.serialFromCamera.run t₂ (.done serial) ∧
      (∀ s, firmware = .ok s → snap.firmware = s) ∧ ∀ s, serial = .ok s → snap.serial = s := by
  have hoption : ∀ {read : DeviceM String} {u : List (Exchange TransportOp TransportOp.Reply)} {text : String},
      Steps (unwrapOr read "") u (.done text) → ∃ r, Steps read.run u (.done r) ∧ ∀ s, r = .ok s → text = s := by
    intro read u text hu
    obtain hok | ⟨-, e, herror⟩ := ShortReads.steps_unwrapOr hu
    · exact ⟨_, hok, fun s hs => by cases hs; rfl⟩
    · exact ⟨_, herror, fun s hs => by cases hs⟩
  rw [Poller.status_run] at h
  obtain ⟨t₁, text, _, rfl, h₁, h⟩ := h.bind_done
  obtain ⟨t₂, text', _, rfl, h₂, h⟩ := h.bind_done
  obtain ⟨t₃, sample, _, rfl, -, h⟩ := h.bind_done
  cases (Program.steps_done.mp h).2
  obtain ⟨firmware, hfirmware, htext⟩ := hoption h₁
  obtain ⟨serial, hserial, htext'⟩ := hoption h₂
  exact ⟨firmware, serial, t₁, t₂, _, rfl, hfirmware, hserial, htext, htext'⟩

/-- A string of a status that fits its field without the cut is the C string at the field. -/
theorem status_cStrings {out : ℕ} {snap : Status} (h : m' = m.write out (statusBytes snap)) :
    (Short snap.firmware → m'.IsCString out (utf8Bytes snap.firmware)) ∧
    (Short snap.serial → m'.IsCString (out + 64) (utf8Bytes snap.serial)) := by
  obtain ⟨rest, hbytes⟩ := statusBytes_fields snap
  subst h
  rw [hbytes]
  constructor
  · intro hshort
    rw [← List.nil_append (cField snap.firmware)]
    exact isCString_cField rfl hshort.1 hshort.2
  · intro hshort
    rw [← List.append_assoc]
    exact isCString_cField (by rw [cField_length]) hshort.1 hshort.2

end Structures

/-! ## The calls -/

/-- The two calls that read one string. -/
inductive Text where
  | firmware
  | serial

namespace Text
variable {Location : Type}

def call (handle : Option (Device Location)) (outBuf bufLen : ℕ) (m : CMemory) :
    Text → TransportProgram (Int32 × CMemory)
  | .firmware => obsbotDeviceFirmware handle outBuf bufLen m
  | .serial => obsbotDeviceSerial handle outBuf bufLen m

def read (device : Device Location) : Text → DeviceM String
  | .firmware => device.firmwareFromCamera
  | .serial => device.serialFromCamera

theorem call_eq (handle : Option (Device Location)) (outBuf bufLen : ℕ) (m : CMemory) (text : Text) :
    text.call handle outBuf bufLen m = copyStringOut handle outBuf bufLen (fun device => text.read device) m := by
  cases text <;> rfl

end Text

/-- The string fields that a status and an event fill hold the first 63 bytes of their strings and zeros, and only the
structure is written to; it is filled whenever there is an event to receive or a status to read. A string call succeeds
iff its read does and the buffer holds the string and a NUL: it makes every read come to what is written or to the code
of the failure. The strings of a camera's status arrive whole. -/
theorem c_strings_marshalled {Location : Type} (m m' : CMemory) (code : Int32) :
    (∀ (buf : ℕ) (s : String),
      (copyIntoBuf buf obsbotStrMax s (m.write buf (List.replicate 64 0))).read buf 64 = cField s ∧
      ∀ a, (a < buf ∨ buf + 64 ≤ a) → copyIntoBuf buf obsbotStrMax s m a = m a) ∧
    (∀ (outEvent : ℕ) (timeoutMs : Int32), (∀ (handleNull : Bool) (t : List (Exchange ReceiveOp ReceiveOp.Reply)),
        Steps (obsbotDevicesPollEvent handleNull outEvent timeoutMs m) t (.done (code, m')) → code = obsbotOk →
        ∃ event, t = [⟨receiveOp timeoutMs, some event⟩] ∧
          m'.read (outEvent + 4) 64 = cField (serialOf event) ∧
          m'.read (outEvent + 68) 64 = cField (snapshotOf event).firmware ∧
          m'.read (outEvent + 132) 64 = cField (snapshotOf event).serial ∧
          ∀ a, (a < outEvent ∨ outEvent + sizeOfEvent ≤ a) → m' a = m a) ∧
      (outEvent ≠ 0 → ∀ event, ∃ filled, Steps (obsbotDevicesPollEvent false outEvent timeoutMs m)
        [⟨receiveOp timeoutMs, some event⟩] (.done (obsbotOk, filled)))) ∧
    (∀ (out : ℕ) (t : List (Exchange TransportOp TransportOp.Reply)), (∀ handle : Option (Device Location),
        Steps (obsbotDeviceStatus handle out m) t (.done (code, m')) → code = obsbotOk →
        ∃ device snap, handle = some device ∧ Steps device.status.run t (.done (.ok snap)) ∧
          m'.read out 64 = cField snap.firmware ∧ m'.read (out + 64) 64 = cField snap.serial ∧
          (∀ a, (a < out ∨ out + sizeOfStatus ≤ a) → m' a = m a) ∧
          ∃ firmware serial t₁ t₂ t₃, t = t₁ ++ (t₂ ++ t₃) ∧
            Steps device.firmwareFromCamera.run t₁ (.done firmware) ∧
            Steps device.serialFromCamera.run t₂ (.done serial) ∧
            (∀ s, firmware = .ok s → (utf8Bytes s).length ≤ 63 ∧ m'.IsCString out (utf8Bytes s)) ∧
            ∀ s, serial = .ok s → (utf8Bytes s).length ≤ 63 ∧ m'.IsCString (out + 64) (utf8Bytes s)) ∧
      (out ≠ 0 → ∀ (device : Device Location) (snap : Status), Steps device.status.run t (.done (.ok snap)) →
        ∃ filled, Steps (obsbotDeviceStatus (some device) out m) t (.done (obsbotOk, filled)))) ∧
    ∀ (text : Text) (outBuf bufLen : ℕ) (t : List (Exchange TransportOp TransportOp.Reply)),
      (∀ handle : Option (Device Location), Steps (text.call handle outBuf bufLen m) t (.done (code, m')) →
        (code = obsbotOk ↔ ∃ device s, handle = some device ∧ outBuf ≠ 0 ∧
          Steps (text.read device).run t (.done (.ok s)) ∧ (utf8Bytes s).length + 1 ≤ bufLen) ∧
        ∀ device s, handle = some device → Steps (text.read device).run t (.done (.ok s)) → code = obsbotOk →
          m'.read outBuf ((utf8Bytes s).length + 1) = utf8Bytes s ++ [0] ∧
          ∀ a, (a < outBuf ∨ outBuf + ((utf8Bytes s).length + 1) ≤ a) → m' a = m a) ∧
      (outBuf ≠ 0 → 1 ≤ bufLen → ∀ device : Device Location,
        (∀ s, Steps (text.read device).run t (.done (.ok s)) →
          ((utf8Bytes s).length + 1 ≤ bufLen → Steps (text.call (some device) outBuf bufLen m) t
            (.done (obsbotOk, m.write outBuf (utf8Bytes s ++ [0])))) ∧
          (bufLen < (utf8Bytes s).length + 1 → Steps (text.call (some device) outBuf bufLen m) t
            (.done (obsbotErrOutOfRange, m)))) ∧
        ∀ e, Steps (text.read device).run t (.done (.error e)) →
          Steps (text.call (some device) outBuf bufLen m) t (.done (mapError e, m))) := by
  refine ⟨fun buf s => ⟨read_copied m buf s, fun a ha => copyIntoBuf_outside m s ha⟩,
    fun outEvent timeoutMs => ⟨fun handleNull t h hok => ?_, fun hout event => ?_⟩,
    fun out t => ⟨fun handle h hok => ?_, fun hout device snap h => ?_⟩,
    fun text outBuf bufLen t => ⟨fun handle h => ?_, fun hout hlen device => ?_⟩⟩
  · obtain ⟨hfailed, -⟩ | ⟨-, event, ⟨-, -, ht⟩, hm⟩ := steps_obsbotDevicesPollEvent h
    · exact absurd hok hfailed
    · exact ⟨event, ht, event_fields hm⟩
  · exact ⟨_, obsbotDevicesPollEvent_received hout timeoutMs event⟩
  · obtain ⟨hfailed, -⟩ | ⟨-, snap, ⟨device, hdevice, -, hread⟩, hm⟩ := steps_obsbotDeviceStatus h
    · exact absurd hok hfailed
    obtain ⟨hfirmware, hserial, houtside⟩ := status_fields hm
    obtain ⟨hfirmwareString, hserialString⟩ := status_cStrings hm
    obtain ⟨firmware, serial, t₁, t₂, t₃, ht, h₁, h₂, hfirmwareIs, hserialIs⟩ := steps_status_strings hread
    refine ⟨device, snap, hdevice, hread, hfirmware, hserial, houtside, firmware, serial, t₁, t₂, t₃, ht, h₁, h₂,
      fun s hs => ?_, fun s hs => ?_⟩
    · subst hs
      have hshort := short_firmware h₁
      have hsame := hfirmwareIs s rfl
      rw [hsame] at hfirmwareString
      exact ⟨hshort.2, hfirmwareString hshort⟩
    · subst hs
      have hshort := short_serial h₂
      have hsame := hserialIs s rfl
      rw [hsame] at hserialString
      exact ⟨hshort.2, hserialString hshort⟩
  · exact ⟨_, obsbotDeviceStatus_read hout h⟩
  · rw [Text.call_eq] at h
    refine ⟨copyStringOut_ok_iff h, fun device s hdevice hs hok => ?_⟩
    subst hdevice
    exact copyStringOut_written h hs hok
  · rw [Text.call_eq]
    exact @copyStringOut_read Location m t outBuf bufLen (fun device => text.read device) device hout hlen

/-- A serial of two bytes in an event, the rest of its field zeros; a firmware of seven bytes in a buffer of eight, and
refused for a buffer of seven. -/
theorem c_strings_marshalled_added : (∃ m',
    Steps (obsbotDevicesPollEvent false 16 0 lentMemory) [⟨.tryRecv, some (.deviceAdded "A1")⟩]
      (.done (obsbotOk, m')) ∧ m'.read 20 64 = 0x41 :: 0x31 :: List.replicate 62 0) ∧
    ∃ t, Steps (obsbotDeviceFirmware (some Rpc.sampleDevice) 16 8 lentMemory) t
        (.done (obsbotOk, lentMemory.write 16 [0x34, 0x2E, 0x34, 0x2E, 0x36, 0x2E, 0x31, 0])) ∧
      Steps (obsbotDeviceFirmware (some Rpc.sampleDevice) 16 7 lentMemory) t
        (.done (obsbotErrOutOfRange, lentMemory)) := by
  refine ⟨?_, ?_⟩
  · have hrun := @obsbotDevicesPollEvent_received lentMemory 16 (by decide) 0 (.deviceAdded "A1")
    obtain ⟨event, ht, hserial, -⟩ :=
      ((@c_strings_marshalled Unit lentMemory _ obsbotOk).2.1 16 0).1 false _ hrun rfl
    cases ht
    exact ⟨_, hrun, hserial.trans (by decide +kernel)⟩
  · have hread : (Program.run (fun op (_ : Unit) => (Poller.answersFirmware op, ()))
        (Rpc.sampleDevice.firmwareFromCamera).run ()).1 = .ok (.ok "4.4.6.1") := rfl
    have hbytes : utf8Bytes "4.4.6.1" = [0x34, 0x2E, 0x34, 0x2E, 0x36, 0x2E, 0x31] := by decide +kernel
    obtain ⟨t, ht, -⟩ := Program.exists_steps hread
    have hfits := ((((@c_strings_marshalled Unit lentMemory lentMemory obsbotOk).2.2.2 .firmware 16 8 t).2
      (by decide) (by decide) Rpc.sampleDevice).1 _ ht).1
    have hlong := ((((@c_strings_marshalled Unit lentMemory lentMemory obsbotOk).2.2.2 .firmware 16 7 t).2
      (by decide) (by decide) Rpc.sampleDevice).1 _ ht).2
    rw [hbytes] at hfits hlong
    exact ⟨t, hfits (by decide), hlong (by decide)⟩

end Libobsbot.Ffi.Raw

import Libobsbot.Source.Device

/-! # The mode-register command table

Eighteen setters share selector 0x06: a control id, a size and the value's bytes. `modeRegisterPayload_eq`
says what the 60-byte frame is; read back by its own size field it gives the id and the value, so frames
are equal only for equal ids and values. No two setters share an id and each setter's encoding is
one-to-one, so a SET payload names its setter and its argument.
-/

namespace Libobsbot.Xu
open Foundations Meet2
set_option autoImplicit false

/-! ## The payload -/

/-- Control id, size, value and zeros. -/
theorem modeRegisterPayload_eq (controlId : UInt8) {value : List UInt8} (h : value.length ≤ 58) :
    ∃ frame, modeRegisterPayload controlId value = .ok frame ∧ frame.toList =
      [controlId, UInt8.ofNat value.length] ++ (value ++ List.replicate (58 - value.length) 0) := by
  obtain ⟨frame, hcopy, hbytes⟩ := (((Bytes.zeros modeRegisterPayloadLen).set 0 controlId).set 1
    (UInt8.ofNat value.length)).copyFromSlice_ok 2 (2 + value.length) value rfl
      (by unfold modeRegisterPayloadLen; omega)
  refine ⟨frame, ?_, ?_⟩
  · have hsize : u8TryFrom value.length "mode-register value must fit in 255 bytes" =
        .ok (UInt8.ofNat value.length) := if_pos (by omega)
    rw [modeRegisterPayload, hsize]
    exact hcopy
  · have hheader : (((Bytes.zeros modeRegisterPayloadLen).set 0 controlId).set 1
        (UInt8.ofNat value.length)).toList =
        [controlId, UInt8.ofNat value.length] ++ List.replicate 58 0 := rfl
    rw [hbytes, hheader, splice_append_right _ _ (by simp), splice_replicate _ _ _ (by simpa)]
    simp

theorem modeRegisterPayload_panics (controlId : UInt8) {value : List UInt8}
    (h : 58 < value.length) : ∃ message, modeRegisterPayload controlId value = .error message := by
  unfold modeRegisterPayload
  by_cases hsize : value.length < 256
  · rw [u8TryFrom, if_pos hsize]
    refine ⟨s!"range end index {2 + value.length} out of range for slice of length {60}", ?_⟩
    show Bytes.copyFromSlice _ _ _ _ = _
    rw [Bytes.copyFromSlice, if_neg (by omega), if_pos (by unfold modeRegisterPayloadLen; omega)]
  · rw [u8TryFrom, if_neg hsize]
    exact ⟨_, rfl⟩

/-- Byte 0, and as many bytes from byte 2 on as byte 1 says. -/
def readModeRegister (frame : List UInt8) : UInt8 × List UInt8 :=
  (frame.getD 0 0, (frame.drop 2).take (frame.getD 1 0).toNat)

theorem readModeRegister_payload {controlId : UInt8} {value : List UInt8}
    {frame : Bytes modeRegisterPayloadLen} (h : modeRegisterPayload controlId value = .ok frame) :
    readModeRegister frame.toList = (controlId, value) := by
  have hlength : value.length ≤ 58 := by
    by_contra hlong
    obtain ⟨message, hpanic⟩ := modeRegisterPayload_panics controlId (Nat.lt_of_not_le hlong)
    rw [hpanic] at h
    cases h
  obtain ⟨frame', hframe, hbytes⟩ := modeRegisterPayload_eq controlId hlength
  rw [hframe] at h
  cases h
  have hsize : (UInt8.ofNat value.length).toNat = value.length := by
    rw [UInt8.toNat_ofNat']
    omega
  rw [hbytes]
  show (controlId, List.take (UInt8.ofNat value.length).toNat (value ++ _)) = _
  rw [hsize, List.take_left]

/-! ## The setters -/

inductive ModeSetter where
  | wdr | fov | faceAe | mediaMode | autoFraming | aiMode | audioAgc | flipHorizontal | portrait
  | led | bgEnable | bgMode | bgColor | maskLevel | disableSleepWithoutStream | suspendTime
  | microphoneDuringSleep | buttonMode
  deriving DecidableEq

namespace ModeSetter

abbrev Arg : ModeSetter → Type
  | wdr => WdrMode
  | fov => FovType
  | mediaMode => MediaMode
  | autoFraming => AutoFramingMode
  | aiMode => AiMode
  | bgMode => MediaBgMode
  | bgColor => MediaBgColor
  | maskLevel => UInt8
  | suspendTime => UInt16
  | buttonMode => UInt8
  | faceAe | audioAgc | flipHorizontal | portrait | led | bgEnable | disableSleepWithoutStream
  | microphoneDuringSleep => Bool

def call : (setter : ModeSetter) → setter.Arg → DeviceM Unit
  | wdr => Device.setWdr
  | fov => Device.setFov
  | faceAe => Device.setFaceAe
  | mediaMode => Device.setMediaMode
  | autoFraming => Device.setAutoFraming
  | aiMode => Device.setAiMode
  | audioAgc => Device.setAudioAgc
  | flipHorizontal => Device.setFlipHorizontal
  | portrait => Device.setPortrait
  | led => Device.setLed
  | bgEnable => Device.setBgEnable
  | bgMode => Device.setBgMode
  | bgColor => Device.setBgColor
  | maskLevel => Device.setMaskLevel
  | disableSleepWithoutStream => Device.setDisableSleepWithoutStream
  | suspendTime => Device.setSuspendTime
  | microphoneDuringSleep => Device.setMicrophoneDuringSleep
  | buttonMode => Device.setButtonMode

def controlId : ModeSetter → UInt8
  | wdr => modeWdr
  | fov => modeFov
  | faceAe => modeFaceAe
  | mediaMode => modeMediaMode
  | autoFraming => modeAutoFraming
  | aiMode => modeAiMode
  | audioAgc => modeAudioAgc
  | flipHorizontal => modeFlipHorizontal
  | portrait => modeVertical
  | led => modeLed
  | bgEnable => modeBgEnable
  | bgMode => modeBgMode
  | bgColor => modeBgColor
  | maskLevel => modeMaskLevel
  | disableSleepWithoutStream => modeDisableSleepWithoutStream
  | suspendTime => modeSuspendTime
  | microphoneDuringSleep => modeMicDuringSleep
  | buttonMode => modeButtonMode

def valueBytes : (setter : ModeSetter) → setter.Arg → List UInt8
  | wdr, mode => [encodeWdr mode]
  | fov, field => [encodeFov field]
  | mediaMode, mode => [encodeMediaMode mode]
  | autoFraming, mode => encodeAutoFraming mode
  | aiMode, mode => u16ToLe (encodeAiMode mode)
  | bgMode, mode => [Device.bgModeByte mode]
  | bgColor, color => [(Device.bgColorByte color).toUInt8]
  | maskLevel, level => [level]
  | suspendTime, minutes => u16ToLe minutes
  | buttonMode, mode => [mode]
  | faceAe, on => [u8FromBool on]
  | audioAgc, on => [u8FromBool on]
  | flipHorizontal, on => [u8FromBool on]
  | portrait, on => [u8FromBool on]
  | led, on => [u8FromBool on]
  | bgEnable, on => [u8FromBool on]
  | disableSleepWithoutStream, on => [u8FromBool on]
  | microphoneDuringSleep, on => [u8FromBool on]

/-- The arguments a setter does not answer with `OutOfRange`. -/
def Accepts : (setter : ModeSetter) → setter.Arg → Prop
  | maskLevel, level => level ≤ 100
  | _, _ => True

/-- Every setter, in the order of `Device`. -/
def table : List ModeSetter :=
  [wdr, fov, faceAe, mediaMode, autoFraming, aiMode, audioAgc, flipHorizontal, portrait, led, bgEnable,
    bgMode, bgColor, maskLevel, disableSleepWithoutStream, suspendTime, microphoneDuringSleep, buttonMode]

theorem mem_table (setter : ModeSetter) : setter ∈ table := by
  cases setter <;> decide

theorem controlId_injective : Function.Injective controlId := by
  have hnodup : (table.map controlId).Nodup := by decide
  intro a b h
  exact List.inj_on_of_nodup_map hnodup (mem_table a) (mem_table b) h

theorem u8FromBool_injective : Function.Injective u8FromBool := by
  intro a b h
  cases a <;> cases b <;> first | rfl | cases h

theorem u16ToLe_injective : Function.Injective u16ToLe := by
  intro a b h
  have hnat : a.toNat % 256 ^ 2 = b.toNat % 256 ^ 2 := by
    rw [← fromLe_toLe, ← fromLe_toLe]
    exact congrArg fromLe h
  have ha := a.toNat_lt
  have hb := b.toNat_lt
  apply UInt16.toNat_inj.mp
  omega

theorem valueBytes_injective (setter : ModeSetter) : Function.Injective setter.valueBytes := by
  intro a b h
  cases setter with
  | maskLevel | buttonMode => exact List.head_eq_of_cons_eq h
  | suspendTime => exact u16ToLe_injective h
  | faceAe | audioAgc | flipHorizontal | portrait | led | bgEnable | disableSleepWithoutStream
  | microphoneDuringSleep => exact u8FromBool_injective (List.head_eq_of_cons_eq h)
  | wdr | fov | mediaMode | autoFraming | aiMode | bgMode | bgColor =>
    cases a <;> cases b <;> first | rfl | exact absurd h (by decide)

theorem valueBytes_length (setter : ModeSetter) (arg : setter.Arg) :
    (setter.valueBytes arg).length ≤ 58 := by
  cases setter with
  | autoFraming => cases arg <;> decide
  | _ => exact Nat.le_of_ble_eq_true rfl

theorem call_maskLevel {level : UInt8} (h : level ≤ 100) :
    Device.setMaskLevel level = Device.setModeRegister modeMaskLevel [level] := by
  have hle : ¬ 100 < level := UInt8.not_lt.mpr h
  rewrite [Device.setMaskLevel, if_neg hle]
  rfl

theorem call_eq (setter : ModeSetter) {arg : setter.Arg} (h : setter.Accepts arg) :
    setter.call arg = Device.setModeRegister setter.controlId (setter.valueBytes arg) := by
  cases setter with
  | maskLevel => exact call_maskLevel h
  | _ => rfl

theorem call_refused (setter : ModeSetter) {arg : setter.Arg} (h : ¬ setter.Accepts arg) :
    setter.call arg = throw .outOfRange := by
  cases setter with
  | maskLevel =>
    have hlt : 100 < arg := UInt8.not_le.mp h
    show Device.setMaskLevel arg = _
    rewrite [Device.setMaskLevel, if_pos hlt]
    rfl
  | _ => exact absurd trivial h

end ModeSetter

/-! ## Calls and their SETs -/

structure ModeCall where
  setter : ModeSetter
  arg : setter.Arg

namespace ModeCall

def Accepted (c : ModeCall) : Prop := c.setter.Accepts c.arg

/-- The call is one SET of `payload` to the mode register. -/
def Sets (c : ModeCall) (payload : List UInt8) : Prop :=
  (c.setter.call c.arg).run = (uvcSet xuEntityId xuSelModeRegister payload).run

theorem setModeRegister_eq {controlId : UInt8} {value : List UInt8}
    {frame : Bytes modeRegisterPayloadLen} (h : modeRegisterPayload controlId value = .ok frame) :
    Device.setModeRegister controlId value = uvcSet xuEntityId xuSelModeRegister frame.toList := by
  rw [Device.setModeRegister, h]
  rfl

theorem sets_payload {c : ModeCall} (h : c.Accepted) :
    ∃ frame, modeRegisterPayload c.setter.controlId (c.setter.valueBytes c.arg) = .ok frame ∧
      c.Sets frame.toList := by
  obtain ⟨frame, hframe, -⟩ :=
    modeRegisterPayload_eq c.setter.controlId (c.setter.valueBytes_length c.arg)
  refine ⟨frame, hframe, ?_⟩
  rw [Sets, c.setter.call_eq h, setModeRegister_eq hframe]

theorem read_of_sets {c : ModeCall} {payload : List UInt8} (h : c.Sets payload) :
    readModeRegister payload = (c.setter.controlId, c.setter.valueBytes c.arg) := by
  by_cases haccepted : c.Accepted
  · obtain ⟨frame, hframe, hsets⟩ := sets_payload haccepted
    have hsame : (uvcSet xuEntityId xuSelModeRegister frame.toList).run =
        (uvcSet xuEntityId xuSelModeRegister payload).run := hsets.symm.trans h
    injection hsame with hop
    injection hop with _ _ hpayload
    rw [← hpayload]
    exact readModeRegister_payload hframe
  · rw [Sets, c.setter.call_refused haccepted] at h
    cases h

theorem eq_of_sets {c c' : ModeCall} {payload : List UInt8} (h : c.Sets payload)
    (h' : c'.Sets payload) : c = c' := by
  obtain ⟨setter, arg⟩ := c
  obtain ⟨setter', arg'⟩ := c'
  have hread := (read_of_sets h).symm.trans (read_of_sets h')
  obtain ⟨hid, hvalue⟩ := Prod.mk.inj hread
  obtain rfl : setter = setter' := ModeSetter.controlId_injective hid
  obtain rfl : arg = arg' := setter.valueBytes_injective hvalue
  rfl

end ModeCall

/-- Frames of at most 58 value bytes read back exactly, longer values panic, and a SET payload has one
setter and one argument. -/
theorem mode_register_decodable :
    (∀ (controlId : UInt8) (value : List UInt8), value.length ≤ 58 → ∃ frame,
      modeRegisterPayload controlId value = .ok frame ∧
      readModeRegister frame.toList = (controlId, value) ∧
      ∀ i, 2 + value.length ≤ i → i < modeRegisterPayloadLen → frame.toList[i]? = some 0) ∧
    (∀ (controlId : UInt8) (value : List UInt8), 58 < value.length →
      ∃ message, modeRegisterPayload controlId value = .error message) ∧
    (∀ c : ModeCall, c.Accepted → ∃ payload, c.Sets payload) ∧
    ∀ (c c' : ModeCall) (payload : List UInt8), c.Sets payload → c'.Sets payload → c = c' := by
  refine ⟨?_, ?_, ?_, ?_⟩
  · intro controlId value h
    obtain ⟨frame, hframe, hbytes⟩ := modeRegisterPayload_eq controlId h
    refine ⟨frame, hframe, readModeRegister_payload hframe, fun i hlow hhigh => ?_⟩
    unfold modeRegisterPayloadLen at hhigh
    rw [hbytes, ← List.append_assoc, List.getElem?_append_right (by simp; omega),
      List.getElem?_replicate_of_lt (by simp; omega)]
  · intro controlId value h
    exact modeRegisterPayload_panics controlId h
  · intro c h
    obtain ⟨frame, -, hsets⟩ := ModeCall.sets_payload h
    exact ⟨_, hsets⟩
  · intro c c' payload h h'
    exact ModeCall.eq_of_sets h h'

/-- The longest value, one byte more, and two setters of the same byte. -/
theorem mode_register_decodable_longest :
    (∃ frame, modeRegisterPayload modeFov (List.replicate 58 7) = .ok frame ∧
      readModeRegister frame.toList = (modeFov, List.replicate 58 7)) ∧
    (∃ message, modeRegisterPayload modeFov (List.replicate 59 7) = .error message) ∧
    ∃ payload, ModeCall.Sets ⟨.led, true⟩ payload ∧ ¬ ModeCall.Sets ⟨.bgEnable, true⟩ payload := by
  obtain ⟨hread, hpanic, hsets, hunique⟩ := mode_register_decodable
  refine ⟨?_, hpanic _ _ (by decide), ?_⟩
  · obtain ⟨frame, hframe, hvalue, -⟩ := hread modeFov (List.replicate 58 7) (by decide)
    exact ⟨frame, hframe, hvalue⟩
  · obtain ⟨payload, hled⟩ := hsets ⟨.led, true⟩ trivial
    refine ⟨payload, hled, fun hbg => ?_⟩
    cases hunique _ _ payload hled hbg

end Libobsbot.Xu

import Libobsbot.Source.FfiPointers

/-! # What the marshalling helpers leave in memory

A structure that is zeroed and then assigned field by field holds its fields one after another, and nothing else of the
memory changes. A string field holds the longest beginning of the string that leaves room for a NUL, and zeros.
-/

namespace Libobsbot.Ffi.Raw
open Foundations
set_option autoImplicit false

/-! ## Layouts -/

/-- The 64 bytes of a string field. -/
def cField (s : String) : List UInt8 :=
  (utf8Bytes s).take 63 ++ List.replicate (64 - min (utf8Bytes s).length 63) 0

def statusBytes (snap : Status) : List UInt8 :=
  cField snap.firmware ++ cField snap.serial ++ i32ToLe snap.brightness ++ i32ToLe snap.contrast ++
    i32ToLe snap.saturation ++ f32ToLe snap.zoom ++ f32ToLe snap.pan ++ f32ToLe snap.tilt

def eventBytes : Event → List UInt8
  | .deviceAdded serial => i32ToLe obsbotEventDeviceAdded ++ cField serial ++ List.replicate 152 0
  | .deviceRemoved serial => i32ToLe obsbotEventDeviceRemoved ++ cField serial ++ List.replicate 152 0
  | .status serial snapshot => i32ToLe obsbotEventStatus ++ cField serial ++ statusBytes snapshot

@[simp] theorem f32ToLe_length (v : Float32) : (f32ToLe v).length = 4 := toLe_length 4 _

@[simp] theorem cField_length (s : String) : (cField s).length = 64 := by
  rw [cField, List.length_append, List.length_take, List.length_replicate]
  omega

theorem statusBytes_length (snap : Status) : (statusBytes snap).length = 152 := by
  simp [statusBytes]

theorem eventBytes_length (event : Event) : (eventBytes event).length = 220 := by
  cases event <;> simp [eventBytes, statusBytes_length]

/-! ## Filling in order -/

section Fill
variable {m : CMemory} {addr a rest : ℕ}

theorem copyIntoBuf_eq (m : CMemory) (buf : ℕ) (s : String) :
    copyIntoBuf buf obsbotStrMax s m = m.write buf ((utf8Bytes s).take 63 ++ [0]) := by
  have hlen : ((utf8Bytes s).take 63).length = min (utf8Bytes s).length 63 := by
    rw [List.length_take, Nat.min_comm]
  have htake : (utf8Bytes s).take (min (utf8Bytes s).length 63) = (utf8Bytes s).take 63 := by
    rw [List.take_eq_take_iff]
    omega
  rw [copyIntoBuf, if_neg (by decide)]
  show (m.write buf ((utf8Bytes s).take (min (utf8Bytes s).length 63))).write
    (buf + min (utf8Bytes s).length 63) [0] = _
  rw [htake, ← hlen, Memory.write_write]

/-- A string copied behind what is filled, where zeros lie: its whole field is filled. -/
theorem copyIntoBuf_next (filled : List UInt8) (s : String) (haddr : a = addr + filled.length) (h : 64 ≤ rest) :
    copyIntoBuf a obsbotStrMax s (m.write addr (filled ++ List.replicate rest 0)) =
      m.write addr ((filled ++ cField s) ++ List.replicate (rest - 64) 0) := by
  have hzeros : [0] ++ List.replicate (rest - ((utf8Bytes s).take 63 ++ [0]).length) (0 : UInt8) =
      List.replicate (64 - min (utf8Bytes s).length 63) 0 ++ List.replicate (rest - 64) 0 := by
    rw [← List.replicate_one, List.replicate_append_replicate, List.replicate_append_replicate]
    congr 1
    rw [List.length_append, List.length_take, List.length_replicate]
    omega
  rw [copyIntoBuf_eq, Memory.write_next filled haddr, cField]
  congr 1
  simp only [List.append_assoc] at hzeros ⊢
  rw [hzeros]

theorem fillStatus_next (filled : List UInt8) (snap : Status) (haddr : a = addr + filled.length) (h : 152 ≤ rest) :
    fillStatus a snap (m.write addr (filled ++ List.replicate rest 0)) =
      m.write addr ((filled ++ statusBytes snap) ++ List.replicate (rest - 152) 0) := by
  subst haddr
  unfold fillStatus
  dsimp only
  rw [copyIntoBuf_next filled snap.firmware rfl (by omega), copyIntoBuf_next _ snap.serial (by simp; omega) (by omega),
    Memory.write_next _ (by simp; omega), Memory.write_next _ (by simp; omega), Memory.write_next _ (by simp; omega),
    Memory.write_next _ (by simp; omega), Memory.write_next _ (by simp; omega), Memory.write_next _ (by simp; omega)]
  simp only [statusBytes, i32ToLe_length, f32ToLe_length, List.append_assoc, Nat.sub_sub, Nat.reduceAdd]

theorem fillStatus_zeroed (m : CMemory) (out : ℕ) (snap : Status) :
    fillStatus out snap (writeZeros sizeOfStatus out m) = m.write out (statusBytes snap) := by
  have h := @fillStatus_next m out out 152 [] snap rfl (Nat.le_refl _)
  rw [List.nil_append, List.nil_append, Nat.sub_self, List.replicate_zero, List.append_nil] at h
  exact h

theorem fillEvent_zeroed (m : CMemory) (out : ℕ) (event : Event) :
    fillEvent out event (writeZeros sizeOfEvent out m) = m.write out (eventBytes event) := by
  have hkind : ∀ kind : Int32, (writeZeros sizeOfEvent out m).write out (i32ToLe kind) =
      m.write out (i32ToLe kind ++ List.replicate 216 0) := by
    intro kind
    have h := @Memory.write_next UInt8 m out (i32ToLe kind) out 220 0 [] rfl
    rw [List.nil_append, List.nil_append, i32ToLe_length] at h
    exact h
  cases event with
  | deviceAdded serial =>
    rw [fillEvent, hkind, copyIntoBuf_next _ serial (by simp) (by omega)]
    rfl
  | deviceRemoved serial =>
    rw [fillEvent, hkind, copyIntoBuf_next _ serial (by simp) (by omega)]
    rfl
  | status serial snapshot =>
    rw [fillEvent, hkind, copyIntoBuf_next _ serial (by simp) (by omega),
      fillStatus_next _ snapshot (by simp) (by omega), eventBytes]
    simp

end Fill

/-! ## The structures -/

theorem copyIntoBuf_field (s : String) : (Ffi.copyIntoBuf (Bytes.zeros obsbotStrMax) s).toList = cField s :=
  copyIntoBuf_toList (by decide) s

/-- The bytes of a structure with every field assigned. -/
def layout (out : ObsbotStatus) : List UInt8 :=
  out.firmware.toList ++ out.serial.toList ++ i32ToLe out.brightness ++ i32ToLe out.contrast ++
    i32ToLe out.saturation ++ f32ToLe out.zoom ++ f32ToLe out.pan ++ f32ToLe out.tilt

theorem layout_writeStatus (snap : Status) : layout (writeStatus .zeroed snap) = statusBytes snap := by
  unfold layout writeStatus statusBytes
  dsimp only [ObsbotStatus.zeroed]
  rw [copyIntoBuf_field, copyIntoBuf_field]

/-- The call on memory stores what the call on structures returns. -/
theorem obsbotDeviceStatus_refines {Location : Type} (handle : Option (Device Location)) (out : ℕ) (m : CMemory) :
    obsbotDeviceStatus handle out m = (Ffi.obsbotDeviceStatus handle (out == 0) >>= fun r =>
      return (r.1, (r.2.map fun status => m.write out (layout status)).getD m)) := by
  cases handle with
  | none => rfl
  | some device =>
    unfold obsbotDeviceStatus Ffi.obsbotDeviceStatus
    dsimp only
    cases out == 0 with
    | true => rfl
    | false =>
      rw [if_neg Bool.false_ne_true, if_neg Bool.false_ne_true, bind_assoc]
      refine bind_congr fun r => ?_
      cases r with
      | ok snap =>
        dsimp only
        rw [fillStatus_zeroed, ← layout_writeStatus]
        rfl
      | error e => rfl

/-- The bytes of an event. Only a status event has a status assigned; the bytes of any other are still the zeros that
the structure was cleared to. -/
def layoutEvent (out : ObsbotEvent) : List UInt8 :=
  i32ToLe out.kind ++ out.serial.toList ++
    if out.kind = obsbotEventStatus then layout out.status else List.replicate sizeOfStatus 0

theorem layoutEvent_writeEvent (event : Event) : layoutEvent (writeEvent .zeroed event) = eventBytes event := by
  have hcamera : ∀ (kind : Int32) (serial : String), kind ≠ obsbotEventStatus →
      layoutEvent ⟨kind, Ffi.copyIntoBuf (Bytes.zeros obsbotStrMax) serial, .zeroed⟩ =
        i32ToLe kind ++ cField serial ++ List.replicate sizeOfStatus 0 := by
    intro kind serial hkind
    rw [layoutEvent, if_neg hkind, copyIntoBuf_field]
  cases event with
  | deviceAdded serial => exact hcamera obsbotEventDeviceAdded serial (by decide)
  | deviceRemoved serial => exact hcamera obsbotEventDeviceRemoved serial (by decide)
  | status serial snapshot =>
    show layoutEvent ⟨obsbotEventStatus, Ffi.copyIntoBuf (Bytes.zeros obsbotStrMax) serial,
      writeStatus .zeroed snapshot⟩ = _
    rw [layoutEvent, if_pos rfl, copyIntoBuf_field, layout_writeStatus, eventBytes]

theorem obsbotDevicesPollEvent_refines (handleNull : Bool) (outEvent : ℕ) (timeoutMs : Int32) (m : CMemory) :
    obsbotDevicesPollEvent handleNull outEvent timeoutMs m =
      (Ffi.obsbotDevicesPollEvent handleNull (outEvent == 0) timeoutMs >>= fun r =>
        return (r.1, (r.2.map fun event => m.write outEvent (layoutEvent event)).getD m)) := by
  unfold obsbotDevicesPollEvent Ffi.obsbotDevicesPollEvent
  cases handleNull || outEvent == 0 with
  | true => rfl
  | false =>
    rw [if_neg Bool.false_ne_true, if_neg Bool.false_ne_true, bind_assoc]
    refine bind_congr fun r => ?_
    cases r with
    | none => rfl
    | some event =>
      dsimp only
      rw [fillEvent_zeroed, ← layoutEvent_writeEvent]
      rfl

end Libobsbot.Ffi.Raw

import Libobsbot.Foundations.TwoRuns
import Libobsbot.Source.Device

/-! # Reads of fewer bytes than asked for

`uvc_get` returns how many bytes it wrote, and every caller drops that number. What a read then decodes is its whole
buffer: the bytes the GET reported, and after them the zeros of a fresh buffer or what an earlier GET left in a reused
one. `Enough` says for each read how many bytes its decoder looks at; a read of that many returns what was reported.
-/

namespace Libobsbot.ShortReads
open Foundations
open Foundations.Program (Steps Exchange)
open Foundations.TwoRuns
set_option autoImplicit false

/-! ## What a GET reports -/

/-- The size of the caller's buffer, and the bytes written to it. -/
structure Report where
  width : ℕ
  bytes : List UInt8

def Report.Full (g : Report) : Prop := g.width ≤ g.bytes.length

def reportOf : Exchange TransportOp TransportOp.Reply → Option Report
  | ⟨.uvcGet _ _ _ n _, (buf, .ok len)⟩ => some ⟨n, buf.toList.take len⟩
  | _ => none

/-- A GET that writes the first bytes of the buffer, returns their number and leaves the rest alone. -/
def Contract : Exchange TransportOp TransportOp.Reply → Prop
  | ⟨.uvcGet _ _ _ n out, (buf, .ok len)⟩ => len ≤ n ∧ buf.toList.drop len = out.toList.drop len
  | _ => True

/-! ## The reads -/

/-- The getters and range queries that read controls. -/
inductive ControlRead where
  | panTilt | zoom | focus | autoFocus | aeMode | aeLock | exposureTime | exposureTimeRange
  | brightness | brightnessRange | contrast | contrastRange | saturation | saturationRange
  | hue | hueRange | sharpness | sharpnessRange | gain | gainRange | backlightCompensation
  | antiFlicker | whiteBalance | whiteBalanceRange | wdr | faceAe | aiMode

abbrev ControlRead.Value : ControlRead → Type
  | .panTilt => Float32 × Float32
  | .zoom => Float32
  | .focus => Float32
  | .autoFocus => Bool
  | .aeMode => AeMode
  | .aeLock => Bool
  | .exposureTime => UInt32
  | .exposureTimeRange => UInt32 × UInt32
  | .brightness => Int32
  | .brightnessRange => Int32 × Int32
  | .contrast => Int32
  | .contrastRange => Int32 × Int32
  | .saturation => Int32
  | .saturationRange => Int32 × Int32
  | .hue => Int32
  | .hueRange => Int32 × Int32
  | .sharpness => Int32
  | .sharpnessRange => Int32 × Int32
  | .gain => Int32
  | .gainRange => Int32 × Int32
  | .backlightCompensation => Int32
  | .antiFlicker => AntiFlicker
  | .whiteBalance => WhiteBalanceMode × UInt16
  | .whiteBalanceRange => UInt16 × UInt16
  | .wdr => WdrMode
  | .faceAe => Bool
  | .aiMode => AiMode

def ControlRead.program : (read : ControlRead) → DeviceM read.Value
  | .panTilt => Device.panTilt
  | .zoom => Device.zoom
  | .focus => Device.focus
  | .autoFocus => Device.autoFocus
  | .aeMode => Device.aeMode
  | .aeLock => Device.aeLock
  | .exposureTime => Device.exposureTime
  | .exposureTimeRange => Device.exposureTimeRange
  | .brightness => Device.brightness
  | .brightnessRange => Device.brightnessRange
  | .contrast => Device.contrast
  | .contrastRange => Device.contrastRange
  | .saturation => Device.saturation
  | .saturationRange => Device.saturationRange
  | .hue => Device.hue
  | .hueRange => Device.hueRange
  | .sharpness => Device.sharpness
  | .sharpnessRange => Device.sharpnessRange
  | .gain => Device.gain
  | .gainRange => Device.gainRange
  | .backlightCompensation => Device.backlightCompensation
  | .antiFlicker => Device.antiFlicker
  | .whiteBalance => Device.whiteBalance
  | .whiteBalanceRange => Device.whiteBalanceRange
  | .wdr => Device.wdr
  | .faceAe => Device.faceAe
  | .aiMode => Device.aiMode

/-- The bytes a read decodes: all that it asked for, or those up to its field in the status blob. -/
def ControlRead.Enough : ControlRead → Report → Prop
  | .wdr, g => Meet2.statusWdrOffset < g.bytes.length
  | .faceAe, g => Meet2.statusFaceAeOffset < g.bytes.length
  | .aiMode, g => Meet2.statusAiModeOffset < g.bytes.length
  | _, g => g.Full

/-! ## One GET -/

section Get
variable {α : Type} {n : ℕ}

theorem alike_uvcGet {enough : Report → Prop} {R : ℕ × Bytes n → ℕ × Bytes n → Prop} (req : UvcGet)
    (entity selector : UInt8) (out out' : Bytes n)
    (h : ∀ (buf buf' : Bytes n) (len len' : ℕ), buf.toList.take len = buf'.toList.take len' →
      enough ⟨n, buf.toList.take len⟩ → R (len, buf) (len', buf')) :
    Alike reportOf enough (uvcGet req entity selector out) (uvcGet req entity selector out') R := by
  apply alike_perform
  rintro ⟨buf, got⟩ ⟨buf', got'⟩ a a' ha ha'
  cases got with
  | error e => cases ha
  | ok len =>
    cases got' with
    | error e => cases ha'
    | ok len' =>
      cases ha
      cases ha'
      refine ⟨⟨n, buf.toList.take len⟩, ⟨n, buf'.toList.take len'⟩, rfl, rfl, ?_⟩
      intro hsame henough
      exact h buf buf' len len' (congrArg Report.bytes hsame) henough

theorem take_eq_of_reported {l l' : List UInt8} {len len' k : ℕ} (h : l.take len = l'.take len')
    (hk : k ≤ (l.take len).length) : l.take k = l'.take k := by
  have hlen : k ≤ len := hk.trans (List.length_take_le len l)
  have hlen' : k ≤ len' := by
    rw [h] at hk
    exact hk.trans (List.length_take_le len' l')
  calc l.take k = (l.take len).take k := by rw [List.take_take, Nat.min_eq_left hlen]
    _ = (l'.take len').take k := by rw [h]
    _ = l'.take k := by rw [List.take_take, Nat.min_eq_left hlen']

/-- Two GETs that report the same bytes, `k` of them or more, agree in the first `k` bytes of their buffers. -/
theorem alike_uvcGet_first (k : ℕ) {enough : Report → Prop}
    (henough : ∀ g, enough g → k ≤ g.bytes.length) (req : UvcGet) (entity selector : UInt8)
    (out out' : Bytes n) :
    Alike reportOf enough (uvcGet req entity selector out) (uvcGet req entity selector out')
      fun r r' => r.2.toList.take k = r'.2.toList.take k := by
  apply alike_uvcGet
  intro buf buf' len len' hsame hreported
  exact take_eq_of_reported hsame (henough _ hreported)

theorem alike_uvcGet_full (req : UvcGet) (entity selector : UInt8) (out out' : Bytes n) :
    Alike reportOf Report.Full (uvcGet req entity selector out)
      (uvcGet req entity selector out') fun r r' => r.2 = r'.2 := by
  apply alike_uvcGet
  intro buf buf' len len' hsame hwidth
  have htake := take_eq_of_reported hsame hwidth
  rw [List.take_of_length_le (by simp), List.take_of_length_le (by simp)] at htake
  exact Bytes.ext htake

theorem alike_get_then {req : UvcGet} {entity selector : UInt8} {out : Bytes n}
    {f : ℕ × Bytes n → DeviceM α} (decode : Bytes n → Result α)
    (hf : ∀ r, f r = .mk (.done (decode r.2))) :
    Alike reportOf Report.Full (uvcGet req entity selector out >>= f)
      (uvcGet req entity selector out >>= f) Eq := by
  apply (alike_uvcGet_full req entity selector out out).bind
  intro r r' hbuf
  rw [hf, hf, hbuf]
  exact alike_refl

end Get

/-! ## The control reads -/

section Families
variable {α β : Type} {enough : Report → Prop}

theorem alike_map {m : DeviceM α} (h : Alike reportOf enough m m Eq) (f : α → β) :
    Alike reportOf enough (do return f (← m)) (do return f (← m)) Eq := by
  apply h.bind
  intro a a' ha
  exact alike_pure (congrArg f ha)

theorem alike_range {lo hi : DeviceM α} (hlo : Alike reportOf enough lo lo Eq)
    (hhi : Alike reportOf enough hi hi Eq) (f : α → β) :
    Alike reportOf enough (do let a ← lo; let b ← hi; return (f a, f b))
      (do let a ← lo; let b ← hi; return (f a, f b)) Eq := by
  apply hlo.bind
  intro a a' ha
  apply hhi.bind
  intro b b' hb
  apply alike_pure
  rw [ha, hb]

theorem alike_puGetI16 (req : UvcGet) (selector : UInt8) :
    Alike reportOf Report.Full (Device.puGetI16 req selector) (Device.puGetI16 req selector) Eq :=
  alike_get_then (fun buf => .ok (i16FromLe buf.toList)) fun _ => rfl

theorem alike_puGetU16 (req : UvcGet) (selector : UInt8) :
    Alike reportOf Report.Full (Device.puGetU16 req selector) (Device.puGetU16 req selector) Eq :=
  alike_get_then (fun buf => .ok (u16FromLe buf.toList)) fun _ => rfl

theorem alike_ctGetU16 (selector : UInt8) :
    Alike reportOf Report.Full (Device.ctGetU16 selector) (Device.ctGetU16 selector) Eq :=
  alike_get_then (fun buf => .ok (u16FromLe buf.toList).toFloat32) fun _ => rfl

theorem alike_aeMode : Alike reportOf Report.Full Device.aeMode Device.aeMode Eq := by
  apply (alike_uvcGet_full _ _ _ _ _).bind
  rintro ⟨len, buf⟩ ⟨len', buf'⟩ hbuf
  obtain rfl : buf = buf' := hbuf
  dsimp only
  split_ifs <;> exact alike_refl

theorem alike_antiFlicker : Alike reportOf Report.Full Device.antiFlicker Device.antiFlicker Eq := by
  apply (alike_uvcGet_full _ _ _ _ _).bind
  rintro ⟨len, buf⟩ ⟨len', buf'⟩ hbuf
  obtain rfl : buf = buf' := hbuf
  dsimp only
  split_ifs <;> exact alike_refl

/-- The second GET is handed the buffer the first one filled, and fills it too. -/
theorem alike_exposureTimeRange :
    Alike reportOf Report.Full Device.exposureTimeRange Device.exposureTimeRange Eq := by
  apply (alike_uvcGet_full _ _ _ _ _).bind
  rintro ⟨len, buf⟩ ⟨len', buf'⟩ hbuf
  obtain rfl : buf = buf' := hbuf
  apply (alike_uvcGet_full _ _ _ _ _).bind
  rintro r r' hbuf
  apply alike_pure
  rw [hbuf]

theorem alike_whiteBalance : Alike reportOf Report.Full Device.whiteBalance Device.whiteBalance Eq := by
  apply (alike_uvcGet_full _ _ _ _ _).bind
  intro r r' hbuf
  apply (alike_puGetU16 _ _).bind
  intro kelvin kelvin' hkelvin
  apply alike_pure
  rw [hbuf, hkelvin]

end Families

/-! ## The status blob -/

section StatusBlob
variable {α : Type} {enough : Report → Prop}

theorem getD_eq_of_take {l l' : List UInt8} {k i : ℕ} (h : l.take k = l'.take k) (hi : i < k) :
    l.getD i 0 = l'.getD i 0 := by
  have hget : (l.take k)[i]? = (l'.take k)[i]? := by rw [h]
  rw [List.getElem?_take_of_lt hi, List.getElem?_take_of_lt hi] at hget
  rw [List.getD_eq_getElem?_getD, List.getD_eq_getElem?_getD, hget]

theorem alike_readStatusBlob {k : ℕ} (hk : 0 < k) (henough : ∀ g, enough g → k ≤ g.bytes.length) :
    Alike reportOf enough Device.readStatusBlob Device.readStatusBlob
      fun blob blob' => blob.toList.take k = blob'.toList.take k := by
  apply (alike_uvcGet_first k henough _ _ _ _ _).bind
  rintro ⟨len, blob⟩ ⟨len', blob'⟩ htake
  have hhead : ∀ l : List UInt8, l.headD 0 = l.getD 0 0 := by
    intro l
    cases l with
    | nil => rfl
    | cons b l => rfl
  have hmarker : blob.toList.headD 0 = blob'.toList.headD 0 := by
    rw [hhead, hhead]
    exact getD_eq_of_take htake hk
  dsimp only
  rw [hmarker]
  split_ifs
  · exact alike_done fun a a' ha _ => by cases ha
  · exact alike_pure htake

/-- A getter that looks at the marker and at one later byte of the blob. -/
theorem alike_blobByte (offset : ℕ) (henough : ∀ g, enough g → offset < g.bytes.length)
    (decode : UInt8 → Result α) :
    let getter : DeviceM α := do
      let blob ← Device.readStatusBlob
      .mk (.done (decode (Device.blobByte blob offset)))
    Alike reportOf enough getter getter Eq := by
  intro getter
  apply (alike_readStatusBlob (Nat.succ_pos offset) henough).bind
  intro blob blob' htake
  have hbyte : Device.blobByte blob offset = Device.blobByte blob' offset :=
    getD_eq_of_take htake (Nat.lt_succ_self offset)
  rw [hbyte]
  exact alike_refl

end StatusBlob

theorem ControlRead.alike (read : ControlRead) :
    Alike reportOf read.Enough read.program read.program Eq := by
  cases read with
  | panTilt =>
    exact alike_get_then (fun buf => .ok (normalisedPantilt (i32FromLe (buf.toList.take 4)),
      normalisedPantilt (i32FromLe (buf.toList.drop 4)))) fun _ => rfl
  | zoom => exact alike_ctGetU16 _
  | focus => exact alike_ctGetU16 _
  | autoFocus => exact alike_get_then (fun buf => .ok (Device.onlyByte buf != 0)) fun _ => rfl
  | aeMode => exact alike_aeMode
  | aeLock => exact alike_map alike_aeMode _
  | exposureTime =>
    exact alike_get_then (fun buf => .ok (u32FromLe buf.toList)) fun _ => rfl
  | exposureTimeRange => exact alike_exposureTimeRange
  | brightness =>
    exact alike_get_then (fun buf => .ok (i16FromLe buf.toList).toInt32) fun _ => rfl
  | brightnessRange => exact alike_range (alike_puGetI16 _ _) (alike_puGetI16 _ _) _
  | contrast => exact alike_map (alike_puGetU16 _ _) _
  | contrastRange => exact alike_range (alike_puGetU16 _ _) (alike_puGetU16 _ _) _
  | saturation => exact alike_map (alike_puGetU16 _ _) _
  | saturationRange => exact alike_range (alike_puGetU16 _ _) (alike_puGetU16 _ _) _
  | hue => exact alike_map (alike_puGetI16 _ _) _
  | hueRange => exact alike_range (alike_puGetI16 _ _) (alike_puGetI16 _ _) _
  | sharpness => exact alike_map (alike_puGetU16 _ _) _
  | sharpnessRange => exact alike_range (alike_puGetU16 _ _) (alike_puGetU16 _ _) _
  | gain => exact alike_map (alike_puGetU16 _ _) _
  | gainRange => exact alike_range (alike_puGetU16 _ _) (alike_puGetU16 _ _) _
  | backlightCompensation => exact alike_map (alike_puGetU16 _ _) _
  | antiFlicker => exact alike_antiFlicker
  | whiteBalance => exact alike_whiteBalance
  | whiteBalanceRange => exact alike_range (alike_puGetU16 _ _) (alike_puGetU16 _ _) id
  | wdr => exact alike_blobByte _ (fun _ h => h) decodeWdr
  | faceAe => exact alike_blobByte _ (fun _ h => h) fun b => .ok (b != 0)
  | aiMode => exact alike_blobByte _ (fun _ h => h) fun b => decodeAiMode b.toUInt16

end Libobsbot.ShortReads

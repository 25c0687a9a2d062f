import Libobsbot.Foundations.Numerals
import Libobsbot.Rpc.Calls
import Libobsbot.Rpc.Parsing

/-! # The firmware version, from the reply to the ordered value

A reply holds the four numbers with the major one last. The decoder prints them in order, `FirmwareVersion::parse` reads
the text back, and the derived order on the result is the order of the reply's bytes as one little-endian number.
-/

namespace Libobsbot
open Foundations
set_option autoImplicit false

/-! ## Numbers of one byte -/

theorem foldlM_parseDigit {cs : List Char} (acc : ℕ) (hdigits : ∀ c ∈ cs, c.isDigit = true)
    (hlt : Nat.ofDigitChars 10 cs acc < 256) :
    cs.foldlM parseU8.parseDigit acc = some (Nat.ofDigitChars 10 cs acc) := by
  induction cs generalizing acc with
  | nil => rfl
  | cons c cs ih =>
    obtain ⟨hc, hcs⟩ := List.forall_mem_cons.mp hdigits
    rw [Nat.ofDigitChars_cons] at hlt ⊢
    have hstep : acc * 10 + (c.toNat - 48) < 256 := by
      rw [mul_comm]
      exact (le_ofDigitChars cs _).trans_lt hlt
    rw [List.foldlM_cons, parseU8.parseDigit, if_pos hc, if_pos hstep, mul_comm acc 10]
    exact ih _ hcs hlt

theorem parseU8_toDigits (b : UInt8) : parseU8 (Nat.toDigits 10 b.toNat) = some b := by
  have hdigits : ∀ c ∈ Nat.toDigits 10 b.toNat, c.isDigit = true := fun c hc =>
    Nat.isDigit_of_mem_toDigits (by norm_num) (by norm_num) hc
  have hvalue : Nat.ofDigitChars 10 (Nat.toDigits 10 b.toNat) 0 = b.toNat := Nat.ofDigitChars_ten_toDigits
  have hfold := foldlM_parseDigit 0 hdigits (by rw [hvalue]; exact b.toNat_lt)
  obtain ⟨c, cs, hcons⟩ := List.exists_cons_of_ne_nil (Nat.toDigits_ne_nil (b := 10) (n := b.toNat))
  have hplus : c ≠ '+' := by
    rintro rfl
    exact notMem_toDigits rfl b.toNat (hcons ▸ List.mem_cons_self)
  rw [hvalue] at hfold
  rw [hcons] at hfold ⊢
  unfold parseU8
  dsimp only
  split
  · next rest heq => exact absurd (List.cons.inj heq).1 hplus
  · rw [if_neg (List.cons_ne_nil c cs), hfold]
    exact congrArg some UInt8.ofNat_toNat

/-! ## Versions -/

namespace FirmwareVersion

theorem toString_toList (v : FirmwareVersion) : v.toString.toList = ['.'].intercalate
    [Nat.toDigits 10 v.major.toNat, Nat.toDigits 10 v.minor.toNat, Nat.toDigits 10 v.patch.toNat,
      Nat.toDigits 10 v.build.toNat] := by
  have hstring : ∀ s : String, ToString.toString s = s := fun _ => rfl
  simp [toString, hstring, List.intercalate]

theorem parse_toString (v : FirmwareVersion) : parse v.toString = some v := by
  have hdots : ∀ l ∈ [Nat.toDigits 10 v.major.toNat, Nat.toDigits 10 v.minor.toNat, Nat.toDigits 10 v.patch.toNat,
      Nat.toDigits 10 v.build.toNat], '.' ∉ l := by
    intro l hl
    simp only [List.mem_cons, List.not_mem_nil, or_false] at hl
    obtain rfl | rfl | rfl | rfl := hl <;> exact notMem_toDigits rfl _
  unfold parse
  rw [toString_toList, List.splitOn_intercalate '.' hdots (List.cons_ne_nil _ _)]
  simp only [parseU8_toDigits]
  rfl

/-- The fields as one number, the major one its highest byte. -/
def rank (v : FirmwareVersion) : ℕ := fromLe [v.build, v.patch, v.minor, v.major]

theorem lt_iff_rank (v w : FirmwareVersion) : v < w ↔ v.rank < w.rank := by
  have hlt : v < w ↔ v.cmp w = .lt := Iff.rfl
  have hv := v.build.toNat_lt
  have hv' := v.patch.toNat_lt
  have hv'' := v.minor.toNat_lt
  have hw := w.build.toNat_lt
  have hw' := w.patch.toNat_lt
  have hw'' := w.minor.toNat_lt
  rw [hlt, cmp]
  simp only [Ordering.then_eq_lt, Std.compare_eq_lt, Std.compare_eq_iff_eq, UInt8.lt_iff_toNat_lt,
    ← UInt8.toNat_inj, rank, fromLe]
  omega

end FirmwareVersion

/-! ## Replies -/

namespace Meet2

/-- The four numbers of a firmware payload. -/
def versionOf (payload : List UInt8) : FirmwareVersion :=
  ⟨payload.getD 3 0, payload.getD 2 0, payload.getD 1 0, payload.getD 0 0⟩

theorem versionText_eq (payload : List UInt8) : ShortReads.versionText payload = (versionOf payload).toString := rfl

theorem rank_versionOf {payload : List UInt8} (h : 4 ≤ payload.length) :
    (versionOf payload).rank = fromLe (payload.take 4) := by
  obtain ⟨a, b, c, d, rest, rfl⟩ : ∃ a b c d rest, payload = a :: b :: c :: d :: rest := by
    match payload, h with
    | a :: b :: c :: d :: rest, _ => exact ⟨a, b, c, d, rest, rfl⟩
  rfl

end Meet2

section Firmware
open Foundations.Program (Steps Exchange Uses)
variable {Location : Type}

theorem decoded_of_firmwareFromCamera {self : Device Location} {t : List (Exchange TransportOp TransportOp.Reply)}
    {s : String} (h : Steps self.firmwareFromCamera.run t (.done (.ok s))) :
    ∃ buf, Meet2.decodeFirmwareReply buf = .ok (some s) := by
  cases @Rpc.RpcCall.steps_program _ (.firmwareFromCamera self) trivial t _ h with
  | rejected _ hopen => exact absurd rfl (hopen s)
  | accepted front last v _ _ hdecoded hreturned =>
    cases hreturned
    exact ⟨last, hdecoded⟩

/-- What `Device::firmware` makes of the outcome of the read. -/
theorem steps_firmware_bind {self : Device Location} {t : List (Exchange TransportOp TransportOp.Reply)}
    {r : Result FirmwareVersion} (h : Steps self.firmware.run t (.done r)) :
    (∃ e, Steps self.firmwareFromCamera.run t (.done (.error e)) ∧ r = .error e) ∨
      ∃ s, Steps self.firmwareFromCamera.run t (.done (.ok s)) ∧
        ((∃ v, FirmwareVersion.parse s = some v ∧ r = .ok v) ∨
          (FirmwareVersion.parse s = none ∧ r = .error (.badResponse Meet2.xuSelRpc s.toUTF8.data.toList))) := by
  unfold Device.firmware at h
  rw [ExceptT.run_bind] at h
  obtain ⟨read, hread, hlast⟩ := h.bind_silent fun read => by
    cases read with
    | error e => trivial
    | ok s =>
      dsimp only
      cases FirmwareVersion.parse s <;> trivial
  cases read with
  | error e =>
    cases hlast
    exact .inl ⟨e, hread, rfl⟩
  | ok s =>
    refine .inr ⟨s, hread, ?_⟩
    dsimp only at hlast
    cases hparse : FirmwareVersion.parse s with
    | none =>
      rw [hparse] at hlast
      cases hlast
      exact .inr ⟨rfl, rfl⟩
    | some v =>
      rw [hparse] at hlast
      cases hlast
      exact .inl ⟨v, rfl, rfl⟩

theorem firmware_of_firmwareFromCamera {self : Device Location} {t : List (Exchange TransportOp TransportOp.Reply)}
    {s : String} {v : FirmwareVersion} (h : Steps self.firmwareFromCamera.run t (.done (.ok s)))
    (hparse : FirmwareVersion.parse s = some v) : Steps self.firmware.run t (.done (.ok v)) := by
  unfold Device.firmware
  rw [ExceptT.run_bind, ← List.append_nil t]
  refine h.bind ?_
  dsimp only
  rw [hparse]
  exact .refl _

end Firmware

namespace Meet2

theorem parse_decoded {buf : List UInt8} {s : String} (h : decodeFirmwareReply buf = .ok (some s)) :
    4 ≤ (payloadOf buf).length ∧ FirmwareVersion.parse s = some (versionOf (payloadOf buf)) ∧
      (versionOf (payloadOf buf)).toString = s := by
  obtain ⟨hlen, htext⟩ := ShortReads.decodeFirmwareReply_accepted h
  rw [htext, versionText_eq]
  exact ⟨hlen, FirmwareVersion.parse_toString _, rfl⟩

open Foundations.Program (Steps Exchange) in
/-- A decoded firmware text parses to the payload's numbers and prints as itself, so `Device::firmware` fails only with
the read; and versions are ordered as the replies' bytes are. -/
theorem firmware_pipeline {Location : Type} :
    (∀ (buf : List UInt8) (s : String), decodeFirmwareReply buf = .ok (some s) →
      ∃ v, FirmwareVersion.parse s = some v ∧ (payloadOf buf)[3]? = some v.major ∧
        (payloadOf buf)[2]? = some v.minor ∧ (payloadOf buf)[1]? = some v.patch ∧
        (payloadOf buf)[0]? = some v.build ∧ v.toString = s) ∧
    (∀ (self : Device Location) (t : List (Exchange TransportOp TransportOp.Reply)) (s : String),
      Steps self.firmwareFromCamera.run t (.done (.ok s)) →
      ∃ v, FirmwareVersion.parse s = some v ∧ Steps self.firmware.run t (.done (.ok v))) ∧
    (∀ (self : Device Location) (t : List (Exchange TransportOp TransportOp.Reply)) (e : Error),
      Steps self.firmware.run t (.done (.error e)) → Steps self.firmwareFromCamera.run t (.done (.error e))) ∧
    ∀ (buf buf' : List UInt8) (s s' : String) (v v' : FirmwareVersion),
      decodeFirmwareReply buf = .ok (some s) → decodeFirmwareReply buf' = .ok (some s') →
      FirmwareVersion.parse s = some v → FirmwareVersion.parse s' = some v' →
      (v < v' ↔ fromLe ((payloadOf buf).take 4) < fromLe ((payloadOf buf').take 4)) := by
  refine ⟨?_, ?_, ?_, ?_⟩
  · intro buf s h
    obtain ⟨hlen, hparse, hprint⟩ := parse_decoded h
    exact ⟨_, hparse, getElem?_getD (by omega), getElem?_getD (by omega), getElem?_getD (by omega),
      getElem?_getD (by omega), hprint⟩
  · intro self t s h
    obtain ⟨buf, hbuf⟩ := decoded_of_firmwareFromCamera h
    obtain ⟨-, hparse, -⟩ := parse_decoded hbuf
    exact ⟨_, hparse, firmware_of_firmwareFromCamera h hparse⟩
  · intro self t e h
    obtain ⟨e', he, hr⟩ | ⟨s, hs, ⟨v, -, hr⟩ | ⟨hnone, -⟩⟩ := steps_firmware_bind h
    · cases hr
      exact he
    · cases hr
    · obtain ⟨buf, hbuf⟩ := decoded_of_firmwareFromCamera hs
      obtain ⟨-, hparse, -⟩ := parse_decoded hbuf
      rw [hnone] at hparse
      cases hparse
  · intro buf buf' s s' v v' h h' hv hv'
    obtain ⟨hlen, hparse, -⟩ := parse_decoded h
    obtain ⟨hlen', hparse', -⟩ := parse_decoded h'
    rw [hv] at hparse
    rw [hv'] at hparse'
    rw [Option.some.inj hparse, Option.some.inj hparse', FirmwareVersion.lt_iff_rank, rank_versionOf hlen,
      rank_versionOf hlen']

def firmwareReply (major : UInt8) : List UInt8 :=
  [0xAA, 1, 1, 0, 12, 0, 0, 0, 0x0D, 0x0A, 8, 4, 4, 0, 0, 0] ++ [0xFF, 0xFF, 0xFF, major]

/-- Major version 10 is above 9, though its text is below. -/
theorem firmware_pipeline_ten : ∃ s s' v v', decodeFirmwareReply (firmwareReply 9) = .ok (some s) ∧
    decodeFirmwareReply (firmwareReply 10) = .ok (some s') ∧ FirmwareVersion.parse s = some v ∧
    FirmwareVersion.parse s' = some v' ∧ v < v' := by
  obtain ⟨hparses, -, -, horder⟩ := @firmware_pipeline Unit
  have hnine : decodeFirmwareReply (firmwareReply 9) =
      .ok (some (ShortReads.versionText (payloadOf (firmwareReply 9)))) := by
    rw [decodeFirmwareReply_eq, if_pos (by decide)]
  have hten : decodeFirmwareReply (firmwareReply 10) =
      .ok (some (ShortReads.versionText (payloadOf (firmwareReply 10)))) := by
    rw [decodeFirmwareReply_eq, if_pos (by decide)]
  obtain ⟨v, hv, -⟩ := hparses _ _ hnine
  obtain ⟨v', hv', -⟩ := hparses _ _ hten
  exact ⟨_, _, v, v', hnine, hten, hv, hv', (horder _ _ _ _ v v' hnine hten hv hv').mpr (by decide)⟩

end Meet2
end Libobsbot

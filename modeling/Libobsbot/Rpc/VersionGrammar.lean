import Libobsbot.Foundations.NumeralOrder
import Libobsbot.Rpc.Firmware

/-! # What `FirmwareVersion::parse` accepts

Four decimals with three dots between them. A decimal is what `str::parse::<u8>` takes for one: at least one digit,
zeros in front as many as there are, a value of at most 255, and a plus sign in front where there is one
(`parse_eq_some_iff`). So the texts without a plus sign are told apart as the documentation has it
(`parse_exact_iff`).
-/

namespace Libobsbot
open Foundations
set_option autoImplicit false

/-! ## One field -/

/-- Digits, at least one, that make a number of one byte. -/
def IsDecimal (cs : List Char) (b : UInt8) : Prop :=
  cs ≠ [] ∧ Digits cs ∧ Nat.ofDigitChars 10 cs 0 = b.toNat

def IsSignedDecimal (cs : List Char) (b : UInt8) : Prop :=
  IsDecimal cs b ∨ ∃ rest, cs = '+' :: rest ∧ IsDecimal rest b

theorem Digits.notMem {cs : List Char} (h : Digits cs) {c : Char} (hc : c.isDigit = false) : c ∉ cs := by
  intro hmem
  rw [h c hmem] at hc
  cases hc

/-- What the digits must be for the fold over them not to fail. -/
theorem of_foldlM_parseDigit {cs : List Char} {acc n : ℕ} (hacc : acc < 256)
    (h : cs.foldlM parseU8.parseDigit acc = some n) :
    Digits cs ∧ Nat.ofDigitChars 10 cs acc = n ∧ n < 256 := by
  induction cs generalizing acc with
  | nil =>
    cases h
    exact ⟨List.forall_mem_nil _, rfl, hacc⟩
  | cons c cs ih =>
    rw [List.foldlM_cons, parseU8.parseDigit] at h
    by_cases hc : c.isDigit = true
    · rw [if_pos hc] at h
      by_cases hlt : acc * 10 + (c.toNat - 48) < 256
      · rw [if_pos hlt] at h
        obtain ⟨hdigits, hvalue, hn⟩ := ih hlt h
        rw [mul_comm] at hvalue
        exact ⟨List.forall_mem_cons.mpr ⟨hc, hdigits⟩, Nat.ofDigitChars_cons.trans hvalue, hn⟩
      · rw [if_neg hlt] at h
        cases h
    · rw [if_neg hc] at h
      cases h

/-- The digits once the sign is off. -/
theorem foldlM_parseDigit_eq_some_iff {cs : List Char} {b : UInt8} :
    (if cs = [] then none else (cs.foldlM parseU8.parseDigit 0).map UInt8.ofNat) = some b ↔ IsDecimal cs b := by
  by_cases hempty : cs = []
  · rw [if_pos hempty]
    exact iff_of_false (by simp) fun h => h.1 hempty
  rw [if_neg hempty]
  constructor
  · intro h
    obtain ⟨n, hn, rfl⟩ := Option.map_eq_some_iff.mp h
    obtain ⟨hdigits, hvalue, hlt⟩ := of_foldlM_parseDigit (by decide) hn
    exact ⟨hempty, hdigits, by rw [hvalue, UInt8.toNat_ofNat', Nat.mod_eq_of_lt hlt]⟩
  · rintro ⟨-, hdigits, hvalue⟩
    rw [foldlM_parseDigit 0 hdigits (by rw [hvalue]; exact b.toNat_lt), hvalue]
    exact congrArg some UInt8.ofNat_toNat

theorem parseU8_eq_some_iff {cs : List Char} {b : UInt8} : parseU8 cs = some b ↔ IsSignedDecimal cs b := by
  unfold parseU8
  dsimp only
  split
  · next rest =>
    rw [foldlM_parseDigit_eq_some_iff]
    constructor
    · exact fun h => .inr ⟨rest, rfl, h⟩
    · rintro (⟨-, hdigits, -⟩ | ⟨rest', heq, h⟩)
      · exact absurd List.mem_cons_self (Digits.notMem hdigits rfl)
      · rwa [(List.cons.inj heq).2]
  · next hplus =>
    rw [foldlM_parseDigit_eq_some_iff]
    constructor
    · exact .inl
    · rintro (h | ⟨rest, heq, -⟩)
      · exact h
      · exact absurd heq (hplus rest)

theorem IsSignedDecimal.notMem_dot {cs : List Char} {b : UInt8} (h : IsSignedDecimal cs b) : '.' ∉ cs := by
  obtain ⟨-, hdigits, -⟩ | ⟨rest, rfl, -, hdigits, -⟩ := h
  · exact Digits.notMem hdigits rfl
  · rw [List.mem_cons, not_or]
    exact ⟨by decide, Digits.notMem hdigits rfl⟩

/-! ## Four fields -/

namespace FirmwareVersion

/-- Four fields with three dots between them, and the version they make. -/
def Spells (field : List Char → UInt8 → Prop) (s : String) (v : FirmwareVersion) : Prop :=
  ∃ a b c d, s.toList = a ++ '.' :: (b ++ '.' :: (c ++ '.' :: d)) ∧
    field a v.major ∧ field b v.minor ∧ field c v.patch ∧ field d v.build

theorem parse_of_splitOn {s : String} {a b c d : List Char} (h : s.toList.splitOn '.' = [a, b, c, d])
    {v : FirmwareVersion} : parse s = some v ↔ IsSignedDecimal a v.major ∧ IsSignedDecimal b v.minor ∧
      IsSignedDecimal c v.patch ∧ IsSignedDecimal d v.build := by
  simp only [← parseU8_eq_some_iff]
  unfold parse
  rw [h]
  simp only [Option.bind_eq_bind, Option.bind_eq_some_iff, Option.pure_def, Option.some.injEq]
  constructor
  · rintro ⟨major, ha, minor, hb, patch, hc, build, hd, rfl⟩
    exact ⟨ha, hb, hc, hd⟩
  · rintro ⟨ha, hb, hc, hd⟩
    exact ⟨_, ha, _, hb, _, hc, _, hd, rfl⟩

/-- The parser's language. -/
theorem parse_eq_some_iff {s : String} {v : FirmwareVersion} : parse s = some v ↔ Spells IsSignedDecimal s v := by
  constructor
  · intro h
    have hfour : ∃ a b c d, s.toList.splitOn '.' = [a, b, c, d] := by
      unfold parse at h
      split at h
      · next a b c d hsplit => exact ⟨a, b, c, d, hsplit⟩
      · cases h
    obtain ⟨a, b, c, d, hsplit⟩ := hfour
    refine ⟨a, b, c, d, ?_, (parse_of_splitOn hsplit).mp h⟩
    have hjoin : ['.'].intercalate (s.toList.splitOn '.') = s.toList := List.intercalate_splitOn '.'
    rw [hsplit] at hjoin
    rw [← hjoin]
    simp [List.intercalate]
  · rintro ⟨a, b, c, d, hlist, ha, hb, hc, hd⟩
    have hjoin : s.toList = ['.'].intercalate [a, b, c, d] := by
      rw [hlist]
      simp [List.intercalate]
    have hdots : ∀ l ∈ [a, b, c, d], '.' ∉ l := by
      intro l hl
      simp only [List.mem_cons, List.not_mem_nil, or_false] at hl
      obtain rfl | rfl | rfl | rfl := hl
      · exact ha.notMem_dot
      · exact hb.notMem_dot
      · exact hc.notMem_dot
      · exact hd.notMem_dot
    have hsplit : s.toList.splitOn '.' = [a, b, c, d] := by
      rw [hjoin, List.splitOn_intercalate '.' hdots (List.cons_ne_nil _ _)]
    exact (parse_of_splitOn hsplit).mpr ⟨ha, hb, hc, hd⟩

theorem Spells.mono {field field' : List Char → UInt8 → Prop} {s : String} {v : FirmwareVersion}
    (h : Spells field s v) (hfield : ∀ cs b, (∀ c ∈ cs, c ∈ s.toList) → field cs b → field' cs b) :
    Spells field' s v := by
  obtain ⟨a, b, c, d, hlist, ha, hb, hc, hd⟩ := h
  have hin : ∀ x, x ∈ a ∨ x ∈ b ∨ x ∈ c ∨ x ∈ d → x ∈ s.toList := by
    intro x hx
    rw [hlist]
    simp only [List.mem_append, List.mem_cons]
    tauto
  exact ⟨a, b, c, d, hlist, hfield _ _ (fun x hx => hin x (.inl hx)) ha,
    hfield _ _ (fun x hx => hin x (.inr (.inl hx))) hb, hfield _ _ (fun x hx => hin x (.inr (.inr (.inl hx)))) hc,
    hfield _ _ (fun x hx => hin x (.inr (.inr (.inr hx)))) hd⟩

theorem Spells.notMem_plus {s : String} {v : FirmwareVersion} (h : Spells IsDecimal s v) : '+' ∉ s.toList := by
  obtain ⟨a, b, c, d, hlist, ⟨-, ha, -⟩, ⟨-, hb, -⟩, ⟨-, hc, -⟩, -, hd, -⟩ := h
  have hplus : ∀ {cs : List Char}, Digits cs → '+' ∉ cs := fun hcs => Digits.notMem hcs rfl
  rw [hlist]
  simp [hplus ha, hplus hb, hplus hc, hplus hd]

/-- `s` is parsed exactly as four dotted decimals are, unless it is accepted with a plus sign in it. -/
theorem parse_exact_iff (s : String) : (∀ v, parse s = some v ↔ Spells IsDecimal s v) ↔
    ((∃ v, Spells IsSignedDecimal s v) → '+' ∉ s.toList) := by
  constructor
  · rintro hexact ⟨v, hv⟩
    exact ((hexact v).mp (parse_eq_some_iff.mpr hv)).notMem_plus
  · intro hplus v
    rw [parse_eq_some_iff]
    constructor
    · intro hv
      have hnone := hplus ⟨v, hv⟩
      refine hv.mono fun cs b hcs hfield => ?_
      obtain hdecimal | ⟨rest, rfl, -⟩ := hfield
      · exact hdecimal
      · exact absurd (hcs '+' List.mem_cons_self) hnone
    · exact fun hv => hv.mono fun _ _ _ => .inl

/-- A plus sign in front of the first field. -/
theorem plus_sign_accepted : parse "+4.4.6.1" = some ⟨4, 4, 6, 1⟩ ∧ ¬ Spells IsDecimal "+4.4.6.1" ⟨4, 4, 6, 1⟩ := by
  refine ⟨by decide +kernel, fun h => h.notMem_plus ?_⟩
  decide +kernel

end FirmwareVersion
end Libobsbot

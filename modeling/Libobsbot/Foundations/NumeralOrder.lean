import Mathlib

/-! # Decimal numerals as byte strings in dictionary order

Of two strings the longer is compared by as many symbols as the shorter has, and numerals of one length are in
dictionary order as their numbers are. So a numeral stands before a longer one exactly if its number is at most what the
leading digits of the longer one make.
-/

namespace Libobsbot.Foundations
set_option autoImplicit false

/-! ## Dictionary order -/

section Dictionary
variable {α : Type} [LT α] [LE α] [Std.IsLinearOrder α] [Std.LawfulOrderLT α]

theorem le_iff_le_take {xs ys : List α} (h : xs.length ≤ ys.length) : xs ≤ ys ↔ xs ≤ ys.take xs.length := by
  induction xs generalizing ys with
  | nil => exact iff_of_true (List.nil_le _) (List.nil_le _)
  | cons x xs ih =>
    cases ys with
    | nil => cases h
    | cons y ys =>
      rw [List.length_cons, List.take_succ_cons, List.cons_le_cons_iff, List.cons_le_cons_iff,
        ih (Nat.le_of_succ_le_succ h)]

theorem append_le_append_left_iff (zs : List α) {xs ys : List α} : zs ++ xs ≤ zs ++ ys ↔ xs ≤ ys := by
  induction zs with
  | nil => rfl
  | cons z zs ih =>
    rw [List.cons_append, List.cons_append, List.cons_le_cons_iff, ih]
    constructor
    · rintro (hz | ⟨-, h⟩)
      · exact absurd hz (Std.lt_irrefl)
      · exact h
    · exact fun h => .inr ⟨rfl, h⟩

/-- What stands first after sorting is least. -/
theorem insertionSort_cons_le [DecidableLE (List α)] {names rest : List (List α)}
    {name : List α} (h : names.insertionSort (· ≤ ·) = name :: rest) : name ∈ names ∧ ∀ x ∈ names, name ≤ x := by
  have hperm := List.perm_insertionSort (· ≤ ·) names
  have hsorted := List.pairwise_insertionSort (· ≤ ·) names
  rw [h] at hperm hsorted
  refine ⟨hperm.subset List.mem_cons_self, fun x hx => ?_⟩
  obtain rfl | hrest := List.mem_cons.mp (hperm.symm.subset hx)
  · exact List.le_refl x
  · exact (List.pairwise_cons.mp hsorted).1 x hrest

end Dictionary

/-! ## Numerals of one length -/

/-- The decimal numeral of `n` in ASCII. -/
def decimal (n : ℕ) : List UInt8 := (Nat.toDigits 10 n).map Char.toUInt8

@[simp] theorem decimal_length (n : ℕ) : (decimal n).length = (Nat.toDigits 10 n).length := List.length_map _

def Digits (cs : List Char) : Prop := ∀ c ∈ cs, c.isDigit = true

theorem digits_toDigits (n : ℕ) : Digits (Nat.toDigits 10 n) := fun _ hc =>
  Nat.isDigit_of_mem_toDigits (by norm_num) (by norm_num) hc

theorem Digits.bounds {c : Char} {cs : List Char} (h : Digits (c :: cs)) : 48 ≤ c.toNat ∧ c.toNat ≤ 57 :=
  Char.isDigit_iff_toNat.mp (h c List.mem_cons_self)

theorem Digits.tail {c : Char} {cs : List Char} (h : Digits (c :: cs)) : Digits cs :=
  fun d hd => h d (List.mem_cons_of_mem c hd)

theorem ofDigitChars_cons_zero (c : Char) (cs : List Char) : Nat.ofDigitChars 10 (c :: cs) 0 =
    10 ^ cs.length * (c.toNat - 48) + Nat.ofDigitChars 10 cs 0 := by
  rw [Nat.ofDigitChars_cons, Nat.ofDigitChars_eq_ofDigitChars_zero, Nat.mul_zero, Nat.zero_add]
  rfl

theorem ofDigitChars_lt {cs : List Char} (h : Digits cs) : Nat.ofDigitChars 10 cs 0 < 10 ^ cs.length := by
  induction cs with
  | nil => exact Nat.one_pos
  | cons c cs ih =>
    have hc := h.bounds
    have hmul : 10 ^ cs.length * (c.toNat - 48) ≤ 10 ^ cs.length * 9 := Nat.mul_le_mul_left _ (by omega)
    have hcs := ih h.tail
    rw [ofDigitChars_cons_zero, List.length_cons, Nat.pow_succ]
    omega

theorem map_toUInt8_le_iff {xs ys : List Char} (hx : Digits xs) (hy : Digits ys) (hlen : xs.length = ys.length) :
    xs.map Char.toUInt8 ≤ ys.map Char.toUInt8 ↔ Nat.ofDigitChars 10 xs 0 ≤ Nat.ofDigitChars 10 ys 0 := by
  induction xs generalizing ys with
  | nil =>
    obtain rfl := List.length_eq_zero_iff.mp hlen.symm
    exact iff_of_true (List.nil_le _) (Nat.le_refl _)
  | cons x xs ih =>
    cases ys with
    | nil => cases hlen
    | cons y ys =>
      have hlen' : xs.length = ys.length := Nat.succ.inj hlen
      have hxs := ofDigitChars_lt hx.tail
      have hys := ofDigitChars_lt hy.tail
      obtain ⟨hx48, hx57⟩ := hx.bounds
      obtain ⟨hy48, hy57⟩ := hy.bounds
      have hxbyte : x.toUInt8.toNat = x.toNat := Nat.mod_eq_of_lt (show x.toNat < 256 by omega)
      have hybyte : y.toUInt8.toNat = y.toNat := Nat.mod_eq_of_lt (show y.toNat < 256 by omega)
      rw [List.map_cons, List.map_cons, List.cons_le_cons_iff, UInt8.lt_iff_toNat_lt, ← UInt8.toNat_inj,
        hxbyte, hybyte, ih hx.tail hy.tail hlen', ofDigitChars_cons_zero, ofDigitChars_cons_zero, ← hlen']
      rw [← hlen'] at hys
      -- the leading digits decide unless they are equal
      obtain hlt | heq | hgt := Nat.lt_trichotomy x.toNat y.toNat
      · have hmul : 10 ^ xs.length * (x.toNat - 48 + 1) ≤ 10 ^ xs.length * (y.toNat - 48) :=
          Nat.mul_le_mul_left _ (by omega)
        rw [Nat.mul_add, Nat.mul_one] at hmul
        exact iff_of_true (.inl hlt) (by omega)
      · rw [heq]
        omega
      · have hmul : 10 ^ xs.length * (y.toNat - 48 + 1) ≤ 10 ^ xs.length * (x.toNat - 48) :=
          Nat.mul_le_mul_left _ (by omega)
        rw [Nat.mul_add, Nat.mul_one] at hmul
        exact iff_of_false (by omega) (by omega)

/-! ## Numerals of two lengths -/

theorem ofDigitChars_take {cs : List Char} (h : Digits cs) (k : ℕ) :
    Nat.ofDigitChars 10 (cs.take k) 0 = Nat.ofDigitChars 10 cs 0 / 10 ^ (cs.length - k) := by
  have hdrop : Nat.ofDigitChars 10 (cs.drop k) 0 < 10 ^ (cs.length - k) := by
    rw [← List.length_drop]
    exact ofDigitChars_lt fun c hc => h c (List.mem_of_mem_drop hc)
  have hsplit : Nat.ofDigitChars 10 cs 0 =
      10 ^ (cs.length - k) * Nat.ofDigitChars 10 (cs.take k) 0 + Nat.ofDigitChars 10 (cs.drop k) 0 := by
    conv_lhs => rw [← List.take_append_drop k cs, Nat.ofDigitChars_append, Nat.ofDigitChars_eq_ofDigitChars_zero,
      List.length_drop]
  rw [hsplit, Nat.mul_add_div (by positivity), Nat.div_eq_of_lt hdrop, Nat.add_zero]

theorem length_toDigits_mono {m n : ℕ} (h : m ≤ n) : (Nat.toDigits 10 m).length ≤ (Nat.toDigits 10 n).length := by
  rw [Nat.length_toDigits_le_iff (by norm_num) Nat.length_toDigits_pos]
  have hn := ofDigitChars_lt (digits_toDigits n)
  rw [Nat.ofDigitChars_ten_toDigits] at hn
  omega

/-- `n` cut to the number of digits of `m`. -/
def leading (m n : ℕ) : ℕ := n / 10 ^ ((Nat.toDigits 10 n).length - (Nat.toDigits 10 m).length)

theorem decimal_le_iff {m n : ℕ} (h : m ≤ n) : decimal m ≤ decimal n ↔ m ≤ leading m n := by
  have hlen := length_toDigits_mono h
  have htake : ((Nat.toDigits 10 n).take (Nat.toDigits 10 m).length).length = (Nat.toDigits 10 m).length := by
    rw [List.length_take, Nat.min_eq_left hlen]
  have hdigits : Digits ((Nat.toDigits 10 n).take (Nat.toDigits 10 m).length) := fun c hc =>
    digits_toDigits n c (List.mem_of_mem_take hc)
  rw [le_iff_le_take (by rwa [decimal_length, decimal_length]), decimal_length, decimal, decimal, ← List.map_take,
    map_toUInt8_le_iff (digits_toDigits m) hdigits htake.symm, ofDigitChars_take (digits_toDigits n),
    Nat.ofDigitChars_ten_toDigits, Nat.ofDigitChars_ten_toDigits]
  rfl

end Libobsbot.Foundations

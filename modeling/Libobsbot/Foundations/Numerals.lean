import Mathlib

/-! # Numerals joined by a separator

A numeral in base at most sixteen determines its number, also with zeros on its left, and holds no
separator; so a joined string determines its parts.
-/

namespace Libobsbot.Foundations
set_option autoImplicit false

/-- The digit a character stands for. -/
def digitValue (c : Char) : ℕ := if c.isDigit then c.toNat - 48 else c.toNat - 87

def valueOf (b : ℕ) (cs : List Char) : ℕ := cs.foldl (fun acc c => b * acc + digitValue c) 0

theorem digitValue_digitChar {n : ℕ} (h : n < 16) : digitValue (Nat.digitChar n) = n := by
  interval_cases n <;> rfl

theorem digitChar_ne_colon {n : ℕ} (h : n < 16) : Nat.digitChar n ≠ ':' := by
  interval_cases n <;> decide

variable {b : ℕ}

theorem valueOf_concat (cs : List Char) (c : Char) :
    valueOf b (cs ++ [c]) = b * valueOf b cs + digitValue c := by
  rw [valueOf, List.foldl_append]
  rfl

theorem valueOf_toDigits (hb : 1 < b) (hb' : b ≤ 16) (n : ℕ) :
    valueOf b (Nat.toDigits b n) = n := by
  induction n using Nat.strongRecOn with
  | ind n ih =>
    rw [Nat.toDigits_eq_if hb]
    by_cases hn : n < b
    · rw [if_pos hn, ← List.nil_append [_], valueOf_concat, digitValue_digitChar (by omega)]
      exact Nat.zero_add n
    · have hlt : n / b < n := Nat.div_lt_self (by omega) hb
      have hmod : n % b < b := Nat.mod_lt n (by omega)
      rw [if_neg hn, valueOf_concat, ih _ hlt, digitValue_digitChar (by omega)]
      exact Nat.div_add_mod n b

theorem valueOf_leftpad (k : ℕ) (cs : List Char) :
    valueOf b (List.leftpad k '0' cs) = valueOf b cs := by
  have hzeros : ∀ j : ℕ,
      (List.replicate j '0').foldl (fun acc c => b * acc + digitValue c) 0 = 0 := by
    intro j
    induction j with
    | zero => rfl
    | succ j ih =>
      rw [List.replicate_succ, List.foldl_cons]
      exact ih
  rw [valueOf, List.leftpad, List.foldl_append, hzeros]
  rfl

theorem colon_notMem_toDigits (hb : 1 < b) (hb' : b ≤ 16) (n : ℕ) :
    ':' ∉ Nat.toDigits b n := by
  induction n using Nat.strongRecOn with
  | ind n ih =>
    rw [Nat.toDigits_eq_if hb]
    by_cases hn : n < b
    · rw [if_pos hn, List.mem_singleton]
      exact (digitChar_ne_colon (by omega)).symm
    · have hlt : n / b < n := Nat.div_lt_self (by omega) hb
      have hmod : n % b < b := Nat.mod_lt n (by omega)
      rw [if_neg hn, List.mem_append, List.mem_singleton]
      exact not_or.mpr ⟨ih _ hlt, (digitChar_ne_colon (by omega)).symm⟩

theorem colon_notMem_leftpad {k : ℕ} {cs : List Char} (h : ':' ∉ cs) :
    ':' ∉ List.leftpad k '0' cs := by
  rw [List.leftpad, List.mem_append]
  refine not_or.mpr ⟨fun hmem => ?_, h⟩
  exact absurd (List.eq_of_mem_replicate hmem) (by decide)

theorem notMem_toDigits {c : Char} (hc : c.isDigit = false) (n : ℕ) : c ∉ Nat.toDigits 10 n := by
  intro hmem
  have hdigit := Nat.isDigit_of_mem_toDigits (by norm_num) (by norm_num) hmem
  rw [hc] at hdigit
  cases hdigit

theorem le_ofDigitChars (cs : List Char) (acc : ℕ) : acc ≤ Nat.ofDigitChars 10 cs acc := by
  rw [Nat.ofDigitChars_eq_ofDigitChars_zero]
  have hpow : 1 ≤ 10 ^ cs.length := Nat.one_le_two_pow.trans (Nat.pow_le_pow_left (by norm_num) _)
  calc acc = 1 * acc := (one_mul acc).symm
    _ ≤ 10 ^ cs.length * acc := Nat.mul_le_mul_right acc hpow
    _ ≤ _ := Nat.le_add_right _ _

/-- What stands before the first separator and what stands after it. -/
theorem append_sep_inj {α : Type} {sep : α} {xs ys as bs : List α} (hx : sep ∉ xs) (hy : sep ∉ ys)
    (h : xs ++ sep :: as = ys ++ sep :: bs) : xs = ys ∧ as = bs := by
  induction xs generalizing ys with
  | nil =>
    cases ys with
    | nil => exact ⟨rfl, (List.cons.inj h).2⟩
    | cons y ys => exact absurd ((List.cons.inj h).1 ▸ List.mem_cons_self) hy
  | cons x xs ih =>
    cases ys with
    | nil => exact absurd ((List.cons.inj h).1 ▸ List.mem_cons_self) hx
    | cons y ys =>
      obtain ⟨rfl, hrest⟩ := List.cons.inj h
      obtain ⟨rfl, rfl⟩ := ih (fun hm => hx (List.mem_cons_of_mem _ hm))
        (fun hm => hy (List.mem_cons_of_mem _ hm)) hrest
      exact ⟨rfl, rfl⟩

end Libobsbot.Foundations

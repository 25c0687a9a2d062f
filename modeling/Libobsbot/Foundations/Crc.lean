import Mathlib

/-! # Reflected cyclic redundancy registers

A register of `w` bits shifts to the right and is combined with a constant `g` when a one falls out. Read from its low
end, with the low bit as the highest coefficient, it is a polynomial over two elements of degree less than `w`, and one
shift is multiplication by `X` modulo `X ^ w + g`. So the register after a message is the remainder of a polynomial
division. A whole chunk of `k` bits can be taken in at once from a table with an entry for each chunk.
-/

namespace Libobsbot.Foundations.Crc
open Polynomial
set_option autoImplicit false

variable {w k : ℕ}

def step (g r : BitVec w) : BitVec w := if r.getLsbD 0 then (r >>> 1) ^^^ g else r >>> 1

/-- A chunk is combined into the low end and shifted out. -/
def feed (g r : BitVec w) (b : BitVec k) : BitVec w := (step g)^[k] (r ^^^ b.setWidth w)

/-! ## By a table -/

theorem step_xor (g r s : BitVec w) : step g (r ^^^ s) = step g r ^^^ step g s := by
  have hpair : (r >>> 1 ^^^ g) ^^^ (s >>> 1 ^^^ g) = r >>> 1 ^^^ s >>> 1 := by
    rw [BitVec.xor_comm (s >>> 1) g, BitVec.xor_assoc, ← BitVec.xor_assoc g g, BitVec.xor_self, BitVec.zero_xor]
  unfold step
  rw [BitVec.getLsbD_xor, BitVec.ushiftRight_xor_distrib]
  cases r.getLsbD 0 <;> cases s.getLsbD 0
  · rfl
  · exact BitVec.xor_assoc _ _ _
  · simp only [Bool.xor_false, if_true, Bool.false_eq_true, if_false]
    rw [BitVec.xor_assoc, BitVec.xor_comm (s >>> 1) g, ← BitVec.xor_assoc]
  · exact hpair.symm

theorem iterate_step_xor (g r s : BitVec w) (n : ℕ) :
    (step g)^[n] (r ^^^ s) = (step g)^[n] r ^^^ (step g)^[n] s := by
  induction n generalizing r s with
  | zero => rfl
  | succ n ih =>
    rw [Function.iterate_succ_apply, Function.iterate_succ_apply, Function.iterate_succ_apply, step_xor, ih]

/-- As long as zeros fall out, a register only shifts. -/
theorem iterate_step_of_zeros {g r : BitVec w} {n : ℕ} (h : ∀ i < n, r.getLsbD i = false) :
    (step g)^[n] r = r >>> n := by
  induction n with
  | zero => rw [Function.iterate_zero_apply, BitVec.ushiftRight_zero]
  | succ n ih =>
    have hout : (r >>> n).getLsbD 0 = false := by
      rw [BitVec.getLsbD_ushiftRight]
      exact h n (Nat.lt_succ_self n)
    rw [Function.iterate_succ_apply', ih fun i hi => h i (Nat.lt_succ_of_lt hi), step, hout, BitVec.shiftRight_add]
    rfl

def table (g : BitVec w) (i : BitVec k) : BitVec w := (step g)^[k] (i.setWidth w)

/-- The low end of the register and the chunk choose the entry; the rest of the register moves down. -/
theorem feed_eq_table (g r : BitVec w) (b : BitVec k) :
    feed g r b = table g (r.setWidth k ^^^ b) ^^^ r >>> k := by
  have hsplit : r ^^^ b.setWidth w = (r.setWidth k ^^^ b).setWidth w ^^^ (r ^^^ (r.setWidth k).setWidth w) := by
    apply BitVec.eq_of_getLsbD_eq
    intro i hi
    simp only [BitVec.getLsbD_xor, BitVec.getLsbD_setWidth, hi, decide_true, Bool.true_and]
    cases r.getLsbD i <;> cases b.getLsbD i <;> cases decide (i < k) <;> rfl
  have hzeros : ∀ i < k, (r ^^^ (r.setWidth k).setWidth w).getLsbD i = false := by
    intro i hi
    simp only [BitVec.getLsbD_xor, BitVec.getLsbD_setWidth, hi, decide_true, Bool.true_and]
    by_cases hw : i < w
    · rw [decide_eq_true hw, Bool.true_and, Bool.xor_self]
    · rw [BitVec.getLsbD_of_ge r i (by omega), Bool.and_false, Bool.xor_self]
  have hrest : (r ^^^ (r.setWidth k).setWidth w) >>> k = r >>> k := by
    apply BitVec.eq_of_getLsbD_eq
    intro i _
    have hk : ¬ k + i < k := by omega
    simp only [BitVec.getLsbD_ushiftRight, BitVec.getLsbD_xor, BitVec.getLsbD_setWidth, hk, decide_false,
      Bool.false_and, Bool.and_false, Bool.xor_false]
  rw [feed, hsplit, iterate_step_xor, iterate_step_of_zeros hzeros, hrest, table]

/-! ## Bits as polynomials -/

/-- The first bit is the highest coefficient. -/
noncomputable def bitsPoly : List Bool → (ZMod 2)[X]
  | [] => 0
  | b :: bs => (if b then X ^ bs.length else 0) + bitsPoly bs

theorem bitsPoly_append (as bs : List Bool) :
    bitsPoly (as ++ bs) = X ^ bs.length * bitsPoly as + bitsPoly bs := by
  induction as with
  | nil => simp [bitsPoly]
  | cons a as ih =>
    rw [List.cons_append, bitsPoly, bitsPoly, ih, List.length_append]
    cases a
    · simp
    · simp only [if_true]
      ring

theorem bitsPoly_zeros (n : ℕ) : bitsPoly (List.replicate n false) = 0 := by
  induction n with
  | zero => rfl
  | succ n ih => rw [List.replicate_succ, bitsPoly, ih]; rfl

theorem bitsPoly_zipWith_xor {as bs : List Bool} (h : as.length = bs.length) :
    bitsPoly (List.zipWith xor as bs) = bitsPoly as + bitsPoly bs := by
  induction as generalizing bs with
  | nil =>
    obtain rfl := List.length_eq_zero_iff.mp h.symm
    exact (add_zero 0).symm
  | cons a as ih =>
    cases bs with
    | nil => cases h
    | cons b bs =>
      have hlen : as.length = bs.length := Nat.succ.inj h
      have hzip : (List.zipWith xor as bs).length = bs.length := by
        rw [List.length_zipWith, hlen, Nat.min_self]
      have hhead : (if xor a b then X ^ bs.length else 0 : (ZMod 2)[X]) =
          (if a then X ^ bs.length else 0) + if b then X ^ bs.length else 0 := by
        cases a <;> cases b
        · exact (add_zero 0).symm
        · exact (zero_add _).symm
        · exact (add_zero _).symm
        · exact (CharTwo.add_self_eq_zero _).symm
      rw [List.zipWith_cons_cons, bitsPoly, bitsPoly, bitsPoly, hzip, hlen, hhead, ih hlen]
      ring

theorem bitsPoly_map_not (bs : List Bool) :
    bitsPoly (bs.map not) = bitsPoly bs + bitsPoly (List.replicate bs.length true) := by
  rw [← bitsPoly_zipWith_xor (List.length_replicate).symm]
  congr 1
  induction bs with
  | nil => rfl
  | cons b bs ih =>
    rw [List.map_cons, List.length_cons, List.replicate_succ, List.zipWith_cons_cons, ih, Bool.xor_true]

theorem degree_bitsPoly_lt (bs : List Bool) : (bitsPoly bs).degree < bs.length := by
  induction bs with
  | nil => exact degree_zero.trans_lt (WithBot.bot_lt_coe 0)
  | cons b bs ih =>
    have hlt : (bs.length : WithBot ℕ) < ((b :: bs).length : ℕ) := by
      exact_mod_cast Nat.lt_succ_self bs.length
    refine (degree_add_le _ _).trans_lt (max_lt ?_ (ih.trans hlt))
    cases b
    · exact degree_zero.trans_lt (WithBot.bot_lt_coe _)
    · exact (degree_X_pow _).trans_lt hlt

theorem coeff_bitsPoly {bs : List Bool} {i : ℕ} (h : i < bs.length) :
    (bitsPoly bs).coeff (bs.length - 1 - i) = if bs[i] then 1 else 0 := by
  induction bs generalizing i with
  | nil => cases h
  | cons b bs ih =>
    rw [bitsPoly, coeff_add]
    cases i with
    | zero =>
      have htail : (bitsPoly bs).coeff ((b :: bs).length - 1 - 0) = 0 :=
        coeff_eq_zero_of_degree_lt (degree_bitsPoly_lt bs)
      rw [htail, add_zero]
      cases b
      · rfl
      · exact coeff_X_pow_self _
    | succ i =>
      have hi : i < bs.length := Nat.lt_of_succ_lt_succ h
      have hindex : (b :: bs).length - 1 - (i + 1) = bs.length - 1 - i := by
        rw [List.length_cons]
        omega
      have hhead : (if b then X ^ bs.length else 0 : (ZMod 2)[X]).coeff (bs.length - 1 - i) = 0 := by
        cases b
        · rfl
        · rw [if_pos rfl, coeff_X_pow, if_neg (by omega)]
      rw [hindex, hhead, zero_add, ih hi]
      rfl

/-! ## Registers as polynomials -/

def lsbFirst (r : BitVec w) : List Bool := (List.range w).map r.getLsbD

@[simp] theorem lsbFirst_length (r : BitVec w) : (lsbFirst r).length = w := by
  rw [lsbFirst, List.length_map, List.length_range]

theorem lsbFirst_xor (r s : BitVec w) : lsbFirst (r ^^^ s) = List.zipWith xor (lsbFirst r) (lsbFirst s) := by
  unfold lsbFirst
  rw [List.zipWith_map, List.zipWith_self]
  exact List.map_congr_left fun i _ => BitVec.getLsbD_xor

noncomputable def poly (r : BitVec w) : (ZMod 2)[X] := bitsPoly (lsbFirst r)

theorem poly_xor (r s : BitVec w) : poly (r ^^^ s) = poly r + poly s := by
  rw [poly, lsbFirst_xor, bitsPoly_zipWith_xor (by rw [lsbFirst_length, lsbFirst_length]), poly, poly]

/-- A shift to the right multiplies by `X`, but for the bit that falls out. -/
theorem X_mul_poly (r : BitVec w) :
    X * poly r = (if r.getLsbD 0 then X ^ w else 0) + poly (r >>> 1) := by
  cases w with
  | zero =>
    rw [BitVec.getLsbD_of_ge r 0 (Nat.le_refl 0)]
    exact (mul_zero X).trans (zero_add 0).symm
  | succ w =>
    have hbits : lsbFirst r = r.getLsbD 0 :: (List.range w).map fun i => r.getLsbD (i + 1) := by
      rw [lsbFirst, List.range_succ_eq_map, List.map_cons, List.map_map]
      rfl
    have hshifted : lsbFirst (r >>> 1) = ((List.range w).map fun i => r.getLsbD (i + 1)) ++ [false] := by
      rw [lsbFirst, List.range_succ, List.map_append, List.map_singleton, BitVec.getLsbD_ushiftRight,
        BitVec.getLsbD_of_ge r (1 + w) (by omega)]
      congr 1
      refine List.map_congr_left fun i _ => ?_
      rw [BitVec.getLsbD_ushiftRight]
      exact congrArg r.getLsbD (Nat.add_comm 1 i)
    rw [poly, poly, hbits, hshifted, bitsPoly, bitsPoly_append, List.length_map, List.length_range]
    cases r.getLsbD 0
    · simp [bitsPoly]
    · simp [bitsPoly]
      ring

theorem poly_setWidth (b : BitVec k) (h : k ≤ w) : poly (b.setWidth w) = X ^ (w - k) * poly b := by
  obtain ⟨d, rfl⟩ := Nat.exists_eq_add_of_le h
  have hlow : (List.range k).map (b.setWidth (k + d)).getLsbD = lsbFirst b := by
    refine List.map_congr_left fun i hi => ?_
    have hlt := List.mem_range.mp hi
    rw [BitVec.getLsbD_setWidth, decide_eq_true (by omega), Bool.true_and]
  have hhigh : ((List.range d).map (k + ·)).map (b.setWidth (k + d)).getLsbD = List.replicate d false := by
    rw [List.map_map, List.eq_replicate_iff]
    refine ⟨by rw [List.length_map, List.length_range], fun bit hbit => ?_⟩
    obtain ⟨i, -, rfl⟩ := List.mem_map.mp hbit
    show (b.setWidth (k + d)).getLsbD (k + i) = false
    rw [BitVec.getLsbD_setWidth, BitVec.getLsbD_of_ge b (k + i) (by omega), Bool.and_false]
  rw [poly, lsbFirst, List.range_add, List.map_append, hlow, hhigh, bitsPoly_append, bitsPoly_zeros,
    List.length_replicate, add_zero, Nat.add_sub_cancel_left, poly]

theorem degree_poly_lt (r : BitVec w) : (poly r).degree < w := by
  have h := degree_bitsPoly_lt (lsbFirst r)
  rwa [lsbFirst_length] at h

theorem coeff_poly (r : BitVec w) {i : ℕ} (h : i < w) :
    (poly r).coeff (w - 1 - i) = if r.getLsbD i then 1 else 0 := by
  have hcoeff := coeff_bitsPoly (h.trans_eq (lsbFirst_length r).symm)
  simp only [lsbFirst_length] at hcoeff
  rw [poly, hcoeff]
  simp only [lsbFirst, List.getElem_map, List.getElem_range]

/-! ## Remainders -/

noncomputable def generator (g : BitVec w) : (ZMod 2)[X] := X ^ w + poly g

theorem generator_monic (g : BitVec w) : (generator g).Monic := monic_X_pow_add (degree_poly_lt g)

theorem degree_generator (g : BitVec w) : (generator g).degree = w := by
  have hlt : (poly g).degree < (X ^ w : (ZMod 2)[X]).degree := by
    rw [degree_X_pow]
    exact degree_poly_lt g
  rw [generator, degree_add_eq_left_of_degree_lt hlt, degree_X_pow]

/-- The polynomial of a register as a residue. -/
noncomputable def residue (g r : BitVec w) : AdjoinRoot (generator g) := AdjoinRoot.mk _ (poly r)

theorem X_mul_poly_step (g r : BitVec w) :
    X * poly r = poly (step g r) + if r.getLsbD 0 then generator g else 0 := by
  rw [X_mul_poly, step]
  cases r.getLsbD 0 with
  | false =>
    simp only [Bool.false_eq_true, if_false, zero_add, add_zero]
  | true =>
    simp only [if_true]
    rw [poly_xor, generator]
    have htwo := CharTwo.add_self_eq_zero (poly g)
    linear_combination -htwo

theorem residue_step (g r : BitVec w) : residue g (step g r) = AdjoinRoot.root _ * residue g r := by
  have h := congrArg (AdjoinRoot.mk (generator g)) (X_mul_poly_step g r)
  rw [map_mul, AdjoinRoot.mk_X, map_add] at h
  have hzero : AdjoinRoot.mk (generator g) (if r.getLsbD 0 then generator g else 0) = 0 := by
    cases r.getLsbD 0
    · exact map_zero _
    · exact AdjoinRoot.mk_self
  rw [hzero, add_zero] at h
  exact h.symm

theorem residue_iterate_step (g r : BitVec w) (n : ℕ) :
    residue g ((step g)^[n] r) = AdjoinRoot.root _ ^ n * residue g r := by
  induction n with
  | zero => rw [Function.iterate_zero_apply, pow_zero, one_mul]
  | succ n ih => rw [Function.iterate_succ_apply', residue_step, ih, pow_succ', mul_assoc]

theorem residue_feed (g r : BitVec w) (b : BitVec k) (h : k ≤ w) : residue g (feed g r b) =
    AdjoinRoot.root _ ^ k * residue g r + AdjoinRoot.root _ ^ w * AdjoinRoot.mk _ (poly b) := by
  have hpow : AdjoinRoot.root (generator g) ^ k * AdjoinRoot.root (generator g) ^ (w - k) =
      AdjoinRoot.root (generator g) ^ w := by rw [← pow_add, Nat.add_sub_cancel' h]
  rw [feed, residue_iterate_step, residue, poly_xor, map_add, poly_setWidth b h, map_mul, map_pow, AdjoinRoot.mk_X,
    mul_add, ← mul_assoc, hpow, residue]

/-- The bits of a message, each chunk from its low end. -/
def messageBits (chunks : List (BitVec k)) : List Bool := chunks.flatMap lsbFirst

theorem residue_foldl_feed (g r : BitVec w) (chunks : List (BitVec k)) (h : k ≤ w) :
    residue g (chunks.foldl (feed g) r) = AdjoinRoot.root _ ^ (messageBits chunks).length * residue g r +
      AdjoinRoot.root _ ^ w * AdjoinRoot.mk _ (bitsPoly (messageBits chunks)) := by
  induction chunks generalizing r with
  | nil =>
    show residue g r = AdjoinRoot.root _ ^ 0 * residue g r + AdjoinRoot.root _ ^ w * AdjoinRoot.mk _ 0
    rw [pow_zero, one_mul, map_zero, mul_zero, add_zero]
  | cons b chunks ih =>
    have hbits : messageBits (b :: chunks) = lsbFirst b ++ messageBits chunks := List.flatMap_cons
    rw [List.foldl_cons, ih, residue_feed g r b h, hbits, bitsPoly_append, List.length_append, lsbFirst_length,
      map_add, map_mul, map_pow, AdjoinRoot.mk_X, pow_add, poly]
    ring

/-- The first `n` bits complemented. -/
def complementFirst (n : ℕ) (bs : List Bool) : List Bool := (bs.take n).map not ++ bs.drop n

theorem bitsPoly_complementFirst {n : ℕ} {bs : List Bool} (h : n ≤ bs.length) :
    bitsPoly (complementFirst n bs) = bitsPoly bs + X ^ (bs.length - n) * bitsPoly (List.replicate n true) := by
  have hbs : bitsPoly bs = X ^ (bs.drop n).length * bitsPoly (bs.take n) + bitsPoly (bs.drop n) := by
    rw [← bitsPoly_append, List.take_append_drop]
  rw [complementFirst, bitsPoly_append, bitsPoly_map_not, List.length_take, Nat.min_eq_left h, hbs,
    List.length_drop]
  ring

/-- A register that starts with ones holds, after the message, the remainder of the message with `w` zeros after it and
its first `w` bits complemented. -/
theorem poly_foldl_feed (g : BitVec w) (chunks : List (BitVec k)) (h : k ≤ w) :
    poly (chunks.foldl (feed g) (BitVec.allOnes w)) =
      bitsPoly (complementFirst w (messageBits chunks ++ List.replicate w false)) %ₘ generator g := by
  have hones : poly (BitVec.allOnes w) = bitsPoly (List.replicate w true) := by
    rw [poly, lsbFirst]
    congr 1
    rw [List.eq_replicate_iff]
    refine ⟨by rw [List.length_map, List.length_range], fun bit hbit => ?_⟩
    obtain ⟨i, hi, rfl⟩ := List.mem_map.mp hbit
    rw [BitVec.getLsbD_allOnes, decide_eq_true (List.mem_range.mp hi)]
  have hlen : w ≤ (messageBits chunks ++ List.replicate w false).length := by
    rw [List.length_append, List.length_replicate]
    omega
  have hresidue := residue_foldl_feed g (BitVec.allOnes w) chunks h
  have hsame : AdjoinRoot.mk (generator g)
      (bitsPoly (complementFirst w (messageBits chunks ++ List.replicate w false))) =
      AdjoinRoot.mk (generator g) (poly (chunks.foldl (feed g) (BitVec.allOnes w))) := by
    rw [bitsPoly_complementFirst hlen, bitsPoly_append, bitsPoly_zeros, List.length_append, List.length_replicate,
      Nat.add_sub_cancel, add_zero, map_add, map_mul, map_mul, map_pow, map_pow, AdjoinRoot.mk_X, ← hones]
    rw [residue, residue] at hresidue
    rw [hresidue]
    ring
  rw [modByMonic_eq_of_dvd_sub (generator_monic g) (AdjoinRoot.mk_eq_mk.mp hsame)]
  refine ((modByMonic_eq_self_iff (generator_monic g)).mpr ?_).symm
  rw [degree_generator]
  exact degree_poly_lt _

end Libobsbot.Foundations.Crc

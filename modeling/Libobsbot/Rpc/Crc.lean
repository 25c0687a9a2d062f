import Libobsbot.Foundations.Crc
import Libobsbot.Source.Meet2

/-! # CRC-16/USB by its two references

The loop of `crc16_usb`, the two-table iteration of the vendor's `calc_crc16`
(`doc/protocol/meet2/crc-investigation.md`), and the division of polynomials that both stand for.
-/

namespace Libobsbot.Meet2
open Foundations Crc Polynomial
set_option autoImplicit false

/-! ## The loop as a reflected register -/

def crcConstant : BitVec 16 := 0xA001#16

theorem and_one_ne_zero_iff (crc : UInt16) : crc &&& 1 ≠ 0 ↔ crc.toBitVec.getLsbD 0 = true := by
  rw [← BitVec.testBit_toNat, Nat.testBit_zero, decide_eq_true_iff, ne_eq, ← UInt16.toNat_inj, UInt16.toNat_and]
  show ¬ crc.toNat &&& 1 = 0 ↔ crc.toNat % 2 = 1
  rw [Nat.and_one_is_mod]
  omega

theorem crcBit_toBitVec (crc : UInt16) : (crcBit crc).toBitVec = step crcConstant crc.toBitVec := by
  unfold crcBit step
  by_cases h : crc &&& 1 ≠ 0
  · rw [if_pos h, if_pos ((and_one_ne_zero_iff crc).mp h)]
    rfl
  · rw [if_neg h, if_neg fun hbit => h ((and_one_ne_zero_iff crc).mpr hbit)]
    rfl

theorem iterate_crcBit_toBitVec (crc : UInt16) (n : ℕ) :
    (crcBit^[n] crc).toBitVec = (step crcConstant)^[n] crc.toBitVec := by
  induction n with
  | zero => rfl
  | succ n ih => rw [Function.iterate_succ_apply', Function.iterate_succ_apply', crcBit_toBitVec, ih]

theorem crcByte_toBitVec (crc : UInt16) (b : UInt8) :
    (crcByte crc b).toBitVec = feed crcConstant crc.toBitVec b.toBitVec := by
  rw [crcByte, iterate_crcBit_toBitVec]
  rfl

theorem foldl_crcByte_toBitVec (data : List UInt8) (crc : UInt16) : (data.foldl crcByte crc).toBitVec =
    (data.map UInt8.toBitVec).foldl (feed crcConstant) crc.toBitVec := by
  induction data generalizing crc with
  | nil => rfl
  | cons b data ih => rw [List.foldl_cons, List.map_cons, List.foldl_cons, ih, crcByte_toBitVec]

/-! ## The two tables -/

def crcTable (i : UInt8) : UInt16 := crcBit^[8] i.toUInt16

/-- The low-order byte of an entry. -/
def highTab (i : UInt8) : UInt8 := (crcTable i).toUInt8

/-- The high-order byte of an entry. -/
def lowTab (i : UInt8) : UInt8 := (crcTable i >>> 8).toUInt8

structure CrcBytes where
  crcLo : UInt8
  crcHi : UInt8

namespace CrcBytes

def ofRegister (crc : UInt16) : CrcBytes := ⟨crc.toUInt8, (crc >>> 8).toUInt8⟩

def register (s : CrcBytes) : UInt16 := ⟨s.crcHi.toBitVec ++ s.crcLo.toBitVec⟩

def next (s : CrcBytes) (b : UInt8) : CrcBytes :=
  let index := s.crcLo ^^^ b
  ⟨s.crcHi ^^^ highTab index, lowTab index⟩

end CrcBytes

def calcCrc16 (init : UInt16) (data : List UInt8) : UInt16 :=
  ~~~ (data.foldl CrcBytes.next (CrcBytes.ofRegister (~~~ init))).register

theorem crcTable_toBitVec (i : UInt8) : (crcTable i).toBitVec = table crcConstant i.toBitVec := by
  rw [crcTable, iterate_crcBit_toBitVec]
  rfl

theorem getLsbD_register (s : CrcBytes) (i : ℕ) : s.register.toBitVec.getLsbD i =
    if i < 8 then s.crcLo.toBitVec.getLsbD i else s.crcHi.toBitVec.getLsbD (i - 8) := BitVec.getLsbD_append

theorem getLsbD_highTab (i : UInt8) (j : ℕ) : (highTab i).toBitVec.getLsbD j =
    (decide (j < 8) && (table crcConstant i.toBitVec).getLsbD j) := by
  show ((crcTable i).toBitVec.setWidth 8).getLsbD j = _
  rw [crcTable_toBitVec, BitVec.getLsbD_setWidth]

theorem getLsbD_lowTab (i : UInt8) (j : ℕ) : (lowTab i).toBitVec.getLsbD j =
    (decide (j < 8) && (table crcConstant i.toBitVec).getLsbD (8 + j)) := by
  show (((crcTable i).toBitVec >>> 8).setWidth 8).getLsbD j = _
  rw [crcTable_toBitVec, BitVec.getLsbD_setWidth, BitVec.getLsbD_ushiftRight]

theorem register_next (s : CrcBytes) (b : UInt8) : (s.next b).register = crcByte s.register b := by
  apply UInt16.toBitVec_inj.mp
  have hlow : s.register.toBitVec.setWidth 8 = s.crcLo.toBitVec := by
    apply BitVec.eq_of_getLsbD_eq
    intro i hi
    rw [BitVec.getLsbD_setWidth, getLsbD_register, if_pos hi, decide_eq_true hi, Bool.true_and]
  rw [crcByte_toBitVec, feed_eq_table, hlow]
  apply BitVec.eq_of_getLsbD_eq
  intro i hi
  rw [getLsbD_register, BitVec.getLsbD_xor, BitVec.getLsbD_ushiftRight, getLsbD_register,
    if_neg (show ¬ 8 + i < 8 by omega), Nat.add_sub_cancel_left]
  by_cases hlo : i < 8
  · rw [if_pos hlo]
    show (s.crcHi.toBitVec ^^^ (highTab (s.crcLo ^^^ b)).toBitVec).getLsbD i = _
    rw [BitVec.getLsbD_xor, getLsbD_highTab, decide_eq_true hlo, Bool.true_and, Bool.xor_comm]
    rfl
  · rw [if_neg hlo, BitVec.getLsbD_of_ge s.crcHi.toBitVec i (by omega), Bool.xor_false]
    show (lowTab (s.crcLo ^^^ b)).toBitVec.getLsbD (i - 8) = _
    rw [getLsbD_lowTab, decide_eq_true (by omega), Bool.true_and, Nat.add_sub_cancel' (by omega)]
    rfl

theorem foldl_next_register (data : List UInt8) (s : CrcBytes) :
    (data.foldl CrcBytes.next s).register = data.foldl crcByte s.register := by
  induction data generalizing s with
  | nil => rfl
  | cons b data ih => rw [List.foldl_cons, List.foldl_cons, ih, register_next]

theorem crc16Usb_eq_calcCrc16 (data : List UInt8) : crc16Usb data = calcCrc16 0 data := by
  have hinit : (CrcBytes.ofRegister (~~~ 0)).register = 0xFFFF := by decide
  rw [calcCrc16, foldl_next_register, hinit, crc16Usb]

/-! ## The division -/

/-- The message with sixteen zeros after it and its first sixteen bits complemented. -/
def dividend (data : List UInt8) : List Bool :=
  complementFirst 16 (messageBits (data.map UInt8.toBitVec) ++ List.replicate 16 false)

noncomputable def usbPolynomial : (ZMod 2)[X] := X ^ 16 + X ^ 15 + X ^ 2 + 1

theorem generator_crcConstant : generator crcConstant = usbPolynomial := by
  have hbits : lsbFirst crcConstant =
      [true] ++ List.replicate 12 false ++ [true] ++ [false] ++ [true] := by decide
  rw [generator, poly, hbits, bitsPoly_append, bitsPoly_append, bitsPoly_append, bitsPoly_append, bitsPoly_zeros]
  simp [bitsPoly, usbPolynomial]
  ring

theorem getLsbD_crc16Usb (data : List UInt8) {i : ℕ} (h : i < 16) : (crc16Usb data).toBitVec.getLsbD i = true ↔
    (bitsPoly (dividend data) %ₘ usbPolynomial).coeff (15 - i) = 0 := by
  have hregister : poly (data.foldl crcByte 0xFFFF).toBitVec = bitsPoly (dividend data) %ₘ usbPolynomial := by
    rw [foldl_crcByte_toBitVec, ← generator_crcConstant]
    exact poly_foldl_feed crcConstant _ (by norm_num)
  have hcomplement : (crc16Usb data).toBitVec.getLsbD i = !(data.foldl crcByte 0xFFFF).toBitVec.getLsbD i := by
    rw [crc16Usb, UInt16.toBitVec_not, BitVec.getLsbD_not, decide_eq_true h, Bool.true_and]
  rw [← hregister, hcomplement]
  have hcoeff := coeff_poly (data.foldl crcByte 0xFFFF).toBitVec h
  rw [show 16 - 1 - i = 15 - i from rfl] at hcoeff
  rw [hcoeff]
  cases (data.foldl crcByte 0xFFFF).toBitVec.getLsbD i <;> simp

/-- The checksum by the vendor's two tables, and by division: its bits are those of the remainder, reversed and
complemented. -/
theorem crc16Usb_by_references (data : List UInt8) :
    (crcTable 1 = 0xC0C1 ∧ crc16Usb data = calcCrc16 0 data) ∧
    ∀ i : Fin 16, (crc16Usb data).toBitVec.getLsbD i = true ↔
      (bitsPoly (dividend data) %ₘ (X ^ 16 + X ^ 15 + X ^ 2 + 1)).coeff (15 - i) = 0 :=
  ⟨⟨by decide, crc16Usb_eq_calcCrc16 data⟩, fun i => getLsbD_crc16Usb data i.isLt⟩

example : crc16Usb [0x31, 0x32, 0x33, 0x34, 0x35, 0x36, 0x37, 0x38, 0x39] = 0xB4C8 := by decide +kernel

end Libobsbot.Meet2

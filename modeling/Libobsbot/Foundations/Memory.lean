import Mathlib

/-! # Memory written in runs

A memory gives every address a cell; a write puts a list of cells from an address on and leaves the rest. Writes that
continue one another are one write, so a structure that is zeroed and then filled field by field is a single write of
all its fields. A C string is a run of nonzero cells with a zero behind it.
-/

namespace Libobsbot.Foundations
set_option autoImplicit false

abbrev Memory (β : Type) : Type := ℕ → β

namespace Memory
variable {β : Type} {m : Memory β} {addr : ℕ} {bytes : List β}

def write (m : Memory β) (addr : ℕ) (bytes : List β) : Memory β := fun a =>
  if addr ≤ a then bytes.getD (a - addr) (m a) else m a

def read (m : Memory β) (addr len : ℕ) : List β := (List.range len).map fun i => m (addr + i)

/-- The writes in order. -/
def writeAll (m : Memory β) (outputs : List (ℕ × List β)) : Memory β :=
  outputs.foldl (fun m output => m.write output.1 output.2) m

/-! ## One write -/

theorem write_outside {a : ℕ} (h : a < addr ∨ addr + bytes.length ≤ a) : m.write addr bytes a = m a := by
  unfold write
  split
  · exact List.getD_eq_default _ _ (by omega)
  · rfl

theorem write_inside {i : ℕ} (h : i < bytes.length) : m.write addr bytes (addr + i) = bytes[i] := by
  unfold write
  rw [if_pos (by omega), Nat.add_sub_cancel_left, List.getD_eq_getElem _ _ h]

/-- Where an address stands to a written run. -/
theorem address_cases (addr a : ℕ) : a < addr ∨ ∃ i, a = addr + i := by
  obtain h | h := Nat.lt_or_ge a addr
  · exact .inl h
  · exact .inr (Nat.exists_eq_add_of_le h)

/-- A write that starts where another ends continues it. -/
theorem write_write (first second : List β) :
    (m.write addr first).write (addr + first.length) second = m.write addr (first ++ second) := by
  funext a
  have hlen : (first ++ second).length = first.length + second.length := List.length_append
  obtain hlow | ⟨i, rfl⟩ := address_cases addr a
  · rw [write_outside (by omega), write_outside (.inl hlow), write_outside (.inl hlow)]
  obtain hfirst | ⟨j, rfl⟩ := address_cases first.length i
  · rw [write_outside (.inl (by omega)), write_inside hfirst, write_inside (by omega), List.getElem_append_left hfirst]
  by_cases hsecond : j < second.length
  · rw [← Nat.add_assoc, write_inside hsecond, Nat.add_assoc, write_inside (by omega),
      List.getElem_append_right (by omega)]
    simp only [Nat.add_sub_cancel_left]
  · rw [write_outside (.inr (by omega)), write_outside (.inr (by omega)), write_outside (.inr (by omega))]

/-- Of an earlier write at the same address there remains what the later one does not reach. -/
theorem write_again (first second : List β) :
    (m.write addr first).write addr second = m.write addr (second ++ first.drop second.length) := by
  funext a
  have hlen : (second ++ first.drop second.length).length = second.length + (first.length - second.length) := by
    rw [List.length_append, List.length_drop]
  obtain hlow | ⟨i, rfl⟩ := address_cases addr a
  · rw [write_outside (.inl hlow), write_outside (.inl hlow), write_outside (.inl hlow)]
  obtain hsecond | ⟨j, rfl⟩ := address_cases second.length i
  · rw [write_inside hsecond, write_inside (by omega), List.getElem_append_left hsecond]
  rw [write_outside (.inr (by omega))]
  by_cases hfirst : second.length + j < first.length
  · rw [write_inside hfirst, write_inside (by omega), List.getElem_append_right (by omega)]
    simp only [List.getElem_drop, Nat.add_sub_cancel_left]
  · rw [write_outside (.inr (by omega)), write_outside (.inr (by omega))]

/-- The next part of a run that was filled with one value up to its end. -/
theorem write_next {a rest : ℕ} {z : β} (filled : List β) (haddr : a = addr + filled.length) :
    (m.write addr (filled ++ List.replicate rest z)).write a bytes =
      m.write addr ((filled ++ bytes) ++ List.replicate (rest - bytes.length) z) := by
  rw [haddr, ← write_write, write_again, List.drop_replicate, write_write, List.append_assoc]

/-! ## Reading back -/

theorem read_length (m : Memory β) (addr len : ℕ) : (m.read addr len).length = len := by
  rw [read, List.length_map, List.length_range]

theorem read_part {before after : List β} {a len : ℕ} (haddr : a = addr + before.length) (hlen : bytes.length = len) :
    (m.write addr (before ++ bytes ++ after)).read a len = bytes := by
  subst haddr hlen
  apply List.ext_getElem (read_length _ _ _)
  intro i _ hi
  simp only [read, List.getElem_map, List.getElem_range]
  rw [Nat.add_assoc, write_inside (by simp only [List.length_append]; omega), List.getElem_append_left (by
    rw [List.length_append]; omega), List.getElem_append_right (by omega)]
  simp only [Nat.add_sub_cancel_left]

theorem read_write : (m.write addr bytes).read addr bytes.length = bytes := by
  have h := @read_part β m addr bytes [] [] addr bytes.length rfl rfl
  rwa [List.nil_append, List.append_nil] at h

/-! ## C strings -/

def IsCString [Zero β] (m : Memory β) (addr : ℕ) (s : List β) : Prop :=
  (∀ b ∈ s, b ≠ 0) ∧ m.read addr (s.length + 1) = s ++ [0]

end Memory
end Libobsbot.Foundations

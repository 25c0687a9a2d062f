import Mathlib.Logic.Function.Basic
import Mathlib.Data.List.Basic

/-! # A record laid out in a store

A record has a value of its own type at each key. In a store it lies spread over cells, each value encoded in a cell
of its own, and only values that a key admits are ever there. Writing one value of the record is writing one cell.
-/

namespace Libobsbot.Foundations
set_option autoImplicit false

structure Layout (K : Type) (V : K → Type) (C B : Type) where
  cell : K → C
  cell_injective : Function.Injective cell
  encode : (k : K) → V k → B
  Admits : (k : K) → V k → Prop

namespace Layout
variable {K C B : Type} {V : K → Type} (layout : Layout K V C B)

/-- The store shows the record. -/
def Holds (store : C → B) (record : (k : K) → V k) : Prop :=
  ∀ k, store (layout.cell k) = layout.encode k (record k) ∧ layout.Admits k (record k)

variable {layout} {store : C → B} {record : (k : K) → V k}

theorem Holds.encoded (h : layout.Holds store record) (k : K) :
    store (layout.cell k) = layout.encode k (record k) := (h k).1

theorem Holds.admits (h : layout.Holds store record) (k : K) : layout.Admits k (record k) := (h k).2

variable [DecidableEq K] [DecidableEq C]

/-- Several values written one after the other. -/
def setAll (record : (k : K) → V k) (changes : List ((k : K) × V k)) : (k : K) → V k :=
  changes.foldl (fun record change => Function.update record change.1 change.2) record

variable (layout)

/-- The same in the store. -/
def writeAll (store : C → B) (changes : List ((k : K) × V k)) : C → B :=
  changes.foldl
    (fun store change => Function.update store (layout.cell change.1) (layout.encode change.1 change.2)) store

variable {layout}

theorem Holds.update (h : layout.Holds store record) {k : K} {v : V k} (hv : layout.Admits k v) :
    layout.Holds (Function.update store (layout.cell k) (layout.encode k v)) (Function.update record k v) := by
  intro j
  by_cases hj : j = k
  · subst hj
    rw [Function.update_self, Function.update_self]
    exact ⟨rfl, hv⟩
  · have hcell : layout.cell j ≠ layout.cell k := fun he => hj (layout.cell_injective he)
    rw [Function.update_of_ne hcell, Function.update_of_ne hj]
    exact h j

theorem Holds.setAll (h : layout.Holds store record) {changes : List ((k : K) × V k)}
    (hv : ∀ change ∈ changes, layout.Admits change.1 change.2) :
    layout.Holds (layout.writeAll store changes) (Layout.setAll record changes) := by
  induction changes generalizing store record with
  | nil => exact h
  | cons change changes ih =>
    have hfirst := h.update (hv change (by simp))
    exact ih hfirst fun other hmem => hv other (by simp [hmem])

end Layout
end Libobsbot.Foundations

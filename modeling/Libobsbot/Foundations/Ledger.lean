import Mathlib

/-! # Ledgers of additions and removals

A log of keys added and removed. `Ledger log present` reads the log from its start: a key is added only
while absent and removed only while present, and `present` is what is there at the end. Whatever the
keys are, each key's own history then alternates, and additions exceed removals by what is present.
-/

namespace Libobsbot.Foundations
set_option autoImplicit false

inductive Entry (K : Type) where
  | added (key : K)
  | removed (key : K)
  deriving DecidableEq

namespace Entry
variable {K : Type}

def key : Entry K → K
  | .added k => k
  | .removed k => k

def isAdded : Entry K → Bool
  | .added _ => true
  | .removed _ => false

end Entry

variable {K : Type} [DecidableEq K]

inductive Ledger : List (Entry K) → Finset K → Prop
  | nil : Ledger [] ∅
  | added {log : List (Entry K)} {present : Finset K} {k : K} (rest : Ledger log present)
      (absent : k ∉ present) : Ledger (log ++ [.added k]) (insert k present)
  | removed {log : List (Entry K)} {present : Finset K} {k : K} (rest : Ledger log present)
      (here : k ∈ present) : Ledger (log ++ [.removed k]) (present.erase k)

/-- The first `n` entries of added, removed, added, … of one key. -/
def alternation (k : K) : ℕ → List (Entry K)
  | 0 => []
  | n + 1 => alternation k n ++ [if Even n then .added k else .removed k]

def history (k : K) (log : List (Entry K)) : List (Entry K) := log.filter fun e => e.key = k

namespace Ledger
variable {log : List (Entry K)} {present : Finset K}

/-- Every key's own entries alternate from an addition, and end in one iff the key is present. -/
theorem history_eq (h : Ledger log present) (k : K) :
    ∃ n, history k log = alternation k n ∧ (Odd n ↔ k ∈ present) := by
  induction h with
  | nil => exact ⟨0, rfl, by simp⟩
  | @added log present j _ absent ih =>
    obtain ⟨n, hn, hodd⟩ := ih
    by_cases hj : j = k
    · subst hj
      have heven : Even n := by
        rw [← Nat.not_odd_iff_even, hodd]
        exact absent
      refine ⟨n + 1, ?_, ?_⟩
      · simp [history, alternation, heven, ← hn, Entry.key]
      · simp [heven.add_one]
    · refine ⟨n, ?_, ?_⟩
      · simp [history, ← hn, Entry.key, hj]
      · simp [hodd, Ne.symm hj]
  | @removed log present j _ here ih =>
    obtain ⟨n, hn, hodd⟩ := ih
    by_cases hj : j = k
    · subst hj
      have hodd' : Odd n := hodd.mpr here
      have hne : ¬ Even n := Nat.not_even_iff_odd.mpr hodd'
      refine ⟨n + 1, ?_, ?_⟩
      · simp [history, alternation, hne, ← hn, Entry.key]
      · simp [Nat.not_odd_iff_even.mpr hodd'.add_one]
    · refine ⟨n, ?_, ?_⟩
      · simp [history, ← hn, Entry.key, hj]
      · simp [hodd, Ne.symm hj]

/-- One more addition than removal of a key iff it is present, else as many. -/
theorem count_eq (h : Ledger log present) (k : K) :
    log.count (.added k) = log.count (.removed k) + if k ∈ present then 1 else 0 := by
  induction h with
  | nil => rfl
  | @added log present j _ absent ih =>
    by_cases hj : j = k
    · subst hj
      simp [List.count_append, ih, absent]
    · simp [List.count_append, ih, hj, Ne.symm hj]
  | @removed log present j _ here ih =>
    by_cases hj : j = k
    · subst hj
      simp [List.count_append, ih, here]
    · simp [List.count_append, ih, hj, Ne.symm hj]

theorem total_eq (h : Ledger log present) :
    log.countP Entry.isAdded = log.countP (fun e => !e.isAdded) + present.card := by
  induction h with
  | nil => rfl
  | @added log present j _ absent ih =>
    simp [List.countP_append, ih, Entry.isAdded, Finset.card_insert_of_notMem absent, Nat.add_assoc]
  | @removed log present j _ here ih =>
    have hpos : 0 < present.card := Finset.card_pos.mpr ⟨j, here⟩
    simp [List.countP_append, ih, Entry.isAdded, Finset.card_erase_of_mem here]
    omega

theorem prefix_ledger {log' : List (Entry K)} (h : Ledger log present) (hp : log' <+: log) :
    ∃ present', Ledger log' present' := by
  induction h with
  | nil =>
    rw [List.prefix_nil] at hp
    subst hp
    exact ⟨∅, .nil⟩
  | added rest absent ih =>
    rcases List.prefix_concat_iff.mp hp with rfl | hp
    · exact ⟨_, .added rest absent⟩
    · exact ih hp
  | removed rest here ih =>
    rcases List.prefix_concat_iff.mp hp with rfl | hp
    · exact ⟨_, .removed rest here⟩
    · exact ih hp

/-! ## Batches -/

theorem added_all (h : Ledger log present) {ks : List K} (hnodup : ks.Nodup)
    (habsent : ∀ k ∈ ks, k ∉ present) :
    Ledger (log ++ ks.map .added) (present ∪ ks.toFinset) := by
  induction ks generalizing log present with
  | nil => simpa using h
  | cons k ks ih =>
    obtain ⟨hk, hks⟩ := List.nodup_cons.mp hnodup
    have hstep := h.added (habsent k (by simp))
    have hrest := ih hstep hks (fun j hj => by
      have hne : j ≠ k := fun he => hk (he ▸ hj)
      simp [hne, habsent j (by simp [hj])])
    have hset : present ∪ (k :: ks).toFinset = insert k present ∪ ks.toFinset := by
      ext j
      simp only [Finset.mem_union, Finset.mem_insert, List.mem_toFinset, List.mem_cons]
      tauto
    rw [hset]
    simpa using hrest

theorem removed_all (h : Ledger log present) {ks : List K} (hnodup : ks.Nodup)
    (hhere : ∀ k ∈ ks, k ∈ present) :
    Ledger (log ++ ks.map .removed) (present \ ks.toFinset) := by
  induction ks generalizing log present with
  | nil => simpa using h
  | cons k ks ih =>
    obtain ⟨hk, hks⟩ := List.nodup_cons.mp hnodup
    have hstep := h.removed (hhere k (by simp))
    have hrest := ih hstep hks (fun j hj => by
      have hne : j ≠ k := fun he => hk (he ▸ hj)
      simp [hne, hhere j (by simp [hj])])
    have hset : present \ (k :: ks).toFinset = present.erase k \ ks.toFinset := by
      ext j
      simp only [Finset.mem_sdiff, Finset.mem_erase, List.mem_toFinset, List.mem_cons]
      tauto
    rw [hset]
    simpa using hrest

end Ledger
end Libobsbot.Foundations

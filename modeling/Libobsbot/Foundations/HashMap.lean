import Mathlib

/-! # Hash maps

A hash map is a finite map with no order of its own: iterating over it lists its entries in some order,
and `Listing` is any such order. `collect` inserts the items of a list one after another, so that of two
items with one key the later stays; `collectFirst` keeps the earlier.
-/

namespace Libobsbot.Foundations
set_option autoImplicit false

abbrev HashMap (K V : Type) : Type := Finmap fun _ : K => V

variable {K V : Type}

/-- An order in which an iteration may meet the entries of `m`. -/
structure Listing (m : HashMap K V) where
  toList : List (Σ _ : K, V)
  entries_eq : (toList : Multiset (Σ _ : K, V)) = m.entries

namespace Listing
variable {m : HashMap K V}

theorem keys_nodup (l : Listing m) : (l.toList.map Sigma.fst).Nodup := by
  have h := m.nodupKeys.nodup_keys
  rw [← l.entries_eq] at h
  exact Multiset.coe_nodup.mp h

theorem perm (l l' : Listing m) : l.toList.Perm l'.toList :=
  Multiset.coe_eq_coe.mp (l.entries_eq.trans l'.entries_eq.symm)

theorem exists_listing (m : HashMap K V) : Nonempty (Listing m) := by
  obtain ⟨entries, h⟩ := m
  induction entries using Quotient.inductionOn with
  | h l => exact ⟨⟨l, rfl⟩⟩

variable [DecidableEq K]

theorem mem_toList (l : Listing m) {k : K} {v : V} :
    ⟨k, v⟩ ∈ l.toList ↔ m.lookup k = some v := by
  rw [← Multiset.mem_coe, l.entries_eq]
  exact Finmap.lookup_eq_some_iff.symm

theorem mem_keys (l : Listing m) {k : K} : k ∈ l.toList.map Sigma.fst ↔ k ∈ m := by
  rw [Finmap.mem_iff]
  constructor
  · intro h
    obtain ⟨⟨j, v⟩, hmem, rfl⟩ := List.mem_map.mp h
    exact ⟨v, l.mem_toList.mp hmem⟩
  · rintro ⟨v, hv⟩
    exact List.mem_map.mpr ⟨⟨k, v⟩, l.mem_toList.mpr hv, rfl⟩

end Listing

section Collect
variable [DecidableEq K]

/-- `.map(|d| (key(&d), d)).collect::<HashMap<_, _>>()`. -/
def collect (key : V → K) (items : List V) : HashMap K V :=
  items.foldl (fun m d => m.insert (key d) d) ∅

theorem collect_concat (key : V → K) (items : List V) (d : V) :
    collect key (items ++ [d]) = (collect key items).insert (key d) d := by
  rw [collect, List.foldl_append]
  rfl

theorem mem_collect {key : V → K} {items : List V} {k : K} :
    k ∈ collect key items ↔ k ∈ items.map key := by
  induction items using List.reverseRecOn with
  | nil => simp [collect, Finmap.notMem_empty]
  | append_singleton items d ih =>
    rw [collect_concat, Finmap.mem_insert, ih]
    simp [or_comm, eq_comm]

theorem keys_collect (key : V → K) (items : List V) :
    (collect key items).keys = (items.map key).toFinset := by
  ext k
  rw [Finmap.mem_keys, mem_collect, List.mem_toFinset]

/-- A value stored under a key is an item of that key. -/
theorem of_lookup_collect {key : V → K} {items : List V} {k : K} {d : V}
    (h : (collect key items).lookup k = some d) : d ∈ items ∧ key d = k := by
  induction items using List.reverseRecOn with
  | nil => cases h
  | append_singleton items e ih =>
    rw [collect_concat] at h
    by_cases hk : k = key e
    · subst hk
      rw [Finmap.lookup_insert] at h
      cases h
      simp
    · rw [Finmap.lookup_insert_of_ne _ hk] at h
      obtain ⟨hmem, hkey⟩ := ih h
      exact ⟨by simp [hmem], hkey⟩

theorem lookup_collect {key : V → K} {items : List V} (hnodup : (items.map key).Nodup) {d : V}
    (hd : d ∈ items) : (collect key items).lookup (key d) = some d := by
  have hkeyed : key d ∈ collect key items := mem_collect.mpr (List.mem_map_of_mem hd)
  obtain ⟨e, he⟩ := Finmap.mem_iff.mp hkeyed
  obtain ⟨hmem, hkey⟩ := of_lookup_collect he
  rw [he, List.inj_on_of_nodup_map hnodup hmem hd hkey]

/-- With distinct keys, an iteration meets every item once, under its key. -/
theorem Listing.perm_collect {key : V → K} {items : List V} (hnodup : (items.map key).Nodup)
    (l : Listing (collect key items)) : l.toList.Perm (items.map fun d => ⟨key d, d⟩) := by
  have hleft : l.toList.Nodup := l.keys_nodup.of_map _
  have hright : (items.map fun d => (⟨key d, d⟩ : Σ _ : K, V)).Nodup := by
    exact (hnodup.of_map _).map fun d e h => eq_of_heq (Sigma.mk.inj h).2
  refine (List.perm_ext_iff_of_nodup hleft hright).mpr ?_
  rintro ⟨k, d⟩
  rw [l.mem_toList, List.mem_map]
  constructor
  · intro h
    obtain ⟨hmem, rfl⟩ := of_lookup_collect h
    exact ⟨d, hmem, rfl⟩
  · rintro ⟨e, hmem, he⟩
    obtain ⟨rfl, hvalue⟩ := Sigma.mk.inj he
    rw [← eq_of_heq hvalue]
    exact lookup_collect hnodup hmem

end Collect

section CollectFirst
variable [DecidableEq K]

/-- `.entry(k).or_insert(v)`. -/
def orInsert (m : HashMap K V) (k : K) (v : V) : HashMap K V := if k ∈ m then m else m.insert k v

theorem lookup_orInsert (m : HashMap K V) (k : K) (v : V) (j : K) :
    (orInsert m k v).lookup j = (m.lookup j).or (if k = j then some v else none) := by
  unfold orInsert
  by_cases hm : k ∈ m
  · rw [if_pos hm]
    by_cases hj : k = j
    · subst hj
      obtain ⟨w, hw⟩ := Finmap.mem_iff.mp hm
      rw [hw, Option.some_or]
    · rw [if_neg hj, Option.or_none]
  · rw [if_neg hm]
    by_cases hj : k = j
    · subst hj
      rw [Finmap.lookup_insert, Finmap.lookup_eq_none.mpr hm, if_pos rfl, Option.none_or]
    · rw [Finmap.lookup_insert_of_ne _ (Ne.symm hj), if_neg hj, Option.or_none]

/-- The items entered one after another into `m`. -/
def collectFirst (key : V → K) (m : HashMap K V) (items : List V) : HashMap K V :=
  items.foldl (fun m d => orInsert m (key d) d) m

/-- What is stored stays, and else the first item of the key is. -/
theorem lookup_collectFirst (key : V → K) (m : HashMap K V) (items : List V) (k : K) :
    (collectFirst key m items).lookup k = (m.lookup k).or (items.find? fun d => key d = k) := by
  induction items generalizing m with
  | nil => exact (Option.or_none).symm
  | cons d items ih =>
    rw [collectFirst, List.foldl_cons, ← collectFirst, ih, lookup_orInsert, Option.or_assoc, List.find?_cons]
    by_cases hk : key d = k
    · rw [if_pos hk, decide_eq_true hk, Option.some_or]
    · rw [if_neg hk, decide_eq_false hk, Option.none_or]

theorem find_key {key : V → K} {items : List V} {k : K} {d : V}
    (h : (items.find? fun d => key d = k) = some d) : d ∈ items ∧ key d = k :=
  ⟨List.mem_of_find?_eq_some h, by simpa using List.find?_some h⟩

/-- Where items of one key are equal, an iteration meets every item once. -/
theorem values_collectFirst [DecidableEq V] {key : V → K} {items : List V}
    (hkey : ∀ d ∈ items, ∀ e ∈ items, key d = key e → d = e) (l : Listing (collectFirst key ∅ items)) :
    (l.toList.map Sigma.snd).Perm items.dedup := by
  have hlookup : ∀ k v, ⟨k, v⟩ ∈ l.toList ↔ v ∈ items ∧ key v = k := by
    intro k v
    rw [l.mem_toList, lookup_collectFirst, Finmap.lookup_empty, Option.none_or]
    constructor
    · exact find_key
    · rintro ⟨hmem, rfl⟩
      have hsome : (items.find? fun d => key d = key v).isSome := List.find?_isSome.mpr ⟨v, hmem, by simp⟩
      obtain ⟨e, he⟩ := Option.isSome_iff_exists.mp hsome
      obtain ⟨hmem', hkey'⟩ := find_key he
      rw [he, hkey e hmem' v hmem hkey']
  have hnodup : (l.toList.map Sigma.snd).Nodup := by
    refine (List.nodup_map_iff_inj_on (List.Nodup.of_map _ l.keys_nodup)).mpr ?_
    rintro ⟨k, v⟩ hv ⟨j, w⟩ hw (rfl : v = w)
    rw [← ((hlookup k v).mp hv).2, ← ((hlookup j v).mp hw).2]
  refine (List.perm_ext_iff_of_nodup hnodup (List.nodup_dedup _)).mpr fun v => ?_
  rw [List.mem_dedup, List.mem_map]
  constructor
  · rintro ⟨⟨k, w⟩, hw, rfl⟩
    exact ((hlookup k w).mp hw).1
  · intro hv
    exact ⟨⟨key v, v⟩, (hlookup _ v).mpr ⟨hv, rfl⟩, rfl⟩

end CollectFirst
end Libobsbot.Foundations

import Libobsbot.Hotplug.Ledger

/-! # Which cameras are announced

A poll has to send one addition for each camera that appeared and one removal for each that disappeared
(`changes`). It sends those of the device keys. Off Linux a key is a vendor, a product and a serial:
two cameras that share all three are one key, within a snapshot and from one snapshot to the next.
-/

namespace Libobsbot.Hotplug
open Foundations
open Foundations.Program (Steps)
set_option autoImplicit false

variable {Info K C : Type} [DecidableEq K] [DecidableEq C]

/-- What there is to announce when the cameras, told apart by `ident`, went from `prev` to `cur`. -/
def changes (ident : Info → C) (serial : Info → String) (prev cur : List Info) : List Event :=
  ((cur.filter fun d => ident d ∉ prev.map ident).map fun d => .deviceAdded (serial d)) ++
    (prev.filter fun d => ident d ∉ cur.map ident).map fun d => .deviceRemoved (serial d)

/-- Every completed poll of the run announced the changes since the one before, whatever the order. -/
def Announced (ident : Info → C) (serial : Info → String) (t : Trace Info) : Prop :=
  ∀ (u w v : Trace Info) (cur : List Info), t = u ++ w ++ v → (u = [] ∨ Completed u) →
    Completed (u ++ w) → snapshots w = [cur] →
      ((sent w).map Prod.snd).Perm (changes ident serial (latest u) cur)

/-- Between the cameras of two snapshots, those with one value of `f` have one value of `g`. -/
def Determines (f : Info → K) (g : Info → C) (prev cur : List Info) : Prop :=
  ∀ e ∈ prev, ∀ d ∈ cur, f d = f e → g d = g e

/-! ## One poll -/

section Determined
omit [DecidableEq K] [DecidableEq C]
variable {f : Info → K} {g : Info → C} {prev cur : List Info}

theorem Determines.mem_map (h : Determines f g prev cur) {d : Info} (hd : d ∈ cur)
    (hf : f d ∈ prev.map f) : g d ∈ prev.map g := by
  obtain ⟨e, he, heq⟩ := List.mem_map.mp hf
  exact List.mem_map.mpr ⟨e, he, (h e he d hd heq.symm).symm⟩

theorem Determines.symm (h : Determines f g prev cur) : Determines f g cur prev :=
  fun d hd e he heq => (h e he d hd heq.symm).symm

theorem determines_id (f : Info → K) (prev cur : List Info) : Determines id f prev cur :=
  fun _ _ _ _ heq => congrArg f heq

end Determined

section Poll
variable {key : Info → K} {ident : Info → C} {serial : Info → String} {prev cur : List Info}

/-- Where the keys tell the cameras of both snapshots apart, both lists of changes agree. -/
theorem changes_eq (h : Determines key ident prev cur) (hkeeps : Determines ident key prev cur) :
    changes key serial prev cur = changes ident serial prev cur := by
  have hadded : (cur.filter fun d => key d ∉ prev.map key) =
      cur.filter fun d => ident d ∉ prev.map ident := by
    refine List.filter_congr fun d hd => decide_eq_decide.mpr (not_congr ?_)
    exact ⟨h.mem_map hd, hkeeps.mem_map hd⟩
  have hremoved : (prev.filter fun d => key d ∉ cur.map key) =
      prev.filter fun d => ident d ∉ cur.map ident := by
    refine List.filter_congr fun d hd => decide_eq_decide.mpr (not_congr ?_)
    exact ⟨h.symm.mem_map hd, hkeeps.symm.mem_map hd⟩
  rw [changes, changes, hadded, hremoved]

def announces : Event → Bool
  | .deviceAdded _ => true
  | _ => false

theorem countP_changes : (changes ident serial prev cur).countP announces =
    (cur.filter fun d => ident d ∉ prev.map ident).length := by
  rw [changes, List.countP_append, List.countP_map, List.countP_map]
  have hadded : announces ∘ (fun d => .deviceAdded (serial d)) = fun _ => true := rfl
  have hremoved : announces ∘ (fun d => .deviceRemoved (serial d)) = fun _ => false := rfl
  rw [hadded, hremoved]
  simp

/-- The changes of the keys are those of the cameras only if no camera took another's key. -/
theorem determines_of_perm (hnodup : (prev.map key).Nodup) (hkeeps : Determines ident key prev cur)
    (h : (changes key serial prev cur).Perm (changes ident serial prev cur)) :
    Determines key ident prev cur := by
  have hlength : (cur.filter fun d => key d ∉ prev.map key).length =
      (cur.filter fun d => ident d ∉ prev.map ident).length := by
    rw [← @countP_changes _ _ _ key serial prev cur, h.countP_eq, countP_changes]
  have hsub : List.Sublist (cur.filter fun d => key d ∉ prev.map key)
      (cur.filter fun d => ident d ∉ prev.map ident) := by
    have hboth : (cur.filter fun d => key d ∉ prev.map key) =
        (cur.filter fun d => ident d ∉ prev.map ident).filter fun d => key d ∉ prev.map key := by
      rw [List.filter_filter]
      refine List.filter_congr fun d hd => ?_
      have hstays := hkeeps.mem_map hd
      by_cases hkey : key d ∈ prev.map key
      · simp [hkey]
      · have hnew : ident d ∉ prev.map ident := fun hident => hkey (hstays hident)
        simp only [hkey, hnew, not_false_eq_true, decide_true, Bool.and_self]
    rw [hboth]
    exact List.filter_sublist
  have hfilter := hsub.eq_of_length hlength
  intro e he d hd hkey
  have hstays : d ∉ cur.filter fun d => ident d ∉ prev.map ident := by
    rw [← hfilter, List.mem_filter]
    simp only [decide_eq_true_eq, not_and, not_not]
    intro _
    rw [hkey]
    exact List.mem_map_of_mem he
  have hident : ident d ∈ prev.map ident := by
    by_contra hnot
    exact hstays (List.mem_filter.mpr ⟨hd, decide_eq_true hnot⟩)
  obtain ⟨e', he', heq⟩ := List.mem_map.mp hident
  have hsame : key e' = key e := by
    rw [← hkeeps e' he' d hd heq.symm, hkey]
  rw [← heq, List.inj_on_of_nodup_map hnodup he' he hsame]

end Poll

/-- A poll announces the changes of the keys. -/
theorem pollEvents_perm {key serial : Info → String} {prev cur : List Info}
    (hprev : (prev.map key).Nodup) (hcur : (cur.map key).Nodup) (fresh : Listing (collect key cur))
    (stale : Listing (collect key prev)) :
    ((pollEvents serial fresh stale).map Prod.snd).Perm (changes key serial prev cur) := by
  have hmissing : ∀ {a b : List Info} (event : String → Event), (a.map key).Nodup →
      ∀ l : Listing (collect key a),
      ((eventsOf serial event (missing (collect key b) l.toList)).map Prod.snd).Perm
        ((a.filter fun d => key d ∉ b.map key).map fun d => event (serial d)) := by
    intro a b event ha l
    have hperm := (((l.perm_collect ha).filter fun e => e.1 ∉ collect key b).map
      fun e => event (serial e.2))
    rw [List.filter_map, List.map_map] at hperm
    simpa only [eventsOf, missing, List.map_map, Function.comp_def, mem_collect] using hperm
  rw [pollEvents, List.map_append, changes]
  exact (hmissing .deviceAdded hcur fresh).append (hmissing .deviceRemoved hprev stale)

/-! ## Runs -/

section Runs
variable {key serial : Info → String} {ident : Info → C} {polls : ℕ} {t : Trace Info}
  {q : HotplugProgram Info Unit}

/-- Consecutive snapshots of a run are the ends of a part of it. -/
theorem exists_poll {prev cur : List Info} {front back : List (List Info)}
    (h : snapshots t = front ++ prev :: cur :: back) : ∃ u w v, t = u ++ w ++ v ∧ Completed u ∧
      Completed (u ++ w) ∧ latest u = prev ∧ snapshots w = [cur] := by
  have hpre : front ++ [prev] <+: snapshots t := ⟨cur :: back, by simp [h]⟩
  have hpre' : front ++ [prev, cur] <+: snapshots t := ⟨back, by simp [h]⟩
  obtain ⟨u, v, hu, hc, hsnaps⟩ := exists_completed hpre (by simp)
  obtain ⟨u', v', hu', hc', hsnaps'⟩ := exists_completed hpre' (by simp)
  have hprefix : u <+: u' := by
    obtain hle | ⟨w, rfl⟩ := List.prefix_or_prefix_of_prefix ⟨v, hu.symm⟩ ⟨v', hu'.symm⟩
    · exact hle
    · rw [snapshots_append, hsnaps'] at hsnaps
      simp at hsnaps
  obtain ⟨w, rfl⟩ := hprefix
  refine ⟨u, w, v', hu', hc, hc', ?_, ?_⟩
  · simp [latest, hsnaps]
  · rw [snapshots_append, hsnaps] at hsnaps'
    simpa using hsnaps'

theorem run_changes (h : Steps (hotplugLoop key serial polls ∅) t q)
    (hnodup : ∀ snapshot ∈ snapshots t, (snapshot.map key).Nodup) : Announced key serial t := by
  rintro u w v cur rfl hu hw hsnap
  obtain ⟨p, hp, -⟩ := h.split
  obtain ⟨fresh⟩ := Listing.exists_listing (collect key cur)
  obtain ⟨stale⟩ := Listing.exists_listing (collect key (latest u))
  have hcur : (cur.map key).Nodup := hnodup cur (by simp [hsnap])
  have hprev : ((latest u).map key).Nodup := by
    obtain rfl | hu := hu
    · exact List.nodup_nil
    · exact hnodup _ (by simp [latest_mem hu])
  exact ((run_poll hp hu hw hsnap fresh stale).map Prod.snd).trans
    (pollEvents_perm hprev hcur fresh stale)

theorem chain_poll {R : List Info → List Info → Prop} (hchain : List.IsChain R (snapshots t))
    {u w v : Trace Info} {cur : List Info} (ht : t = u ++ w ++ v) (hu : Completed u)
    (hsnap : snapshots w = [cur]) : R (latest u) cur := by
  have hsplit : snapshots u = (snapshots u).dropLast ++ [latest u] := by
    rw [latest, List.getLast?_eq_some_getLast (snapshots_ne_nil hu), Option.getD_some,
      List.dropLast_append_getLast]
  rw [ht, snapshots_append, snapshots_append, hsnap, hsplit] at hchain
  simp only [List.append_assoc, List.cons_append, List.nil_append] at hchain
  exact List.isChain_iff_forall_rel_of_append_cons_cons.mp hchain rfl

/-- Where the keys of each snapshot are distinct and a camera keeps its key, the changes of the cameras
are announced iff no camera takes the key of another. -/
theorem announced_iff (h : Steps (hotplugLoop key serial polls ∅) t q)
    (hnodup : ∀ snapshot ∈ snapshots t, (snapshot.map key).Nodup)
    (hkeeps : List.IsChain (Determines ident key) (snapshots t)) :
    Announced ident serial t ↔ List.IsChain (Determines key ident) (snapshots t) := by
  have hkeys := run_changes h hnodup
  constructor
  · intro hall
    refine List.isChain_iff_forall_rel_of_append_cons_cons.mpr fun prev cur front back hsplit => ?_
    obtain ⟨u, w, v, ht, hu, hw, rfl, hsnap⟩ := exists_poll hsplit
    have hperm := (hkeys u w v cur ht (.inr hu) hw hsnap).symm.trans
      (hall u w v cur ht (.inr hu) hw hsnap)
    refine determines_of_perm (hnodup _ ?_) (chain_poll hkeeps ht hu hsnap) hperm
    simp [ht, latest_mem hu]
  · intro hchain u w v cur ht hu hw hsnap
    have heq : changes key serial (latest u) cur = changes ident serial (latest u) cur := by
      obtain rfl | hu := hu
      · exact changes_eq (fun e he => absurd he List.not_mem_nil) fun e he => absurd he List.not_mem_nil
      · exact changes_eq (chain_poll hchain ht hu hsnap) (chain_poll hkeeps ht hu hsnap)
    rw [← heq]
    exact hkeys u w v cur ht hu hw hsnap

end Runs

/-! ## macOS -/

section Macos
variable {polls : ℕ} {t : Trace (DeviceInfo MacosLocation)}
  {q : HotplugProgram (DeviceInfo MacosLocation) Unit}

/-- The hot-plug loop with the `device_key` of macOS. -/
abbrev hotplugLoopMacos (polls : ℕ) : HotplugProgram (DeviceInfo MacosLocation) Unit :=
  hotplugLoop deviceKeyOther DeviceInfo.serial polls ∅

/-- What the key of a camera is made of. -/
def keyed (d : DeviceInfo MacosLocation) : UInt16 × UInt16 × String :=
  (d.vendorId, d.productId, d.serial)

theorem map_keyed_nodup {snapshot : List (DeviceInfo MacosLocation)} :
    (snapshot.map deviceKeyOther).Nodup ↔ (snapshot.map keyed).Nodup := by
  have transfer : ∀ {K L : Type} {f : DeviceInfo MacosLocation → K}
      {g : DeviceInfo MacosLocation → L}, (∀ d e, f d = f e ↔ g d = g e) →
      (snapshot.map f).Nodup → (snapshot.map g).Nodup := by
    intro K L f g hfg h
    refine List.Nodup.map_on (fun d hd e he hkey => ?_) (h.of_map _)
    exact List.inj_on_of_nodup_map h hd he ((hfg d e).mpr hkey)
  exact ⟨transfer fun d e => deviceKeyOther_inj, transfer fun d e => deviceKeyOther_inj.symm⟩

theorem macos_balance (h : Steps (hotplugLoopMacos polls) t q) (hc : Completed t) :
    addedEvents (sent t) = removedEvents (sent t) + (latest t).length ↔
      ((latest t).map keyed).Nodup := by
  have hcard : ((latest t).map deviceKeyOther).toFinset.card = (latest t).length ↔
      ((latest t).map deviceKeyOther).Nodup := by
    have hiff : ((latest t).map deviceKeyOther : Multiset String).toFinset.card =
        Multiset.card ((latest t).map deviceKeyOther : Multiset String) ↔
        ((latest t).map deviceKeyOther : Multiset String).Nodup :=
      Multiset.toFinset_card_eq_card_iff_nodup
    simpa using hiff
  rw [run_total h hc, Nat.add_left_cancel_iff, hcard, map_keyed_nodup]

/-- After every completed poll, as many additions more than removals as there are cameras. -/
def Balanced (t : Trace (DeviceInfo MacosLocation)) : Prop :=
  ∀ u v, t = u ++ v → Completed u →
    addedEvents (sent u) = removedEvents (sent u) + (latest u).length

theorem balanced_iff (h : Steps (hotplugLoopMacos polls) t q) :
    Balanced t ↔ ∀ snapshot ∈ snapshots t, (snapshot.map keyed).Nodup := by
  constructor
  · intro hall snapshot hmem
    obtain ⟨front, back, hsplit⟩ := List.append_of_mem hmem
    have hpre : front ++ [snapshot] <+: snapshots t := ⟨back, by simp [hsplit]⟩
    obtain ⟨u, v, rfl, hc, hsnaps⟩ := exists_completed hpre (by simp)
    obtain ⟨p, hp, -⟩ := h.split
    have hlatest : latest u = snapshot := by simp [latest, hsnaps]
    have hnodup := (macos_balance hp hc).mp (hall u v rfl hc)
    rwa [hlatest] at hnodup
  · rintro hall u v rfl hc
    obtain ⟨p, hp, -⟩ := h.split
    refine (macos_balance hp hc).mpr (hall _ ?_)
    rw [snapshots_append, List.mem_append]
    exact .inl (latest_mem hc)

omit [DecidableEq C] in
theorem determines_keyed {ident : DeviceInfo MacosLocation → C} {prev cur : List (DeviceInfo MacosLocation)} :
    Determines deviceKeyOther ident prev cur ↔ Determines keyed ident prev cur := by
  simp only [Determines, deviceKeyOther_inj, keyed]

omit [DecidableEq C] in
theorem keyed_determined {ident : DeviceInfo MacosLocation → C} {prev cur : List (DeviceInfo MacosLocation)} :
    Determines ident deviceKeyOther prev cur ↔ Determines ident keyed prev cur := by
  simp only [Determines, deviceKeyOther_inj, keyed]

theorem balanced_announced_iff {ident : DeviceInfo MacosLocation → C}
    (h : Steps (hotplugLoopMacos polls) t q)
    (hkeeps : List.IsChain (Determines ident keyed) (snapshots t)) :
    (Balanced t ∧ Announced ident DeviceInfo.serial t) ↔
      (∀ snapshot ∈ snapshots t, (snapshot.map keyed).Nodup) ∧
        List.IsChain (Determines keyed ident) (snapshots t) := by
  rw [balanced_iff h]
  refine and_congr_right fun hnodup => ?_
  rw [announced_iff h (fun snapshot hmem => map_keyed_nodup.mpr (hnodup snapshot hmem))
    (hkeeps.imp fun _ _ => keyed_determined.mpr)]
  exact ⟨fun hchain => hchain.imp fun _ _ => determines_keyed.mp,
    fun hchain => hchain.imp fun _ _ => determines_keyed.mpr⟩

/-- On macOS the events balance the cameras and announce each that appeared or disappeared, in every
completed poll of a run, iff no snapshot holds two cameras of one vendor, product and serial and no
camera is replaced by another of the same three from one snapshot to the next. A camera is what is
listed, its registry id among it; where an id keeps its vendor, product and serial, it is the id. -/
theorem macos_ledger_iff (h : Steps (hotplugLoopMacos polls) t q) :
    ((Balanced t ∧ Announced id DeviceInfo.serial t) ↔
      (∀ snapshot ∈ snapshots t, (snapshot.map keyed).Nodup) ∧
        List.IsChain (Determines keyed id) (snapshots t)) ∧
    (List.IsChain (Determines DeviceInfo.location keyed) (snapshots t) →
      ((Balanced t ∧ Announced DeviceInfo.location DeviceInfo.serial t) ↔
        (∀ snapshot ∈ snapshots t, (snapshot.map keyed).Nodup) ∧
          List.IsChain (Determines keyed DeviceInfo.location) (snapshots t))) := by
  refine ⟨balanced_announced_iff h ?_, fun hkeeps => balanced_announced_iff h hkeeps⟩
  exact List.isChain_iff_forall_rel_of_append_cons_cons.mpr fun _ _ _ _ _ => determines_id keyed _ _

/-- A Meet 2 as macOS lists it: no serial. -/
def plainCamera (registryId : UInt64) : DeviceInfo MacosLocation where
  vendorId := Meet2.vendorId
  productId := Meet2.productIdMeet2
  productType := .meet2
  serial := ""
  location := { registryId := registryId }

/-- One camera without a serial makes way for another while one with a serial stays. -/
theorem macos_ledger_single : ∃ t q, Steps (hotplugLoopMacos 3) t q ∧
    snapshots t = [[plainCamera 1, { plainCamera 3 with serial := "A" }],
      [{ plainCamera 3 with serial := "A" }],
      [plainCamera 2, { plainCamera 3 with serial := "A" }]] ∧
    Balanced t ∧ Announced DeviceInfo.location DeviceInfo.serial t := by
  obtain ⟨t, q, h, hsnaps, -⟩ := exists_run deviceKeyOther DeviceInfo.serial
    [[plainCamera 1, { plainCamera 3 with serial := "A" }], [{ plainCamera 3 with serial := "A" }],
      [plainCamera 2, { plainCamera 3 with serial := "A" }]] (by simp) ∅
  refine ⟨t, q, h, hsnaps, ((macos_ledger_iff h).2 ?_).mpr ⟨?_, ?_⟩⟩
  · rw [hsnaps]
    simp [Determines, keyed, plainCamera]
  · rw [hsnaps]
    simp [keyed, plainCamera]
  · rw [hsnaps]
    simp [Determines, keyed, plainCamera]

/-- Two cameras at once are announced once. -/
theorem macos_ledger_merged : ¬ ∀ (polls : ℕ) (t : Trace (DeviceInfo MacosLocation))
    (q : HotplugProgram (DeviceInfo MacosLocation) Unit), Steps (hotplugLoopMacos polls) t q →
    (∀ snapshot ∈ snapshots t, (snapshot.map DeviceInfo.location).Nodup) → Completed t →
    addedEvents (sent t) = removedEvents (sent t) + (latest t).length := by
  intro hall
  obtain ⟨t, q, h, hsnaps, hc⟩ := exists_run deviceKeyOther DeviceInfo.serial
    [[plainCamera 1, plainCamera 2]] (by simp) ∅
  have hdistinct : ([plainCamera 1, plainCamera 2].map DeviceInfo.location).Nodup := by decide
  have hbalance := hall 1 t q h (by simpa [hsnaps] using hdistinct) hc
  have hnodup := (macos_balance h hc).mp hbalance
  have hlatest : latest t = [plainCamera 1, plainCamera 2] := by rw [latest, hsnaps]; rfl
  rw [hlatest] at hnodup
  simp [keyed, plainCamera] at hnodup

end Macos
end Libobsbot.Hotplug

import Libobsbot.Hotplug.Ledger

/-! # Tracking cameras by the serials of the events

A consumer that inserts the serial of each addition and deletes the serial of each removal. The loop
compares addresses, not serials, and sends a poll's additions before its removals: a camera that comes
back at a new address is added and then deleted. The consumer is right after every completed poll iff no
two consecutive snapshots are so related.
-/

namespace Libobsbot.Hotplug
open Foundations
open Foundations.Program (Steps)
set_option autoImplicit false

/-! ## The consumer -/

def trackStep (serials : Finset String) : Event → Finset String
  | .deviceAdded serial => insert serial serials
  | .deviceRemoved serial => serials.erase serial
  | .status _ _ => serials

def track (log : List (String × Event)) : Finset String :=
  (log.map Prod.snd).foldl trackStep ∅

/-! ## Snapshots by address -/

abbrev Snapshot : Type := List (DeviceInfo LinuxLocation)

def serialsOf (snapshot : Snapshot) : Finset String := (snapshot.map DeviceInfo.serial).toFinset

/-- The cameras of `a` at an address that `b` has too. -/
def keptIn (a b : Snapshot) : Snapshot :=
  a.filter fun d => d.location ∈ b.map DeviceInfo.location

/-- The cameras of `a` at an address that `b` does not have. -/
def onlyIn (a b : Snapshot) : Snapshot :=
  a.filter fun d => d.location ∉ b.map DeviceInfo.location

/-- Addresses and serials tell the cameras of a snapshot apart. -/
def Distinct (snapshot : Snapshot) : Prop :=
  (snapshot.map DeviceInfo.location).Nodup ∧ (snapshot.map DeviceInfo.serial).Nodup

instance (snapshot : Snapshot) : Decidable (Distinct snapshot) :=
  inferInstanceAs (Decidable (_ ∧ _))

/-- No serial leaves an address that is gone for one that is new, and the addresses in both snapshots
carry the same serials. -/
def NoRekey (prev cur : Snapshot) : Prop :=
  Disjoint (serialsOf (onlyIn cur prev)) (serialsOf (onlyIn prev cur)) ∧
    serialsOf (keptIn prev cur) = serialsOf (keptIn cur prev)

instance (prev cur : Snapshot) : Decidable (NoRekey prev cur) :=
  inferInstanceAs (Decidable (_ ∧ _))

theorem serialsOf_split (a b : Snapshot) :
    serialsOf a = serialsOf (onlyIn a b) ∪ serialsOf (keptIn a b) := by
  ext s
  simp only [serialsOf, onlyIn, keptIn, Finset.mem_union, List.mem_toFinset, List.mem_map,
    List.mem_filter, decide_eq_true_eq]
  constructor
  · rintro ⟨d, hd, rfl⟩
    by_cases hl : ∃ e ∈ b, e.location = d.location
    · exact .inr ⟨d, ⟨hd, hl⟩, rfl⟩
    · exact .inl ⟨d, ⟨hd, hl⟩, rfl⟩
  · rintro (⟨d, ⟨hd, _⟩, rfl⟩ | ⟨d, ⟨hd, _⟩, rfl⟩)
    · exact ⟨d, hd, rfl⟩
    · exact ⟨d, hd, rfl⟩

theorem disjoint_only_kept {a : Snapshot} (ha : Distinct a) (b : Snapshot) :
    Disjoint (serialsOf (onlyIn a b)) (serialsOf (keptIn a b)) := by
  rw [Finset.disjoint_left]
  intro s honly hkept
  simp only [serialsOf, onlyIn, keptIn, List.mem_toFinset, List.mem_map, List.mem_filter,
    decide_eq_true_eq] at honly hkept
  obtain ⟨d, ⟨hd, hnot⟩, rfl⟩ := honly
  obtain ⟨e, ⟨he, hin⟩, hserial⟩ := hkept
  obtain rfl := List.inj_on_of_nodup_map ha.2 he hd hserial
  exact hnot hin

/-- As many cameras stay as seen from either snapshot. -/
theorem card_kept {a b : Snapshot} (ha : Distinct a) (hb : Distinct b) :
    (serialsOf (keptIn a b)).card = (serialsOf (keptIn b a)).card := by
  have card_serials : ∀ {x y : Snapshot}, Distinct x →
      (serialsOf (keptIn x y)).card = ((keptIn x y).map DeviceInfo.location).toFinset.card := by
    intro x y hx
    have hsub : (keptIn x y).Sublist x := List.filter_sublist
    rw [serialsOf, List.toFinset_card_of_nodup (hx.2.sublist (hsub.map _)),
      List.toFinset_card_of_nodup (hx.1.sublist (hsub.map _)), List.length_map, List.length_map]
  have locations : ((keptIn a b).map DeviceInfo.location).toFinset =
      ((keptIn b a).map DeviceInfo.location).toFinset := by
    ext l
    simp only [keptIn, List.mem_toFinset, List.mem_map, List.mem_filter, decide_eq_true_eq]
    constructor
    · rintro ⟨d, ⟨hd, e, he, hl⟩, rfl⟩
      exact ⟨e, ⟨he, d, hd, hl.symm⟩, hl⟩
    · rintro ⟨d, ⟨hd, e, he, hl⟩, rfl⟩
      exact ⟨e, ⟨he, d, hd, hl.symm⟩, hl⟩
  rw [card_serials ha, card_serials hb, locations]

/-! ## One poll -/

/-- What a poll does to the tracked serials. -/
def repoll (prev cur : Snapshot) (serials : Finset String) : Finset String :=
  (serials ∪ serialsOf (onlyIn cur prev)) \ serialsOf (onlyIn prev cur)

theorem foldl_added (l : List String) (s : Finset String) :
    (l.map Event.deviceAdded).foldl trackStep s = s ∪ l.toFinset := by
  induction l generalizing s with
  | nil => simp
  | cons x l ih =>
    rw [List.map_cons, List.foldl_cons, ih]
    ext y
    simp only [trackStep, Finset.mem_union, Finset.mem_insert, List.mem_toFinset, List.mem_cons]
    tauto

theorem foldl_removed (l : List String) (s : Finset String) :
    (l.map Event.deviceRemoved).foldl trackStep s = s \ l.toFinset := by
  induction l generalizing s with
  | nil => simp
  | cons x l ih =>
    rw [List.map_cons, List.foldl_cons, ih]
    ext y
    simp only [trackStep, Finset.mem_sdiff, Finset.mem_erase, List.mem_toFinset, List.mem_cons]
    tauto

theorem track_append_pollEvents {known current : HashMap String (DeviceInfo LinuxLocation)}
    (log : List (String × Event)) (fresh : Listing current) (stale : Listing known) :
    track (log ++ pollEvents DeviceInfo.serial fresh stale) =
      (track log ∪ ((missing known fresh.toList).map fun e => e.2.serial).toFinset) \
        ((missing current stale.toList).map fun e => e.2.serial).toFinset := by
  have hadded : ((eventsOf DeviceInfo.serial .deviceAdded (missing known fresh.toList)).map
      Prod.snd) = ((missing known fresh.toList).map fun e => e.2.serial).map .deviceAdded := by
    simp [eventsOf, Function.comp_def]
  have hremoved : ((eventsOf DeviceInfo.serial .deviceRemoved (missing current stale.toList)).map
      Prod.snd) = ((missing current stale.toList).map fun e => e.2.serial).map .deviceRemoved := by
    simp [eventsOf, Function.comp_def]
  rw [track, List.map_append, List.foldl_append, pollEvents, List.map_append, List.foldl_append,
    hadded, hremoved, foldl_added, foldl_removed]
  rfl

/-- With distinct addresses, the entries that `b`'s map lacks are the cameras only `a` has. -/
theorem missing_serials {a b : Snapshot} (ha : (a.map DeviceInfo.location).Nodup)
    (l : Listing (collect deviceKeyLinux a)) :
    ((missing (collect deviceKeyLinux b) l.toList).map fun e => e.2.serial).toFinset =
      serialsOf (onlyIn a b) := by
  ext s
  simp only [missing, serialsOf, onlyIn, List.mem_toFinset, List.mem_map, List.mem_filter,
    decide_eq_true_eq]
  constructor
  · rintro ⟨⟨k, d⟩, ⟨hmem, hnot⟩, rfl⟩
    obtain ⟨hd, rfl⟩ := of_lookup_collect (l.mem_toList.mp hmem)
    rw [mem_collect, mem_map_key, List.mem_map] at hnot
    exact ⟨d, ⟨hd, hnot⟩, rfl⟩
  · rintro ⟨d, ⟨hd, hnot⟩, rfl⟩
    refine ⟨⟨deviceKeyLinux d, d⟩, ⟨l.mem_toList.mpr ?_, ?_⟩, rfl⟩
    · exact lookup_collect (map_key_nodup ha) hd
    · rw [mem_collect, mem_map_key, List.mem_map]
      exact hnot

/-- The poll leaves the serials of the new snapshot iff nothing was rekeyed. -/
theorem repoll_eq_iff {prev cur : Snapshot} (hprev : Distinct prev) (hcur : Distinct cur) :
    repoll prev cur (serialsOf prev) = serialsOf cur ↔ NoRekey prev cur := by
  have hd := disjoint_only_kept hprev cur
  have hd' := disjoint_only_kept hcur prev
  have hcard := card_kept hcur hprev
  rw [repoll, NoRekey, serialsOf_split prev cur, serialsOf_split cur prev]
  generalize serialsOf (onlyIn prev cur) = gone at *
  generalize serialsOf (keptIn prev cur) = stayed at *
  generalize serialsOf (onlyIn cur prev) = new at *
  generalize serialsOf (keptIn cur prev) = stays at *
  rw [Finset.disjoint_left] at hd hd'
  constructor
  · intro h
    have hmem : ∀ s, ((s ∈ gone ∨ s ∈ stayed) ∨ s ∈ new) ∧ s ∉ gone ↔ s ∈ new ∨ s ∈ stays := by
      intro s
      have hs := Finset.ext_iff.mp h s
      simpa only [Finset.mem_sdiff, Finset.mem_union] using hs
    refine ⟨Finset.disjoint_left.mpr fun s hn hg => ?_, ?_⟩
    · exact ((hmem s).mpr (.inl hn)).2 hg
    · refine (Finset.eq_of_subset_of_card_le (fun s hs => ?_) hcard.ge).symm
      obtain ⟨(hg | hst) | hn, hnot⟩ := (hmem s).mpr (.inr hs)
      · exact absurd hg hnot
      · exact hst
      · exact absurd hs (hd' hn)
  · rintro ⟨hdis, rfl⟩
    rw [Finset.disjoint_left] at hdis
    ext s
    simp only [Finset.mem_sdiff, Finset.mem_union]
    constructor
    · rintro ⟨(hg | hst) | hn, hnot⟩
      · exact absurd hg hnot
      · exact .inr hst
      · exact .inl hn
    · rintro (hn | hst)
      · exact ⟨.inr hn, fun hg => hdis hn hg⟩
      · exact ⟨.inl (.inr hst), fun hg => hd hg hst⟩

/-! ## Sequences of polls -/

/-- The tracked serials after further polls, from the snapshot `prev` on. -/
def replay : Snapshot → Finset String → List Snapshot → Finset String
  | _, serials, [] => serials
  | prev, serials, cur :: rest => replay cur (repoll prev cur serials) rest

theorem replay_concat (prev : Snapshot) (serials : Finset String) (snaps : List Snapshot)
    (cur : Snapshot) : replay prev serials (snaps ++ [cur]) =
      repoll ((prev :: snaps).getLast (by simp)) cur (replay prev serials snaps) := by
  induction snaps generalizing prev serials with
  | nil => rfl
  | cons x snaps ih => exact ih x _

theorem getLast_cons_nil (snaps : List Snapshot) :
    (([] : Snapshot) :: snaps).getLast (by simp) = snaps.getLast?.getD [] := by
  cases snaps with
  | nil => rfl
  | cons x snaps =>
    rw [List.getLast_cons (by simp), List.getLast?_eq_some_getLast (by simp)]
    rfl

/-- The consumer's state is a function of the snapshots, whatever the iteration orders were. -/
theorem track_eq_replay {snaps : List Snapshot} {known : HashMap String (DeviceInfo LinuxLocation)}
    {log : List (String × Event)} (h : Polls deviceKeyLinux DeviceInfo.serial snaps known log)
    (hd : ∀ snapshot ∈ snaps, Distinct snapshot) : track log = replay [] ∅ snaps := by
  induction h with
  | start => rfl
  | @poll snaps known log rest snapshot fresh stale ih =>
    have hrest := ih fun s hs => hd s (by simp [hs])
    have hknown := rest.known_eq
    subst hknown
    have hprev : Distinct (snaps.getLast?.getD []) := by
      cases hlast : snaps.getLast? with
      | none => exact ⟨List.nodup_nil, List.nodup_nil⟩
      | some s => exact hd s (List.mem_append_left _ (List.mem_of_getLast? hlast))
    rw [track_append_pollEvents, hrest, missing_serials (hd snapshot (by simp)).1,
      missing_serials hprev.1, replay_concat, getLast_cons_nil]
    rfl

/-- Right after every one of the polls to come iff no two consecutive ones are rekeyed. -/
theorem replay_iff {prev : Snapshot} (hprev : Distinct prev) {snaps : List Snapshot}
    (hd : ∀ snapshot ∈ snaps, Distinct snapshot) :
    (∀ l, l <+: snaps → l ≠ [] → replay prev (serialsOf prev) l = serialsOf (l.getLast?.getD [])) ↔
      List.IsChain NoRekey (prev :: snaps) := by
  induction snaps generalizing prev with
  | nil => simp
  | cons cur rest ih =>
    have hcur := hd cur (by simp)
    have hstep := repoll_eq_iff hprev hcur
    have hrest := ih hcur fun s hs => hd s (by simp [hs])
    rw [List.isChain_cons_cons, ← hrest, ← hstep]
    constructor
    · intro hall
      have hone : repoll prev cur (serialsOf prev) = serialsOf cur :=
        hall [cur] (by simp) (by simp)
      refine ⟨hone, fun l hl hne => ?_⟩
      have hmore := hall (cur :: l) ((List.prefix_cons_inj cur).mpr hl) (by simp)
      rw [replay, hone] at hmore
      rw [hmore, List.getLast?_cons_of_ne_nil hne]
    · rintro ⟨hone, hall⟩ l hl hne
      cases l with
      | nil => exact absurd rfl hne
      | cons x l =>
        obtain ⟨rfl, htail⟩ := List.cons_prefix_cons.mp hl
        rw [replay, hone]
        by_cases hnil : l = []
        · subst hnil
          rfl
        · rw [hall l htail hnil, List.getLast?_cons_of_ne_nil hnil]

/-! ## Runs -/

section Runs
variable {polls : ℕ} {t : Trace (DeviceInfo LinuxLocation)}
  {q : HotplugProgram (DeviceInfo LinuxLocation) Unit}

theorem run_track (h : Steps (hotplugLoopLinux polls) t q)
    (hd : ∀ snapshot ∈ snapshots t, Distinct snapshot) {u v : Trace (DeviceInfo LinuxLocation)}
    (ht : t = u ++ v) (hc : Completed u) : track (sent u) = replay [] ∅ (snapshots u) := by
  subst ht
  obtain ⟨p, hp, -⟩ := h.split
  obtain ⟨known, hpolls⟩ := hotplugLoop_completed hp hc
  exact track_eq_replay hpolls fun s hs => hd s (by simp [hs])

/-- The serials a consumer tracks are those of the latest snapshot after every completed poll of a run
iff no poll of the run rekeyed a camera. -/
theorem track_iff_no_rekey (h : Steps (hotplugLoopLinux polls) t q)
    (hd : ∀ snapshot ∈ snapshots t, Distinct snapshot) :
    (∀ u v, t = u ++ v → Completed u → track (sent u) = serialsOf (latest u)) ↔
      List.IsChain NoRekey (snapshots t) := by
  have hfirst : List.IsChain NoRekey ([] :: snapshots t) ↔ List.IsChain NoRekey (snapshots t) := by
    refine ⟨fun hchain => hchain.tail, fun hchain => ?_⟩
    cases hs : snapshots t with
    | nil => simp
    | cons cur rest =>
      rw [hs] at hchain
      refine List.isChain_cons_cons.mpr ⟨?_, hchain⟩
      simp [NoRekey, serialsOf, onlyIn, keptIn]
  have hempty : Distinct [] := by decide
  rw [← hfirst, ← replay_iff hempty hd]
  constructor
  · intro hall l hl hne
    obtain ⟨u, v, ht, hc, rfl⟩ := exists_completed hl hne
    rw [← latest, ← hall u v ht hc]
    exact (run_track h hd ht hc).symm
  · intro hall u v ht hc
    have hpre : snapshots u <+: snapshots t := by
      rw [ht, snapshots_append]
      exact List.prefix_append _ _
    rw [run_track h hd ht hc]
    exact hall _ hpre (snapshots_ne_nil hc)

def camera (devnum : UInt8) (serial : String) : DeviceInfo LinuxLocation where
  vendorId := Meet2.vendorId
  productId := Meet2.productIdMeet2
  productType := .meet2
  serial := serial
  location := { busnum := 1, devnum := devnum }

/-- One camera is unplugged while another is plugged in. -/
theorem track_swapped : ∃ t q, Steps (hotplugLoopLinux 2) t q ∧ snapshots t ≠ [] ∧
    ∀ u v, t = u ++ v → Completed u → track (sent u) = serialsOf (latest u) := by
  obtain ⟨t, q, h, hsnaps, hc⟩ := exists_run deviceKeyLinux DeviceInfo.serial
    [[camera 2 "A", camera 3 "B"], [camera 3 "B", camera 4 "C"]] (by simp) ∅
  refine ⟨t, q, h, snapshots_ne_nil hc, (track_iff_no_rekey h ?_).mpr ?_⟩
  · rw [hsnaps]
    decide
  · rw [hsnaps]
    decide

/-- A camera replugged between two polls is added and then deleted. -/
theorem track_replugged : ¬ ∀ (polls : ℕ) (t : Trace (DeviceInfo LinuxLocation))
    (q : HotplugProgram (DeviceInfo LinuxLocation) Unit), Steps (hotplugLoopLinux polls) t q →
    (∀ snapshot ∈ snapshots t, Distinct snapshot) → Completed t →
    track (sent t) = serialsOf (latest t) := by
  intro hall
  obtain ⟨t, q, h, hsnaps, hc⟩ := exists_run deviceKeyLinux DeviceInfo.serial
    [[camera 2 "A"], [camera 3 "A"]] (by simp) ∅
  have hd : ∀ snapshot ∈ snapshots t, Distinct snapshot := by
    rw [hsnaps]
    decide
  have htracked := hall 2 t q h hd hc
  rw [run_track h hd (List.append_nil t).symm hc, latest, hsnaps] at htracked
  revert htracked
  decide

end Runs
end Libobsbot.Hotplug

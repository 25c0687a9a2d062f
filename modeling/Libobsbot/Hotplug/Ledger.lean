import Libobsbot.Foundations.Ledger
import Libobsbot.Hotplug.Keys
import Libobsbot.Hotplug.Polls
import Libobsbot.Source.Meet2

/-! # The hot-plug ledger

Read by device key, the events of the loop are a ledger whose present keys are those of the latest
snapshot. On Linux a key is one camera, so additions exceed removals by the number of cameras.
-/

namespace Libobsbot.Hotplug
open Foundations
open Foundations.Program (Steps)
set_option autoImplicit false

/-! ## Events as ledger entries -/

def entryOf : String × Event → Option (Entry String)
  | (k, .deviceAdded _) => some (.added k)
  | (k, .deviceRemoved _) => some (.removed k)
  | (_, .status _ _) => none

def entries (log : List (String × Event)) : List (Entry String) := log.filterMap entryOf

def addedEvents (log : List (String × Event)) : ℕ := (entries log).countP Entry.isAdded

def removedEvents (log : List (String × Event)) : ℕ := (entries log).countP fun e => !e.isAdded

section Polls
variable {Info : Type} {key serial : Info → String}

theorem entries_append (l m : List (String × Event)) : entries (l ++ m) = entries l ++ entries m :=
  List.filterMap_append

theorem entries_added (l : List (Σ _ : String, Info)) :
    entries (eventsOf serial .deviceAdded l) = (l.map Sigma.fst).map .added := by
  induction l with
  | nil => rfl
  | cons e l ih =>
    show .added e.1 :: entries (eventsOf serial .deviceAdded l) = _
    rw [ih]
    rfl

theorem entries_removed (l : List (Σ _ : String, Info)) :
    entries (eventsOf serial .deviceRemoved l) = (l.map Sigma.fst).map .removed := by
  induction l with
  | nil => rfl
  | cons e l ih =>
    show .removed e.1 :: entries (eventsOf serial .deviceRemoved l) = _
    rw [ih]
    rfl

theorem missing_keys_nodup {m : HashMap String Info} (l : Listing m) (other : HashMap String Info) :
    ((missing other l.toList).map Sigma.fst).Nodup :=
  l.keys_nodup.sublist (List.filter_sublist.map _)

theorem mem_missing_keys {m : HashMap String Info} (l : Listing m) {other : HashMap String Info}
    {k : String} : k ∈ (missing other l.toList).map Sigma.fst ↔ k ∈ m ∧ k ∉ other := by
  rw [← l.mem_keys]
  simp only [missing, List.mem_map, List.mem_filter, decide_eq_true_eq]
  constructor
  · rintro ⟨e, ⟨hmem, hother⟩, rfl⟩
    exact ⟨⟨e, hmem, rfl⟩, hother⟩
  · rintro ⟨⟨e, hmem, rfl⟩, hother⟩
    exact ⟨e, ⟨hmem, hother⟩, rfl⟩

/-- One poll moves the ledger from the keys of `known` to those of `current`. -/
theorem pollEvents_ledger {known current : HashMap String Info} {log : List (String × Event)}
    (h : Ledger (entries log) known.keys) (fresh : Listing current) (stale : Listing known) :
    Ledger (entries (log ++ pollEvents serial fresh stale)) current.keys := by
  have hadded := h.added_all (missing_keys_nodup fresh known) fun k hk => by
    rw [Finmap.mem_keys]
    exact ((mem_missing_keys fresh).mp hk).2
  have hremoved := hadded.removed_all (missing_keys_nodup stale current) fun k hk => by
    rw [Finset.mem_union, Finmap.mem_keys]
    exact .inl ((mem_missing_keys stale).mp hk).1
  have hkeys : (known.keys ∪ ((missing known fresh.toList).map Sigma.fst).toFinset) \
      ((missing current stale.toList).map Sigma.fst).toFinset = current.keys := by
    ext k
    simp only [Finset.mem_sdiff, Finset.mem_union, List.mem_toFinset, mem_missing_keys,
      Finmap.mem_keys]
    tauto
  rw [hkeys] at hremoved
  rw [pollEvents, entries_append, entries_append, entries_added, entries_removed,
    ← List.append_assoc]
  exact hremoved

theorem Polls.ledger {snaps : List (List Info)} {known : HashMap String Info}
    {log : List (String × Event)} (h : Polls key serial snaps known log) :
    Ledger (entries log) known.keys := by
  induction h with
  | start => exact .nil
  | poll rest snapshot fresh stale ih => exact pollEvents_ledger ih fresh stale

theorem missing_eq_nil {m : HashMap String Info} (l : Listing m) {other : HashMap String Info}
    (h : ∀ k, k ∈ m → k ∈ other) : missing other l.toList = [] := by
  rw [missing, List.filter_eq_nil_iff]
  intro e he
  have hmem : e.1 ∈ m := l.mem_keys.mp (List.mem_map_of_mem he)
  simpa using h e.1 hmem

/-- Nothing is sent when the keys did not change. -/
theorem pollEvents_eq_nil {known current : HashMap String Info} (fresh : Listing current)
    (stale : Listing known) (h : ∀ k, k ∈ current ↔ k ∈ known) :
    pollEvents serial fresh stale = [] := by
  rw [pollEvents, missing_eq_nil fresh fun k hk => (h k).mp hk,
    missing_eq_nil stale fun k hk => (h k).mpr hk]
  rfl

end Polls

/-! ## Runs -/

section Runs
variable {Info : Type} {key serial : Info → String} {polls : ℕ} {t : Trace Info}
  {q : HotplugProgram Info Unit}

/-- The snapshot of the last completed poll; before the first one, no camera. -/
def latest (t : Trace Info) : List Info := (snapshots t).getLast?.getD []

theorem latest_mem (hc : Completed t) : latest t ∈ snapshots t := by
  rw [latest, List.getLast?_eq_some_getLast (snapshots_ne_nil hc)]
  exact List.getLast_mem _

theorem run_history (h : Steps (hotplugLoop key serial polls ∅) t q) (k : String) :
    ∃ n, history k (entries (sent t)) = alternation k n := by
  obtain ⟨snaps, known, log, hp, hpre⟩ := hotplugLoop_refines h
  obtain ⟨present, hl⟩ := hp.ledger.prefix_ledger (hpre.filterMap entryOf)
  obtain ⟨n, hn, -⟩ := hl.history_eq k
  exact ⟨n, hn⟩

theorem run_ledger (h : Steps (hotplugLoop key serial polls ∅) t q) (hc : Completed t) :
    Ledger (entries (sent t)) ((latest t).map key).toFinset := by
  obtain ⟨known, hp⟩ := hotplugLoop_completed h hc
  have hl := hp.ledger
  rwa [hp.known_eq, keys_collect] at hl

/-- One more addition than removal of a key iff the latest snapshot has it. -/
theorem run_balance (h : Steps (hotplugLoop key serial polls ∅) t q) (hc : Completed t)
    (k : String) : (entries (sent t)).count (.added k) =
      (entries (sent t)).count (.removed k) + if k ∈ (latest t).map key then 1 else 0 := by
  have hcount := (run_ledger h hc).count_eq k
  simpa only [List.mem_toFinset] using hcount

theorem run_total (h : Steps (hotplugLoop key serial polls ∅) t q) (hc : Completed t) :
    addedEvents (sent t) = removedEvents (sent t) + ((latest t).map key).toFinset.card :=
  (run_ledger h hc).total_eq

/-- What is sent between the ends of two polls is the log of the second. -/
theorem run_poll {u w : Trace Info} (h : Steps (hotplugLoop key serial polls ∅) (u ++ w) q)
    (hu : u = [] ∨ Completed u) (hw : Completed (u ++ w)) {snapshot : List Info}
    (hsnap : snapshots w = [snapshot]) (fresh : Listing (collect key snapshot))
    (stale : Listing (collect key (latest u))) : (sent w).Perm (pollEvents serial fresh stale) := by
  have hbefore : ∃ known, Polls key serial (snapshots u) known (sent u) := by
    obtain rfl | hu := hu
    · exact ⟨∅, .start⟩
    · obtain ⟨p, hp, -⟩ := h.split
      exact hotplugLoop_completed hp hu
  obtain ⟨known, hp⟩ := hbefore
  obtain ⟨known', hp'⟩ := hotplugLoop_completed h hw
  obtain rfl : known = collect key (latest u) := hp.known_eq
  rw [snapshots_append, hsnap, sent_append] at hp'
  exact (List.perm_append_left_iff (sent u)).mp (hp'.perm (hp.poll snapshot fresh stale))

/-- A poll that finds the keys of the poll before it sends nothing. -/
theorem run_unchanged {u : Trace Info} {q' : HotplugProgram Info Unit} (hc : Completed t)
    (h' : Steps (hotplugLoop key serial polls ∅) (t ++ u) q') (hc' : Completed (t ++ u))
    {snapshot : List Info} (hu : snapshots u = [snapshot])
    (hkeys : ∀ k, k ∈ snapshot.map key ↔ k ∈ (latest t).map key) : sent u = [] := by
  obtain ⟨fresh⟩ := Listing.exists_listing (collect key snapshot)
  obtain ⟨stale⟩ := Listing.exists_listing (collect key (latest t))
  have hperm := run_poll h' (.inr hc) hc' hu fresh stale
  rw [pollEvents_eq_nil fresh stale fun k => ?_] at hperm
  · exact hperm.eq_nil
  · rw [mem_collect, mem_collect]
    exact hkeys k

end Runs

/-! ## Linux -/

section Linux
variable {polls : ℕ} {t : Trace (DeviceInfo LinuxLocation)}
  {q : HotplugProgram (DeviceInfo LinuxLocation) Unit}

/-- The hot-plug loop of `device_key` on Linux. -/
abbrev hotplugLoopLinux (polls : ℕ) : HotplugProgram (DeviceInfo LinuxLocation) Unit :=
  hotplugLoop deviceKeyLinux DeviceInfo.serial polls ∅

theorem map_key_nodup {snapshot : List (DeviceInfo LinuxLocation)}
    (h : (snapshot.map DeviceInfo.location).Nodup) : (snapshot.map deviceKeyLinux).Nodup := by
  refine List.Nodup.map_on (fun d hd e he hkey => ?_) (h.of_map _)
  exact List.inj_on_of_nodup_map h hd he (deviceKeyLinux_inj.mp hkey)

theorem mem_map_key {snapshot : List (DeviceInfo LinuxLocation)} {d : DeviceInfo LinuxLocation} :
    deviceKeyLinux d ∈ snapshot.map deviceKeyLinux ↔
      d.location ∈ snapshot.map DeviceInfo.location := by
  simp only [List.mem_map, deviceKeyLinux_inj]

/-- In every run of the loop on Linux the events of a key alternate from an addition. After a
completed poll a key has one more addition than removal iff the latest snapshot has it, the total is
the number of cameras, no two cameras share a key, and a poll that found the same addresses as the
one before it sent nothing. -/
theorem linux_ledger (h : Steps (hotplugLoopLinux polls) t q) :
    (∀ k, ∃ n, history k (entries (sent t)) = alternation k n) ∧
    (Completed t → ∀ k, (entries (sent t)).count (.added k) =
      (entries (sent t)).count (.removed k) +
        if k ∈ (latest t).map deviceKeyLinux then 1 else 0) ∧
    (Completed t → ((latest t).map DeviceInfo.location).Nodup →
      addedEvents (sent t) = removedEvents (sent t) + (latest t).length) ∧
    (∀ d e : DeviceInfo LinuxLocation,
      deviceKeyLinux d = deviceKeyLinux e ↔ d.location = e.location) ∧
    (∀ (u : Trace (DeviceInfo LinuxLocation)) (q' : HotplugProgram (DeviceInfo LinuxLocation) Unit)
      (snapshot : List (DeviceInfo LinuxLocation)),
      Steps (hotplugLoopLinux polls) (t ++ u) q' → Completed t → Completed (t ++ u) →
      snapshots u = [snapshot] →
      (∀ l, l ∈ snapshot.map DeviceInfo.location ↔ l ∈ (latest t).map DeviceInfo.location) →
      sent u = []) := by
  refine ⟨run_history h, run_balance h, fun hc hnodup => ?_, fun d e => deviceKeyLinux_inj, ?_⟩
  · rw [run_total h hc, List.toFinset_card_of_nodup (map_key_nodup hnodup), List.length_map]
  · intro u q' snapshot h' hc hc' hu hsame
    refine run_unchanged hc h' hc' hu fun k => ?_
    constructor
    · intro hk
      obtain ⟨d, hd, rfl⟩ := List.mem_map.mp hk
      exact mem_map_key.mpr ((hsame _).mp (List.mem_map_of_mem hd))
    · intro hk
      obtain ⟨d, hd, rfl⟩ := List.mem_map.mp hk
      exact mem_map_key.mpr ((hsame _).mpr (List.mem_map_of_mem hd))

/-- One camera replaced by another over three polls. -/
theorem linux_ledger_replaced : ∃ t q, Steps (hotplugLoopLinux 3) t q ∧
    addedEvents (sent t) = removedEvents (sent t) + 1 := by
  let first : DeviceInfo LinuxLocation := ⟨Meet2.vendorId, Meet2.productIdMeet2, .meet2, "", ⟨1, 2⟩⟩
  let second : DeviceInfo LinuxLocation := { first with location := ⟨1, 3⟩ }
  obtain ⟨t, q, h, hsnaps, hc⟩ := exists_run deviceKeyLinux DeviceInfo.serial
    [[first], [first, second], [second]] (by simp) ∅
  have hlatest : latest t = [second] := by rw [latest, hsnaps]; rfl
  have htotal := (linux_ledger h).2.2.1 hc (by simp [hlatest])
  rw [hlatest] at htotal
  exact ⟨t, q, h, htotal⟩

end Linux

end Libobsbot.Hotplug

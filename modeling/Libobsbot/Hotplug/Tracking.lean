import Libobsbot.Foundations.Translation
import Libobsbot.Foundations.Interleaving
import Libobsbot.Hotplug.Ledger
import Libobsbot.Linux.Enumerate

/-! # The hot-plug events follow the file system

The watcher lists the cameras by walking `/sys` while cameras come and go. A poll that meets a file system at
rest leaves the ledger of events with exactly the cameras that are there, whatever earlier polls saw; and while
the file system stays at rest nothing more is sent.
-/

namespace Libobsbot.Hotplug
open Foundations Uvcvideo VideoNodes
open Foundations.Program (Exchange Steps Uses Carries Begun steps_done steps_op_bind bind_ne_done)
set_option autoImplicit false

/-! ## Where a poll is completed -/

section Loop
variable {Info : Type} {key serial : Info → String}

/-- A poll that is completed lists the cameras first and marks its snapshot last. -/
theorem steps_hotplugPoll_done {known current : HashMap String Info} {t : Trace Info}
    (h : Steps (hotplugPoll key serial known) t (.done (some current))) : ∃ snapshot b,
      t = ⟨.enumerate, snapshot⟩ :: b ∧ (∀ x ∈ b, ¬ Lists x) ∧ snapshots t = [snapshot] ∧
        current = collect key snapshot := by
  rw [hotplugPoll_eq] at h
  obtain ⟨-, hq⟩ | ⟨snapshot, b, rfl, hb⟩ := steps_op_bind.mp h
  · cases hq
  · refine ⟨snapshot, b, rfl, not_lists_of (uses_comparing serial key known snapshot) hb, ?_⟩
    obtain ⟨-, hnone, -⟩ | ⟨fresh, stale, hsnaps, -, hq⟩ := steps_comparing serial hb
    · exact absurd rfl (hnone current)
    · cases hq
      exact ⟨hsnaps, rfl⟩

theorem latest_append {t u : Trace Info} (hu : Completed u) : latest (t ++ u) = latest u := by
  have hne := snapshots_ne_nil hu
  rw [latest, latest, snapshots_append, List.getLast?_append_of_ne_nil _ hne]

/-- What is left of the loop behind a poll. -/
def pausing (key serial : Info → String) (polls : ℕ) (known : HashMap String Info) : HotplugProgram Info Unit := do
  if ← hotplugPause 0 then hotplugLoop key serial polls known
  else return ()

/-- A run cut where a poll is completed: the list of that poll was the last one, and the pause comes next. -/
theorem completed_split {polls : ℕ} {known : HashMap String Info} {t u : Trace Info}
    {q : HotplugProgram Info Unit} (h : Steps (hotplugLoop key serial polls known) (t ++ u) q)
    (hc : Completed t) : ∃ polls' a b, t = a ++ ⟨.enumerate, latest t⟩ :: b ∧ (∀ x ∈ b, ¬ Lists x) ∧
      Steps (pausing key serial polls' (collect key (latest t))) u q := by
  induction polls generalizing known t with
  | zero =>
    obtain ⟨htu, -⟩ := steps_done.mp h
    obtain ⟨rfl, -⟩ := List.append_eq_nil_iff.mp htu
    exact absurd hc not_completed_nil
  | succ polls ih =>
    cases t with
    | nil => exact absurd hc not_completed_nil
    | cons x t =>
      unfold hotplugLoop at h
      obtain ⟨hnil, -⟩ | ⟨stop, t₁, hcons, h₁⟩ := steps_op_bind.mp h
      · cases hnil
      obtain ⟨rfl, rfl⟩ := List.cons.inj hcons
      have hchecked : ¬ Completed [(⟨.loadStop, stop⟩ : Exchange (HotplugOp Info) HotplugOp.Reply)] :=
        not_completed_of_quiet (by simp [polledOf])
      cases stop with
      | true =>
        obtain ⟨htu, -⟩ := steps_done.mp h₁
        obtain ⟨rfl, -⟩ := List.append_eq_nil_iff.mp htu
        exact absurd hc hchecked
      | false =>
        have hne : t ≠ [] := by
          rintro rfl
          exact hchecked hc
        have hct : Completed t := (completed_append (t := [_]) hne).mp hc
        obtain ⟨p, hp, hnot, -⟩ | ⟨a, o, b, hsplit, hp, hrest⟩ := Steps.bind_cases h₁
        · obtain ⟨hquiet, -⟩ | ⟨snapshot, fresh, stale, -, -, rfl⟩ := steps_hotplugPoll serial hp
          · exact absurd hct (not_completed_of_quiet fun y hy => hquiet y (List.mem_append_left _ hy))
          · exact absurd rfl (hnot _)
        obtain ⟨c, rfl, rfl⟩ | ⟨c, rfl, rfl⟩ := List.append_eq_append_iff.mp hsplit
        · -- the cut is within the poll
          obtain ⟨p, hp₁, hp₂⟩ := hp.split
          obtain ⟨hquiet, -⟩ | ⟨snapshot, fresh, stale, -, -, rfl⟩ := steps_hotplugPoll serial hp₁
          · exact absurd hct (not_completed_of_quiet hquiet)
          · obtain ⟨rfl, ho⟩ := steps_done.mp hp₂
            cases ho
            obtain ⟨snapshot', v, rfl, hv, hsnaps, hcurrent⟩ := steps_hotplugPoll_done hp₁
            have hlatest : latest (⟨.loadStop, false⟩ :: ⟨.enumerate, snapshot'⟩ :: v : Trace Info) = snapshot' := by
              rw [← List.singleton_append, latest_append hct, latest, hsnaps]
              rfl
            refine ⟨polls, [⟨.loadStop, false⟩], v, ?_, hv, ?_⟩
            · rw [hlatest]
              rfl
            · rw [hlatest, ← hcurrent]
              exact hrest
        · cases o with
          | none =>
            obtain ⟨hcu, -⟩ := steps_done.mp hrest
            obtain ⟨rfl, rfl⟩ := List.append_eq_nil_iff.mp hcu
            obtain ⟨hquiet, -⟩ | ⟨snapshot, fresh, stale, -, -, ho⟩ := steps_hotplugPoll serial hp
            · rw [List.append_nil] at hct
              exact absurd hct (not_completed_of_quiet hquiet)
            · cases ho
          | some current =>
            obtain ⟨snapshot, v, rfl, hv, hsnaps, rfl⟩ := steps_hotplugPoll_done hp
            by_cases hcnil : c = []
            · -- the cut is right behind the poll
              subst hcnil
              rw [List.append_nil] at hct ⊢
              have hlatest : latest (⟨.loadStop, false⟩ :: ⟨.enumerate, snapshot⟩ :: v : Trace Info) = snapshot := by
                rw [← List.singleton_append, latest_append hct, latest, hsnaps]
                rfl
              refine ⟨polls, [⟨.loadStop, false⟩], v, ?_, hv, ?_⟩
              · rw [hlatest]
                rfl
              · rw [hlatest]
                exact hrest
            have hcc : Completed c := (completed_append hcnil).mp hct
            obtain ⟨p, hp', -, -⟩ | ⟨a', go, b', hsplit', hpause, hloop⟩ := Steps.bind_cases hrest
            · have hquiet := (steps_hotplugPause hp').1
              exact absurd hcc (not_completed_of_quiet fun y hy => hquiet y (List.mem_append_left _ hy))
            have hquiet := (steps_hotplugPause hpause).1
            obtain ⟨c', rfl, rfl⟩ | ⟨c', rfl, rfl⟩ := List.append_eq_append_iff.mp hsplit'
            · exact absurd hcc (not_completed_of_quiet fun y hy => hquiet y (List.mem_append_left _ hy))
            have hc'ne : c' ≠ [] := by
              rintro rfl
              rw [List.append_nil] at hcc
              exact not_completed_of_quiet hquiet hcc
            have hcc' : Completed c' := (completed_append hc'ne).mp hcc
            cases go with
            | false =>
              obtain ⟨hcu, -⟩ := steps_done.mp hloop
              exact absurd (List.append_eq_nil_iff.mp hcu).1 hc'ne
            | true =>
              obtain ⟨polls', a'', b'', hc', hb'', hq⟩ := ih hloop hcc'
              have hlatest : latest (⟨.loadStop, false⟩ :: (⟨.enumerate, snapshot⟩ :: v ++ (a' ++ c')) : Trace Info) =
                  latest c' := by
                rw [← List.singleton_append, latest_append hct, latest_append hcc, latest_append hcc']
              rw [hlatest]
              refine ⟨polls', ⟨.loadStop, false⟩ :: (⟨.enumerate, snapshot⟩ :: v ++ a') ++ a'', b'', ?_, hb'', hq⟩
              nth_rewrite 1 [hc']
              simp

/-! ## Polls that find what is known -/

def ListsOnly (key : Info → String) (known : HashMap String Info) (t : Trace Info) : Prop :=
  ∀ snapshot, ⟨.enumerate, snapshot⟩ ∈ t → ∀ k, k ∈ snapshot.map key ↔ k ∈ known

theorem ListsOnly.mono {known : HashMap String Info} {t u : Trace Info} (h : ListsOnly key known t)
    (hsub : ∀ x ∈ u, x ∈ t) : ListsOnly key known u :=
  fun snapshot hmem => h snapshot (hsub _ hmem)

theorem quiet_poll {known : HashMap String Info} {t : Trace Info}
    {q : HotplugProgram Info (Option (HashMap String Info))} (h : Steps (hotplugPoll key serial known) t q)
    (hsame : ListsOnly key known t) : sent t = [] := by
  unfold hotplugPoll at h
  obtain ⟨rfl, -⟩ | ⟨snapshot, t₁, rfl, h₁⟩ := steps_op_bind.mp h
  · rfl
  have hkeys : ∀ k, k ∈ collect key snapshot ↔ k ∈ known := fun k => by
    rw [mem_collect]
    exact hsame snapshot List.mem_cons_self k
  obtain ⟨rfl, -⟩ | ⟨fresh, t₂, rfl, h₂⟩ := steps_op_bind.mp h₁
  · rfl
  have hadded : ∀ {t : Trace Info} {q : HotplugProgram Info Bool},
      Steps (sendMissing serial .deviceAdded known fresh.toList) t q → sent t = [] := fun hs => by
    have hpre := (steps_sendMissing serial hs).2.1
    rw [missing_eq_nil fresh fun k hk => (hkeys k).mp hk] at hpre
    exact List.prefix_nil.mp hpre
  have hremoved : ∀ stale : Listing known,
      eventsOf serial .deviceRemoved (missing (collect key snapshot) stale.toList) = [] := fun stale => by
    rw [missing_eq_nil stale fun k hk => (hkeys k).mpr hk]
    rfl
  show sent t₂ = []
  obtain ⟨p, hp, -, -⟩ | ⟨t₃, ok, t₄, rfl, hp, h₃⟩ := Steps.bind_cases h₂
  · exact hadded hp
  rw [sent_append, hadded hp, List.nil_append]
  cases ok with
  | false =>
    obtain ⟨rfl, -⟩ := steps_done.mp h₃
    rfl
  | true =>
    obtain ⟨-, -, stale, hpre⟩ | ⟨stale, -, hsent, -⟩ := steps_removals serial h₃
    · rw [hremoved stale] at hpre
      exact List.prefix_nil.mp hpre
    · rw [hsent, hremoved stale]

theorem quiet_pausing_of {polls : ℕ} {known : HashMap String Info} {t : Trace Info} {q : HotplugProgram Info Unit}
    (hloop : ∀ {u : Trace Info}, Steps (hotplugLoop key serial polls known) u q → ListsOnly key known u →
      sent u = []) (h : Steps (pausing key serial polls known) t q) (hsame : ListsOnly key known t) :
    sent t = [] := by
  obtain ⟨p, hp, -, -⟩ | ⟨t₁, go, t₂, rfl, hp, h₂⟩ := Steps.bind_cases h
  · exact (steps_hotplugPause hp).2
  rw [sent_append, (steps_hotplugPause hp).2, List.nil_append]
  cases go with
  | false =>
    obtain ⟨rfl, -⟩ := steps_done.mp h₂
    rfl
  | true => exact hloop h₂ (hsame.mono fun x hx => List.mem_append_right _ hx)

theorem quiet_loop {polls : ℕ} {known : HashMap String Info} {t : Trace Info} {q : HotplugProgram Info Unit}
    (h : Steps (hotplugLoop key serial polls known) t q) (hsame : ListsOnly key known t) : sent t = [] := by
  induction polls generalizing known t with
  | zero =>
    obtain ⟨rfl, -⟩ := steps_done.mp h
    rfl
  | succ polls ih =>
    unfold hotplugLoop at h
    obtain ⟨rfl, -⟩ | ⟨stop, t₁, rfl, h₁⟩ := steps_op_bind.mp h
    · rfl
    show sent t₁ = []
    replace hsame : ListsOnly key known t₁ := hsame.mono fun x hx => List.mem_cons_of_mem _ hx
    cases stop with
    | true =>
      obtain ⟨rfl, -⟩ := steps_done.mp h₁
      rfl
    | false =>
      obtain ⟨p, hp, -, -⟩ | ⟨t₂, o, t₃, rfl, hp, h₂⟩ := Steps.bind_cases h₁
      · exact quiet_poll hp hsame
      rw [sent_append, quiet_poll hp (hsame.mono fun x hx => List.mem_append_left _ hx), List.nil_append]
      cases o with
      | none =>
        obtain ⟨rfl, -⟩ := steps_done.mp h₂
        rfl
      | some current =>
        obtain ⟨snapshot, v, rfl, -, -, rfl⟩ := steps_hotplugPoll_done hp
        have hknown := hsame snapshot List.mem_cons_self
        refine quiet_pausing_of (fun hu hlists => ih hu hlists) h₂ fun snapshot' hmem k => ?_
        rw [hsame snapshot' (List.mem_append_right _ hmem) k, mem_collect, hknown k]

end Loop

/-! ## The watcher on Linux -/

abbrev LinuxInfo : Type := DeviceInfo LinuxLocation

/-- `seed` is what decides the order of a new map. -/
inductive WatchOp where
  | sysfs (op : SysfsOp)
  | seed
  | hotplug (op : HotplugOp LinuxInfo)

abbrev WatchOp.Reply : WatchOp → Type
  | .sysfs op => op.Reply
  | .seed => (byDev : Linux.DeviceMap) → Listing byDev
  | .hotplug op => op.Reply

abbrev WatchTrace : Type := List (Exchange WatchOp WatchOp.Reply)

/-- The enumeration of a poll walks the file system. -/
def onHost : (op : HotplugOp LinuxInfo) → Program WatchOp WatchOp.Reply op.Reply
  | .enumerate => .perform .seed fun order =>
    (Linux.enumerate order).translate fun op => .perform (.sysfs op) .done
  | .loadStop => .perform (.hotplug .loadStop) .done
  | .iterate map => .perform (.hotplug (.iterate map)) .done
  | .send key event => .perform (.hotplug (.send key event)) .done
  | .polled snapshot => .perform (.hotplug (.polled snapshot)) .done
  | .sleep millis => .perform (.hotplug (.sleep millis)) .done

def watcher (polls : ℕ) : Program WatchOp WatchOp.Reply Unit := (hotplugLoopLinux polls).translate onHost

inductive HostEffect : (op : WatchOp) → Sysfs → op.Reply → Sysfs → Prop
  | sysfs (op : SysfsOp) (fs : Sysfs) : HostEffect (.sysfs op) fs (fs.answer op []).1 fs
  | seed (fs : Sysfs) (order : (byDev : Linux.DeviceMap) → Listing byDev) : HostEffect .seed fs order fs
  | hotplug (op : HotplugOp LinuxInfo) (fs : Sysfs) (r : op.Reply) : HostEffect (.hotplug op) fs r fs

/-- Between any two operations of the watcher the file system may become any other one. -/
def hostWorld : World Unit WatchOp WatchOp.Reply Sysfs where
  perform _ := HostEffect
  environment _ _ := True

abbrev WatchLabel : Type := Label Unit WatchOp WatchOp.Reply

abbrev WatchConfig : Type := Config Unit WatchOp WatchOp.Reply (fun _ => Unit) Sysfs

def watching (polls : ℕ) (fs : Sysfs) : WatchConfig := ⟨fun _ => watcher polls, fs⟩

/-! ## What the watcher sends -/

def hotplugOf : Exchange WatchOp WatchOp.Reply → Option (Exchange (HotplugOp LinuxInfo) HotplugOp.Reply)
  | ⟨.hotplug op, r⟩ => some ⟨op, r⟩
  | _ => none

def watched (ls : List WatchLabel) : WatchTrace := ls.filterMap (Label.exchangeOf ())

/-- The events of a run, each with its key. -/
def watchedEvents (ls : List WatchLabel) : List (String × Event) := sent ((watched ls).filterMap hotplugOf)

/-- A poll is completed. -/
def EndsPoll (ls : List WatchLabel) : Prop :=
  ∃ snapshot, ls.getLast? = some (.thread () (.hotplug (.polled snapshot)) ())

theorem watched_append (ls ms : List WatchLabel) : watched (ls ++ ms) = watched ls ++ watched ms :=
  List.filterMap_append

/-! ## One operation on the host -/

/-- What the enumeration does is at the file system. -/
def AtSysfs : Exchange WatchOp WatchOp.Reply → Prop
  | ⟨.hotplug _, _⟩ => False
  | _ => True

theorem hotplugOf_atSysfs {t : WatchTrace} (h : ∀ x ∈ t, AtSysfs x) : t.filterMap hotplugOf = [] := by
  refine List.filterMap_eq_nil_iff.mpr fun x hx => ?_
  have hop := h x hx
  obtain ⟨op, r⟩ := x
  cases op with
  | hotplug op => exact hop.elim
  | _ => rfl

def sysfsExchange (x : Exchange SysfsOp SysfsOp.Reply) : Exchange WatchOp WatchOp.Reply := ⟨.sysfs x.1, x.2⟩

theorem steps_list {order : (byDev : Linux.DeviceMap) → Listing byDev} {t : WatchTrace}
    {q : Program WatchOp WatchOp.Reply (List LinuxInfo)}
    (h : Steps ((Linux.enumerate order).translate fun op => .perform (.sysfs op) .done) t q) :
    ∃ v q', Steps (Linux.enumerate order) v q' ∧ t = v.map sysfsExchange ∧
      q = q'.translate fun op => .perform (.sysfs op) .done :=
  @Program.steps_translate_one _ _ _ _ WatchOp.Reply WatchOp.sysfs (fun _ r => r) (fun _ r => r) (fun _ _ => rfl)
    _ _ _ h

/-- An enumeration, as far as it has come, is at the file system. -/
theorem steps_onHost_enumerate {t : WatchTrace} {q : Program WatchOp WatchOp.Reply (List LinuxInfo)}
    (h : Steps (onHost .enumerate) t q) : ∀ x ∈ t, AtSysfs x := by
  obtain ⟨rfl, -⟩ | ⟨order, u, rfl, hu⟩ := Program.steps_perform.mp h
  · simp
  obtain ⟨v, -, -, rfl, -⟩ := steps_list hu
  refine List.forall_mem_cons.mpr ⟨trivial, fun x hx => ?_⟩
  obtain ⟨y, -, rfl⟩ := List.mem_map.mp hx
  trivial

theorem onHost_one {op : HotplugOp LinuxInfo} (hop : NoEnumerate op) :
    onHost op = .perform (.hotplug op) .done := by
  cases op with
  | enumerate => exact hop.elim
  | _ => rfl

theorem steps_onHost_one {op : HotplugOp LinuxInfo} (hop : NoEnumerate op) {t : WatchTrace}
    {q : Program WatchOp WatchOp.Reply op.Reply} (h : Steps (onHost op) t q) :
    t = [] ∨ ∃ r, t = [⟨.hotplug op, r⟩] ∧ q = .done r := by
  rw [onHost_one hop] at h
  obtain ⟨rfl, -⟩ | ⟨r, u, rfl, hu⟩ := Program.steps_perform.mp h
  · exact .inl rfl
  · obtain ⟨rfl, rfl⟩ := steps_done.mp hu
    exact .inr ⟨r, rfl, rfl⟩

theorem noEnumerate_or (op : HotplugOp LinuxInfo) : op = .enumerate ∨ NoEnumerate op := by
  cases op with
  | enumerate => exact .inl rfl
  | _ => exact .inr trivial

theorem Carries.sent_eq {low : WatchTrace} {high : Trace LinuxInfo} (h : Carries onHost low high) :
    sent (low.filterMap hotplugOf) = sent high := by
  induction h with
  | nil => rfl
  | @cons op r u low high first rest ih =>
    rw [List.filterMap_append, sent_append, ih]
    obtain rfl | hop := noEnumerate_or op
    · rw [hotplugOf_atSysfs (steps_onHost_enumerate first)]
      rfl
    · obtain rfl | ⟨r', rfl, hr⟩ := steps_onHost_one hop first
      · cases op with
        | enumerate => exact hop.elim
        | _ => cases first
      · cases hr
        exact (sent_append [⟨op, r⟩] high).symm

theorem carries_nil {high : Trace LinuxInfo} (h : Carries onHost [] high) : high = [] := by
  generalize hlow : ([] : WatchTrace) = low at h
  cases h with
  | nil => rfl
  | @cons op r u low high first rest =>
    obtain ⟨rfl, -⟩ := List.append_eq_nil_iff.mp hlow.symm
    cases op <;> cases first

/-- The last operation is the last one on the host where that is the loop's own. -/
theorem Carries.getLast?_eq {low : WatchTrace} {high : Trace LinuxInfo} (h : Carries onHost low high)
    {op : HotplugOp LinuxInfo} {r : op.Reply} (hlast : low.getLast? = some ⟨.hotplug op, r⟩) :
    high.getLast? = some ⟨op, r⟩ := by
  induction h with
  | nil => cases hlast
  | @cons op' r' u low high first rest ih =>
    by_cases hlow : low = []
    · subst hlow
      rw [List.append_nil] at hlast
      rw [carries_nil rest]
      have hmem := List.mem_of_getLast? hlast
      obtain rfl | hop := noEnumerate_or op'
      · exact absurd (steps_onHost_enumerate first _ hmem) id
      · obtain rfl | ⟨r'', rfl, hr⟩ := steps_onHost_one hop first
        · cases hmem
        · cases hr
          cases hlast
          rfl
    · rw [List.getLast?_append_of_ne_nil _ hlow] at hlast
      rw [← List.singleton_append, List.getLast?_append, ih hlast]
      rfl

/-- The class directory is read. -/
def ReadsClass : Exchange WatchOp WatchOp.Reply → Prop
  | ⟨.sysfs (.readDir _), _⟩ => True
  | _ => False

theorem not_readsClass {low : WatchTrace} {high : Trace LinuxInfo} (h : Carries onHost low high)
    (hnot : ∀ x ∈ high, ¬ Lists x) : ∀ y ∈ low, ¬ ReadsClass y := by
  induction h with
  | nil => simp
  | @cons op r u low high first rest ih =>
    obtain ⟨hfirst, hrest⟩ := List.forall_mem_cons.mp hnot
    refine List.forall_mem_append.mpr ⟨?_, ih hrest⟩
    obtain rfl | hop := noEnumerate_or op
    · exact absurd trivial hfirst
    · obtain rfl | ⟨r', rfl, -⟩ := steps_onHost_one hop first
      · simp
      · simp [ReadsClass]

/-! ## One enumeration at a file system at rest -/

def NoReadDir : SysfsOp → Prop
  | .readDir _ => False
  | _ => True

theorem uses_readU8 (path : Path) : Uses NoReadDir (Linux.readU8 path).run := by
  refine ⟨trivial, fun r => ?_⟩
  cases r with
  | error e => trivial
  | ok s =>
    dsimp only
    split <;> trivial

theorem uses_readU16Hex (path : Path) : Uses NoReadDir (Linux.readU16Hex path).run := by
  refine ⟨trivial, fun r => ?_⟩
  cases r with
  | error e => trivial
  | ok s =>
    dsimp only
    split <;> trivial

theorem uses_cameraAt (entry : OsString) : Uses NoReadDir (Linux.cameraAt entry) := by
  unfold Linux.cameraAt
  refine Program.uses_bind ⟨trivial, fun _ => trivial⟩ fun ifaceDir => ?_
  cases ifaceDir with
  | error e => trivial
  | ok ifaceDir =>
    dsimp only
    cases ifaceDir.parent with
    | none => trivial
    | some devDir =>
      dsimp only
      refine Program.uses_bind (uses_readU8 _) fun busnum => ?_
      refine Program.uses_bind (uses_readU8 _) fun devnum => ?_
      refine Program.uses_bind (uses_readU16Hex _) fun vendorId => ?_
      refine Program.uses_bind (uses_readU16Hex _) fun productId => ?_
      split
      · split
        · trivial
        · split
          · exact ⟨trivial, fun _ => trivial⟩
          · trivial
      · trivial

theorem uses_collectDevices (dir : List (Except String OsString)) (byDev : Linux.DeviceMap) :
    Uses NoReadDir (Linux.collectDevices dir byDev) := by
  induction dir generalizing byDev with
  | nil => trivial
  | cons entry dir ih =>
    cases entry with
    | error e => exact ih byDev
    | ok entry =>
      refine Program.uses_bind (uses_cameraAt entry) fun info => ?_
      cases info with
      | none => exact ih byDev
      | some info => exact ih _

/-- An enumeration reads the class directory first, and once. -/
theorem steps_enumerate {order : (byDev : Linux.DeviceMap) → Listing byDev} {infos : List LinuxInfo}
    {v : List (Exchange SysfsOp SysfsOp.Reply)} (h : Steps (Linux.enumerate order) v (.done infos)) :
    ∃ dir v', v = ⟨.readDir videoClass, dir⟩ :: v' ∧ ∀ x ∈ v', NoReadDir x.1 := by
  unfold Linux.enumerate at h
  obtain ⟨-, hq⟩ | ⟨dir, v', rfl, hv⟩ := steps_op_bind.mp h
  · cases hq
  refine ⟨dir, v', rfl, ?_⟩
  cases dir with
  | error e =>
    obtain ⟨rfl, -⟩ := steps_done.mp hv
    simp
  | ok dir =>
    refine Uses.of_steps ?_ hv
    exact Program.uses_bind (uses_collectDevices dir ∅) fun _ => trivial

theorem answered_at_rest {fs : Sysfs} {v : List (Exchange SysfsOp SysfsOp.Reply)} (log : List Path)
    (h : ∀ x ∈ v, x.2 = (fs.answer x.1 []).1) : ∃ log', Program.Answered fs.answer log v log' := by
  induction v generalizing log with
  | nil => exact ⟨log, rfl⟩
  | cons x v ih =>
    obtain ⟨hx, hv⟩ := List.forall_mem_cons.mp h
    obtain ⟨op, r⟩ := x
    obtain ⟨log', hlog'⟩ := ih (fs.answer op log).2 hv
    refine ⟨log', ?_, hlog'⟩
    rw [show r = (fs.answer op []).1 from hx]
    cases op <;> rfl

/-- The cameras whose nodes are there. -/
def camerasOf (fs : Sysfs) : List LinuxInfo := (fs.devices fs.entries).filterMap fs.camera

theorem lists_cameras {fs : Sysfs} (hdistinct : fs.DistinctNumbers fs.entries)
    {order : (byDev : Linux.DeviceMap) → Listing byDev} {infos : List LinuxInfo}
    {v : List (Exchange SysfsOp SysfsOp.Reply)} (h : Steps (Linux.enumerate order) v (.done infos))
    (hrest : ∀ x ∈ v, x.2 = (fs.answer x.1 []).1) : infos.Perm (camerasOf fs) := by
  have hnames := fs.entriesOf_entries
  obtain ⟨infos', hrun, hperm⟩ := Sysfs.run_enumerate (hnames.symm ▸ hdistinct) order []
  rw [fs.answerOver_entries] at hrun
  rw [hnames] at hperm
  obtain ⟨log, hlog⟩ := answered_at_rest [] hrest
  have hrun' : Program.run fs.answer (Linux.enumerate order) [] = (.ok infos, log) :=
    Program.run_eq_ok_iff.mpr ⟨v, h, hlog⟩
  rw [hrun] at hrun'
  cases hrun'
  exact hperm

/-! ## A host at rest -/

/-- The replies are those of this file system. -/
def RepliesOf (fs : Sysfs) : Exchange WatchOp WatchOp.Reply → Prop
  | ⟨.sysfs op, r⟩ => r = (fs.answer op []).1
  | _ => True

theorem run_at_rest {c d : WatchConfig} {ls : List WatchLabel} (h : hostWorld.Run c ls d)
    (hrest : .environment ∉ ls) : d.shared = c.shared ∧ ∀ x ∈ watched ls, RepliesOf c.shared x := by
  induction h with
  | refl c => exact ⟨rfl, by simp [watched]⟩
  | @cons c e d l ls step _ ih =>
    obtain ⟨hl, hls⟩ := not_or.mp (fun hmem => hrest (List.mem_cons.mpr hmem))
    obtain ⟨hshared, hreplies⟩ := ih hls
    cases step with
    | environment heffect => exact absurd rfl hl
    | @thread i op next r fs head heffect =>
      have hsame : fs = c.shared ∧ RepliesOf c.shared ⟨op, r⟩ := by
        cases heffect with
        | sysfs op => exact ⟨rfl, rfl⟩
        | seed order => exact ⟨rfl, trivial⟩
        | hotplug op r => exact ⟨rfl, trivial⟩
      obtain ⟨rfl, hreply⟩ := hsame
      exact ⟨hshared, List.forall_mem_cons.mpr ⟨hreply, hreplies⟩⟩

/-- An enumeration whose replies are those of a file system at rest lists the cameras that are there. -/
theorem steps_enumerate_at_rest {fs : Sysfs} (hdistinct : fs.DistinctNumbers fs.entries) {infos : List LinuxInfo}
    {u : WatchTrace} (h : Steps (onHost .enumerate) u (.done infos)) :
    ∃ order dir v, u = ⟨.seed, order⟩ :: ⟨.sysfs (.readDir videoClass), dir⟩ :: v ∧ (∀ x ∈ v, ¬ ReadsClass x) ∧
      ((∀ x ∈ ⟨.sysfs (.readDir videoClass), dir⟩ :: v, RepliesOf fs x) → infos.Perm (camerasOf fs)) := by
  obtain ⟨-, hq⟩ | ⟨order, u, rfl, hu⟩ := Program.steps_perform.mp h
  · cases hq
  obtain ⟨v, q, hv, rfl, hq⟩ := steps_list hu
  have hdone : q = .done infos := by
    cases q with
    | done a =>
      cases hq
      rfl
    | crash m => cases hq
    | perform op next => cases hq
  subst hdone
  obtain ⟨dir, v', rfl, hquiet⟩ := steps_enumerate hv
  refine ⟨order, dir, v'.map sysfsExchange, rfl, fun x hx hreads => ?_, fun hreplies => ?_⟩
  · obtain ⟨⟨op, r⟩, hy, rfl⟩ := List.mem_map.mp hx
    cases op with
    | readDir path => exact hquiet _ hy
    | _ => exact hreads
  · refine lists_cameras hdistinct hv fun x hx => ?_
    exact hreplies (sysfsExchange x) (List.mem_map_of_mem (f := sysfsExchange) hx)

/-- Behind the last of some kind, everything is on the side on which that one is. -/
theorem mem_right_of_last {α : Type} {P : α → Prop} {a b l r : List α} {x : α} (h : a ++ b = l ++ x :: r)
    (hb : ∃ y ∈ b, P y) (hr : ∀ z ∈ r, ¬ P z) : ∀ z ∈ x :: r, z ∈ b := by
  obtain ⟨c, rfl, hc⟩ | ⟨c, rfl, hc⟩ := List.append_eq_append_iff.mp h
  · rw [hc]
    exact fun z hz => List.mem_append_right _ hz
  · cases c with
    | nil =>
      rw [List.nil_append] at hc
      rw [← hc]
      exact fun z hz => hz
    | cons y c =>
      obtain ⟨rfl, rfl⟩ := List.cons.inj hc
      obtain ⟨y, hy, hP⟩ := hb
      exact absurd hP (hr y (List.mem_append_right _ hy))

theorem sent_part {p : HotplugProgram LinuxInfo Unit} {part : WatchTrace} {q : Program WatchOp WatchOp.Reply Unit}
    (h : Begun onHost p part q) : ∀ x ∈ part, AtSysfs x := by
  obtain ⟨rfl, -⟩ | ⟨op, next, rest, -, hrest, hnot, -⟩ := h
  · simp
  obtain rfl | hop := noEnumerate_or op
  · exact steps_onHost_enumerate hrest
  · obtain rfl | ⟨r, -, rfl⟩ := steps_onHost_one hop hrest
    · simp
    · exact absurd rfl (hnot r)

/-- A run that ends where a poll does, in terms of the loop's own operations. -/
theorem EndsPoll.carried {polls : ℕ} {fs : Sysfs} {d : WatchConfig} {ls : List WatchLabel}
    (h : hostWorld.Run (watching polls fs) ls d) (hends : EndsPoll ls) : ∃ high p,
      Carries onHost (watched ls) high ∧ Steps (hotplugLoopLinux polls) high p ∧ Completed high ∧
        d.threads () = p.translate onHost := by
  obtain ⟨snapshot, hlast⟩ := hends
  obtain ⟨front, rfl⟩ := List.getLast?_eq_some_iff.mp hlast
  have hwatched : (watched (front ++ [.thread () (.hotplug (.polled snapshot)) ()])).getLast? =
      some ⟨.hotplug (.polled snapshot), ()⟩ := by
    rw [watched_append]
    exact List.getLast?_concat
  obtain ⟨low, part, high, p, hsplit, hlow, hhigh, hpart⟩ := Program.Steps.translated (h.steps ())
  have hnil : part = [] := by
    by_contra hne
    change watched _ = low ++ part at hsplit
    rw [hsplit, List.getLast?_append_of_ne_nil _ hne] at hwatched
    exact sent_part hpart _ (List.mem_of_getLast? hwatched)
  subst hnil
  rw [List.append_nil] at hsplit
  subst hsplit
  exact ⟨high, p, hlow, hhigh, ⟨snapshot, Carries.getLast?_eq hlow hwatched⟩, hpart.of_nil⟩

/-- Once a poll has met a file system at rest, the events of each key add up to one addition for a camera that is
there and to none for one that is not, every camera that is there can be opened, and nothing more is sent as long as
the file system stays at rest. -/
theorem events_track_sysfs {polls : ℕ} {fs : Sysfs} {d : WatchConfig} {before still : List WatchLabel}
    (h : hostWorld.Run (watching polls fs) (before ++ still) d) (hstill : .environment ∉ still)
    (hread : ∃ x ∈ watched still, ReadsClass x) (hends : EndsPoll still)
    (hdistinct : d.shared.DistinctNumbers d.shared.entries) :
    Ledger (entries (watchedEvents (before ++ still))) ((camerasOf d.shared).map deviceKeyLinux).toFinset ∧
    addedEvents (watchedEvents (before ++ still)) =
      removedEvents (watchedEvents (before ++ still)) + (camerasOf d.shared).length ∧
    (∀ info ∈ camerasOf d.shared, ∃ name ∈ d.shared.entries,
      d.shared.Selects info.location.busnum info.location.devnum name ∧
        ∃ device, d.shared.deviceDir name = some device ∧ d.shared.camera device = some info) ∧
    ∀ more e, hostWorld.Run d more e → .environment ∉ more → watchedEvents more = [] := by
  have hall : EndsPoll (before ++ still) := by
    obtain ⟨snapshot, hlast⟩ := hends
    have hne : still ≠ [] := by
      rintro rfl
      cases hlast
    exact ⟨snapshot, by rw [List.getLast?_append_of_ne_nil _ hne, hlast]⟩
  obtain ⟨high, p, hlow, hhigh, hc, hleft⟩ := EndsPoll.carried h hall
  obtain ⟨c, -, hrunStill⟩ := h.split
  obtain ⟨hshared, hreplies⟩ := run_at_rest hrunStill hstill
  -- the last list of cameras was made at rest
  obtain ⟨-, a, b, hsplit, hb, -⟩ := completed_split (u := []) (by rw [List.append_nil]; exact hhigh) hc
  have hperm : (latest high).Perm (camerasOf d.shared) := by
    rw [hsplit] at hlow
    obtain ⟨low₁, u, low₂, hcut, -, hu, hlow₂⟩ := hlow.split
    obtain ⟨order, dir, v, rfl, hv, hlists⟩ := steps_enumerate_at_rest hdistinct hu
    refine hlists fun x hx => ?_
    rw [hshared]
    refine hreplies x ?_
    refine @mem_right_of_last _ ReadsClass (watched before) _ (low₁ ++ [⟨.seed, order⟩]) (v ++ low₂)
      ⟨.sysfs (.readDir videoClass), dir⟩ ?_ hread ?_ x ?_
    · rw [← watched_append, hcut]
      simp
    · exact List.forall_mem_append.mpr ⟨hv, not_readsClass hlow₂ hb⟩
    · rw [← List.cons_append]
      exact List.mem_append_left _ hx
  have hsent : watchedEvents (before ++ still) = sent high := Carries.sent_eq hlow
  have hledger : Ledger (entries (watchedEvents (before ++ still)))
      ((camerasOf d.shared).map deviceKeyLinux).toFinset := by
    rw [hsent, ← List.toFinset_eq_of_perm _ _ (hperm.map deviceKeyLinux)]
    exact run_ledger hhigh hc
  have hnodup : ((camerasOf d.shared).map deviceKeyLinux).Nodup := by
    refine List.Nodup.map_on (fun info hinfo info' hinfo' hkey => ?_) hdistinct.cameras_nodup
    have hlocation := deviceKeyLinux_inj.mp hkey
    exact hdistinct.camera_eq hinfo hinfo' (by rw [Linux.keyOf, Linux.keyOf, hlocation])
  refine ⟨hledger, ?_, fun info hinfo => hdistinct.selects_camera hinfo, fun more e hmore hrest => ?_⟩
  · have htotal := hledger.total_eq
    rwa [List.toFinset_card_of_nodup hnodup, List.length_map] at htotal
  · obtain ⟨-, hreplies'⟩ := run_at_rest hmore hrest
    have hsteps := hmore.steps ()
    rw [hleft] at hsteps
    obtain ⟨low', part, high', p', hsplit', hlow', hhigh', hpart⟩ := Program.Steps.translated hsteps
    change watched more = low' ++ part at hsplit'
    obtain ⟨polls', -, -, -, -, hpausing⟩ := completed_split (hhigh.trans hhigh') hc
    rw [watchedEvents, hsplit', List.filterMap_append, hotplugOf_atSysfs (sent_part hpart), List.append_nil,
      Carries.sent_eq hlow']
    refine quiet_pausing_of (fun hu hlists => quiet_loop hu hlists) hpausing fun snapshot hmem k => ?_
    obtain ⟨a', b', rfl⟩ := List.append_of_mem hmem
    obtain ⟨low₁, u, low₂, hcut, -, hu, -⟩ := hlow'.split
    obtain ⟨order, dir, v, rfl, -, hlists⟩ := steps_enumerate_at_rest hdistinct hu
    have hperm' : snapshot.Perm (camerasOf d.shared) := by
      refine hlists fun x hx => hreplies' x ?_
      rw [hsplit', hcut]
      simp only [List.mem_append, List.mem_cons] at hx ⊢
      tauto
    rw [mem_collect, ((hperm'.trans hperm.symm).map deviceKeyLinux).mem_iff]

theorem replies_of_answered {fs : Sysfs} {v : List (Exchange SysfsOp SysfsOp.Reply)} {log log' : List Path}
    (h : Program.Answered fs.answer log v log') : ∀ x ∈ v, x.2 = (fs.answer x.1 []).1 := by
  induction v generalizing log with
  | nil => simp
  | cons x v ih =>
    obtain ⟨op, r⟩ := x
    obtain ⟨rfl, hrest⟩ := h
    refine List.forall_mem_cons.mpr ⟨?_, ih hrest⟩
    cases op <;> rfl

/-! ## Polls of a host at rest -/

def hosting (p : HotplugProgram LinuxInfo Unit) (fs : Sysfs) : WatchConfig := ⟨fun _ => p.translate onHost, fs⟩

/-- The file system at rest lets the loop have the reply. -/
def RepliesAtRest (fs : Sysfs) (x : Exchange (HotplugOp LinuxInfo) HotplugOp.Reply) : Prop :=
  ∃ u, Steps (onHost x.1) u (.done x.2) ∧ ∀ y ∈ u, RepliesOf fs y

theorem repliesAtRest_of_not_lists {fs : Sysfs} {x : Exchange (HotplugOp LinuxInfo) HotplugOp.Reply}
    (h : ¬ Lists x) : RepliesAtRest fs x := by
  obtain ⟨op, r⟩ := x
  obtain rfl | hop := noEnumerate_or op
  · exact absurd trivial h
  · have hone := @Program.steps_one WatchOp WatchOp.Reply (.hotplug op) r
    refine ⟨[⟨.hotplug op, r⟩], ?_, by simp [RepliesOf]⟩
    rw [onHost_one hop]
    exact hone

theorem exists_repliesAtRest {fs : Sysfs} (hdistinct : fs.DistinctNumbers fs.entries) :
    ∃ infos, RepliesAtRest fs ⟨.enumerate, infos⟩ := by
  have hnames := fs.entriesOf_entries
  have order : (byDev : Linux.DeviceMap) → Listing byDev := fun byDev => (Listing.exists_listing byDev).some
  obtain ⟨infos, hrun, -⟩ := Sysfs.run_enumerate (hnames.symm ▸ hdistinct) order []
  rw [fs.answerOver_entries] at hrun
  obtain ⟨v, hv, hanswered⟩ := Program.run_eq_ok_iff.mp hrun
  refine ⟨infos, ⟨.seed, order⟩ :: v.map sysfsExchange,
    Program.steps_perform.mpr (.inr ⟨order, _, rfl, ?_⟩), List.forall_mem_cons.mpr ⟨trivial, fun y hy => ?_⟩⟩
  · have hsysfs := @Steps.translate _ _ _ WatchOp WatchOp.Reply (fun op => .perform (.sysfs op) .done)
      (fun x => [sysfsExchange x]) (fun x => @Program.steps_one WatchOp WatchOp.Reply (.sysfs x.1) x.2) _ _ _ hv
    rwa [← List.map_eq_flatMap] at hsysfs
  · obtain ⟨x, hx, rfl⟩ := List.mem_map.mp hy
    exact replies_of_answered hanswered x hx

def labelled (low : WatchTrace) : List WatchLabel := low.map fun x => .thread () x.1 x.2

theorem watched_labelled (low : WatchTrace) : watched (labelled low) = low := by
  rw [watched, labelled, List.filterMap_map]
  exact List.filterMap_some

theorem not_environment_labelled (low : WatchTrace) : .environment ∉ labelled low := by
  simp [labelled]

theorem run_hosting {fs : Sysfs} {p q : HotplugProgram LinuxInfo Unit} {t : Trace LinuxInfo} (h : Steps p t q)
    (ht : ∀ x ∈ t, RepliesAtRest fs x) : ∃ low,
      hostWorld.Run (hosting p fs) (labelled low) (hosting q fs) ∧ Carries onHost low t := by
  obtain ⟨low, hlow, hsteps, hreplies⟩ := Steps.carried h ht
  have hrun := World.Run.of_steps (W := hostWorld) (c := hosting p fs) (i := ()) hsteps fun x hx => by
    have hx := hreplies x hx
    obtain ⟨op, r⟩ := x
    cases op with
    | sysfs op =>
      rw [show r = (fs.answer op []).1 from hx]
      exact .sysfs op fs
    | seed => exact .seed fs r
    | hotplug op => exact .hotplug op fs r
  have hend : (hosting p fs).set () (q.translate onHost) fs = hosting q fs := by
    rw [Config.set, hosting, Function.update_eq_const_of_subsingleton]
    rfl
  exact ⟨low, hend ▸ hrun, hlow⟩

/-- A poll, with nothing else going on. -/
theorem exists_restingPoll {fs : Sysfs} (hdistinct : fs.DistinctNumbers fs.entries) (polls : ℕ)
    (known : HashMap String LinuxInfo) : ∃ ls known',
      hostWorld.Run (hosting (hotplugLoop deviceKeyLinux DeviceInfo.serial (polls + 1) known) fs) ls
        (hosting (pausing deviceKeyLinux DeviceInfo.serial polls known') fs) ∧
      .environment ∉ ls ∧ (∃ x ∈ watched ls, ReadsClass x) ∧ EndsPoll ls := by
  obtain ⟨infos, hinfos⟩ := exists_repliesAtRest hdistinct
  obtain ⟨t, ht, hsnaps, hc⟩ := exists_hotplugPoll deviceKeyLinux DeviceInfo.serial known infos
  obtain ⟨snapshot, b, rfl, hb, hsnaps', -⟩ := steps_hotplugPoll_done ht
  obtain rfl : snapshot = infos := List.singleton_inj.mp (hsnaps'.symm.trans hsnaps)
  have hloop : Steps (hotplugLoop deviceKeyLinux DeviceInfo.serial (polls + 1) known)
      (⟨.loadStop, false⟩ :: (⟨.enumerate, snapshot⟩ :: b ++ []))
      (pausing deviceKeyLinux DeviceInfo.serial polls (collect deviceKeyLinux snapshot)) :=
    steps_op_bind.mpr (.inr ⟨false, _, rfl, ht.bind (.refl _)⟩)
  rw [List.append_nil] at hloop
  obtain ⟨low, hrun, hlow⟩ := run_hosting hloop (List.forall_mem_cons.mpr ⟨repliesAtRest_of_not_lists id,
    List.forall_mem_cons.mpr ⟨hinfos, fun x hx => repliesAtRest_of_not_lists (hb x hx)⟩⟩)
  refine ⟨labelled low, _, hrun, not_environment_labelled low, ?_, ?_⟩
  · rw [watched_labelled]
    obtain ⟨low₁, u, low₂, rfl, -, hu, -⟩ :=
      @Carries.split _ _ _ _ onHost low [⟨HotplugOp.loadStop, false⟩] ⟨.enumerate, snapshot⟩ b hlow
    obtain ⟨order, dir, v', rfl, -, -⟩ := steps_enumerate_at_rest hdistinct hu
    exact ⟨⟨.sysfs (.readDir videoClass), dir⟩, by simp, trivial⟩
  · obtain ⟨snapshot', hlast⟩ := hc
    obtain ⟨front, hfront⟩ := List.getLast?_eq_some_iff.mp hlast
    rw [hfront] at hlow
    obtain ⟨low₁, u, low₂, rfl, -, hu, hrest⟩ :=
      @Carries.split _ _ _ _ onHost low (⟨HotplugOp.loadStop, false⟩ :: front) ⟨.polled snapshot', ()⟩ [] hlow
    obtain rfl | ⟨r, rfl, -⟩ := @steps_onHost_one (.polled snapshot') trivial _ _ hu
    · cases hu
    · cases hrest
      exact ⟨snapshot', by simp [labelled]⟩

/-- The sleep between two polls, likewise. -/
theorem exists_restingPause (fs : Sysfs) (polls : ℕ) (known : HashMap String LinuxInfo) : ∃ ls,
    hostWorld.Run (hosting (pausing deviceKeyLinux DeviceInfo.serial polls known) fs) ls
      (hosting (hotplugLoop deviceKeyLinux DeviceInfo.serial polls known) fs) := by
  obtain ⟨t, ht⟩ := @exists_hotplugPause LinuxInfo 0
  have hpause : Steps (pausing deviceKeyLinux DeviceInfo.serial polls known) (t ++ [])
      (hotplugLoop deviceKeyLinux DeviceInfo.serial polls known) := ht.bind (.refl _)
  rw [List.append_nil] at hpause
  obtain ⟨low, hrun, -⟩ := run_hosting hpause fun x hx =>
    repliesAtRest_of_not_lists (not_lists_of (uses_hotplugPause 0) ht x hx)
  exact ⟨labelled low, hrun⟩

/-- One of the two cameras is unplugged. -/
def oneCamera : Sysfs := { twoCameras with entries := [12, 3, 5, 0].map videoNode }

/-- The second camera goes between the first poll and the second. -/
theorem events_track_sysfs_two_cameras : ∃ first rest d e,
    hostWorld.Run (watching 2 twoCameras) first d ∧ hostWorld.Run d rest e ∧
    d.shared = twoCameras ∧ e.shared = oneCamera ∧
    addedEvents (watchedEvents first) = removedEvents (watchedEvents first) + 2 ∧
    addedEvents (watchedEvents (first ++ rest)) = removedEvents (watchedEvents (first ++ rest)) + 1 ∧
    ∀ more e', hostWorld.Run e more e' → .environment ∉ more → watchedEvents more = [] := by
  have htwo : twoCameras.DistinctNumbers twoCameras.entries := by decide +kernel
  have hone : oneCamera.DistinctNumbers oneCamera.entries := by decide +kernel
  have htwo' : (camerasOf twoCameras).length = 2 := by decide +kernel
  have hone' : (camerasOf oneCamera).length = 1 := by decide +kernel
  obtain ⟨first, known, hfirst, hrest, hread, hends⟩ := exists_restingPoll htwo 1 ∅
  obtain ⟨pause, hpause⟩ := exists_restingPause twoCameras 1 known
  obtain ⟨second, known', hsecond, hrest', hread', hends'⟩ := exists_restingPoll hone 0 known
  have hunplugged : hostWorld.Run (hosting (hotplugLoop deviceKeyLinux DeviceInfo.serial 1 known) twoCameras)
      (.environment :: second) (hosting (pausing deviceKeyLinux DeviceInfo.serial 0 known') oneCamera) :=
    .cons (.environment trivial) hsecond
  have hwhole := hfirst.trans (hpause.trans hunplugged)
  obtain ⟨-, hadded, -, -⟩ := @events_track_sysfs 2 twoCameras _ [] first hfirst hrest hread hends htwo
  have hsplit : first ++ (pause ++ .environment :: second) = first ++ (pause ++ [.environment]) ++ second := by simp
  rw [hsplit] at hwhole
  obtain ⟨-, hremoved, -, hquiet⟩ := events_track_sysfs hwhole hrest' hread' hends' hone
  refine ⟨first, pause ++ .environment :: second, _, _, hfirst, hpause.trans hunplugged, rfl, rfl, ?_, ?_, hquiet⟩
  · exact htwo' ▸ hadded
  · rw [hsplit]
    exact hone' ▸ hremoved

end Libobsbot.Hotplug

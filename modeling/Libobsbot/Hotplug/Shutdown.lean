import Libobsbot.Hotplug.Ledger
import Libobsbot.Poller.Shutdown

/-! # The end of the hot-plug watcher

`hotplug_loop` is a worker's loop whose rounds are polls, so whatever the stop flag cuts it at, what is
still sent is of one diff. With `Poller.Shutdown` this bounds what either thread of the library sends
once it is being stopped (`shutdown_bounded`).
-/

namespace Libobsbot.Hotplug
open Foundations
open Foundations.Program (Uses Steps Exchange)
set_option autoImplicit false

variable {Info : Type}

def stops : HotplugOp.Reply (.loadStop : HotplugOp Info) → Bool := fun stop => stop

theorem hotplugLoop_eq (key serial : Info → String) (polls : ℕ) (known : HashMap String Info) :
    hotplugLoop key serial polls known =
      Worker.loop stops (hotplugPoll key serial) (fun _ => hotplugPause 0) polls known := by
  induction polls generalizing known with
  | zero => rfl
  | succ polls ih =>
    unfold hotplugLoop Worker.loop
    refine congrArg (Program.perform _) (funext fun stop => ?_)
    cases stop with
    | true => rfl
    | false =>
      show (hotplugPoll key serial known >>= _) = hotplugPoll key serial known >>= _
      refine congrArg _ (funext fun current => ?_)
      cases current with
      | none => rfl
      | some current =>
        show (hotplugPause 0 >>= _) = hotplugPause 0 >>= _
        simp only [ih current]
        rfl

/-- The listings, the sends and the ends of polls. -/
def pollingOf : Exchange (HotplugOp Info) HotplugOp.Reply → Option (Exchange (HotplugOp Info) HotplugOp.Reply)
  | ⟨.loadStop, _⟩ => none
  | ⟨.iterate _, _⟩ => none
  | ⟨.sleep _, _⟩ => none
  | x => some x

theorem quiet_of_pollingOf {t : Trace Info} (h : t.filterMap pollingOf = []) :
    sent t = [] ∧ snapshots t = [] ∧ ∀ x ∈ t, ¬ Lists x := by
  have hquiet : ∀ x ∈ t, sentOf x = none ∧ polledOf x = none ∧ ¬ Lists x := by
    rintro ⟨op, r⟩ hx
    have hnone := List.filterMap_eq_nil_iff.mp h _ hx
    cases op with
    | enumerate => cases hnone
    | send key event => cases hnone
    | polled snapshot => cases hnone
    | _ => exact ⟨rfl, rfl, id⟩
  exact ⟨List.filterMap_eq_nil_iff.mpr fun x hx => (hquiet x hx).1,
    List.filterMap_eq_nil_iff.mpr fun x hx => (hquiet x hx).2.1, fun x hx => (hquiet x hx).2.2⟩

theorem polling_pause {slept : ℕ} {t : Trace Info} {q : HotplugProgram Info Bool}
    (h : Steps (hotplugPause slept) t q) : t.filterMap pollingOf = [] := by
  induction slept using hotplugPause.induct generalizing t with
  | case1 slept hlt ih =>
    rw [hotplugPause, if_pos hlt] at h
    obtain ⟨rfl, -⟩ | ⟨stop, u, rfl, hu⟩ := Program.steps_op_bind.mp h
    · rfl
    cases stop with
    | true =>
      obtain ⟨rfl, -⟩ := Program.steps_done.mp hu
      rfl
    | false =>
      obtain ⟨rfl, -⟩ | ⟨_, v, rfl, hv⟩ := Program.steps_op_bind.mp hu
      · rfl
      · have hrest := ih hv
        exact hrest
  | case2 slept hge =>
    rw [hotplugPause, if_neg hge] at h
    obtain ⟨rfl, -⟩ := Program.steps_done.mp h
    rfl

/-- Of the changes between what the loop remembered when it listed the cameras for the last time and that list: from
some event of them to some other. -/
def WithinOneDiff (key serial : Info → String) (t : Trace Info) (events : List (String × Event)) : Prop :=
  events = [] ∨ ∃ (u v : Trace Info) (snapshot : List Info) (fresh : Listing (collect key snapshot))
    (stale : Listing (collect key (latest u))), t = u ++ ⟨.enumerate, snapshot⟩ :: v ∧ (∀ x ∈ v, ¬ Lists x) ∧
      events <:+: pollEvents serial fresh stale

/-! ## The threads of an opened watcher -/

inductive DevicesThread where
  | watcher
  | owner
  deriving DecidableEq

abbrev DevicesThread.Value : DevicesThread → Type
  | watcher => Unit
  | owner => Unit

/-- Only the check of the flag has its reply fixed: any snapshot is seen, in any order, and the receivers can
be gone at any send. -/
def Effect (stop : Bool) : (op : HotplugOp Info) → op.Reply → Prop
  | .loadStop, r => r = stop
  | _, _ => True

def devicesWorld (Info : Type) :
    World DevicesThread (WorkerOp (HotplugOp Info)) (WorkerOp.Reply HotplugOp.Reply) (WorkerState Unit) :=
  Worker.world (fun stop _ op _ r _ => Effect stop op r) fun _ _ => False

abbrev DevicesConfig (Info : Type) : Type :=
  Config DevicesThread (WorkerOp (HotplugOp Info)) (WorkerOp.Reply HotplugOp.Reply) DevicesThread.Value
    (WorkerState Unit)

abbrev DevicesLabel (Info : Type) : Type :=
  Label DevicesThread (WorkerOp (HotplugOp Info)) (WorkerOp.Reply HotplugOp.Reply)

/-- The watcher has just been spawned, and its handle is yet to be dropped. -/
structure Watched (key serial : Info → String) (polls : ℕ) (c : DevicesConfig Info) : Prop where
  watcher : c.threads .watcher = Worker.thread (hotplugLoop key serial polls ∅)
  owner : c.threads .owner = Devices.drop
  stop : c.shared.stop = false
  finished : c.shared.finished = false

section Runs
variable {key serial : Info → String} {polls : ℕ} {c d : DevicesConfig Info} {ls ms : List (DevicesLabel Info)}

/-- What the watcher does in a run. -/
def hotplugTrace (ls : List (DevicesLabel Info)) : Trace Info := Worker.ownExchanges .watcher ls

def hotplugEvents (ls : List (DevicesLabel Info)) : List (String × Event) := sent (hotplugTrace ls)

/-- What the loop remembers between polls is the last snapshot. -/
theorem remembered_poll {s t : Trace Info} {known current : HashMap String Info}
    (hpoll : Steps (hotplugPoll key serial known) t (.done (some current))) :
    current = collect key (latest (s ++ t)) := by
  obtain ⟨-, hnone, -⟩ | ⟨snapshot, -, -, hsnaps, -, hq⟩ := steps_hotplugPoll serial hpoll
  · exact absurd rfl (hnone current)
  · cases hq
    simp [latest, hsnaps]

theorem latest_quiet {s w : Trace Info} (h : w.filterMap pollingOf = []) : latest (s ++ w) = latest s := by
  rw [latest, snapshots_append, (quiet_of_pollingOf h).2.1, List.append_nil, latest]

theorem Watched.after_stop (hc : Watched key serial polls c)
    (h : (devicesWorld Info).Run c (ls ++ .thread .owner .setStop () :: ms) d) :
    WithinOneDiff key serial (hotplugTrace (ls ++ .thread .owner .setStop () :: ms)) (hotplugEvents ms) := by
  obtain ⟨⟨q, hsteps⟩, hstop⟩ := Worker.own_after_stop h hc.watcher
  rw [hotplugLoop_eq] at hsteps
  have hunder : ∀ x ∈ Worker.ownExchanges .watcher ms, Worker.UnderStop stops x := by
    rintro x hx r rfl
    obtain ⟨-, -, heffect⟩ := hstop _ hx
    exact heffect
  have htrace : hotplugTrace (ls ++ .thread .owner .setStop () :: ms) = hotplugTrace ls ++ hotplugTrace ms :=
    List.filterMap_append
  obtain hnothing | ⟨known, u, a, b, rest, q', hknown, hls, hms, hround, hrest⟩ :=
    @Worker.last_round _ _ _ _ _ _ _ _ pollingOf (fun _ => rfl) (fun _ _ _ => polling_pause)
      (fun s known => known = collect key (latest s)) (fun _ _ _ _ _ => remembered_poll)
      (fun _ _ _ hknown hquiet => (latest_quiet hquiet).symm ▸ hknown) _ _ [] _ _ _ rfl hsteps hunder
  · exact .inl (quiet_of_pollingOf hnothing).1
  have hevents : hotplugEvents ms = sent b := by
    have hsent := (quiet_of_pollingOf hrest).1
    show sent (Worker.ownExchanges .watcher ms) = sent b
    rw [hms, sent_append, hsent, List.append_nil]
  obtain hnil | ⟨snapshot, v, fresh, stale, hlisted, hlists, hprefix⟩ := steps_listed serial hround
  · rw [(List.append_eq_nil_iff.mp hnil).2] at hevents
    exact .inl hevents
  · subst hknown
    refine .inr ⟨u, v ++ rest, snapshot, fresh, stale, ?_, ?_, ?_⟩
    · calc hotplugTrace (ls ++ .thread .owner .setStop () :: ms)
          = (u ++ a) ++ (b ++ rest) := by rw [htrace, hotplugTrace, hotplugTrace, hls, hms]
        _ = u ++ (a ++ b) ++ rest := by simp
        _ = u ++ ⟨.enumerate, snapshot⟩ :: (v ++ rest) := by simp [hlisted]
    · exact List.forall_mem_append.mpr ⟨hlists, (quiet_of_pollingOf hrest).2.2⟩
    · rw [hevents]
      have hsuffix : sent b <:+ sent v := by
        have hsent : sent (a ++ b) = sent v := by rw [hlisted]; rfl
        rw [← hsent, sent_append]
        exact List.suffix_append _ _
      exact hsuffix.isInfix.trans hprefix.isInfix

theorem Watched.after_join (hc : Watched key serial polls c)
    (h : (devicesWorld Info).Run c (ls ++ .thread .owner .join () :: ms) d) : hotplugEvents ms = [] := by
  have huses : ∀ i, Uses (Worker.OnlyEndsItself .watcher i) (c.threads i) := by
    intro i
    cases i with
    | watcher =>
      refine Program.uses_of_forall (fun op => ?_) _
      cases op with
      | finish => rfl
      | _ => trivial
    | owner =>
      rw [hc.owner]
      exact ⟨trivial, fun _ => ⟨trivial, fun _ => trivial⟩⟩
  rw [hotplugEvents, hotplugTrace, Worker.own_after_join h hc.watcher hc.finished huses]
  rfl

end Runs

/-! ## Either handle -/

section Shutdown
variable {ι : Type} [DecidableEq ι] {α : ι → Type} {κ : Type}

/-- Once its flag is set, the status poller sends at most one more event and the watcher at most events of
one diff, that of its last listing; once its drop has joined it, either sends none. -/
theorem shutdown_bounded (camera : Poller.CameraModel κ) {handleSerial : String} {rounds : ℕ}
    {c d : Poller.HandleConfig ι α κ} (hc : Poller.Opened handleSerial rounds c)
    {key serial : Info → String} {polls : ℕ} {e f : DevicesConfig Info} (he : Watched key serial polls e) :
    (∀ ls i ms, (Poller.world ι camera).Run c (ls ++ .thread i .setStop () :: ms) d →
      (Poller.statusEvents ms).length ≤ 1) ∧
    (∀ ls i ms, (Poller.world ι camera).Run c (ls ++ .thread i .join () :: ms) d →
      Poller.statusEvents ms = []) ∧
    (∀ ls ms, (devicesWorld Info).Run e (ls ++ .thread .owner .setStop () :: ms) f →
      WithinOneDiff key serial (hotplugTrace (ls ++ .thread .owner .setStop () :: ms)) (hotplugEvents ms)) ∧
    ∀ ls ms, (devicesWorld Info).Run e (ls ++ .thread .owner .join () :: ms) f →
      hotplugEvents ms = [] :=
  ⟨fun _ _ _ => hc.after_stop, fun _ _ _ => hc.after_join, fun _ _ => he.after_stop,
    fun _ _ => he.after_join⟩

/-! ## Closed while a sample and a poll are under way -/

/-- One round of the status poller, and the thread that drops its handle. -/
def closing : Poller.HandleConfig Unit (fun _ => Unit) Unit where
  threads
    | .poller => Worker.thread (pollLoop "A" 1)
    | .client _ => Device.drop
  shared := ⟨false, false, ⟨(), 2500, []⟩⟩

theorem closing_opened : Poller.Opened "A" 1 closing where
  poller := rfl
  clients _ := Poller.clientOp_drop
  stop := rfl
  finished := rfl
  cadence := rfl
  ticks := rfl

/-- The sample is taken, the flag set, and then the sample is sent. -/
theorem closing_run : ∃ ls d, (Poller.world Unit Poller.unreachable).Run closing
    (ls ++ .thread (.client ()) .setStop () ::
      [.thread .poller (.own (.send (.status "A" Status.default))) true]) d := by
  obtain ⟨t, ht, hquiet⟩ := Poller.exists_sample Poller.samples_timedOut "A" 0 closing.shared.inner
  obtain ⟨ls, hsample⟩ := Poller.quiet_run (ι := Unit) rfl closing_opened.poller ht hquiet
  obtain ⟨c, hc⟩ : ∃ c, c = closing.set .poller (Worker.thread (Poller.afterSample "A" 0 Status.default))
      closing.shared := ⟨_, rfl⟩
  have hclient : c.threads (.client ()) = Device.drop := by
    rw [hc]
    rfl
  obtain ⟨d, hd⟩ : ∃ d, d = c.set (.client ()) (.perform .join .done) { c.shared with stop := true } :=
    ⟨_, rfl⟩
  have hset : (Poller.world Unit Poller.unreachable).Step c (.thread (.client ()) .setStop ()) d := by
    rw [hd]
    exact .thread hclient (Worker.Effect.setStop c.shared)
  have hpoller : d.threads .poller = Worker.thread (Poller.afterSample "A" 0 Status.default) := by
    rw [hd, hc]
    rfl
  have hsend : (Poller.world Unit Poller.unreachable).Step d
      (.thread .poller (.own (.send (.status "A" Status.default))) true) _ :=
    .thread hpoller (Worker.Effect.own (.send d.shared.inner _ true))
  exact ⟨ls, _, (hc ▸ hsample).trans (.cons hset (.cons hsend (.refl _)))⟩

def unplugging : DevicesConfig String where
  threads
    | .watcher => Worker.thread (hotplugLoop id id 1 ∅)
    | .owner => Devices.drop
  shared := ⟨false, false, ()⟩

theorem unplugging_watched : Watched id id 1 unplugging where
  watcher := rfl
  owner := rfl
  stop := rfl
  finished := rfl

/-- The one camera there is. -/
def listingOfA : Listing (collect id ["A"]) := ⟨[⟨"A", "A"⟩], rfl⟩

theorem steps_addedA : ∃ q, Steps (hotplugPoll id id ∅)
    [⟨.enumerate, ["A"]⟩, ⟨.iterate (collect id ["A"]), listingOfA⟩, ⟨.send "A" (.deviceAdded "A"), true⟩] q := by
  have hsend : Steps (sendMissing id .deviceAdded ∅ listingOfA.toList) [⟨.send "A" (.deviceAdded "A"), true⟩]
      (.done true) := by
    have hnew : sendMissing id .deviceAdded (∅ : HashMap String String) listingOfA.toList =
        .perform (.send "A" (.deviceAdded "A")) fun ok => if ok then .done true else .done false :=
      if_pos Finmap.notMem_empty
    rw [hnew]
    exact Program.steps_perform.mpr (.inr ⟨true, [], rfl, .refl _⟩)
  have hcompared : ∃ q, Steps (comparing id id ∅ ["A"])
      [⟨.iterate (collect id ["A"]), listingOfA⟩, ⟨.send "A" (.deviceAdded "A"), true⟩] q :=
    ⟨_, Program.steps_perform.mpr (.inr ⟨listingOfA, _, rfl, hsend.bind_left _⟩)⟩
  obtain ⟨q, hq⟩ := hcompared
  exact ⟨q, Program.steps_op_bind.mpr (.inr ⟨["A"], _, rfl, hq⟩)⟩

/-- The loop has entered its round when the flag is set, and then it sees a camera and sends it. -/
theorem unplugging_run : ∃ d, (devicesWorld String).Run unplugging
    ([.thread .watcher (.own .loadStop) false] ++ .thread .owner .setStop () ::
      [.thread .watcher (.own .enumerate) ["A"], .thread .watcher (.own (.iterate (collect id ["A"]))) listingOfA,
        .thread .watcher (.own (.send "A" (.deviceAdded "A"))) true]) d := by
  obtain ⟨c, hcheck, ⟨next, hwatcher⟩, howner⟩ : ∃ c : DevicesConfig String,
      (devicesWorld String).Step unplugging (.thread .watcher (.own .loadStop) false) c ∧
      (∃ next : Option (HashMap String String) → HotplugProgram String Unit,
        c.threads .watcher = Worker.thread (hotplugPoll id id ∅ >>= next)) ∧ c.threads .owner = Devices.drop :=
    ⟨_, .thread unplugging_watched.watcher (Worker.Effect.own (t := ()) rfl), ⟨_, rfl⟩, rfl⟩
  obtain ⟨d, hset, hlater⟩ : ∃ d : DevicesConfig String,
      (devicesWorld String).Step c (.thread .owner .setStop ()) d ∧
      d.threads .watcher = Worker.thread (hotplugPoll id id ∅ >>= next) :=
    ⟨_, .thread howner (Worker.Effect.setStop _), hwatcher⟩
  obtain ⟨q, hpoll⟩ := steps_addedA
  have hsteps := Worker.thread_steps (hpoll.bind_left next)
  rw [← hlater] at hsteps
  refine ⟨_, .cons hcheck (.cons hset (.of_steps hsteps ?_))⟩
  simp only [List.map_cons, List.map_nil, List.forall_mem_cons, List.not_mem_nil, false_imp_iff, implies_true, and_true]
  exact ⟨.own (t := ()) trivial, .own (t := ()) trivial, .own (t := ()) trivial⟩

theorem shutdown_bounded_closing :
    (∃ ms d, (∃ ls, (Poller.world Unit Poller.unreachable).Run closing
      (ls ++ .thread (.client ()) .setStop () :: ms) d) ∧ Poller.statusEvents ms ≠ [] ∧
        (Poller.statusEvents ms).length ≤ 1) ∧
    ∃ ls ms d, (devicesWorld String).Run unplugging (ls ++ .thread .owner .setStop () :: ms) d ∧
      hotplugEvents ms = [("A", .deviceAdded "A")] ∧
      WithinOneDiff id id (hotplugTrace (ls ++ .thread .owner .setStop () :: ms)) (hotplugEvents ms) := by
  obtain ⟨ls, d, hclosing⟩ := closing_run
  obtain ⟨f, hunplugging⟩ := unplugging_run
  have hbounded := shutdown_bounded Poller.unreachable (d := d) (f := f) closing_opened unplugging_watched
  refine ⟨⟨_, d, ⟨ls, hclosing⟩, ?_, hbounded.1 _ _ _ hclosing⟩, _, _, f, hunplugging, rfl, ?_⟩
  · intro hnone
    cases hnone
  · exact hbounded.2.2.1 _ _ hunplugging

end Shutdown
end Libobsbot.Hotplug

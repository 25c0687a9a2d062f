import Libobsbot.Source.Discovery

/-! # What the hot-plug loop sends

A completed poll sends one addition for each key that is new and then one removal for each key that is
gone, in the orders its two iterations happened to meet them. `Polls` is that behaviour on its own:
snapshots in, keyed events out. `hotplugLoop_refines` says that every run of the loop, wherever it is
cut, sends a prefix of such a log, and exactly such a log when a poll has just been completed.
-/

namespace Libobsbot.Hotplug
open Foundations
open Foundations.Program (Exchange Steps Uses steps_done steps_op_bind bind_ne_done)
set_option autoImplicit false

variable {Info : Type}

abbrev Trace (Info : Type) : Type := List (Exchange (HotplugOp Info) HotplugOp.Reply)

/-! ## Reading a trace -/

def sentOf : Exchange (HotplugOp Info) HotplugOp.Reply → Option (String × Event)
  | ⟨.send key event, ok⟩ => if (ok : Bool) then some (key, event) else none
  | _ => none

/-- The events that reached the channel, each with the key it was sent for. -/
def sent (t : Trace Info) : List (String × Event) := t.filterMap sentOf

def polledOf : Exchange (HotplugOp Info) HotplugOp.Reply → Option (List Info)
  | ⟨.polled snapshot, _⟩ => some snapshot
  | _ => none

/-- The snapshots of the completed polls. -/
def snapshots (t : Trace Info) : List (List Info) := t.filterMap polledOf

/-- The trace ends where a poll does. -/
def Completed (t : Trace Info) : Prop := ∃ snapshot, t.getLast? = some ⟨.polled snapshot, ()⟩

@[simp] theorem sent_append (t u : Trace Info) : sent (t ++ u) = sent t ++ sent u :=
  List.filterMap_append

@[simp] theorem snapshots_append (t u : Trace Info) :
    snapshots (t ++ u) = snapshots t ++ snapshots u :=
  List.filterMap_append

theorem not_completed_nil : ¬ Completed ([] : Trace Info) := by
  rintro ⟨snapshot, h⟩
  cases h

theorem completed_append {t u : Trace Info} (hu : u ≠ []) : Completed (t ++ u) ↔ Completed u := by
  unfold Completed
  rw [List.getLast?_append_of_ne_nil _ hu]

theorem snapshots_of_quiet {t : Trace Info} (h : ∀ x ∈ t, polledOf x = none) : snapshots t = [] :=
  List.filterMap_eq_nil_iff.mpr h

theorem not_completed_of_quiet {t : Trace Info} (h : ∀ x ∈ t, polledOf x = none) :
    ¬ Completed t := by
  rintro ⟨snapshot, hlast⟩
  cases h _ (List.mem_of_getLast? hlast)

theorem snapshots_ne_nil {t : Trace Info} (h : Completed t) : snapshots t ≠ [] := by
  obtain ⟨snapshot, hlast⟩ := h
  have hmem : snapshot ∈ snapshots t :=
    List.mem_filterMap.mpr ⟨_, List.mem_of_getLast? hlast, rfl⟩
  exact List.ne_nil_of_mem hmem

/-- Every snapshot of a trace was the latest one where its poll was completed. -/
theorem exists_completed {t : Trace Info} {snaps : List (List Info)} (hp : snaps <+: snapshots t)
    (hne : snaps ≠ []) : ∃ u v, t = u ++ v ∧ Completed u ∧ snapshots u = snaps := by
  obtain ⟨rest, hrest⟩ := hp
  obtain ⟨front, snapshot, rfl⟩ : ∃ front snapshot, snaps = front ++ [snapshot] :=
    ⟨_, _, (List.dropLast_append_getLast hne).symm⟩
  rw [List.append_assoc] at hrest
  obtain ⟨t₁, t₂, rfl, hfront, htail⟩ := List.filterMap_eq_append_iff.mp hrest.symm
  obtain ⟨a, x, b, rfl, hquiet, hx, -⟩ := List.filterMap_eq_cons_iff.mp htail
  obtain ⟨op, reply⟩ := x
  cases op with
  | polled s =>
    cases hx
    refine ⟨t₁ ++ (a ++ [⟨.polled snapshot, ()⟩]), b, by simp, ⟨snapshot, by simp⟩, ?_⟩
    rw [snapshots_append, snapshots_append, snapshots_of_quiet hquiet]
    exact congrArg (· ++ [snapshot]) hfront
  | loadStop => cases hx
  | enumerate => cases hx
  | iterate map => cases hx
  | send key event => cases hx
  | sleep millis => cases hx

/-! ## One poll -/

section Poll
variable (serial : Info → String)

/-- The entries whose key `other` does not have, in iteration order. -/
def missing (other : HashMap String Info) (entries : List (Σ _ : String, Info)) :
    List (Σ _ : String, Info) :=
  entries.filter fun e => e.1 ∉ other

def eventsOf (event : String → Event) (entries : List (Σ _ : String, Info)) :
    List (String × Event) :=
  entries.map fun e => (e.1, event (serial e.2))

/-- The log of one completed poll. -/
def pollEvents {known current : HashMap String Info} (fresh : Listing current)
    (stale : Listing known) : List (String × Event) :=
  eventsOf serial .deviceAdded (missing known fresh.toList) ++
    eventsOf serial .deviceRemoved (missing current stale.toList)

theorem steps_sendMissing {event : String → Event} {other : HashMap String Info}
    {entries : List (Σ _ : String, Info)} {t : Trace Info} {q : HotplugProgram Info Bool}
    (h : Steps (sendMissing serial event other entries) t q) :
    (∀ x ∈ t, polledOf x = none) ∧ sent t <+: eventsOf serial event (missing other entries) ∧
      (q = .done true → sent t = eventsOf serial event (missing other entries)) := by
  induction entries generalizing t with
  | nil =>
    obtain ⟨rfl, rfl⟩ := steps_done.mp h
    exact ⟨by simp, List.prefix_refl _, fun _ => rfl⟩
  | cons e rest ih =>
    obtain ⟨k, info⟩ := e
    unfold sendMissing at h
    by_cases hk : k ∉ other
    · have hmissing : missing other (⟨k, info⟩ :: rest) = ⟨k, info⟩ :: missing other rest := by
        simp [missing, hk]
      rw [if_pos hk] at h
      obtain ⟨rfl, rfl⟩ | ⟨ok, u, rfl, hu⟩ := steps_op_bind.mp h
      · exact ⟨by simp, List.nil_prefix, fun he => by cases he⟩
      · cases ok with
        | true =>
          obtain ⟨hquiet, hpre, hdone⟩ := ih hu
          have hsent : sent (⟨.send k (event (serial info)), true⟩ :: u : Trace Info) =
              (k, event (serial info)) :: sent u := rfl
          rw [hmissing, hsent]
          refine ⟨?_, (List.prefix_cons_inj _).mpr hpre, fun he => ?_⟩
          · simpa [polledOf] using hquiet
          · rw [hdone he]
            rfl
        | false =>
          obtain ⟨rfl, rfl⟩ := steps_done.mp hu
          exact ⟨by simp [polledOf], List.nil_prefix, fun he => by cases he⟩
    · have hmissing : missing other (⟨k, info⟩ :: rest) = missing other rest := by
        simp [missing, hk]
      rw [if_neg hk] at h
      rw [hmissing]
      exact ih h

/-- What a poll that is not completed has sent: the beginning of some log of it. -/
def Underway (key : Info → String) (known : HashMap String Info)
    (events : List (String × Event)) : Prop :=
  ∃ (snapshot : List Info) (fresh : Listing (collect key snapshot)) (stale : Listing known),
    events <+: pollEvents serial fresh stale

theorem underway_nil (key : Info → String) (known : HashMap String Info) :
    Underway serial key known [] := by
  obtain ⟨stale⟩ := Listing.exists_listing known
  obtain ⟨fresh⟩ := Listing.exists_listing (collect key ([] : List Info))
  exact ⟨[], fresh, stale, List.nil_prefix⟩

/-- The second half of a poll, from the iteration over `known` on. -/
theorem steps_removals {known current : HashMap String Info} {snapshot : List Info}
    {t : Trace Info} {q : HotplugProgram Info (Option (HashMap String Info))}
    (h : Steps (do
      let entries ← iterate known
      if ← sendMissing serial .deviceRemoved current entries.toList then
        polled snapshot
        return some current
      else return none) t q) :
    ((∀ x ∈ t, polledOf x = none) ∧ (∀ c, q ≠ .done (some c)) ∧ ∃ stale : Listing known,
      sent t <+: eventsOf serial .deviceRemoved (missing current stale.toList)) ∨
    ∃ stale : Listing known, snapshots t = [snapshot] ∧
      sent t = eventsOf serial .deviceRemoved (missing current stale.toList) ∧
      q = .done (some current) := by
  obtain ⟨rfl, rfl⟩ | ⟨stale, u, rfl, hu⟩ := steps_op_bind.mp h
  · obtain ⟨stale⟩ := Listing.exists_listing known
    exact .inl ⟨by simp, fun _ => by simp, stale, List.nil_prefix⟩
  clear h
  have hsent : ∀ v : Trace Info, sent (⟨.iterate known, stale⟩ :: v : Trace Info) = sent v :=
    fun _ => rfl
  have hsnaps : ∀ v : Trace Info,
      snapshots (⟨.iterate known, stale⟩ :: v : Trace Info) = snapshots v := fun _ => rfl
  obtain ⟨p, hp, hne, rfl⟩ | ⟨u₁, ok, u₂, rfl, hp, hu₂⟩ := Steps.bind_cases hu
  · obtain ⟨hquiet, hpre, -⟩ := steps_sendMissing serial hp
    exact .inl ⟨by simpa [polledOf] using hquiet, fun c => bind_ne_done hne _ _, stale, hpre⟩
  · obtain ⟨hquiet, hpre, hdone⟩ := steps_sendMissing serial hp
    cases ok with
    | false =>
      obtain ⟨rfl, rfl⟩ := steps_done.mp hu₂
      exact .inl ⟨by simpa [polledOf] using hquiet, fun c => by simp, stale,
        by simpa [hsent] using hpre⟩
    | true =>
      obtain ⟨rfl, rfl⟩ | ⟨_, u₃, rfl, hu₃⟩ := steps_op_bind.mp hu₂
      · exact .inl ⟨by simpa [polledOf] using hquiet, fun c => by simp, stale,
          by simpa [hsent] using hpre⟩
      · obtain ⟨rfl, rfl⟩ := steps_done.mp hu₃
        refine .inr ⟨stale, ?_, ?_, rfl⟩
        · rw [hsnaps, snapshots_append, snapshots_of_quiet hquiet]
          rfl
        · rw [hsent, sent_append, hdone rfl]
          exact List.append_nil _

/-- A poll behind its enumeration. -/
def comparing (key : Info → String) (known : HashMap String Info) (snapshot : List Info) :
    HotplugProgram Info (Option (HashMap String Info)) := do
  let entries ← iterate (collect key snapshot)
  if ← sendMissing serial .deviceAdded known entries.toList then
    let entries ← iterate known
    if ← sendMissing serial .deviceRemoved (collect key snapshot) entries.toList then
      polled snapshot
      return some (collect key snapshot)
    else return none
  else return none

theorem hotplugPoll_eq (key : Info → String) (known : HashMap String Info) :
    hotplugPoll key serial known = enumerate >>= comparing serial key known := rfl

theorem steps_comparing {key : Info → String} {known : HashMap String Info} {snapshot : List Info} {t : Trace Info}
    {q : HotplugProgram Info (Option (HashMap String Info))} (h : Steps (comparing serial key known snapshot) t q) :
    ((∀ x ∈ t, polledOf x = none) ∧ (∀ current, q ≠ .done (some current)) ∧
      ∃ (fresh : Listing (collect key snapshot)) (stale : Listing known), sent t <+: pollEvents serial fresh stale) ∨
    ∃ (fresh : Listing (collect key snapshot)) (stale : Listing known),
      snapshots t = [snapshot] ∧ sent t = pollEvents serial fresh stale ∧
        q = .done (some (collect key snapshot)) := by
  unfold comparing at h
  obtain ⟨stale₀⟩ := Listing.exists_listing known
  obtain ⟨rfl, rfl⟩ | ⟨fresh, t₂, rfl, h₂⟩ := steps_op_bind.mp h
  · obtain ⟨fresh⟩ := Listing.exists_listing (collect key snapshot)
    exact .inl ⟨by simp, fun _ => by simp, fresh, stale₀, List.nil_prefix⟩
  clear h
  have hsent : ∀ u : Trace Info, sent (⟨.iterate (collect key snapshot), fresh⟩ :: u : Trace Info) = sent u :=
    fun _ => rfl
  have hunder : ∀ {evs : List (String × Event)},
      evs <+: eventsOf serial .deviceAdded (missing known fresh.toList) → evs <+: pollEvents serial fresh stale₀ :=
    fun hp => hp.trans (List.prefix_append _ _)
  obtain ⟨p, hp, hne, rfl⟩ | ⟨t₃, ok, t₄, rfl, hp, h₃⟩ := Steps.bind_cases h₂
  · obtain ⟨hquiet, hpre, -⟩ := steps_sendMissing serial hp
    refine .inl ⟨by simpa [polledOf] using hquiet, fun current => bind_ne_done hne _ _, fresh, stale₀, ?_⟩
    exact hunder hpre
  · obtain ⟨hquiet, hpre, hdone⟩ := steps_sendMissing serial hp
    cases ok with
    | false =>
      obtain ⟨rfl, rfl⟩ := steps_done.mp h₃
      refine .inl ⟨by simpa [polledOf] using hquiet, fun current => by simp, fresh, stale₀, ?_⟩
      rw [hsent, List.append_nil]
      exact hunder hpre
    | true =>
      rcases steps_removals serial h₃ with ⟨hquiet₄, hne, stale, hpre₄⟩ |
        ⟨stale, hsnaps, hsent₄, rfl⟩
      · refine .inl ⟨?_, hne, fresh, stale, ?_⟩
        · intro x hx
          simp only [List.mem_cons, List.mem_append] at hx
          rcases hx with rfl | hx | hx
          · rfl
          · exact hquiet x hx
          · exact hquiet₄ x hx
        · rw [hsent, sent_append, hdone rfl]
          exact (List.prefix_append_right_inj _).mpr hpre₄
      · refine .inr ⟨fresh, stale, ?_, ?_, rfl⟩
        · show snapshots (t₃ ++ t₄) = [snapshot]
          rw [snapshots_append, snapshots_of_quiet hquiet, hsnaps]
          rfl
        · rw [hsent, sent_append, hdone rfl, hsent₄]
          rfl

/-- A run of one poll is either under way or has sent the whole log of the poll. -/
theorem steps_hotplugPoll {key : Info → String} {known : HashMap String Info} {t : Trace Info}
    {q : HotplugProgram Info (Option (HashMap String Info))}
    (h : Steps (hotplugPoll key serial known) t q) :
    ((∀ x ∈ t, polledOf x = none) ∧ (∀ current, q ≠ .done (some current)) ∧
      Underway serial key known (sent t)) ∨
    ∃ (snapshot : List Info) (fresh : Listing (collect key snapshot)) (stale : Listing known),
      snapshots t = [snapshot] ∧ sent t = pollEvents serial fresh stale ∧
        q = .done (some (collect key snapshot)) := by
  rw [hotplugPoll_eq] at h
  obtain ⟨rfl, rfl⟩ | ⟨snapshot, u, rfl, hu⟩ := steps_op_bind.mp h
  · exact .inl ⟨by simp, fun _ => by simp, underway_nil serial key known⟩
  · obtain ⟨hquiet, hne, fresh, stale, hpre⟩ | ⟨fresh, stale, hsnaps, hsent, hq⟩ := steps_comparing serial hu
    · exact .inl ⟨by simpa [polledOf] using hquiet, hne, snapshot, fresh, stale, hpre⟩
    · exact .inr ⟨snapshot, fresh, stale, hsnaps, hsent, hq⟩

/-! ## The enumeration of a poll -/

def Lists : Exchange (HotplugOp Info) HotplugOp.Reply → Prop
  | ⟨.enumerate, _⟩ => True
  | _ => False

/-- What a poll does behind its enumeration. -/
def NoEnumerate : HotplugOp Info → Prop
  | .enumerate => False
  | _ => True

theorem not_lists_of {t : Trace Info} {α : Type} {p q : HotplugProgram Info α} (huses : Uses NoEnumerate p)
    (h : Steps p t q) : ∀ x ∈ t, ¬ Lists x := by
  intro x hx hlists
  have hop := huses.of_steps h x hx
  obtain ⟨op, r⟩ := x
  cases op with
  | enumerate => exact hop
  | _ => exact hlists

theorem uses_iterate (map : HashMap String Info) : Uses NoEnumerate (iterate map) := ⟨trivial, fun _ => trivial⟩

theorem uses_sendMissing (event : String → Event) (other : HashMap String Info)
    (entries : List (Σ _ : String, Info)) : Uses NoEnumerate (sendMissing serial event other entries) := by
  induction entries with
  | nil => trivial
  | cons e rest ih =>
    unfold sendMissing
    split
    · refine ⟨trivial, fun ok => ?_⟩
      cases ok with
      | true => exact ih
      | false => trivial
    · exact ih

theorem uses_comparing (key : Info → String) (known : HashMap String Info) (snapshot : List Info) :
    Uses NoEnumerate (comparing serial key known snapshot) := by
  refine Program.uses_bind (uses_iterate _) fun fresh => ?_
  refine Program.uses_bind (uses_sendMissing serial _ _ _) fun ok => ?_
  cases ok with
  | false => trivial
  | true =>
    refine Program.uses_bind (uses_iterate _) fun stale => ?_
    refine Program.uses_bind (uses_sendMissing serial _ _ _) fun ok => ?_
    cases ok with
    | false => trivial
    | true => exact ⟨trivial, fun _ => trivial⟩

/-- What a poll has sent, it sent of the cameras that it listed first. -/
theorem steps_listed {key : Info → String} {known : HashMap String Info} {t : Trace Info}
    {q : HotplugProgram Info (Option (HashMap String Info))} (h : Steps (hotplugPoll key serial known) t q) :
    t = [] ∨ ∃ (snapshot : List Info) (b : Trace Info) (fresh : Listing (collect key snapshot))
      (stale : Listing known), t = ⟨.enumerate, snapshot⟩ :: b ∧ (∀ x ∈ b, ¬ Lists x) ∧
        sent b <+: pollEvents serial fresh stale := by
  rw [hotplugPoll_eq] at h
  obtain ⟨rfl, -⟩ | ⟨snapshot, b, rfl, hb⟩ := steps_op_bind.mp h
  · exact .inl rfl
  · have hlists := not_lists_of (uses_comparing serial key known snapshot) hb
    obtain ⟨-, -, fresh, stale, hpre⟩ | ⟨fresh, stale, -, hsent, -⟩ := steps_comparing serial hb
    · exact .inr ⟨snapshot, b, fresh, stale, rfl, hlists, hpre⟩
    · exact .inr ⟨snapshot, b, fresh, stale, rfl, hlists, hsent ▸ List.prefix_refl _⟩

/-! ## The pause -/

theorem steps_hotplugPause {slept : ℕ} {t : Trace Info} {q : HotplugProgram Info Bool}
    (h : Steps (hotplugPause slept) t q) : (∀ x ∈ t, polledOf x = none) ∧ sent t = [] := by
  induction slept using hotplugPause.induct generalizing t with
  | case1 slept hlt ih =>
    rw [hotplugPause, if_pos hlt] at h
    obtain ⟨rfl, rfl⟩ | ⟨stop, u, rfl, hu⟩ := steps_op_bind.mp h
    · exact ⟨by simp, rfl⟩
    · cases stop with
      | true =>
        obtain ⟨rfl, rfl⟩ := steps_done.mp hu
        exact ⟨by simp [polledOf], rfl⟩
      | false =>
        obtain ⟨rfl, rfl⟩ | ⟨_, v, rfl, hv⟩ := steps_op_bind.mp hu
        · exact ⟨by simp [polledOf], rfl⟩
        · obtain ⟨hquiet, hsent⟩ := ih hv
          exact ⟨by simpa [polledOf] using hquiet, hsent⟩
  | case2 slept hge =>
    rw [hotplugPause, if_neg hge] at h
    obtain ⟨rfl, rfl⟩ := steps_done.mp h
    exact ⟨by simp, rfl⟩

/-! ## Runs of polls -/

/-- After polls that saw these snapshots, the map `known` and everything sent. -/
inductive Polls (key serial : Info → String) :
    List (List Info) → HashMap String Info → List (String × Event) → Prop
  | start : Polls key serial [] ∅ []
  | poll {snaps : List (List Info)} {known : HashMap String Info} {log : List (String × Event)}
      (rest : Polls key serial snaps known log) (snapshot : List Info)
      (fresh : Listing (collect key snapshot)) (stale : Listing known) :
      Polls key serial (snaps ++ [snapshot]) (collect key snapshot)
        (log ++ pollEvents serial fresh stale)

/-- Continued from polls that sent `log`, a trace either stops after a poll or is inside one. -/
def Continues (key : Info → String) (snaps : List (List Info)) (log : List (String × Event))
    (t : Trace Info) : Prop :=
  (∃ known, Polls key serial (snaps ++ snapshots t) known (log ++ sent t)) ∨
    (t ≠ [] ∧ ¬ Completed t ∧
      ∃ snaps' known' log', Polls key serial snaps' known' log' ∧ log ++ sent t <+: log')

variable {serial}

theorem continues_nil {key : Info → String} {snaps : List (List Info)}
    {known : HashMap String Info} {log : List (String × Event)}
    (h : Polls key serial snaps known log) : Continues serial key snaps log [] :=
  .inl ⟨known, by simpa [snapshots, sent] using h⟩

/-- A part that completes no poll and sends nothing does not matter. -/
theorem Continues.quiet_left {key : Info → String} {snaps : List (List Info)}
    {log : List (String × Event)} {t u : Trace Info} (h : Continues serial key snaps log u)
    (hquiet : ∀ x ∈ t, polledOf x = none) (hsent : sent t = []) :
    Continues serial key snaps log (t ++ u) := by
  have hsnaps := snapshots_of_quiet hquiet
  obtain ⟨known, h⟩ | ⟨hne, hnot, h⟩ := h
  · exact .inl ⟨known, by simpa [hsnaps, hsent] using h⟩
  · exact .inr ⟨by simp [hne], by rwa [completed_append hne], by simpa [hsent] using h⟩

theorem Continues.poll_left {key : Info → String} {snaps : List (List Info)}
    {log : List (String × Event)} {t u : Trace Info}
    (h : Continues serial key (snaps ++ snapshots t) (log ++ sent t) u) :
    Continues serial key snaps log (t ++ u) := by
  obtain ⟨known, h⟩ | ⟨hne, hnot, h⟩ := h
  · exact .inl ⟨known, by simpa using h⟩
  · exact .inr ⟨by simp [hne], by rwa [completed_append hne], by simpa using h⟩

/-- A run that is cut inside a poll. -/
theorem continues_underway {key : Info → String} {snaps : List (List Info)}
    {known : HashMap String Info} {log : List (String × Event)}
    (h : Polls key serial snaps known log) {t : Trace Info}
    (hquiet : ∀ x ∈ t, polledOf x = none) (hunder : Underway serial key known (sent t)) :
    Continues serial key snaps log t := by
  cases t with
  | nil => exact continues_nil h
  | cons x t =>
    obtain ⟨snapshot, fresh, stale, hpre⟩ := hunder
    exact .inr ⟨by simp, not_completed_of_quiet hquiet, _, _, _, h.poll snapshot fresh stale,
      (List.prefix_append_right_inj _).mpr hpre⟩

theorem steps_hotplugLoop {key : Info → String} {polls : ℕ} {snaps : List (List Info)}
    {known : HashMap String Info} {log : List (String × Event)}
    (hpolls : Polls key serial snaps known log) {t : Trace Info} {q : HotplugProgram Info Unit}
    (h : Steps (hotplugLoop key serial polls known) t q) : Continues serial key snaps log t := by
  induction polls generalizing snaps known log t with
  | zero =>
    obtain ⟨rfl, rfl⟩ := steps_done.mp h
    exact continues_nil hpolls
  | succ polls ih =>
    unfold hotplugLoop at h
    obtain ⟨rfl, rfl⟩ | ⟨stop, t₁, rfl, h₁⟩ := steps_op_bind.mp h
    · exact continues_nil hpolls
    clear h
    rw [← List.singleton_append]
    refine Continues.quiet_left ?_ (by simp [polledOf]) rfl
    cases stop with
    | true =>
      obtain ⟨rfl, rfl⟩ := steps_done.mp h₁
      exact continues_nil hpolls
    | false =>
      obtain ⟨p, hp, hne, rfl⟩ | ⟨t₂, o, t₃, rfl, hp, h₂⟩ := Steps.bind_cases h₁
      · obtain ⟨hquiet, -, hunder⟩ | ⟨snapshot, _, _, _, _, rfl⟩ := steps_hotplugPoll serial hp
        · exact continues_underway hpolls hquiet hunder
        · exact absurd rfl (hne _)
      · rcases steps_hotplugPoll serial hp with ⟨hquiet, hnone, hunder⟩ |
          ⟨snapshot, fresh, stale, hsnaps, hsent, he⟩
        · cases o with
          | some current => exact absurd rfl (hnone current)
          | none =>
            obtain ⟨rfl, rfl⟩ := steps_done.mp h₂
            rw [List.append_nil]
            exact continues_underway hpolls hquiet hunder
        · cases he
          have hnext := hpolls.poll snapshot fresh stale
          rw [← hsnaps, ← hsent] at hnext
          apply Continues.poll_left
          obtain ⟨p, hp, _, rfl⟩ | ⟨t₄, go, t₅, rfl, hp, h₃⟩ := Steps.bind_cases h₂
          · obtain ⟨hquiet, hnil⟩ := steps_hotplugPause hp
            rw [← List.append_nil t₃]
            exact (continues_nil hnext).quiet_left hquiet hnil
          · obtain ⟨hquiet, hnil⟩ := steps_hotplugPause hp
            refine Continues.quiet_left ?_ hquiet hnil
            cases go with
            | true => exact ih hnext h₃
            | false =>
              obtain ⟨rfl, rfl⟩ := steps_done.mp h₃
              exact continues_nil hnext

end Poll

/-- A log of polls remembers only the last snapshot. -/
theorem Polls.known_eq {key serial : Info → String} {snaps : List (List Info)}
    {known : HashMap String Info} {log : List (String × Event)}
    (h : Polls key serial snaps known log) : known = collect key (snaps.getLast?.getD []) := by
  cases h with
  | start => rfl
  | poll rest snapshot fresh stale => simp

/-- Of the same snapshots, two logs differ in the order within the polls only. -/
theorem Polls.perm {key serial : Info → String} {snaps : List (List Info)}
    {known known' : HashMap String Info} {log log' : List (String × Event)}
    (h : Polls key serial snaps known log) (h' : Polls key serial snaps known' log') :
    log.Perm log' := by
  induction h generalizing known' log' with
  | start =>
    generalize hs : ([] : List (List Info)) = snaps at h'
    cases h' with
    | start => exact .refl _
    | poll rest snapshot fresh stale => simp at hs
  | @poll snaps known log rest snapshot fresh stale ih =>
    generalize hs : snaps ++ [snapshot] = snaps' at h'
    cases h' with
    | start => simp at hs
    | @poll snaps₁ known₁ log₁ rest₁ snapshot₁ fresh₁ stale₁ =>
      obtain ⟨rfl, hlast⟩ := List.append_inj' hs rfl
      cases hlast
      obtain rfl : known = known₁ := rest.known_eq.trans rest₁.known_eq.symm
      have events : ∀ (event : String → Event) {m : HashMap String Info} (l l' : Listing m)
          (other : HashMap String Info),
          (eventsOf serial event (missing other l.toList)).Perm
            (eventsOf serial event (missing other l'.toList)) :=
        fun _ _ l l' _ => ((l.perm l').filter _).map _
      exact (ih rest₁).append ((events _ fresh fresh₁ known).append (events _ stale stale₁ _))

section Loop
variable {key serial : Info → String} {polls : ℕ} {t : Trace Info} {q : HotplugProgram Info Unit}

/-- Wherever a run is cut, what it has sent is the beginning of a log of polls. -/
theorem hotplugLoop_refines (h : Steps (hotplugLoop key serial polls ∅) t q) :
    ∃ snaps known log, Polls key serial snaps known log ∧ sent t <+: log := by
  obtain ⟨known, hp⟩ | ⟨_, _, snaps, known, log, hp, hpre⟩ := steps_hotplugLoop .start h
  · exact ⟨_, known, _, hp, List.prefix_refl _⟩
  · exact ⟨snaps, known, log, hp, hpre⟩

/-- Cut where a poll is completed, it has sent the log of the polls it completed. -/
theorem hotplugLoop_completed (h : Steps (hotplugLoop key serial polls ∅) t q)
    (hc : Completed t) : ∃ known, Polls key serial (snapshots t) known (sent t) := by
  obtain ⟨known, hp⟩ | ⟨_, hnot, _⟩ := steps_hotplugLoop .start h
  · exact ⟨known, hp⟩
  · exact absurd hc hnot

end Loop

/-! ## Every sequence of snapshots has a run -/

section Exists
variable (key serial : Info → String)

theorem exists_sendMissing (event : String → Event) (other : HashMap String Info)
    (entries : List (Σ _ : String, Info)) :
    ∃ t, Steps (sendMissing serial event other entries) t (.done true) := by
  induction entries with
  | nil => exact ⟨[], .refl _⟩
  | cons e rest ih =>
    obtain ⟨k, info⟩ := e
    obtain ⟨t, ht⟩ := ih
    unfold sendMissing
    by_cases hk : k ∉ other
    · rw [if_pos hk]
      exact ⟨_, steps_op_bind.mpr (.inr ⟨true, t, rfl, ht⟩)⟩
    · rw [if_neg hk]
      exact ⟨t, ht⟩

theorem exists_hotplugPoll (known : HashMap String Info) (snapshot : List Info) :
    ∃ t, Steps (hotplugPoll key serial known) t (.done (some (collect key snapshot))) ∧
      snapshots t = [snapshot] ∧ Completed t := by
  obtain ⟨fresh⟩ := Listing.exists_listing (collect key snapshot)
  obtain ⟨stale⟩ := Listing.exists_listing known
  obtain ⟨t, ht⟩ := exists_sendMissing serial .deviceAdded known fresh.toList
  obtain ⟨u, hu⟩ :=
    exists_sendMissing serial .deviceRemoved (collect key snapshot) stale.toList
  have hpolled : Steps (do
      polled snapshot
      return some (collect key snapshot)) [⟨.polled snapshot, ()⟩]
      (.done (some (collect key snapshot)) : HotplugProgram Info _) :=
    steps_op_bind.mpr (.inr ⟨(), [], rfl, .refl _⟩)
  have hend : Steps (do
      let entries ← iterate known
      if ← sendMissing serial .deviceRemoved (collect key snapshot) entries.toList then
        polled snapshot
        return some (collect key snapshot)
      else return none) (⟨.iterate known, stale⟩ :: (u ++ [⟨.polled snapshot, ()⟩]))
      (.done (some (collect key snapshot)) : HotplugProgram Info _) :=
    steps_op_bind.mpr (.inr ⟨stale, _, rfl, hu.bind hpolled⟩)
  refine ⟨⟨.enumerate, snapshot⟩ :: ⟨.iterate (collect key snapshot), fresh⟩ ::
    (t ++ ⟨.iterate known, stale⟩ :: (u ++ [⟨.polled snapshot, ()⟩])), ?_, ?_, snapshot, ?_⟩
  · exact steps_op_bind.mpr (.inr ⟨snapshot, _, rfl,
      steps_op_bind.mpr (.inr ⟨fresh, _, rfl, ht.bind hend⟩)⟩)
  · have hquiet := snapshots_of_quiet (steps_sendMissing serial ht).1
    have hquiet' := snapshots_of_quiet (steps_sendMissing serial hu).1
    show snapshots (t ++ ([⟨.iterate known, stale⟩] ++ (u ++ [⟨.polled snapshot, ()⟩]))) = _
    simp only [snapshots_append, hquiet, hquiet']
    rfl
  · simp [List.getLast?_cons]

theorem uses_hotplugPause (slept : ℕ) : Uses NoEnumerate (hotplugPause slept : HotplugProgram Info Bool) := by
  induction slept using hotplugPause.induct with
  | case1 slept hlt ih =>
    rw [hotplugPause, if_pos hlt]
    refine ⟨trivial, fun stop => ?_⟩
    cases stop with
    | true => trivial
    | false => exact ⟨trivial, fun _ => ih⟩
  | case2 slept hge =>
    rw [hotplugPause, if_neg hge]
    trivial

theorem exists_hotplugPause (slept : ℕ) :
    ∃ t : Trace Info, Steps (hotplugPause slept) t (.done true) := by
  induction slept using hotplugPause.induct with
  | case1 slept hlt ih =>
    obtain ⟨t, ht⟩ := ih
    rw [hotplugPause, if_pos hlt]
    exact ⟨_, steps_op_bind.mpr (.inr ⟨false, _, rfl,
      steps_op_bind.mpr (.inr ⟨(), t, rfl, ht⟩)⟩)⟩
  | case2 slept hge =>
    rw [hotplugPause, if_neg hge]
    exact ⟨[], .refl _⟩

/-- The loop can see any snapshots, one poll after the other. -/
theorem exists_run (snaps : List (List Info)) (hne : snaps ≠ []) (known : HashMap String Info) :
    ∃ t q, Steps (hotplugLoop key serial snaps.length known) t q ∧
      snapshots t = snaps ∧ Completed t := by
  induction snaps generalizing known with
  | nil => exact absurd rfl hne
  | cons snapshot rest ih =>
    obtain ⟨t, ht, hsnaps, hc⟩ := exists_hotplugPoll key serial known snapshot
    by_cases hrest : rest = []
    · subst hrest
      refine ⟨⟨.loadStop, false⟩ :: (t ++ []), _,
        steps_op_bind.mpr (.inr ⟨false, _, rfl, ht.bind (.refl _)⟩), ?_, ?_⟩
      · rw [List.append_nil]
        exact hsnaps
      · rw [List.append_nil, ← List.singleton_append, completed_append]
        · exact hc
        · rintro rfl
          exact not_completed_nil hc
    · obtain ⟨u, hu⟩ : ∃ u : Trace Info, Steps (hotplugPause 0) u (.done true) :=
        exists_hotplugPause 0
      obtain ⟨v, q, hv, hsnaps', hc'⟩ := ih hrest (collect key snapshot)
      have hvne : v ≠ [] := by
        rintro rfl
        exact not_completed_nil hc'
      have hgo : Steps (hotplugPause 0 >>= fun go => if go then
          hotplugLoop key serial rest.length (collect key snapshot) else return ()) (u ++ v) q :=
        hu.bind hv
      refine ⟨⟨.loadStop, false⟩ :: (t ++ (u ++ v)), q,
        steps_op_bind.mpr (.inr ⟨false, _, rfl, ht.bind hgo⟩), ?_, ?_⟩
      · show snapshots (t ++ (u ++ v)) = _
        rw [snapshots_append, snapshots_append, hsnaps, hsnaps',
          snapshots_of_quiet (steps_hotplugPause hu).1]
        rfl
      · rw [← List.singleton_append, completed_append (by simp [hvne]),
          completed_append (by simp [hvne]), completed_append hvne]
        exact hc'

end Exists
end Libobsbot.Hotplug

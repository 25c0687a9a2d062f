import Libobsbot.Poller.Threads
import Libobsbot.Source.Uvcvideo

/-! # Callers next to the status poller

Every transfer of the poller is a `uvc_get` from the Camera Terminal or the Processing Unit. Where such a read
leaves the camera as it is, the poller can be left out of any run: the callers get the same replies, reach
the same results and leave the camera in the same state (`callers_undisturbed`).
-/

namespace Libobsbot.Poller
open Foundations
open Foundations.Program (Uses UsesGiven Steps Exchange)
set_option autoImplicit false

/-! ## What the poller asks of the transport -/

def ReadsControl : TransportOp → Prop
  | .uvcGet _ entity _ _ _ => entity = Uvc.cameraTerminal ∨ entity = Uvc.processingUnit
  | _ => False

theorem readsControl_uvcGet {n : ℕ} {req : UvcGet} {entity selector : UInt8} {out : Bytes n}
    (h : entity = Uvc.cameraTerminal ∨ entity = Uvc.processingUnit) :
    Uses ReadsControl (uvcGet req entity selector out).run := ⟨h, fun _ => trivial⟩

theorem readsControl_sampleStatus : Uses ReadsControl sampleStatus := by
  have hi16 : ∀ selector, Uses ReadsControl (readPuI16 selector).run :=
    fun _ => Program.uses_exceptBind (readsControl_uvcGet (.inr rfl)) fun _ => trivial
  have hu16 : ∀ selector, Uses ReadsControl (readPuU16 selector).run :=
    fun _ => Program.uses_exceptBind (readsControl_uvcGet (.inr rfl)) fun _ => trivial
  unfold sampleStatus
  refine Program.uses_bind (uses_sampleInto (hi16 _)) fun _ => ?_
  refine Program.uses_bind (uses_sampleInto (hu16 _)) fun _ => ?_
  refine Program.uses_bind (uses_sampleInto (hu16 _)) fun _ => ?_
  refine Program.uses_bind (uses_sampleInto (readsControl_uvcGet (.inl rfl))) fun _ => ?_
  exact uses_sampleInto (readsControl_uvcGet (.inl rfl))

def PollerReads : WorkerOp PollerOp → Prop
  | .own (.transport op) => ReadsControl op
  | _ => True

theorem pollerReads (serial : String) (rounds : ℕ) :
    Uses PollerReads (Worker.thread (pollLoop serial rounds)) := by
  refine Program.UsesGiven.uses (Worker.usesGiven_thread trivial ?_)
  exact usesGiven_pollLoop trivial trivial (fun _ => trivial) readsControl_sampleStatus
    (fun _ _ _ _ _ => trivial) serial rounds

/-! ## On Linux -/

section Linux
open Uvcvideo

/-- An ioctl that sets nothing and leaves the extension unit alone. -/
def ReadsIoctl : Ioctl → Prop
  | .ctrlQuery unit _ query _ _ => unit ≠ Meet2.xuEntityId ∧ query ≠ UsbTransport.setCur
  | .gCtrl _ => True
  | .queryctrl _ => True
  | _ => False

theorem readsIoctl_v4l2GCtrl (cid : UInt32) : Uses ReadsIoctl (v4l2GCtrl cid).run :=
  ⟨trivial, fun _ => trivial⟩

theorem readsIoctl_v4l2Queryctrl (cid : UInt32) : Uses ReadsIoctl (v4l2Queryctrl cid).run :=
  ⟨trivial, fun _ => trivial⟩

theorem readsIoctl_pantiltGet {n : ℕ} (req : UvcGet) (out : Bytes n) :
    Uses ReadsIoctl (pantiltGet req out) := by
  unfold pantiltGet
  by_cases hn : n < 8
  · rw [if_pos hn]
    trivial
  · rw [if_neg hn]
    refine Program.uses_bind ?_ fun r => ?_
    · cases req with
      | cur => exact Program.uses_exceptBind (readsIoctl_v4l2GCtrl _) fun _ =>
          Program.uses_exceptBind (readsIoctl_v4l2GCtrl _) fun _ => trivial
      | min => exact Program.uses_exceptBind (readsIoctl_v4l2Queryctrl _) fun _ =>
          Program.uses_exceptBind (readsIoctl_v4l2Queryctrl _) fun _ => trivial
      | max => exact Program.uses_exceptBind (readsIoctl_v4l2Queryctrl _) fun _ =>
          Program.uses_exceptBind (readsIoctl_v4l2Queryctrl _) fun _ => trivial
    · cases r with
      | ok axes => trivial
      | error e => trivial

theorem readsIoctl_v4l2Read (cid : UInt32) (req : UvcGet) : Uses ReadsIoctl (v4l2Read cid req).run := by
  cases req with
  | cur => exact Program.uses_exceptBind (readsIoctl_v4l2GCtrl cid) fun _ => trivial
  | min => exact Program.uses_exceptBind (readsIoctl_v4l2Queryctrl cid) fun _ => trivial
  | max => exact Program.uses_exceptBind (readsIoctl_v4l2Queryctrl cid) fun _ => trivial

/-- A read of either unit sets nothing, whichever ioctls carry it out. -/
theorem readsIoctl_answer {op : TransportOp} (h : ReadsControl op) :
    Uses ReadsIoctl (UsbTransport.answer op) := by
  cases op with
  | uvcSet entity selector payload => exact absurd h id
  | sleep millis => exact absurd h id
  | uvcGet req entity selector n out =>
    have hunit : entity ≠ Meet2.xuEntityId := by
      rcases h with rfl | rfl <;> decide
    have hquery : req.bRequest ≠ UsbTransport.setCur := by
      cases req <;> decide
    show Uses ReadsIoctl (UsbTransport.uvcGet req entity selector out)
    unfold UsbTransport.uvcGet v4l2Get
    by_cases hpantilt : isPantilt entity selector = true
    · rw [if_pos hpantilt]
      exact readsIoctl_pantiltGet req out
    · rw [if_neg hpantilt]
      cases cidFor entity selector with
      | some cid =>
        refine Program.uses_bind (readsIoctl_v4l2Read cid req) fun r => ?_
        cases r with
        | ok bytes => trivial
        | error e => trivial
      | none =>
        show Uses ReadsIoctl (xuQuery entity selector req.bRequest out)
        unfold xuQuery
        by_cases hn : 65536 ≤ n
        · rw [if_pos hn]
          trivial
        · rw [if_neg hn]
          refine ⟨⟨hunit, hquery⟩, fun r => ?_⟩
          obtain ⟨data, reply⟩ := r
          cases reply with
          | ok u => trivial
          | error e => trivial

end Linux

/-! ## The callers alone -/

def CameraModel.ReadsQuietly {κ : Type} (camera : CameraModel κ) : Prop :=
  ∀ {op : TransportOp} {k : κ} {r : op.Reply} {k' : κ}, ReadsControl op → camera.transfer op k r k' → k' = k

/-- The callers and the camera, with no handle around them. -/
def callersWorld {κ : Type} (ι : Type) (camera : CameraModel κ) :
    World ι TransportOp TransportOp.Reply κ where
  perform _ := camera.transfer
  environment := camera.moves

/-- Of the clients, `ι` call `Device` methods, and `ι'` set the cadence or drop the handle. -/
abbrev Clients (ι ι' : Type) : Type := ι ⊕ ι'

/-- The operations of the clients that do not call `Device` methods. -/
def HandleOp : WorkerOp PollerOp → Prop
  | .own (.storeCadence _) => True
  | .setStop => True
  | .join => True
  | _ => False

section Simulation
variable {ι ι' : Type} {α : ι → Type} {β : ι' → Type} {κ : Type} {camera : CameraModel κ}

/-- The step as the callers alone take it. -/
def callersLabel : HandleLabel (Clients ι ι') → Option (Label ι TransportOp TransportOp.Reply)
  | .thread (.client (.inl i)) (.own (.transport op)) r => some (.thread i op r)
  | .environment => some .environment
  | _ => none

structure Shares (c : HandleConfig (Clients ι ι') (Sum.elim α β) κ)
    (c' : Config ι TransportOp TransportOp.Reply α κ) : Prop where
  callers : ∀ i, c.threads (.client (.inl i)) = Worker.working (onTransport (c'.threads i))
  camera : c.shared.inner.camera = c'.shared

def Allowed : HandleThread (Clients ι ι') → WorkerOp PollerOp → Prop
  | .poller => PollerReads
  | .client (.inl _) => fun _ => True
  | .client (.inr _) => HandleOp

structure Simulates (c : HandleConfig (Clients ι ι') (Sum.elim α β) κ)
    (c' : Config ι TransportOp TransportOp.Reply α κ) : Prop extends Shares c c' where
  uses : ∀ i, Uses (Allowed i) (c.threads i)

/-- An operation of the poller or of a client that calls no method leaves the camera as it is. -/
theorem camera_eq {stop : Bool} {op : PollerOp} {s s' : HandleState κ} {r : op.Reply}
    (hquiet : camera.ReadsQuietly) (hop : PollerReads (.own op)) (h : Effect camera stop op s r s') :
    s'.camera = s.camera := by
  cases h with
  | transport transfer => exact hquiet hop transfer
  | loadStop => rfl
  | loadCadence => rfl
  | storeCadence => rfl
  | send => rfl
  | tick => rfl

theorem worker_camera_eq {i : HandleThread (Clients ι ι')} {op : WorkerOp PollerOp}
    {s s' : WorkerState (HandleState κ)} {r : WorkerOp.Reply PollerOp.Reply op}
    (hquiet : camera.ReadsQuietly) (hop : PollerReads op)
    (h : (world (Clients ι ι') camera).perform i op s r s') : s'.inner.camera = s.inner.camera := by
  cases h with
  | own own => exact camera_eq hquiet hop own
  | finish => rfl
  | setStop => rfl
  | join finished => rfl

theorem pollerReads_of_handleOp {op : WorkerOp PollerOp} (h : HandleOp op) : PollerReads op := by
  cases op with
  | own op =>
    cases op with
    | transport op => exact absurd h id
    | _ => trivial
  | _ => trivial

/-- The handle has just been made, and the callers are about to run `p`. -/
structure Attended (serial : String) (rounds : ℕ) (p : (i : ι) → TransportProgram (α i))
    (c : HandleConfig (Clients ι ι') (Sum.elim α β) κ) : Prop extends Opened serial rounds c where
  callers : ∀ i, c.threads (.client (.inl i)) = Worker.working (onTransport (p i))
  others : ∀ j, Uses HandleOp (c.threads (.client (.inr j)))

variable {c d : HandleConfig (Clients ι ι') (Sum.elim α β) κ}
  {c' : Config ι TransportOp TransportOp.Reply α κ} {l : HandleLabel (Clients ι ι')}
  {serial : String} {rounds : ℕ} {p : (i : ι) → TransportProgram (α i)}
  {ls : List (HandleLabel (Clients ι ι'))}

theorem Attended.simulates (hc : Attended serial rounds p c) :
    Simulates c ⟨p, c.shared.inner.camera⟩ := by
  refine ⟨⟨hc.callers, rfl⟩, fun i => ?_⟩
  cases i with
  | poller =>
    rw [hc.poller]
    exact pollerReads serial rounds
  | client j =>
    cases j with
    | inl j => exact Program.uses_of_forall (fun _ => trivial) _
    | inr j => exact hc.others j

variable [DecidableEq ι] [DecidableEq ι']

/-- What a caller's next operation is, and what is left of its program. -/
theorem working_eq_perform {γ : Type} {p : TransportProgram γ} {op : WorkerOp PollerOp}
    {next : WorkerOp.Reply PollerOp.Reply op → Worker.Prog PollerOp.Reply γ}
    (h : Worker.working (onTransport p) = .perform op next) :
    ∃ (t : TransportOp) (rest : t.Reply → TransportProgram γ), p = .perform t rest ∧
      op = .own (.transport t) ∧ HEq next fun r => Worker.working (onTransport (rest r)) := by
  cases p with
  | done a => cases h
  | crash m => cases h
  | perform t rest =>
    cases h
    exact ⟨t, rest, rfl, rfl, HEq.rfl⟩

theorem Simulates.hidden (hquiet : camera.ReadsQuietly) (hc : Simulates c c')
    (h : (world (Clients ι ι') camera).Step c l d) (hl : callersLabel l = none) : Simulates d c' := by
  have huses := h.uses hc.uses
  cases h with
  | environment effect => cases hl
  | @thread i op next r s head effect =>
    have hallowed := hc.uses i
    rw [head] at hallowed
    have hreads : PollerReads op := by
      cases i with
      | poller => exact hallowed.1
      | client j =>
        cases j with
        | inr j => exact pollerReads_of_handleOp hallowed.1
        | inl j =>
          obtain ⟨t, rest, -, rfl, -⟩ := working_eq_perform ((hc.callers j).symm.trans head)
          cases hl
    refine ⟨⟨fun j => ?_, ?_⟩, huses⟩
    · have hne : HandleThread.client (.inl j) ≠ i := by
        rintro rfl
        obtain ⟨t, rest, -, rfl, -⟩ := working_eq_perform ((hc.callers j).symm.trans head)
        cases hl
      exact (Function.update_of_ne hne _ _).trans (hc.callers j)
    · exact (worker_camera_eq hquiet hreads effect).trans hc.camera

theorem Simulates.shown {l' : Label ι TransportOp TransportOp.Reply} (hc : Simulates c c')
    (h : (world (Clients ι ι') camera).Step c l d) (hl : callersLabel l = some l') :
    ∃ d', (callersWorld ι camera).Step c' l' d' ∧ Simulates d d' := by
  have huses := h.uses hc.uses
  cases h with
  | environment effect =>
    cases hl
    obtain ⟨t, ⟨k, hmoves, rfl⟩, rfl⟩ := effect
    rw [hc.camera] at hmoves
    exact ⟨_, .environment hmoves, ⟨hc.callers, rfl⟩, huses⟩
  | @thread i op next r s head effect =>
    cases i with
    | poller => cases hl
    | client j =>
      cases j with
      | inr j => cases hl
      | inl j =>
        obtain ⟨t, rest, hrest, rfl, hnext⟩ := working_eq_perform ((hc.callers j).symm.trans head)
        cases hnext
        cases hl
        cases effect with
        | own own =>
          cases own with
          | @transport _ _ _ k transfer =>
            rw [hc.camera] at transfer
            refine ⟨_, .thread hrest transfer, ⟨fun i => ?_, rfl⟩, huses⟩
            by_cases hi : i = j
            · subst hi
              have hafter : Function.update c'.threads i (rest r) i = rest r := Function.update_self ..
              exact (Function.update_self ..).trans
                (congrArg (fun p => Worker.working (onTransport p)) hafter.symm)
            · have hne : HandleThread.client (.inl i) ≠ HandleThread.client (.inl j : Clients ι ι') := by
                rintro he
                cases he
                exact hi rfl
              have hafter : Function.update c'.threads j (rest r) i = c'.threads i :=
                Function.update_of_ne hi _ _
              exact ((Function.update_of_ne hne _ _).trans (hc.callers i)).trans
                (congrArg (fun p => Worker.working (onTransport p)) hafter.symm)

theorem Attended.reads (hc : Attended serial rounds p c)
    (h : (world (Clients ι ι') camera).Run c ls d) {op : TransportOp} {r : op.Reply}
    (hmem : .thread .poller (.own (.transport op)) r ∈ ls) : ReadsControl op := by
  have hsteps := h.steps .poller
  rw [hc.poller] at hsteps
  exact (pollerReads serial rounds).of_steps hsteps ⟨.own (.transport op), r⟩
    (List.mem_filterMap.mpr ⟨_, hmem, by rw [Label.exchangeOf, if_pos rfl]⟩)

/-! ## A camera that answers by a function, and one caller -/

/-- The camera whose replies and next states are given. -/
def CameraModel.answering (answer : (op : TransportOp) → κ → op.Reply × κ) : CameraModel κ where
  transfer op k r k' := answer op k = (r, k')
  moves _ _ := False

/-- At every point of a run, what is left of a caller on its own comes to what the whole of it does. -/
theorem run_answering {answer : (op : TransportOp) → κ → op.Reply × κ} {i : ι} (hsole : ∀ j, j = i)
    {a b : Config ι TransportOp TransportOp.Reply α κ} {ls : List (Label ι TransportOp TransportOp.Reply)}
    (h : (callersWorld ι (.answering answer)).Run a ls b) :
    Program.run answer (b.threads i) b.shared = Program.run answer (a.threads i) a.shared := by
  induction h with
  | refl a => rfl
  | cons step _ ih =>
    rw [ih]
    cases step with
    | environment effect => exact absurd effect id
    | @thread j op next r s head effect =>
      cases hsole j
      have hanswer : answer op _ = (r, s) := effect
      rw [head, Program.run_perform, hanswer]
      dsimp only
      rw [Function.update_self]

theorem working_onTransport_injective {γ : Type} {p q : TransportProgram γ}
    (h : Worker.working (onTransport p) = Worker.working (onTransport q)) : p = q := by
  induction p generalizing q with
  | done a =>
    cases q with
    | done b =>
      cases h
      rfl
    | crash m => cases h
    | perform op next => cases h
  | crash m =>
    cases q with
    | done b => cases h
    | crash m' =>
      cases h
      rfl
    | perform op next => cases h
  | perform op next ih =>
    obtain ⟨t, rest, rfl, hop, hnext⟩ := working_eq_perform h.symm
    cases hop
    refine congrArg _ (funext fun r => ih r ?_)
    exact congrFun (eq_of_heq hnext) r

/-- Every run next to the poller is, for the callers and the camera, a run of the callers alone; a sole
caller of a camera that answers by a function has the result it has on its own, and leaves the camera
as it does on its own. On Linux too, the poller sets nothing and leaves the extension unit alone. -/
theorem callers_undisturbed (camera : CameraModel κ) (hquiet : camera.ReadsQuietly)
    (hc : Attended serial rounds p c) (h : (world (Clients ι ι') camera).Run c ls d) :
    (∃ d', (callersWorld ι camera).Run ⟨p, c.shared.inner.camera⟩ (ls.filterMap callersLabel) d' ∧
      Shares d d') ∧
    (∀ answer, camera = .answering answer → ∀ i, (∀ j, j = i) → ∀ q,
      d.threads (.client (.inl i)) = Worker.working (onTransport q) →
      Program.run answer q d.shared.inner.camera = Program.run answer (p i) c.shared.inner.camera) ∧
    ∀ (op : TransportOp) (r : op.Reply), .thread .poller (.own (.transport op)) r ∈ ls →
      ReadsControl op ∧ Uses ReadsIoctl (Uvcvideo.UsbTransport.answer op) := by
  obtain ⟨d', hrun, hd⟩ := h.simulation (V := callersWorld ι camera)
    (fun hs step hl => hs.hidden hquiet step hl) (fun hs step hl => hs.shown step hl) hc.simulates
  refine ⟨⟨d', hrun, hd.toShares⟩, ?_, fun op r hmem => ⟨hc.reads h hmem, readsIoctl_answer (hc.reads h hmem)⟩⟩
  rintro answer rfl i hsole q hq
  have hleft : q = d'.threads i := working_onTransport_injective (hq.symm.trans (hd.callers i))
  rw [hleft, hd.camera]
  exact run_answering hsole hrun

end Simulation

/-! ## A caller that sets the contrast while the poller samples -/

/-- The camera that keeps the last payload written and answers no read. -/
def keepsPayload : (op : TransportOp) → List UInt8 → op.Reply × List UInt8
  | .uvcSet _ _ payload, _ => (.ok (), payload)
  | .uvcGet _ _ _ _ out, payload => ((out, .error .timeout), payload)
  | .sleep _, payload => ((), payload)

theorem keepsPayload_quiet : (CameraModel.answering keepsPayload).ReadsQuietly := by
  rintro op k r k' hop h
  cases op with
  | uvcSet entity selector payload => exact absurd hop id
  | uvcGet req entity selector n out =>
    cases h
    rfl
  | sleep millis => exact absurd hop id

def sampling : HandleConfig (Clients Unit Empty) (Sum.elim (fun _ => Result Unit) Empty.elim) (List UInt8) where
  threads
    | .poller => Worker.thread (pollLoop "A" 1)
    | .client (.inl _) => Worker.working (onTransport (Device.setContrast 7).run)
    | .client (.inr j) => j.elim
  shared := ⟨false, false, ⟨[], 2500, []⟩⟩

theorem sampling_attended : Attended "A" 1 (fun _ => (Device.setContrast 7).run) sampling where
  poller := rfl
  clients i := by
    cases i with
    | inl i => exact clientOp_onTransport _
    | inr j => exact j.elim
  stop := rfl
  finished := rfl
  cadence := rfl
  ticks := rfl
  callers _ := rfl
  others j := j.elim

/-- The caller's write falls between two reads of the poller. -/
theorem sampling_run : ∃ ls d, (world (Clients Unit Empty) (.answering keepsPayload)).Run sampling ls d ∧
    d.threads (.client (.inl ())) = Worker.working (onTransport (.done (.ok ()))) ∧
    d.shared.inner.camera = [7, 0] := by
  obtain ⟨c, hcheck, ⟨next, hpoller⟩, hclient⟩ :
      ∃ c, (world (Clients Unit Empty) (.answering keepsPayload)).Step sampling
        (.thread .poller (.own .loadStop) false) c ∧
      (∃ next, c.threads .poller = .perform
        (.own (.transport (.uvcGet .cur Uvc.processingUnit Uvc.Pu.brightness 2 (Bytes.zeros 2)))) next) ∧
      c.threads (.client (.inl ())) = Worker.working (onTransport (Device.setContrast 7).run) :=
    ⟨_, .thread sampling_attended.poller (Worker.Effect.own (.loadStop _)), ⟨_, rfl⟩, rfl⟩
  obtain ⟨e, hread, hset⟩ : ∃ e, (world (Clients Unit Empty) (.answering keepsPayload)).Step c
      (.thread .poller (.own (.transport
        (.uvcGet .cur Uvc.processingUnit Uvc.Pu.brightness 2 (Bytes.zeros 2)))) (Bytes.zeros 2, .error .timeout)) e ∧
      e.threads (.client (.inl ())) = Worker.working (onTransport (Device.setContrast 7).run) :=
    ⟨_, .thread hpoller (Worker.Effect.own (.transport rfl)), hclient⟩
  have hwrite : (world (Clients Unit Empty) (.answering keepsPayload)).Step e
      (.thread (.client (.inl ())) (.own (.transport
        (.uvcSet Uvc.processingUnit Uvc.Pu.contrast [7, 0]))) (.ok ())) _ :=
    .thread hset (Worker.Effect.own (.transport rfl))
  exact ⟨_, _, .cons hcheck (.cons hread (.cons hwrite (.refl _))), rfl, rfl⟩

theorem callers_undisturbed_sampling :
    Program.run keepsPayload (Device.setContrast 7).run [] = (.ok (.ok ()), [7, 0]) := by
  obtain ⟨ls, d, hrun, hdone, hcamera⟩ := sampling_run
  have hundisturbed := callers_undisturbed _ keepsPayload_quiet sampling_attended hrun
  have hresult := hundisturbed.2.1 keepsPayload rfl () (fun _ => rfl) _ hdone
  rw [hcamera] at hresult
  exact hresult.symm

end Libobsbot.Poller

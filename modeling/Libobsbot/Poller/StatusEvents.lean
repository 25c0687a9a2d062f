import Libobsbot.Ffi.Marshalling
import Libobsbot.Poller.Shutdown
import Libobsbot.Poller.Undisturbed
import Libobsbot.Rpc.Slot
import Libobsbot.Source.Ffi

/-! # The polled and the synchronous status

The poller's sample and `Device::status` read the same five controls, and both paths write the snapshot into the
C structure in the same way. Only the synchronous path asks for the firmware and the serial: in an event
both strings are empty (`polled_status_agrees`).
-/

namespace Libobsbot.Poller
open Foundations Ffi
open Foundations.Program (Uses Steps Exchange)
set_option autoImplicit false

/-! ## What an event was sampled from -/

theorem steps_onTransport {α : Type} {p : TransportProgram α}
    {t : List (Exchange PollerOp PollerOp.Reply)} {q : PollerProgram α} (h : Steps (onTransport p) t q) :
    ∃ u q', Steps p u q' ∧
      t = u.map (fun x => (⟨.transport x.1, x.2⟩ : Exchange PollerOp PollerOp.Reply)) ∧
      q = onTransport q' := by
  unfold onTransport at h
  exact @Program.steps_translate_one TransportOp TransportOp.Reply α PollerOp PollerOp.Reply PollerOp.transport
    (fun _ r => r) (fun _ r => r) (fun _ _ => rfl) p t q h

/-- The event was sampled by transfers of the same run. -/
def SampledIn (t : List (Exchange PollerOp PollerOp.Reply)) (serial : String) (event : Event) : Prop :=
  ∃ snapshot u, event = .status serial snapshot ∧ Steps sampleStatus u (.done snapshot) ∧
    ∀ x ∈ u, (⟨.transport x.1, x.2⟩ : Exchange PollerOp PollerOp.Reply) ∈ t

theorem sampledIn_round {serial : String} {t : List (Exchange PollerOp PollerOp.Reply)}
    {q : PollerProgram (Option ℕ)} (h : Steps (pollRound serial) t q) {event : Event}
    (hmem : event ∈ t.filterMap sentOf) : SampledIn t serial event := by
  have hsample : Uses Unsent (onTransport sampleStatus) :=
    uses_onTransport (Program.uses_of_forall (fun _ => trivial) _)
  obtain ⟨p, hp, -, -⟩ | ⟨u, snapshot, v, rfl, hu, hv⟩ := Steps.bind_cases h
  · rw [sent_of_unsent hsample hp] at hmem
    cases hmem
  · rw [List.filterMap_append, sent_of_unsent hsample hu, List.nil_append] at hmem
    obtain ⟨u', q', hu', rfl, hq'⟩ := steps_onTransport hu
    obtain rfl : q' = .done snapshot := by
      cases q' with
      | done snapshot' =>
        cases hq'
        rfl
      | crash m => cases hq'
      | perform op next => cases hq'
    obtain ⟨rfl, -⟩ | ⟨received, w, rfl, hw⟩ := Program.steps_op_bind.mp hv
    · cases hmem
    · have hrest : w.filterMap sentOf = [] := by
        refine sent_of_unsent ?_ hw
        cases received with
        | false => trivial
        | true => exact ⟨trivial, fun _ => trivial⟩
      have hevent : event ∈ [Event.status serial snapshot] := by
        rw [List.filterMap_cons, hrest] at hmem
        exact hmem
      refine ⟨snapshot, u', List.mem_singleton.mp hevent, hu', fun x hx => ?_⟩
      exact List.mem_append_left _ (List.mem_map_of_mem hx)

theorem sampledIn_pollLoop {serial : String} {rounds : ℕ} {t : List (Exchange PollerOp PollerOp.Reply)}
    {q : PollerProgram Unit} (h : Steps (pollLoop serial rounds) t q) {event : Event}
    (hmem : event ∈ t.filterMap sentOf) : SampledIn t serial event := by
  rw [pollLoop_eq serial rounds 0] at h
  obtain ⟨-, u, q', hround, hu, hsub⟩ := Worker.mem_visible_loop (fun _ => rfl)
    (fun _ _ _ => sent_pause) h hmem
  obtain ⟨snapshot, v, he, hv, hmem⟩ := sampledIn_round hround hu
  exact ⟨snapshot, v, he, hv, fun x hx => hsub _ (hmem x hx)⟩

/-! ## A camera whose controls read the same every time -/

/-- Reads of the Camera Terminal and the Processing Unit are answered the same way at any time; the rest of
the camera is free. -/
def CameraModel.AnswersReads {κ : Type} (camera : CameraModel κ)
    (answer : (op : TransportOp) → op.Reply) : Prop :=
  ∀ {op : TransportOp} {k : κ} {r : op.Reply} {k' : κ}, ReadsControl op → camera.transfer op k r k' →
    r = answer op

/-- Whoever samples such a camera, the samples are the same. -/
theorem sample_unique {answer : (op : TransportOp) → op.Reply}
    {t u : List (Exchange TransportOp TransportOp.Reply)} {snap snap' : Status}
    (ht : Steps sampleStatus t (.done snap)) (hu : Steps sampleStatus u (.done snap'))
    (htanswers : ∀ x ∈ t, ReadsControl x.1 → x.2 = answer x.1)
    (huanswers : ∀ x ∈ u, ReadsControl x.1 → x.2 = answer x.1) : snap = snap' := by
  have hreads := readsControl_sampleStatus
  have hfirst := ht.run_eq fun x hx => htanswers x hx (hreads.of_steps ht x hx)
  have hsecond := hu.run_eq fun x hx => huanswers x hx (hreads.of_steps hu x hx)
  cases hfirst.symm.trans hsecond
  rfl

def Blank (snap : Status) : Prop := snap.firmware = "" ∧ snap.serial = ""

theorem blank_sampleInto {α : Type} {read : DeviceM α} {set : α → Status → Status} {snap snap' : Status}
    {t : List (Exchange TransportOp TransportOp.Reply)}
    (h : Steps (sampleInto read set snap) t (.done snap')) (hsnap : Blank snap)
    (hset : ∀ v s, Blank s → Blank (set v s)) : Blank snap' := by
  obtain ⟨v, -, rfl⟩ | ⟨e, -, rfl⟩ := steps_sampleInto h
  · exact hset v snap hsnap
  · exact hsnap

/-- No part of a sample sets the strings. -/
theorem blank_sampleStatus {t : List (Exchange TransportOp TransportOp.Reply)} {snap : Status}
    (h : Steps sampleStatus t (.done snap)) : Blank snap := by
  obtain ⟨_, brightened, _, -, hbrightness, h⟩ := h.bind_done
  have hblank : Blank brightened := blank_sampleInto hbrightness ⟨rfl, rfl⟩ fun _ _ hs => hs
  obtain ⟨_, contrasted, _, -, hcontrast, h⟩ := h.bind_done
  have hblank : Blank contrasted := blank_sampleInto hcontrast hblank fun _ _ hs => hs
  obtain ⟨_, saturated, _, -, hsaturation, h⟩ := h.bind_done
  have hblank : Blank saturated := blank_sampleInto hsaturation hblank fun _ _ hs => hs
  obtain ⟨_, turned, _, -, hpantilt, hzoom⟩ := h.bind_done
  have hblank : Blank turned := blank_sampleInto hpantilt hblank fun _ _ hs => hs
  exact blank_sampleInto hzoom hblank fun _ _ hs => hs

/-! ## The synchronous status -/

variable {Location : Type}

theorem status_run (self : Device Location) : self.status.run =
    unwrapOr self.firmwareFromCamera "" >>= fun firmware =>
      unwrapOr self.serialFromCamera "" >>= fun serial =>
        sampleStatus >>= fun snap => .done (.ok { snap with firmware := firmware, serial := serial }) := by
  unfold Device.status
  simp only [ExceptT.run_bind, ExceptT.run_monadLift, map_eq_pure_bind, bind_assoc, pure_bind, ExceptT.run_pure]
  rfl

theorem steps_obsbotDeviceStatus {self : Device Location}
    {t : List (Exchange TransportOp TransportOp.Reply)} {code : Int32} {out : ObsbotStatus}
    (h : Steps (obsbotDeviceStatus (some self) false) t (.done (code, some out))) :
    ∃ firmware serial snap u, Steps sampleStatus u (.done snap) ∧ (∀ x ∈ u, x ∈ t) ∧
      out = writeStatus .zeroed { snap with firmware := firmware, serial := serial } := by
  have hcall : Steps (self.status.run >>= _) t (.done (code, some out)) := h
  obtain ⟨t₁, r, t₂, rfl, hstatus, hcode⟩ := hcall.bind_done
  rw [status_run] at hstatus
  obtain ⟨_, firmware, _, rfl, -, hstatus⟩ := hstatus.bind_done
  obtain ⟨_, serial, _, rfl, -, hstatus⟩ := hstatus.bind_done
  obtain ⟨u, snap, _, rfl, hsample, hresult⟩ := hstatus.bind_done
  cases (Program.steps_done.mp hresult).2
  cases (Program.steps_done.mp hcode).2
  refine ⟨firmware, serial, snap, u, hsample, fun x hx => ?_, rfl⟩
  simp only [List.mem_append]
  exact .inl (.inr (.inr (.inl hx)))

/-! ## In a run -/

section Runs
variable {ι : Type} [DecidableEq ι] {α : ι → Type} {κ : Type} {camera : CameraModel κ}
  {answer : (op : TransportOp) → op.Reply} {c d : HandleConfig ι α κ} {ls : List (HandleLabel ι)}
  {serial : String} {rounds : ℕ}

theorem Opened.sampledIn (hc : Opened serial rounds c) (h : (world ι camera).Run c ls d) {event : Event}
    (hmem : event ∈ statusEvents ls) : SampledIn (Worker.ownExchanges .poller ls) serial event := by
  have hsteps := h.steps .poller
  rw [hc.poller] at hsteps
  obtain ⟨q, hq⟩ := Worker.steps_thread hsteps
  rw [← Worker.ownExchanges_eq] at hq
  exact sampledIn_pollLoop hq hmem

/-- A client's call, run to its end among the other threads. -/
theorem client_steps {i : HandleThread ι} {p : TransportProgram (HandleThread.Value α i)}
    {v : HandleThread.Value α i} (h : (world ι camera).Run c ls d)
    (hc : c.threads i = Worker.working (onTransport p)) (hd : d.threads i = .done v) :
    ∃ u, Steps p u (.done v) ∧ ∀ x ∈ u,
      (⟨.transport x.1, x.2⟩ : Exchange PollerOp PollerOp.Reply) ∈ Worker.ownExchanges i ls := by
  have hsteps := h.steps i
  rw [hc, hd] at hsteps
  obtain ⟨t, q, ht, htrace, hq⟩ := Worker.steps_working hsteps
  obtain ⟨u, q', hu, rfl, rfl⟩ := steps_onTransport ht
  obtain rfl : q' = .done v := by
    cases q' with
    | done v' =>
      cases hq
      rfl
    | crash m => cases hq
    | perform op next => cases hq
  refine ⟨u, hu, fun x hx => ?_⟩
  rw [Worker.ownExchanges_eq, htrace]
  refine List.mem_filterMap.mpr ⟨⟨.own (.transport x.1), x.2⟩, ?_, rfl⟩
  exact List.mem_map.mpr ⟨⟨.transport x.1, x.2⟩, List.mem_map.mpr ⟨x, hx, rfl⟩, rfl⟩

theorem CameraModel.AnswersReads.of_run (hanswers : camera.AnswersReads answer)
    (h : (world ι camera).Run c ls d) {i : HandleThread ι} {op : TransportOp} {r : op.Reply}
    (hmem : (⟨.transport op, r⟩ : Exchange PollerOp PollerOp.Reply) ∈ Worker.ownExchanges i ls)
    (hop : ReadsControl op) : r = answer op := by
  obtain ⟨l, hl, hx⟩ := List.mem_filterMap.mp hmem
  cases Worker.ownExchange_eq_some hx
  obtain ⟨s, s', heffect⟩ := h.performed hl
  obtain ⟨own⟩ : Worker.Effect (fun stop _ => Effect camera stop) i (.own (.transport op)) s r s' := heffect
  obtain ⟨transfer⟩ := own
  exact hanswers hop transfer

end Runs

/-! ## The two structures -/

structure AgreeNumerically (polled sync : ObsbotStatus) : Prop where
  brightness : polled.brightness = sync.brightness
  contrast : polled.contrast = sync.contrast
  saturation : polled.saturation = sync.saturation
  zoom : polled.zoom = sync.zoom
  pan : polled.pan = sync.pan
  tilt : polled.tilt = sync.tilt

def BlankStrings (out : ObsbotStatus) : Prop :=
  out.firmware = Bytes.zeros obsbotStrMax ∧ out.serial = Bytes.zeros obsbotStrMax

theorem AgreeNumerically.eq_iff {polled sync : ObsbotStatus} (h : AgreeNumerically polled sync)
    (hblank : BlankStrings polled) : polled = sync ↔ BlankStrings sync := by
  constructor
  · rintro rfl
    exact hblank
  · intro hsync
    exact ObsbotStatus.ext (hblank.1.trans hsync.1.symm) (hblank.2.trans hsync.2.symm) h.brightness
      h.contrast h.saturation h.zoom h.pan h.tilt

theorem steps_obsbotDevicesPollEvent {timeoutMs : Int32} {event : Event}
    {t : List (Exchange ReceiveOp ReceiveOp.Reply)} {code : Int32} {polled : ObsbotEvent}
    (h : Steps (obsbotDevicesPollEvent false false timeoutMs) t (.done (code, some polled)))
    (hevent : ∀ x ∈ t, x.2 = some event) : polled = writeEvent .zeroed event := by
  obtain ⟨-, hdone⟩ | ⟨r, u, rfl, hu⟩ := Program.steps_op_bind.mp h
  · cases hdone
  · obtain rfl : r = some event := hevent _ List.mem_cons_self
    cases (Program.steps_done.mp hu).2
    rfl

section Agreement
variable {ι ι' : Type} [DecidableEq ι] [DecidableEq ι'] {β : ι' → Type} {κ : Type}
  {answer : (op : TransportOp) → op.Reply} {serial : String} {rounds : ℕ}
  {c d : HandleConfig (Clients ι ι') (Sum.elim (fun _ => Int32 × Option ObsbotStatus) β) κ}
  {ls : List (HandleLabel (Clients ι ι'))}

/-- Of a camera whose controls read the same every time, every status event that is polled agrees with every
`obsbot_device_status` in the six fields that are not strings. Both strings of an event are empty, so the
structures are equal iff the camera's answers left both strings of the latter empty as well. The calls on the caller's
memory run the same way and store these structures. -/
theorem polled_status_agrees (camera : CameraModel κ) (hanswers : camera.AnswersReads answer)
    (self : Device Location) (hc : Opened serial rounds c)
    (hcallers : ∀ i, c.threads (.client (.inl i)) =
      Worker.working (onTransport (obsbotDeviceStatus (some self) false)))
    (h : (world (Clients ι ι') camera).Run c ls d) {event : Event} (hevent : event ∈ statusEvents ls)
    {timeoutMs : Int32} {t : List (Exchange ReceiveOp ReceiveOp.Reply)} {code : Int32} {polled : ObsbotEvent}
    (hpoll : Steps (obsbotDevicesPollEvent false false timeoutMs) t (.done (code, some polled)))
    (hreceived : ∀ x ∈ t, x.2 = some event) {i : ι} {code' : Int32} {sync : ObsbotStatus}
    (hsync : d.threads (.client (.inl i)) = .done (code', some sync)) :
    polled.kind = obsbotEventStatus ∧ AgreeNumerically polled.status sync ∧ BlankStrings polled.status ∧
      (polled.status = sync ↔ BlankStrings sync) ∧
      ∀ (out : ℕ) (m : Raw.CMemory), out ≠ 0 →
        Steps (Raw.obsbotDevicesPollEvent false out timeoutMs m) t
          (.done (code, m.write out (Raw.layoutEvent polled))) ∧
        ∃ v, (∀ x ∈ v, (⟨.transport x.1, x.2⟩ : Exchange PollerOp PollerOp.Reply) ∈
            Worker.ownExchanges (.client (.inl i)) ls) ∧
          Steps (Raw.obsbotDeviceStatus (some self) out m) v (.done (code', m.write out (Raw.layout sync))) := by
  obtain ⟨v, hv, hvmem⟩ := client_steps h (hcallers i) hsync
  have hstored : ∀ (out : ℕ) (m : Raw.CMemory), out ≠ 0 →
      Steps (Raw.obsbotDevicesPollEvent false out timeoutMs m) t
        (.done (code, m.write out (Raw.layoutEvent polled))) ∧
      Steps (Raw.obsbotDeviceStatus (some self) out m) v (.done (code', m.write out (Raw.layout sync))) := by
    intro out m hout
    have hnull : (out == 0) = false := by simpa using hout
    rw [Raw.obsbotDevicesPollEvent_refines, Raw.obsbotDeviceStatus_refines, hnull]
    exact ⟨hpoll.bind_last rfl, hv.bind_last rfl⟩
  obtain ⟨snap, u, rfl, hu, humem⟩ := hc.sampledIn h hevent
  obtain rfl := steps_obsbotDevicesPollEvent hpoll hreceived
  obtain ⟨firmware, serial', snap', w, hw, hwmem, rfl⟩ := steps_obsbotDeviceStatus hv
  obtain rfl : snap = snap' := sample_unique hu hw
    (fun x hx => hanswers.of_run h (humem x hx)) fun x hx => hanswers.of_run h (hvmem x (hwmem x hx))
  have hagree : AgreeNumerically (writeEvent .zeroed (.status serial snap)).status
      (writeStatus .zeroed { snap with firmware := firmware, serial := serial' }) :=
    ⟨rfl, rfl, rfl, rfl, rfl, rfl⟩
  have hblank : BlankStrings (writeEvent .zeroed (.status serial snap)).status := by
    obtain ⟨hfirmware, hserial⟩ := blank_sampleStatus hu
    constructor
    · show copyIntoBuf (Bytes.zeros obsbotStrMax) snap.firmware = _
      rw [hfirmware, copyIntoBuf_empty]
    · show copyIntoBuf (Bytes.zeros obsbotStrMax) snap.serial = _
      rw [hserial, copyIntoBuf_empty]
  refine ⟨rfl, hagree, hblank, hagree.eq_iff hblank, fun out m hout => ?_⟩
  obtain ⟨hevent, hstatus⟩ := hstored out m hout
  exact ⟨hevent, v, hvmem, hstatus⟩

end Agreement

/-! ## A camera that answers with its firmware -/

section Fixed
variable {ι : Type} [DecidableEq ι] {α : ι → Type} {c : HandleConfig ι α Unit}
  {answer : (op : TransportOp) → op.Reply}

theorem fixed_answersReads (answer : (op : TransportOp) → op.Reply) :
    (CameraModel.fixed answer).AnswersReads answer := fun _ h => h

theorem mem_statusEvents {ls : List (HandleLabel ι)} {event : Event} {received : Bool}
    (h : .thread .poller (.own (.send event)) received ∈ ls) : event ∈ statusEvents ls := by
  refine List.mem_filterMap.mpr ⟨⟨.send event, received⟩, List.mem_filterMap.mpr ⟨_, h, ?_⟩, rfl⟩
  rw [Worker.ownExchange, Label.exchangeOf, if_pos rfl]
  rfl

theorem exists_client_run {i : HandleThread ι} {p : TransportProgram (HandleThread.Value α i)}
    {v : HandleThread.Value α i} (hp : c.threads i = Worker.working (onTransport p))
    (hv : (Program.run (fun op (_ : Unit) => (answer op, ())) p ()).1 = .ok v) :
    ∃ ls, (world ι (.fixed answer)).Run c ls (c.set i (.done v) c.shared) := by
  obtain ⟨t, ht, hanswers⟩ := Program.exists_steps hv
  have htransport : Steps (onTransport p) (t.flatMap fun x => [⟨.transport x.1, x.2⟩])
      (onTransport (.done v)) :=
    ht.translate fun x => @Program.steps_one PollerOp PollerOp.Reply (.transport x.1) x.2
  have hworking : Steps (Worker.working (onTransport p)) _ (Worker.working (onTransport (.done v))) :=
    htransport.translate fun x =>
      @Program.steps_one (WorkerOp PollerOp) (WorkerOp.Reply PollerOp.Reply) (.own x.1) x.2
  rw [← hp] at hworking
  refine ⟨_, .of_steps hworking fun x hx => ?_⟩
  obtain ⟨y, hy, hxy⟩ := List.mem_flatMap.mp hx
  obtain ⟨z, hz, hyz⟩ := List.mem_flatMap.mp hy
  rw [List.mem_singleton.mp hxy, List.mem_singleton.mp hyz]
  exact Worker.Effect.own (.transport (hanswers z hz))

/-- One sample and its send, and then a client's call. -/
theorem sample_then_call {serial : String} {snapshot : Status} (hsample : Samples answer snapshot)
    (hstop : c.shared.stop = false) (hc : c.threads .poller = Worker.thread (pollLoop serial 1))
    {i : ι} {p : TransportProgram (α i)} (hp : c.threads (.client i) = Worker.working (onTransport p))
    {v : α i} (hv : (Program.run (fun op (_ : Unit) => (answer op, ())) p ()).1 = .ok v) :
    ∃ ls d, (world ι (.fixed answer)).Run c ls d ∧ .status serial snapshot ∈ statusEvents ls ∧
      d.threads (.client i) = .done v := by
  obtain ⟨t, ht, hquiet⟩ := exists_sample hsample serial 0 c.shared.inner
  obtain ⟨ls, hsampled⟩ := quiet_run hstop hc ht hquiet
  have hne : HandleThread.client i ≠ .poller := by
    intro he
    cases he
  obtain ⟨e, he⟩ : ∃ e, e = c.set .poller (Worker.thread (afterSample serial 0 snapshot)) c.shared := ⟨_, rfl⟩
  have hpoller : e.threads .poller = Worker.thread (afterSample serial 0 snapshot) := by
    rw [he, Config.set_self]
  have hclient : e.threads (.client i) = Worker.working (onTransport p) := by
    rw [he, c.set_of_ne hne, hp]
  have hsend : (world ι (.fixed answer)).Step e
      (.thread .poller (.own (.send (.status serial snapshot))) true) _ :=
    .thread hpoller (Worker.Effect.own (.send e.shared.inner _ true))
  rw [← he] at hsampled
  have hlater := (e.set_of_ne hne (Worker.thread (Poller.loadCadence >>= fun target =>
    pollPause target 0 >>= fun go => if go then pollLoop serial 0 else .done ())) e.shared).trans hclient
  obtain ⟨ms, hcall⟩ := exists_client_run hlater hv
  have hmem : .thread .poller (.own (.send (.status serial snapshot))) true ∈
      ls ++ [.thread .poller (.own (.send (.status serial snapshot))) true] ++ ms :=
    List.mem_append_left _ (List.mem_append_right _ List.mem_cons_self)
  exact ⟨_, _, (hsampled.snoc hsend).trans hcall, mem_statusEvents hmem, Config.set_self _ _ _ _⟩

end Fixed

/-- Replies to every request with the firmware, and reads no control. -/
def answersFirmware : (op : TransportOp) → op.Reply
  | .uvcSet _ _ _ => .ok ()
  | .uvcGet _ entity _ _ out =>
    if entity = Meet2.xuEntityId then
      (out.overwrite 0 (Rpc.sampleReply .firmware).toList, .ok Meet2.rpcFrameLen)
    else (out, .error .timeout)
  | .sleep _ => ()

theorem samples_answersFirmware : Samples answersFirmware Status.default := rfl

/-- The firmware is known, and the serial is not. -/
def syncStatus : ObsbotStatus := writeStatus .zeroed { Status.default with firmware := "4.4.6.1" }

theorem run_obsbotDeviceStatus : (Program.run (fun op (_ : Unit) => (answersFirmware op, ()))
    (obsbotDeviceStatus (some Rpc.sampleDevice) false) ()).1 = .ok (obsbotOk, some syncStatus) := rfl

def asking : HandleConfig (Clients Unit Empty)
    (Sum.elim (fun _ => Int32 × Option ObsbotStatus) Empty.elim) Unit where
  threads
    | .poller => Worker.thread (pollLoop "" 1)
    | .client (.inl _) => Worker.working (onTransport (obsbotDeviceStatus (some Rpc.sampleDevice) false))
    | .client (.inr j) => j.elim
  shared := ⟨false, false, ⟨(), 2500, []⟩⟩

theorem asking_opened : Opened "" 1 asking where
  poller := rfl
  clients i := by
    cases i with
    | inl i => exact clientOp_onTransport _
    | inr j => exact j.elim
  stop := rfl
  finished := rfl
  cadence := rfl
  ticks := rfl

theorem exists_poll (event : Event) : ∃ t, Steps (obsbotDevicesPollEvent false false 0) t
    (.done (obsbotOk, some (writeEvent .zeroed event))) ∧ ∀ x ∈ t, x.2 = some event :=
  ⟨[⟨.tryRecv, some event⟩], Program.steps_op_bind.mpr (.inr ⟨some event, [], rfl, .refl _⟩), by simp⟩

/-- A camera that answers a firmware request has its firmware in the synchronous status and not in the
event. -/
theorem firmware_not_polled : ¬ ∀ {answer : (op : TransportOp) → op.Reply} (camera : CameraModel Unit)
    (_ : camera.AnswersReads answer) (self : Device Unit) {serial : String} {rounds : ℕ}
    {c d : HandleConfig (Clients Unit Empty) (Sum.elim (fun _ => Int32 × Option ObsbotStatus) Empty.elim)
      Unit} {ls : List (HandleLabel (Clients Unit Empty))} (_ : Opened serial rounds c)
    (_ : ∀ i, c.threads (.client (.inl i)) =
      Worker.working (onTransport (obsbotDeviceStatus (some self) false)))
    (_ : (world (Clients Unit Empty) camera).Run c ls d) {event : Event} (_ : event ∈ statusEvents ls)
    {timeoutMs : Int32} {t : List (Exchange ReceiveOp ReceiveOp.Reply)} {code : Int32} {polled : ObsbotEvent}
    (_ : Steps (obsbotDevicesPollEvent false false timeoutMs) t (.done (code, some polled)))
    (_ : ∀ x ∈ t, x.2 = some event) {i : Unit} {code' : Int32} {sync : ObsbotStatus}
    (_ : d.threads (.client (.inl i)) = .done (code', some sync)), polled.status = sync := by
  intro hall
  obtain ⟨ls, d, hrun, hevent, hsync⟩ := sample_then_call (c := asking) (i := .inl ())
    samples_answersFirmware rfl asking_opened.poller rfl run_obsbotDeviceStatus
  obtain ⟨t, hpoll, hreceived⟩ := exists_poll (.status "" Status.default)
  have hequal := hall (.fixed answersFirmware) (fixed_answersReads _) Rpc.sampleDevice asking_opened
    (fun _ => rfl) hrun hevent hpoll hreceived hsync
  have hfirmware : copyIntoBuf (Bytes.zeros obsbotStrMax) "" =
      copyIntoBuf (Bytes.zeros obsbotStrMax) "4.4.6.1" := congrArg ObsbotStatus.firmware hequal
  exact absurd hfirmware (by decide)

theorem polled_status_agrees_firmware : ∃ polled : ObsbotEvent, polled.kind = obsbotEventStatus ∧
    AgreeNumerically polled.status syncStatus ∧ BlankStrings polled.status ∧
      (polled.status = syncStatus ↔ BlankStrings syncStatus) ∧
      ∃ t v, Steps (Raw.obsbotDevicesPollEvent false 16 0 fun _ => 0xEE) t
          (.done (obsbotOk, Memory.write (fun _ => 0xEE) 16 (Raw.layoutEvent polled))) ∧
        Steps (Raw.obsbotDeviceStatus (some Rpc.sampleDevice) 16 fun _ => 0xEE) v
          (.done (obsbotOk, Memory.write (fun _ => 0xEE) 16 (Raw.layout syncStatus))) := by
  obtain ⟨ls, d, hrun, hevent, hsync⟩ := sample_then_call (c := asking) (i := .inl ())
    samples_answersFirmware rfl asking_opened.poller rfl run_obsbotDeviceStatus
  obtain ⟨t, hpoll, hreceived⟩ := exists_poll (.status "" Status.default)
  obtain ⟨hkind, hagree, hblank, hiff, hmemory⟩ := polled_status_agrees (.fixed answersFirmware)
    (fixed_answersReads _) Rpc.sampleDevice asking_opened (fun _ => rfl) hrun hevent hpoll hreceived hsync
  obtain ⟨hstored, v, -, hfilled⟩ := hmemory 16 (fun _ => 0xEE) (by decide)
  exact ⟨_, hkind, hagree, hblank, hiff, t, v, hstored, hfilled⟩

end Libobsbot.Poller

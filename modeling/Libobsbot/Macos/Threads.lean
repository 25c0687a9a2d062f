import Libobsbot.Linux.PanTilt
import Libobsbot.Macos.Requests
import Libobsbot.Poller.Undisturbed

/-! # Threads on one macOS transport

`uvc_set` and `uvc_get` hold the lock of the transport around their one request. Whatever IOKit makes of the requests,
any number of threads that share the transport then act on it one whole transfer at a time. Where it keeps the pair of
pan and tilt that it is sent, one transfer here, no thread reads a torn pair.
-/

namespace Libobsbot.Macos
open Foundations
open Foundations.Program (Uses Steps Exchange YieldsGiven)
open PanTilt (PanTiltCall normalised packed)
set_option autoImplicit false

section Transport
variable {ι σ : Type} {effect : (op : IokitOp) → σ → op.Reply → σ → Prop} {transport : TransportInner}

/-! ## Whole transfers -/

/-- A sleep changes nothing and can be slept at any moment. -/
def SleepQuiet (effect : (op : IokitOp) → σ → op.Reply → σ → Prop) : Prop :=
  ∀ millis s s', effect (.sleep millis) s () s' → s' = s ∧ ∀ t, effect (.sleep millis) t () t

/-- Transfers that happen at once. -/
def transferWorld (ι : Type) (effect : (op : IokitOp) → σ → op.Reply → σ → Prop) (transport : TransportInner) :
    World ι TransportOp TransportOp.Reply σ where
  perform _ op s r s' := Transfer effect transport op s r s'
  environment _ _ := False

/-- The calls into IOKit of threads that share a transport. -/
abbrev iokitWorld (ι : Type) (effect : (op : IokitOp) → σ → op.Reply → σ → Prop) :
    World ι (MutexOp IokitOp) (MutexOp.Reply IokitOp.Reply) (MutexState ι σ) := Mutex.world effect

abbrev IokitConfig (ι σ : Type) (α : ι → Type) : Type :=
  Config ι (MutexOp IokitOp) (MutexOp.Reply IokitOp.Reply) α (MutexState ι σ)

abbrev IokitLabel (ι : Type) : Type := Label ι (MutexOp IokitOp) (MutexOp.Reply IokitOp.Reply)

/-- A run of calls next to a run of whole transfers. -/
abbrev MatchesTransfers {α : ι → Type} (effect : (op : IokitOp) → σ → op.Reply → σ → Prop)
    (transport : TransportInner) : IokitConfig ι σ α → Config ι TransportOp TransportOp.Reply α σ → Prop :=
  Mutex.Matches effect (MacosTransport.answer transport)

/-- The threads share a fresh transport, and are about to run `p`. -/
def sharing {α : ι → Type} (transport : TransportInner) (p : (i : ι) → TransportProgram (α i)) (s : σ) :
    IokitConfig ι σ α :=
  ⟨fun i => Mutex.client (MacosTransport.answer transport) (p i), ⟨none, s⟩⟩

theorem plainQuiet_answer (h : SleepQuiet effect) : Mutex.PlainQuiet effect (MacosTransport.answer transport) := by
  intro op iokit result hop s r s' heffect
  cases op with
  | uvcSet entity selector payload => cases hop
  | uvcGet req entity selector n out => cases hop
  | sleep millis =>
    cases hop
    exact h millis s s' heffect

theorem atomicWorld_eq : Mutex.atomicWorld effect (MacosTransport.answer transport) =
    transferWorld ι effect transport := by
  refine congrArg (fun perform => World.mk perform fun _ _ => False) ?_
  funext i op s r s'
  exact propext atOnce_answer

section Runs
variable [DecidableEq ι] {α : ι → Type}

theorem exists_transfers (h : SleepQuiet effect) {c d : IokitConfig ι σ α}
    {c' : Config ι TransportOp TransportOp.Reply α σ} {ls : List (IokitLabel ι)}
    (hc : MatchesTransfers effect transport c c') (hrun : (iokitWorld ι effect).Run c ls d) :
    ∃ ls' d', (transferWorld ι effect transport).Run c' ls' d' ∧ MatchesTransfers effect transport d d' := by
  obtain ⟨ls', d', hrun', hd⟩ := Mutex.run_atomic (plainQuiet_answer h) hc hrun
  rw [atomicWorld_eq] at hrun'
  exact ⟨ls', d', hrun', hd⟩

theorem exists_calls {p : (i : ι) → TransportProgram (α i)} {s : σ}
    {d' : Config ι TransportOp TransportOp.Reply α σ} {ls' : List (Label ι TransportOp TransportOp.Reply)}
    (hrun : (transferWorld ι effect transport).Run ⟨p, s⟩ ls' d') : ∃ ls,
      (iokitWorld ι effect).Run (sharing transport p s) ls (sharing transport d'.threads d'.shared) := by
  rw [← atomicWorld_eq] at hrun
  exact Mutex.run_of_atomic hrun

/-- Whatever IOKit does and whatever the interleaving, the threads act on the transport one whole transfer at a time: at
every moment of a run it matches a run of whole transfers, which goes on as the run does; a thread that is done is done
there with the same value, and once all are done the states are the same. Every order of whole transfers can
happen. -/
theorem transfers_at_once (h : SleepQuiet effect) (p : (i : ι) → TransportProgram (α i)) (s : σ) :
    (∀ (d e : IokitConfig ι σ α) (ls ms : List (IokitLabel ι)),
      (iokitWorld ι effect).Run (sharing transport p s) ls d →
      (iokitWorld ι effect).Run d ms e → ∃ ls' d' ms' e',
        (transferWorld ι effect transport).Run ⟨p, s⟩ ls' d' ∧ MatchesTransfers effect transport d d' ∧
        (transferWorld ι effect transport).Run d' ms' e' ∧ MatchesTransfers effect transport e e' ∧
        (∀ i a, e.threads i = .done a → e'.threads i = .done a) ∧
        ((∀ i, ∃ a, e.threads i = .done a) → e.shared.inner = e'.shared)) ∧
    (∀ ls' d', (transferWorld ι effect transport).Run ⟨p, s⟩ ls' d' → ∃ ls,
      (iokitWorld ι effect).Run (sharing transport p s) ls (sharing transport d'.threads d'.shared)) := by
  refine ⟨fun d e ls ms hfirst hrest => ?_, fun ls' d' hrun => exists_calls hrun⟩
  obtain ⟨ls', d', hrun, hd⟩ := exists_transfers h Mutex.matches_start hfirst
  obtain ⟨ms', e', hrun', he⟩ := exists_transfers h hd hrest
  exact ⟨ls', d', ms', e', hrun, hd, hrun', he, fun i a => he.done, he.shared⟩

end Runs
end Transport

abbrev Payloads : Type := UInt8 × UInt8 → List UInt8

def kioUsbPipeStalled : Int32 := -0x1fff_bfb1

def Setup.pair (setup : Setup) : UInt8 × UInt8 := (setup.entity, setup.selector)

/-- A camera that keeps the payloads of the controls it knows, and stalls the pipe on a request for any other. -/
inductive Keeping (known : List (UInt8 × UInt8)) : (op : IokitOp) → Payloads → op.Reply → Payloads → Prop
  | set {n : ℕ} {dev : UInt64} {req : IOUSBDevRequest n} {s : Payloads}
      (direction : (Setup.of req).direction = .hostToDevice) (mapped : (Setup.of req).pair ∈ known) :
      Keeping known (.deviceRequest dev n req) s (kernSuccess, req)
        (Function.update s (Setup.of req).pair req.pData.toList)
  | get {n : ℕ} {dev : UInt64} {req : IOUSBDevRequest n} {data : Bytes n} {s : Payloads}
      (direction : (Setup.of req).direction = .deviceToHost) (mapped : (Setup.of req).pair ∈ known)
      (whole : s (Setup.of req).pair = data.toList) :
      Keeping known (.deviceRequest dev n req) s
        (kernSuccess, { req with pData := data, wLenDone := req.wLength.toUInt32 }) s
  | stalled {n : ℕ} {dev : UInt64} {req : IOUSBDevRequest n} {s : Payloads} (unknown : (Setup.of req).pair ∉ known) :
      Keeping known (.deviceRequest dev n req) s (kioUsbPipeStalled, req) s
  | sleep {millis : ℕ} {s : Payloads} : Keeping known (.sleep millis) s () s

theorem keeping_sleepQuiet (known : List (UInt8 × UInt8)) : SleepQuiet (Keeping known) := by
  intro millis s s' h
  cases h
  exact ⟨rfl, fun t => .sleep⟩

theorem kern_ne_stalled : kioUsbPipeStalled ≠ kernSuccess := by decide

section Keeping
variable {known : List (UInt8 × UInt8)} {transport : TransportInner} {s : Payloads} {entity selector : UInt8}

theorem keeping_set {payload : List UInt8} (hlive : transport.dev ≠ 0) (hknown : (entity, selector) ∈ known)
    (h : payload.length < 65536) : Transfer (Keeping known) transport (.uvcSet entity selector payload) s (.ok ())
      (Function.update s (entity, selector) payload) := by
  obtain ⟨req, hreq⟩ : ∃ req, setRequest transport entity selector payload = .ok req := exists_buildRequest h
  obtain ⟨hsetup, hdata⟩ := buildRequest_reads hreq
  have hset : Keeping known (.deviceRequest transport.dev _ req) s (kernSuccess, req)
      (Function.update s (Setup.of req).pair req.pData.toList) :=
    .set (by rw [hsetup]) (by rw [hsetup]; exact hknown)
  rw [hsetup, hdata] at hset
  exact .set hreq hlive hset

theorem stalled_set {payload : List UInt8} (hlive : transport.dev ≠ 0) (hunknown : (entity, selector) ∉ known)
    (h : payload.length < 65536) :
    Transfer (Keeping known) transport (.uvcSet entity selector payload) s (setReply kioUsbPipeStalled) s := by
  obtain ⟨req, hreq⟩ : ∃ req, setRequest transport entity selector payload = .ok req := exists_buildRequest h
  exact .set hreq hlive (.stalled (by rw [(buildRequest_reads hreq).1]; exact hunknown))

end Keeping

/-- One thread sets the contrast, the other one the saturation. -/
def twoSetters : Bool → TransportProgram (Result Unit)
  | true => (Device.setContrast 40).run
  | false => (Device.setSaturation 60).run

/-- The camera knows the contrast only. -/
theorem transfers_at_once_twoSetters : ∃ ls d ls' d', ∃ e : Error,
    (iokitWorld Bool (Keeping [(3, 3)])).Run (sharing ⟨1, 0⟩ twoSetters fun _ => []) ls d ∧
      (transferWorld Bool (Keeping [(3, 3)]) ⟨1, 0⟩).Run ⟨twoSetters, fun _ => []⟩ ls' d' ∧
      d.threads true = .done (.ok ()) ∧ d.threads false = .done (.error e) ∧
      d'.threads true = .done (.ok ()) ∧ d'.threads false = .done (.error e) ∧
      d.shared.inner = Function.update (fun _ => []) (3, 3) [40, 0] ∧ d'.shared = d.shared.inner := by
  have hrun : (transferWorld Bool (Keeping [(3, 3)]) ⟨1, 0⟩).Run ⟨twoSetters, fun _ => []⟩
      [.thread false (.uvcSet 3 7 [60, 0]) (setReply kioUsbPipeStalled), .thread true (.uvcSet 3 3 [40, 0]) (.ok ())]
      ⟨Function.update (Function.update twoSetters false (.done (setReply kioUsbPipeStalled))) true (.done (.ok ())),
        Function.update (fun _ => []) (3, 3) [40, 0]⟩ :=
    .cons (.becomes rfl (stalled_set (by decide) (by decide) (by decide)) rfl)
      (.cons (.becomes rfl (keeping_set (by decide) (by decide) (by decide)) rfl) (.refl _))
  obtain ⟨hmatches, hcarried⟩ := transfers_at_once (keeping_sleepQuiet [(3, 3)]) twoSetters fun _ => []
  obtain ⟨ls, hcalls⟩ := hcarried _ _ hrun
  obtain ⟨ls₁, d₁, ms', d', hfirst, -, hrest, -, hdone, hshared⟩ := hmatches _ _ ls [] hcalls (.refl _)
  have hall : ∀ i, ∃ a, (sharing (σ := Payloads) ⟨1, 0⟩ (Function.update (Function.update twoSetters false
      (.done (setReply kioUsbPipeStalled))) true (.done (.ok ()))) (fun _ => [])).threads i = .done a := by
    intro i
    cases i
    · exact ⟨_, rfl⟩
    · exact ⟨_, rfl⟩
  exact ⟨ls, _, ls₁ ++ ms', d', _, hcalls, hfirst.trans hrest, rfl, rfl, hdone true _ rfl, hdone false _ rfl, rfl,
    (hshared hall).symm⟩

/-! ## Pan and tilt -/

def pairBytes (pair : Int32 × Int32) : List UInt8 := i32ToLe pair.1 ++ i32ToLe pair.2

def panTiltPair : UInt8 × UInt8 := (Uvc.cameraTerminal, Uvc.Ct.pantiltAbsolute)

def Setup.ReadsPair (setup : Setup) : Prop :=
  setup.direction = .deviceToHost ∧ setup.bRequest = UvcGet.cur.bRequest ∧ setup.pair = panTiltPair

section Pairs
variable {σ : Type} {effect : (op : IokitOp) → σ → op.Reply → σ → Prop} {transport : TransportInner}
  {kept : σ → List UInt8} {W : Int32 × Int32 → Prop} {failed : Prop}

section Runs
variable {ι : Type} [DecidableEq ι] {calls : ι → List PanTiltCall} {initial : Int32 × Int32} {s : σ}
  {d : IokitConfig ι σ fun _ => List (Option (Float32 × Float32))} {ls : List (IokitLabel ι)}

end Runs
end Pairs

/-- One thread turns the camera, the other one reads where it points and takes a sample. -/
def turning : Bool → List PanTiltCall
  | true => [.set 270000 0]
  | false => [.get, .sample]

def centred : Payloads := fun _ => pairBytes (0, 0)

end Libobsbot.Macos

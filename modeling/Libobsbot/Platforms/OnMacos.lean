import Libobsbot.Macos.Requests
import Libobsbot.Platforms.Transfers

/-! # Transfers on macOS

Where IOKit takes the requests of the transport to the camera and back, every transfer that a request can carry reaches
the camera and is told as it was answered.
-/

namespace Libobsbot.Platforms
open Foundations Macos
set_option autoImplicit false

section Carries
variable {σ τ : Type}

/-- A read, as a request comes back from it: with the bytes, or failed and as it was. -/
inductive Fetched {n : ℕ} (req : IOUSBDevRequest n) : Option (List UInt8) → Int32 × IOUSBDevRequest n → Prop
  | data {bytes : List UInt8} {done : IOUSBDevRequest n} (data : done.pData = req.pData.overwrite 0 bytes)
      (length : done.wLenDone.toNat = bytes.length) : Fetched req (some bytes) (kernSuccess, done)
  | failed {kr : Int32} {done : IOUSBDevRequest n} (failed : kr ≠ kernSuccess) (data : done.pData = req.pData) :
      Fetched req none (kr, done)

/-- IOKit takes a request on the transport's interface to the camera that `view` sees, by the fields of its setup
packet, and succeeds where the camera accepts it. -/
structure Carries (iokit : (op : IokitOp) → τ → op.Reply × τ) (transport : TransportInner) (view : τ → σ)
    (device : UvcDevice σ) : Prop where
  live : transport.dev ≠ 0
  set : ∀ {n : ℕ} (req : IOUSBDevRequest n) {entity selector : UInt8} (t : τ),
    Setup.of req = ⟨.hostToDevice, MacosTransport.setCur, entity, selector, transport.interfaceNumber, n⟩ →
      ((iokit (.deviceRequest transport.dev n req) t).1.1 = kernSuccess ↔
        (device.set entity selector req.pData.toList (view t)).1 = true) ∧
      view (iokit (.deviceRequest transport.dev n req) t).2 =
        (device.set entity selector req.pData.toList (view t)).2
  get : ∀ {n : ℕ} (req : IOUSBDevRequest n) {get : UvcGet} {entity selector : UInt8} (t : τ),
    Setup.of req = ⟨.deviceToHost, get.bRequest, entity, selector, transport.interfaceNumber, n⟩ →
      Fetched req (device.get get entity selector n (view t)).1 (iokit (.deviceRequest transport.dev n req) t).1 ∧
      view (iokit (.deviceRequest transport.dev n req) t).2 = (device.get get entity selector n (view t)).2
  sleep : ∀ millis t, view (iokit (.sleep millis) t).2 = view t

variable {iokit : (op : IokitOp) → τ → op.Reply × τ} {transport : TransportInner} {view : τ → σ} {device : UvcDevice σ}

/-- A transfer that fits into a request. -/
def Short : TransportOp → Prop
  | .uvcSet _ _ payload => payload.length < 65536
  | .uvcGet _ _ _ n _ => n < 65536
  | .sleep _ => True

/-- The answer to a transfer is what one request comes to. -/
theorem run_answer_of_transfer {op : TransportOp} {t t' : τ} {r : op.Reply}
    (h : Transfer (Mutex.answering iokit) transport op t r t') :
    (MacosTransport.answer transport op).body.run iokit t = (.ok r, t') :=
  Mutex.atOnce_answering.mp (atOnce_answer.mpr h)

theorem conveyed_set (h : Carries iokit transport view device) {entity selector : UInt8} {payload : List UInt8}
    (hshort : payload.length < 65536) (t : τ) : ∃ r t',
      (MacosTransport.answer transport (.uvcSet entity selector payload)).body.run iokit t = (.ok r, t') ∧
        Conveyed device (.uvcSet entity selector payload) (view t) r (view t') := by
  obtain ⟨req, hreq⟩ : ∃ req, setRequest transport entity selector payload = .ok req := exists_buildRequest hshort
  obtain ⟨hsetup, hdata⟩ := buildRequest_reads hreq
  obtain ⟨haccepted, hview⟩ := h.set req t hsetup
  rw [hdata] at haccepted hview
  refine ⟨_, _, run_answer_of_transfer (.set hreq h.live rfl), ?_⟩
  rw [hview, setReply]
  by_cases hkr : (iokit (.deviceRequest transport.dev _ req) t).1.1 = kernSuccess
  · rw [if_neg (not_not_intro hkr)]
    exact .accepted (Prod.ext (haccepted.mp hkr) rfl)
  · rw [if_pos hkr]
    exact .refused _ (Prod.ext (Bool.eq_false_iff.mpr fun hset => hkr (haccepted.mpr hset)) rfl)

theorem conveyed_get (h : Carries iokit transport view device) {req : UvcGet} {entity selector : UInt8} {n : ℕ}
    {out : Bytes n} (hshort : n < 65536) (t : τ) : ∃ r t',
      (MacosTransport.answer transport (.uvcGet req entity selector n out)).body.run iokit t = (.ok r, t') ∧
        Conveyed device (.uvcGet req entity selector n out) (view t) r (view t') := by
  obtain ⟨devReq, hreq⟩ : ∃ devReq, getRequest transport req entity selector out = .ok devReq :=
    exists_buildRequest hshort
  obtain ⟨hsetup, hdata⟩ := buildRequest_reads hreq
  obtain ⟨hfetched, hview⟩ := h.get devReq t hsetup
  rcases hreply : iokit (.deviceRequest transport.dev n devReq) t with ⟨⟨kr, done⟩, t'⟩
  rw [hreply] at hfetched hview
  refine ⟨_, t', run_answer_of_transfer (.get hreq h.live hreply), ?_⟩
  rcases hgot : device.get req entity selector n (view t) with ⟨got, s⟩
  rw [hgot] at hfetched hview
  dsimp only at hfetched hview
  subst hview
  cases hfetched with
  | data data length =>
    rw [getReply, data, hdata, length, if_neg (not_not_intro rfl)]
    exact .read hgot
  | failed failed data =>
    rw [getReply, data, hdata, if_pos failed]
    exact .unread _ hgot

theorem conveyed_onMacos (h : Carries iokit transport view device) {op : TransportOp} (hshort : Short op) (t : τ) :
    ∃ r t', (MacosTransport.answer transport op).body.run iokit t = (.ok r, t') ∧
      Conveyed device op (view t) r (view t') := by
  cases op with
  | uvcSet entity selector payload => exact conveyed_set h hshort t
  | uvcGet req entity selector n out => exact conveyed_get h hshort t
  | sleep millis =>
    refine ⟨(), (iokit (.sleep millis) t).2, rfl, ?_⟩
    rw [h.sleep]
    exact .sleep

/-- The calls into IOKit of one thread, the lock left out. -/
def onMacos {α : Type} (transport : TransportInner) (p : TransportProgram α) : IokitProgram α :=
  p.translate fun op => (MacosTransport.answer transport op).body

end Carries
end Libobsbot.Platforms

import Libobsbot.Foundations.Shared
import Libobsbot.Source.Handle
import Libobsbot.Source.Macos

/-! # The end of a macOS handle

Any number of clients share the handle, and the handle and its poller share the transport, whose drop releases the
device interface. The last client to let go of the handle drops it, which joins the poller first, so no request is made
on an interface that has been released, and the interface is released once.
-/

namespace Libobsbot.Macos
open Foundations
open Foundations.Program (Uses Steps Exchange)
set_option autoImplicit false

/-- What the threads of a handle do: their own matters, and calls into IOKit. -/
inductive HandleOp where
  | poller (op : PollerOp)
  | iokit (op : MutexOp IokitOp)

abbrev HandleOp.Reply : HandleOp → Type
  | .poller op => op.Reply
  | .iokit op => MutexOp.Reply IokitOp.Reply op

abbrev HandleProgram (α : Type) : Type := Program HandleOp HandleOp.Reply α

def calling {α : Type} (p : Mutex.Prog IokitOp.Reply α) : HandleProgram α :=
  p.translate fun op => .perform (.iokit op) .done

/-- A transfer is carried out by IOKit. -/
def onTransportInner (transport : TransportInner) : (op : PollerOp) → HandleProgram op.Reply
  | .transport op => calling (MacosTransport.answer transport op).program
  | .loadStop => .perform (.poller .loadStop) .done
  | .loadCadence => .perform (.poller .loadCadence) .done
  | .storeCadence periodMs => .perform (.poller (.storeCadence periodMs)) .done
  | .send event => .perform (.poller (.send event)) .done
  | .tick slept target => .perform (.poller (.tick slept target)) .done

def onHandle {α : Type} (transport : TransportInner) (p : PollerProgram α) : HandleProgram α :=
  p.translate (onTransportInner transport)

/-- What dropping the last `Arc` of the transport does. -/
def releaseTransport (transport : TransportInner) : HandleProgram Unit := calling (Mutex.working transport.drop)

abbrev HandleLabel (ι : Type) : Type := Shared.SharedLabel ι HandleOp.Reply

/-- An open handle: clients that hold it as long as they use it, and its poller. -/
def openHandle {ι : Type} [Fintype ι] {α : ι → Type} {σ : Type} (transport : TransportInner) (serial : String)
    (rounds : ℕ) (clients : (i : ι) → PollerProgram (α i)) (s : σ) : Shared.SharedConfig HandleOp.Reply α σ :=
  Shared.begun (fun i => onHandle transport (clients i)) (onHandle transport (pollLoop serial rounds))
    (releaseTransport transport) s

def iokitOf {ι : Type} : HandleLabel ι → Option (MutexOp IokitOp)
  | .thread _ (.own (.work (.iokit op))) _ => some op
  | _ => none

def isRelease : HandleOp → Bool
  | .iokit (.own (.deviceRelease _)) => true
  | _ => false

/-! ## What the threads use -/

def NoRelease : IokitOp → Prop
  | .deviceRelease _ => False
  | _ => True

theorem uses_calling {α : Type} {p : Mutex.Prog IokitOp.Reply α}
    (h : Uses (fun op => isRelease (.iokit op) = false) p) : Uses (fun op => isRelease op = false) (calling p) :=
  Program.uses_translate (fun _ hop => ⟨hop, fun _ => trivial⟩) h

theorem uses_working {α : Type} {p : IokitProgram α} (h : Uses NoRelease p) :
    Uses (fun op => isRelease (.iokit op) = false) (Mutex.working p) := by
  refine Program.uses_translate (fun op hop => ⟨?_, fun _ => trivial⟩) h
  cases op with
  | deviceRelease dev => exact hop.elim
  | _ => rfl

theorem uses_deviceRequest {n : ℕ} (dev : UInt64) (req : IOUSBDevRequest n) :
    Uses NoRelease (deviceRequest dev req).run := by
  unfold deviceRequest
  split
  · trivial
  · exact ⟨trivial, fun _ => trivial⟩

theorem uses_body (transport : TransportInner) (op : TransportOp) :
    Uses NoRelease (MacosTransport.answer transport op).body := by
  cases op with
  | sleep millis => exact ⟨trivial, fun _ => trivial⟩
  | uvcSet entity selector payload =>
    refine Program.uses_exceptBind trivial fun req => ?_
    refine Program.uses_exceptBind (uses_deviceRequest _ _) fun ⟨kr, req⟩ => ?_
    dsimp only
    split <;> trivial
  | uvcGet req entity selector n out =>
    show Uses NoRelease (MacosTransport.uvcGet transport req entity selector out).body
    unfold MacosTransport.uvcGet Mutex.Carried.body
    dsimp only
    split
    · trivial
    · refine Program.uses_bind (uses_deviceRequest _ _) fun r => ?_
      cases r with
      | error e => trivial
      | ok r =>
        obtain ⟨kr, req⟩ := r
        dsimp only
        split <;> trivial

theorem uses_transfer (transport : TransportInner) (op : TransportOp) :
    Uses (fun op => isRelease (.iokit op) = false) (MacosTransport.answer transport op).program := by
  have hbody := uses_body transport op
  cases hcarried : MacosTransport.answer transport op with
  | critical body =>
    rw [hcarried] at hbody
    refine ⟨rfl, fun _ => Program.uses_bind (uses_working hbody) fun _ => ⟨rfl, fun _ => trivial⟩⟩
  | plain op' result =>
    rw [hcarried] at hbody
    refine ⟨?_, fun _ => trivial⟩
    cases op' with
    | deviceRelease dev => exact hbody.1.elim
    | _ => rfl

theorem uses_onHandle {α : Type} (transport : TransportInner) (p : PollerProgram α) :
    Uses (fun op => isRelease op = false) (onHandle transport p) := by
  refine Program.uses_translate (fun op _ => ?_) (Program.uses_of_forall (fun _ => trivial) p)
  cases op with
  | transport op => exact uses_calling (uses_transfer transport op)
  | _ => exact ⟨rfl, fun _ => trivial⟩

theorem releaseTransport_eq (transport : TransportInner) : releaseTransport transport =
    if transport.dev = 0 then .done () else .perform (.iokit (.own (.deviceRelease transport.dev))) .done := by
  unfold releaseTransport TransportInner.drop
  split <;> rfl

theorem uses_releaseTransport (transport : TransportInner) :
    Uses (fun op => isRelease op = true) (releaseTransport transport) := by
  rw [releaseTransport_eq]
  split
  · trivial
  · exact ⟨rfl, fun _ => trivial⟩

/-- The releases, as far as they have come. -/
theorem steps_releaseTransport {transport : TransportInner} {t : List (Exchange HandleOp HandleOp.Reply)}
    {q : HandleProgram Unit} (h : Steps (releaseTransport transport) t q) : t = [] ∨
      transport.dev ≠ 0 ∧ t = [⟨.iokit (.own (.deviceRelease transport.dev)), ()⟩] := by
  rw [releaseTransport_eq] at h
  split at h
  · exact .inl (Program.steps_done.mp h).1
  · rename_i hdev
    obtain ⟨rfl, -⟩ | ⟨⟨⟩, u, rfl, hu⟩ := Program.steps_perform.mp h
    · exact .inl rfl
    · obtain ⟨rfl, -⟩ := Program.steps_done.mp hu
      exact .inr ⟨hdev, rfl⟩

theorem steps_releaseTransport_done {transport : TransportInner} {t : List (Exchange HandleOp HandleOp.Reply)}
    (h : Steps (releaseTransport transport) t (.done ())) (hdev : transport.dev ≠ 0) :
    t = [⟨.iokit (.own (.deviceRelease transport.dev)), ()⟩] := by
  obtain rfl | ⟨-, ht⟩ := steps_releaseTransport h
  · rw [releaseTransport_eq, if_neg hdev] at h
    cases h
  · exact ht

/-! ## Runs -/

section Runs
variable {ι : Type}

/-- The releases of a device interface. -/
def deviceReleases (ls : List (HandleLabel ι)) : List (Exchange HandleOp HandleOp.Reply) := Shared.released isRelease ls

theorem eq_thread_of_iokitOf {l : HandleLabel ι} {op : MutexOp IokitOp} (h : iokitOf l = some op) :
    ∃ i r, l = .thread i (.own (.work (.iokit op))) r := by
  cases l with
  | environment => cases h
  | thread i op' r =>
    cases op' with
    | own op' =>
      cases op' with
      | dropHandle => cases h
      | dropShare => cases h
      | work op' =>
        cases op' with
        | poller op' => cases h
        | iokit op' =>
          cases h
          exact ⟨i, r, rfl⟩
    | _ => cases h

theorem iokitOf_eq_none {l : HandleLabel ι} (honly : Shared.OnlyReleases isRelease l)
    (hnone : Shared.releaseOf isRelease l = none) : iokitOf l = none := by
  cases hl : iokitOf l with
  | none => rfl
  | some op =>
    obtain ⟨i, r, rfl⟩ := eq_thread_of_iokitOf hl
    have hrelease : isRelease (.iokit op) = true := honly
    rw [Shared.releaseOf, if_pos hrelease] at hnone
    cases hnone

variable [Fintype ι] [DecidableEq ι] {α : ι → Type} {σ : Type}
  {effect : Bool → Side ι → (op : HandleOp) → σ → op.Reply → σ → Prop} {environment : σ → σ → Prop}
  {transport : TransportInner} {serial : String} {rounds : ℕ} {clients : (i : ι) → PollerProgram (α i)} {s : σ}
  {d : Shared.SharedConfig HandleOp.Reply α σ} {ls : List (HandleLabel ι)}

/-- Whatever IOKit answers and however the clients, the poller and the drops are interleaved, a release is of the
transport's own interface and no thread calls IOKit after it; it comes when the poller and all clients but one are
done; and once they are all done it has happened once. -/
theorem requests_before_release
    (h : (Shared.world effect environment).Run (openHandle transport serial rounds clients s) ls d) :
    (∀ before l after dev, ls = before ++ l :: after → iokitOf l = some (.own (.deviceRelease dev)) →
      dev = transport.dev ∧ ∀ l' ∈ after, iokitOf l' = none) ∧
    (deviceReleases ls ≠ [] → d.threads .worker = .done () ∧
      ∃ i, ∀ j, j ≠ i → ∃ a, d.threads (.owner j) = .done a) ∧
    (Nonempty ι → (∀ i, ∃ a, d.threads (.owner i) = .done a) → transport.dev ≠ 0 →
      deviceReleases ls = [⟨.iokit (.own (.deviceRelease transport.dev)), ()⟩]) := by
  obtain ⟨⟨rest, hsteps⟩, hdone, halone, hafter⟩ := Shared.released_after_use
    (fun i => uses_onHandle transport (clients i)) (uses_onHandle transport (pollLoop serial rounds))
    (uses_releaseTransport transport) h
  have hreleased := steps_releaseTransport hsteps
  refine ⟨?_, fun hne => ?_, fun hclients hall hdev => steps_releaseTransport_done (hdone hclients hall) hdev⟩
  · rintro before l after dev rfl hl
    obtain ⟨i, r, rfl⟩ := eq_thread_of_iokitOf hl
    have hsplit : Shared.released isRelease (before ++
        (.thread i (.own (.work (.iokit (.own (.deviceRelease dev))))) r : HandleLabel ι) :: after) =
        Shared.released isRelease before ++
          ⟨.iokit (.own (.deviceRelease dev)), r⟩ :: Shared.released isRelease after := by
      rw [Shared.released, List.filterMap_append]
      rfl
    rw [hsplit] at hreleased
    obtain hnil | ⟨-, hall⟩ := hreleased
    · simp at hnil
    -- the release is one call, so it is this one, and there is none before or after it
    have hlength := congrArg List.length hall
    simp only [List.length_append, List.length_cons, List.length_nil] at hlength
    have hbefore : Shared.released isRelease before = [] := List.eq_nil_of_length_eq_zero (by omega)
    have hrest : Shared.released isRelease after = [] := List.eq_nil_of_length_eq_zero (by omega)
    rw [hbefore, hrest] at hall
    cases hall
    refine ⟨rfl, fun l' hl' => ?_⟩
    exact iokitOf_eq_none (hafter before _ after rfl (by simp [Shared.releaseOf, isRelease]) l' hl')
      (List.filterMap_eq_nil_iff.mp hrest l' hl')
  · obtain ⟨i, hworker, hothers⟩ := halone hne
    exact ⟨hworker, i, hothers⟩

end Runs

/-! ## Two clients and a round of the poller -/

/-- One client sets the brightness, the other one only holds the handle. -/
def brightening : Bool → PollerProgram (Result Unit)
  | true => onTransport (Device.setBrightness (-30)).run
  | false => .done (.ok ())

/-- A request under the lock. -/
def requesting {n : ℕ} (i : Side Bool) (req : IOUSBDevRequest n) : List (HandleLabel Bool) :=
  [.thread i (.own (.work (.iokit .lock))) (),
    .thread i (.own (.work (.iokit (.own (.deviceRequest 1 n req))))) (kernSuccess, req),
    .thread i (.own (.work (.iokit .unlock))) ()]

def setting : IOUSBDevRequest 2 := ⟨0x21, 0x01, 0x0200, 0x0300, 2, MacosTransport.toVec [0xe2, 0xff], 0⟩

def reading (entity selector : UInt8) (n : ℕ) : IOUSBDevRequest n :=
  ⟨0xa1, 0x81, selector.toUInt16 <<< 8, entity.toUInt16 <<< 8, UInt16.ofNat n, Bytes.zeros n, 0⟩

/-- A sample of zeros. -/
def zeroSample : Status :=
  { Status.default with pan := normalisedPantilt 0, tilt := normalisedPantilt 0, zoom := (0 : UInt16).toFloat32 }

/-- The poller samples while one client writes; both clients let go, and the last one ends the handle. -/
def droppedLast : List (HandleLabel Bool) :=
  .thread .worker (.own (.work (.poller .loadStop))) false :: (requesting .worker (reading 3 2 2) ++
    (requesting (.owner true) setting ++ (.thread (.owner true) (.own .dropHandle) false ::
    (requesting .worker (reading 3 3 2) ++ (requesting .worker (reading 3 7 2) ++
    (requesting .worker (reading 1 13 8) ++ (requesting .worker (reading 1 11 2) ++
    [.thread .worker (.own (.work (.poller (.send (.status "" zeroSample))))) false,
      .thread (.owner false) (.own .dropHandle) true, .thread (.owner false) .setStop (),
      .thread .worker (.own .dropShare) false, .thread .worker .finish (), .thread (.owner false) .join (),
      .thread (.owner false) (.own .dropShare) true,
      .thread (.owner false) (.own (.work (.iokit (.own (.deviceRelease 1))))) ()])))))))

abbrev BrighteningConfig : Type := Shared.SharedConfig HandleOp.Reply (fun _ : Bool => Result Unit) Unit

def agreeable : World (Side Bool) (WorkerOp (SharedOp HandleOp)) (WorkerOp.Reply (SharedOp.Reply HandleOp.Reply))
    (WorkerState (SharedState Unit)) := Shared.world (fun _ _ _ _ _ _ => True) fun _ _ => False

theorem agreeable_work (i : Side Bool) (op : HandleOp) (r : op.Reply) (s : WorkerState (SharedState Unit)) :
    agreeable.perform i (.own (.work op)) s r s := .own (.work (t := s.inner.inner) trivial)

section Requesting
variable {n : ℕ} {c : BrighteningConfig} {i : Side Bool} {req : IOUSBDevRequest n}
  {next : Int32 × IOUSBDevRequest n → Shared.ThreadProg HandleOp.Reply (Side.Value (fun _ => Result Unit) i)}
  {rest : Unit → Shared.ThreadProg HandleOp.Reply (Side.Value (fun _ => Result Unit) i)}

theorem run_requesting (head : c.threads i = .perform (.own (.work (.iokit .lock))) fun _ =>
      .perform (.own (.work (.iokit (.own (.deviceRequest 1 n req))))) next)
    (hnext : next (kernSuccess, req) = .perform (.own (.work (.iokit .unlock))) rest) :
    agreeable.Run c (requesting i req) ⟨Function.update c.threads i (rest ()), c.shared⟩ := by
  have hrun : agreeable.Run c (requesting i req) _ :=
    .cons (.thread head (agreeable_work ..)) <|
      .cons (.becomes (Function.update_self ..) (agreeable_work ..) hnext) <|
      .cons (.becomes (Function.update_self ..) (agreeable_work ..) rfl) (.refl _)
  rwa [Function.update_idem, Function.update_idem] at hrun

end Requesting

theorem requests_before_release_dropped : ∃ d : BrighteningConfig,
    agreeable.Run (openHandle ⟨1, 0⟩ "" 1 brightening ()) droppedLast d ∧
      deviceReleases droppedLast = [⟨.iokit (.own (.deviceRelease 1)), ()⟩] := by
  obtain ⟨d, hrun, hd⟩ : ∃ d : BrighteningConfig,
      agreeable.Run (openHandle ⟨1, 0⟩ "" 1 brightening ()) droppedLast d ∧
        ∀ i, d.threads (.owner i) = .done (.ok ()) := by
    refine ⟨_, .cons (.becomes rfl (agreeable_work ..) rfl) <| (run_requesting rfl rfl).trans <|
      (run_requesting rfl rfl).trans <| .cons (.becomes rfl (.own (.dropHandle _)) rfl) <|
      (run_requesting rfl rfl).trans <| (run_requesting rfl rfl).trans <| (run_requesting rfl rfl).trans <|
      (run_requesting rfl rfl).trans <| .cons (.becomes rfl (agreeable_work ..) rfl) <|
      .cons (.becomes rfl (.own (.dropHandle _)) rfl) <| .cons (.becomes rfl (.setStop _) rfl) <|
      .cons (.becomes rfl (.own (.dropShare _)) rfl) <| .cons (.becomes rfl (.finish _) rfl) <|
      .cons (.becomes rfl (.join rfl) rfl) <| .cons (.becomes rfl (.own (.dropShare _)) rfl) <|
      .cons (.becomes rfl (agreeable_work ..) rfl) (.refl _), fun i => ?_⟩
    cases i <;> rfl
  exact ⟨d, hrun, (requests_before_release hrun).2.2 inferInstance (fun i => ⟨_, hd i⟩) (by decide)⟩

end Libobsbot.Macos

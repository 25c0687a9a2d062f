import Libobsbot.Source.Macos

/-! # Transfers as control requests

`build_request` packs entity and selector into the words of a setup packet, from which a camera takes them again. Under
the lock of the handle a transfer is one such request, or none where it fails before that: `Transfer`, for any IOKit.
-/

namespace Libobsbot.Macos
open Foundations
set_option autoImplicit false

/-! ## Packing -/

/-- Two bytes in a word of a setup packet. -/
def word (hi lo : UInt8) : UInt16 := (hi.toUInt16 <<< 8) ||| lo.toUInt16

def highByte (w : UInt16) : UInt8 := (w >>> 8).toUInt8

def lowByte (w : UInt16) : UInt8 := w.toUInt8

theorem highByte_word (hi lo : UInt8) : highByte (word hi lo) = hi := by
  apply UInt8.toBitVec_inj.mp
  ext k hk
  simp [highByte, word]
  grind

theorem lowByte_word (hi lo : UInt8) : lowByte (word hi lo) = lo := by
  apply UInt8.toBitVec_inj.mp
  ext k hk
  simp [lowByte, word]

theorem highByte_shift (hi : UInt8) : highByte (hi.toUInt16 <<< 8) = hi := by
  apply UInt8.toBitVec_inj.mp
  ext k hk
  simp [highByte]
  grind

/-- The fields of the packet, as the camera reads them. -/
structure Setup where
  direction : UvcRequestDirection
  bRequest : UInt8
  entity : UInt8
  selector : UInt8
  interfaceNumber : UInt8
  length : ℕ
  deriving DecidableEq

def Setup.of {n : ℕ} (req : IOUSBDevRequest n) : Setup where
  direction := if req.bmRequestType = 0x21 then .hostToDevice else .deviceToHost
  bRequest := req.bRequest
  entity := highByte req.wIndex
  selector := highByte req.wValue
  interfaceNumber := lowByte req.wIndex
  length := req.wLength.toNat

section Packing
variable {n : ℕ} {direction : UvcRequestDirection} {bRequest entity selector interfaceNumber : UInt8} {data : Bytes n}

theorem exists_buildRequest (h : n < 65536) :
    ∃ req, buildRequest direction bRequest entity selector interfaceNumber data = .ok req := ⟨_, if_neg (by omega)⟩

/-- What is built is read as what it was built from, around the caller's buffer. -/
theorem buildRequest_reads {req : IOUSBDevRequest n}
    (h : buildRequest direction bRequest entity selector interfaceNumber data = .ok req) :
    Setup.of req = ⟨direction, bRequest, entity, selector, interfaceNumber, n⟩ ∧ req.pData = data := by
  unfold buildRequest at h
  split at h
  · cases h
  cases h
  have hlength : (UInt16.ofNat n).toNat = n := by
    rw [UInt16.toNat_ofNat']
    omega
  have hindex : (entity.toUInt16 <<< 8) ||| interfaceNumber.toUInt16 = word entity interfaceNumber := rfl
  refine ⟨?_, rfl⟩
  simp only [Setup.of, hindex, highByte_word, lowByte_word, highByte_shift, hlength]
  cases direction <;> simp

end Packing

/-! ## One request -/

section Transfers
variable {σ : Type}

def nullDevice : Error := .usb "macos: device interface pointer is null"

def setRequest (self : TransportInner) (entity selector : UInt8) (payload : List UInt8) :
    Result (IOUSBDevRequest payload.length) :=
  buildRequest .hostToDevice MacosTransport.setCur entity selector self.interfaceNumber (MacosTransport.toVec payload)

def getRequest {n : ℕ} (self : TransportInner) (req : UvcGet) (entity selector : UInt8) (out : Bytes n) :
    Result (IOUSBDevRequest n) :=
  buildRequest .deviceToHost req.bRequest entity selector self.interfaceNumber out

def setReply (kr : Int32) : Result Unit :=
  if kr ≠ kernSuccess then .error (ioReturnError "DeviceRequest SET_CUR" kr) else .ok ()

/-- The buffer is handed back as the request left it, even where it failed. -/
def getReply {n : ℕ} (kr : Int32) (devReq : IOUSBDevRequest n) : Bytes n × Result ℕ :=
  (devReq.pData, if kr ≠ kernSuccess then .error (ioReturnError "DeviceRequest GET_*" kr)
    else .ok devReq.wLenDone.toNat)

/-- What a transfer comes to and does, `effect` being what IOKit's calls do. -/
inductive Transfer (effect : (op : IokitOp) → σ → op.Reply → σ → Prop) (self : TransportInner) :
    (op : TransportOp) → σ → op.Reply → σ → Prop
  | setUnbuilt {entity selector : UInt8} {payload : List UInt8} {e : Error}
      (h : setRequest self entity selector payload = .error e) (s : σ) :
      Transfer effect self (.uvcSet entity selector payload) s (.error e) s
  | setNull {entity selector : UInt8} {payload : List UInt8} {req : IOUSBDevRequest payload.length}
      (h : setRequest self entity selector payload = .ok req) (null : self.dev = 0) (s : σ) :
      Transfer effect self (.uvcSet entity selector payload) s (.error nullDevice) s
  | set {entity selector : UInt8} {payload : List UInt8} {req done : IOUSBDevRequest payload.length} {kr : Int32}
      {s s' : σ} (h : setRequest self entity selector payload = .ok req) (live : self.dev ≠ 0)
      (requested : effect (.deviceRequest self.dev _ req) s (kr, done) s') :
      Transfer effect self (.uvcSet entity selector payload) s (setReply kr) s'
  | getUnbuilt {req : UvcGet} {entity selector : UInt8} {n : ℕ} {out : Bytes n} {e : Error}
      (h : getRequest self req entity selector out = .error e) (s : σ) :
      Transfer effect self (.uvcGet req entity selector n out) s (out, .error e) s
  | getNull {req : UvcGet} {entity selector : UInt8} {n : ℕ} {out : Bytes n} {devReq : IOUSBDevRequest n}
      (h : getRequest self req entity selector out = .ok devReq) (null : self.dev = 0) (s : σ) :
      Transfer effect self (.uvcGet req entity selector n out) s (out, .error nullDevice) s
  | get {req : UvcGet} {entity selector : UInt8} {n : ℕ} {out : Bytes n} {devReq done : IOUSBDevRequest n} {kr : Int32}
      {s s' : σ} (h : getRequest self req entity selector out = .ok devReq) (live : self.dev ≠ 0)
      (requested : effect (.deviceRequest self.dev n devReq) s (kr, done) s') :
      Transfer effect self (.uvcGet req entity selector n out) s (getReply kr done) s'
  | sleep {millis : ℕ} {s s' : σ} (slept : effect (.sleep millis) s () s') :
      Transfer effect self (.sleep millis) s () s'

variable {effect : (op : IokitOp) → σ → op.Reply → σ → Prop} {self : TransportInner}

theorem uvcSet_unbuilt {entity selector : UInt8} {payload : List UInt8} {e : Error}
    (h : setRequest self entity selector payload = .error e) :
    MacosTransport.uvcSet self entity selector payload = .critical (.done (.error e)) := by
  have hbuild : buildRequest .hostToDevice MacosTransport.setCur entity selector self.interfaceNumber
      (MacosTransport.toVec payload) = .error e := h
  unfold MacosTransport.uvcSet
  dsimp only
  rw [hbuild]
  rfl

theorem uvcSet_built {entity selector : UInt8} {payload : List UInt8} {req : IOUSBDevRequest payload.length}
    (h : setRequest self entity selector payload = .ok req) : MacosTransport.uvcSet self entity selector payload =
      .critical (if self.dev = 0 then .done (.error nullDevice) else
        .perform (.deviceRequest self.dev _ req) fun answer => .done (setReply answer.1)) := by
  have hbuild : buildRequest .hostToDevice MacosTransport.setCur entity selector self.interfaceNumber
      (MacosTransport.toVec payload) = .ok req := h
  unfold MacosTransport.uvcSet deviceRequest
  dsimp only
  rw [hbuild]
  by_cases hnull : self.dev = 0
  · simp only [if_pos hnull]
    rfl
  · simp only [if_neg hnull]
    refine congrArg (fun next => Mutex.Carried.critical (.perform (IokitOp.deviceRequest self.dev _ req) next)) ?_
    funext answer
    have hlast : (if answer.1 ≠ kernSuccess then throw (ioReturnError "DeviceRequest SET_CUR" answer.1)
        else pure () : IokitM Unit).run = .done (setReply answer.1) := by
      unfold setReply
      split <;> rfl
    exact hlast

theorem uvcGet_unbuilt {req : UvcGet} {entity selector : UInt8} {n : ℕ} {out : Bytes n} {e : Error}
    (h : getRequest self req entity selector out = .error e) :
    MacosTransport.uvcGet self req entity selector out = .critical (.done (out, .error e)) := by
  unfold MacosTransport.uvcGet
  rw [← getRequest, h]
  rfl

theorem uvcGet_built {req : UvcGet} {entity selector : UInt8} {n : ℕ} {out : Bytes n} {devReq : IOUSBDevRequest n}
    (h : getRequest self req entity selector out = .ok devReq) :
    MacosTransport.uvcGet self req entity selector out =
      .critical (if self.dev = 0 then .done (out, .error nullDevice) else
        .perform (.deviceRequest self.dev n devReq) fun answer => .done (getReply answer.1 answer.2)) := by
  unfold MacosTransport.uvcGet deviceRequest
  rw [← getRequest, h]
  dsimp only
  by_cases hnull : self.dev = 0
  · rw [if_pos hnull, if_pos hnull]
    rfl
  · rw [if_neg hnull, if_neg hnull]
    refine congrArg (fun next => Mutex.Carried.critical (.perform (IokitOp.deviceRequest self.dev n devReq) next)) ?_
    funext answer
    have hlast : (if answer.1 ≠ kernSuccess then
        .done (answer.2.pData, .error (ioReturnError "DeviceRequest GET_*" answer.1))
        else .done (answer.2.pData, .ok answer.2.wLenDone.toNat) : IokitProgram (Bytes n × Result ℕ)) =
        .done (getReply answer.1 answer.2) := by
      unfold getReply
      split <;> rfl
    exact hlast

/-- A transfer at once is one request at most. -/
theorem atOnce_answer {op : TransportOp} {s s' : σ} {r : op.Reply} :
    Mutex.AtOnce effect s r s' (MacosTransport.answer self op) ↔ Transfer effect self op s r s' := by
  cases op with
  | uvcSet entity selector payload =>
    rw [MacosTransport.answer]
    cases hreq : setRequest self entity selector payload with
    | error e =>
      rw [uvcSet_unbuilt hreq, Mutex.atOnce_done]
      constructor
      · rintro ⟨rfl, rfl⟩
        exact .setUnbuilt hreq _
      · intro h
        cases h <;> simp_all
    | ok req =>
      rw [uvcSet_built hreq]
      by_cases hnull : self.dev = 0
      · rw [if_pos hnull, Mutex.atOnce_done]
        constructor
        · rintro ⟨rfl, rfl⟩
          exact .setNull hreq hnull _
        · intro h
          cases h <;> simp_all
      · rw [if_neg hnull, Mutex.atOnce_one]
        constructor
        · rintro ⟨⟨kr, done⟩, heffect, rfl⟩
          exact .set hreq hnull heffect
        · intro h
          cases h with
          | setUnbuilt h => cases hreq.symm.trans h
          | setNull h null => exact absurd null hnull
          | set h live requested =>
            cases hreq.symm.trans h
            exact ⟨_, requested, rfl⟩
  | uvcGet req entity selector n out =>
    rw [MacosTransport.answer]
    cases hreq : getRequest self req entity selector out with
    | error e =>
      rw [uvcGet_unbuilt hreq, Mutex.atOnce_done]
      constructor
      · rintro ⟨rfl, rfl⟩
        exact .getUnbuilt hreq _
      · intro h
        cases h <;> simp_all
    | ok devReq =>
      rw [uvcGet_built hreq]
      by_cases hnull : self.dev = 0
      · rw [if_pos hnull, Mutex.atOnce_done]
        constructor
        · rintro ⟨rfl, rfl⟩
          exact .getNull hreq hnull _
        · intro h
          cases h <;> simp_all
      · rw [if_neg hnull, Mutex.atOnce_one]
        constructor
        · rintro ⟨⟨kr, done⟩, heffect, rfl⟩
          exact .get hreq hnull heffect
        · intro h
          cases h with
          | getUnbuilt h => cases hreq.symm.trans h
          | getNull h null => exact absurd null hnull
          | get h live requested =>
            cases hreq.symm.trans h
            exact ⟨_, requested, rfl⟩
  | sleep millis =>
    constructor
    · rintro ⟨r', heffect, -⟩
      exact .sleep heffect
    · intro h
      cases h with
      | sleep slept => exact ⟨(), slept, rfl⟩

end Transfers

end Libobsbot.Macos

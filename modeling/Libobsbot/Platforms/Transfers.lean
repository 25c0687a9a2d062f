import Libobsbot.Ffi.Codes
import Libobsbot.Foundations.Relational

/-! # Transfers to one camera

A camera accepts a control transfer or refuses it, and each platform words a refusal in its own way. Replies that are
the same but for that wording take a program that passes errors on to the same end, and a function of the C interface
to the same code and memory.
-/

namespace Libobsbot.Platforms
open Foundations
open Foundations.Program (Akin Both Uses)
open FirstFailure (Passes RefusesOrPasses IsBadResponse)
open BadResponses (failureOf)
open Ffi.Raw Ffi.Sessions Ffi.Codes Integers Xu
open Ffi (mapError)
set_option autoImplicit false

/-! ## The camera -/

/-- Whether a write is accepted, and what a read returns, which is at most what was asked for; `none` where the camera
refuses. -/
structure UvcDevice (σ : Type) where
  set : UInt8 → UInt8 → List UInt8 → σ → Bool × σ
  get : UvcGet → UInt8 → UInt8 → ℕ → σ → Option (List UInt8) × σ
  get_length : ∀ req entity selector n s bytes, (get req entity selector n s).1 = some bytes → bytes.length ≤ n

section Device
variable {σ : Type} (device : UvcDevice σ)

/-- A transfer that reaches the camera, with what the transport tells of it. -/
inductive Conveyed : (op : TransportOp) → σ → op.Reply → σ → Prop
  | accepted {entity selector : UInt8} {payload : List UInt8} {s s' : σ}
      (done : device.set entity selector payload s = (true, s')) :
      Conveyed (.uvcSet entity selector payload) s (.ok ()) s'
  | refused {entity selector : UInt8} {payload : List UInt8} {s s' : σ} (text : String)
      (done : device.set entity selector payload s = (false, s')) :
      Conveyed (.uvcSet entity selector payload) s (.error (.usb text)) s'
  | read {req : UvcGet} {entity selector : UInt8} {n : ℕ} {out : Bytes n} {bytes : List UInt8} {s s' : σ}
      (done : device.get req entity selector n s = (some bytes, s')) :
      Conveyed (.uvcGet req entity selector n out) s (out.overwrite 0 bytes, .ok bytes.length) s'
  | unread {req : UvcGet} {entity selector : UInt8} {n : ℕ} {out : Bytes n} {s s' : σ} (text : String)
      (done : device.get req entity selector n s = (none, s')) :
      Conveyed (.uvcGet req entity selector n out) s (out, .error (.usb text)) s'
  | sleep {millis : ℕ} {s : σ} : Conveyed (.sleep millis) s () s

end Device

/-! ## The same but for the wording -/

inductive SameError : Error → Error → Prop
  | same (e : Error) : SameError e e
  | wording (text text' : String) : SameError (.usb text) (.usb text')

def SameReply : (op : TransportOp) → op.Reply → op.Reply → Prop
  | .uvcSet _ _ _, r, r' => Both Eq SameError r r'
  | .uvcGet _ _ _ _ _, r, r' => r.1 = r'.1 ∧ Both Eq SameError r.2 r'.2
  | .sleep _, _, _ => True

/-- One camera comes to one state, however it was reached. -/
theorem Conveyed.same {σ : Type} {device : UvcDevice σ} {op : TransportOp} {s s₁ s₂ : σ} {r₁ r₂ : op.Reply}
    (h₁ : Conveyed device op s r₁ s₁) (h₂ : Conveyed device op s r₂ s₂) : SameReply op r₁ r₂ ∧ s₁ = s₂ := by
  cases h₁ with
  | accepted done₁ =>
    cases h₂ with
    | accepted done₂ =>
      cases done₁.symm.trans done₂
      exact ⟨.ok rfl, rfl⟩
    | refused text done₂ => cases done₁.symm.trans done₂
  | refused text₁ done₁ =>
    cases h₂ with
    | accepted done₂ => cases done₁.symm.trans done₂
    | refused text₂ done₂ =>
      cases done₁.symm.trans done₂
      exact ⟨.error (.wording text₁ text₂), rfl⟩
  | read done₁ =>
    cases h₂ with
    | read done₂ =>
      cases done₁.symm.trans done₂
      exact ⟨⟨rfl, .ok rfl⟩, rfl⟩
    | unread text done₂ => cases done₁.symm.trans done₂
  | unread text₁ done₁ =>
    cases h₂ with
    | read done₂ => cases done₁.symm.trans done₂
    | unread text₂ done₂ =>
      cases done₁.symm.trans done₂
      exact ⟨⟨rfl, .error (.wording text₁ text₂)⟩, rfl⟩
  | sleep =>
    cases h₂
    exact ⟨trivial, rfl⟩

theorem SameError.code {e e' : Error} (h : SameError e e') : mapError e = mapError e' := by
  cases h <;> rfl

theorem failAlike_sameReply : FailFast.FailAlike SameReply SameError failureOf := by
  intro op r r' h
  cases op with
  | uvcSet entity selector payload =>
    obtain ⟨rfl⟩ | herror := h
    · exact .inl ⟨rfl, rfl⟩
    · exact .inr ⟨_, _, rfl, rfl, herror⟩
  | uvcGet req entity selector n out =>
    obtain ⟨buf, got⟩ := r
    obtain ⟨buf', got'⟩ := r'
    obtain ⟨hbuf, hgot⟩ := h
    dsimp only at hbuf hgot
    subst hbuf
    obtain ⟨rfl⟩ | herror := hgot
    · exact .inl ⟨rfl, rfl⟩
    · exact .inr ⟨_, _, rfl, rfl, herror⟩
  | sleep millis => exact .inl ⟨rfl, rfl⟩

/-! ## Programs that cannot tell -/

/-- The same replies but for the wording take it to the same value. -/
abbrev Blind {α : Type} (p : TransportProgram α) : Prop := Akin SameReply Eq p p

/-- The same, with an error up to the wording. -/
abbrev PassesOn {α : Type} (m : DeviceM α) : Prop := Akin SameReply (Both Eq SameError) m.run m.run

theorem passesOn_of_passes {α : Type} {m : DeviceM α} (h : Passes m) : PassesOn m :=
  h.akin failAlike_sameReply fun e _ => .same e

theorem passesOn_of_refusesOrPasses {m : DeviceM Unit} (h : RefusesOrPasses m) : PassesOn m := by
  obtain hrefuses | hpasses := h
  · rw [PassesOn, hrefuses]
    exact .done (.error (.same _))
  · exact passesOn_of_passes hpasses

theorem blind_done {α : Type} (a : α) : Blind (.done a) := .done rfl

/-- What comes of a result that hides the wording of its error. -/
theorem PassesOn.finish {α β : Type} {m : DeviceM α} {finish : Result α → TransportProgram β} (h : PassesOn m)
    (hok : ∀ a, Blind (finish (.ok a))) (herror : ∀ e e', SameError e e' → finish (.error e) = finish (.error e'))
    (hdone : ∀ e, Blind (finish (.error e))) : Blind (m.run >>= finish) := by
  refine h.bind fun r r' hr => ?_
  cases hr with
  | ok heq =>
    subst heq
    exact hok _
  | error hsame =>
    rw [herror _ _ hsame]
    exact hdone _

theorem blind_sampleInto {α : Type} {read : DeviceM α} {set : α → Status → Status} {snap : Status}
    (h : PassesOn read) : Blind (sampleInto read set snap) :=
  h.finish (fun _ => blind_done _) (fun _ _ _ => rfl) fun _ => blind_done _

/-- The poller's sample. -/
theorem blind_sampleStatus : Blind sampleStatus := by
  have hget {n : ℕ} (entity selector : UInt8) : PassesOn (uvcGet .cur entity selector (Bytes.zeros n)) :=
    passesOn_of_passes (FirstFailure.passes_uvcGet _ _ _ _)
  have hi16 (selector : UInt8) : PassesOn (readPuI16 selector) :=
    passesOn_of_passes (FirstFailure.passes_get_then fun _ => FailFast.failsFast_pure _)
  have hu16 (selector : UInt8) : PassesOn (readPuU16 selector) :=
    passesOn_of_passes (FirstFailure.passes_get_then fun _ => FailFast.failsFast_pure _)
  have hnext {f : Status → TransportProgram Status} {p : TransportProgram Status} (hp : Blind p)
      (hf : ∀ snap, Blind (f snap)) : Blind (p >>= f) := hp.bind fun snap _ heq => heq ▸ hf snap
  unfold sampleStatus
  refine hnext (blind_sampleInto (hi16 _)) fun _ => hnext (blind_sampleInto (hu16 _)) fun _ => ?_
  refine hnext (blind_sampleInto (hu16 _)) fun _ => hnext (blind_sampleInto (hget _ _)) fun _ => ?_
  exact blind_sampleInto (hget _ _)

/-! ## The C interface -/

section Functions
variable {Location α β : Type} {handle : Option (Device Location)} {m : CMemory}

theorem blind_leaving {p : TransportProgram Int32} (h : Blind p) : Blind (leaving m p) :=
  h.bind fun code _ heq => heq ▸ blind_done (code, m)

theorem blind_withDevice {f : Device Location → DeviceM Unit} (h : ∀ device, PassesOn (f device)) :
    Blind (withDevice handle f) := by
  cases handle with
  | none => exact blind_done _
  | some device =>
    exact (h device).finish (fun _ => blind_done _) (fun _ _ he => congrArg Program.done he.code) fun _ => blind_done _

theorem blind_withDecoded {decoded : Option α} {f : α → DeviceM Unit} (h : ∀ a, PassesOn (f a)) :
    Blind (withDecoded handle decoded f) := by
  cases decoded with
  | none => exact blind_done _
  | some a => exact blind_withDevice fun _ => h a

/-- A read and what is written of it. -/
theorem blind_delivered {read : DeviceM α} {write : α → Int32 × CMemory}
    {finish : Result α → TransportProgram (Int32 × CMemory)} (h : PassesOn read)
    (hok : ∀ a, finish (.ok a) = .done (write a)) (herror : ∀ e, finish (.error e) = .done (mapError e, m)) :
    Blind (read.run >>= finish) := by
  refine h.finish (fun a => ?_) (fun e e' he => ?_) fun e => ?_
  · rw [hok]
    exact blind_done _
  · rw [herror, herror, he.code]
  · rw [herror]
    exact blind_done _

theorem blind_readInto {encode : α → List UInt8} {out : ℕ} {f : DeviceM α} (h : PassesOn f) :
    Blind (readInto handle encode out f m) := by
  unfold readInto
  split
  · exact blind_done _
  · exact blind_delivered h (fun _ => rfl) fun _ => rfl

theorem blind_readPairInto {encodeFst : α → List UInt8} {encodeSnd : β → List UInt8} {outFst outSnd : ℕ}
    {f : DeviceM (α × β)} (h : PassesOn f) : Blind (readPairInto handle encodeFst encodeSnd outFst outSnd f m) := by
  unfold readPairInto
  split
  · exact blind_done _
  · exact blind_delivered h (fun _ => rfl) fun _ => rfl

theorem blind_copyStringOut {outBuf bufLen : ℕ} {f : Device Location → DeviceM String}
    (h : ∀ device, PassesOn (f device)) : Blind (copyStringOut handle outBuf bufLen f m) := by
  unfold copyStringOut
  cases handle with
  | none => exact blind_done _
  | some device =>
    dsimp only
    split
    · exact blind_done _
    · refine (h device).finish (fun s => ?_) (fun _ _ he => congrArg (fun code => Program.done (code, m)) he.code)
        fun _ => blind_done _
      dsimp only
      split
      · exact blind_done _
      · exact blind_done _

theorem blind_setMode (setter : ModeSetter) (code : ModeCode setter) : Blind (setMode handle setter code) := by
  have hmode : ∀ arg, PassesOn (setter.call arg) :=
    fun arg => passesOn_of_refusesOrPasses (FirstFailure.setMode_refusesOrPasses setter arg)
  cases setter with
  | wdr | fov | mediaMode | autoFraming | aiMode | bgMode | bgColor | maskLevel => exact blind_withDecoded hmode
  | faceAe | audioAgc | flipHorizontal | portrait | led | bgEnable | disableSleepWithoutStream | suspendTime
  | microphoneDuringSleep | buttonMode => exact blind_withDevice fun _ => hmode _

theorem blind_call (call : Ffi.Sessions.Call) : Blind (program handle m call) := by
  have hset (entity selector : UInt8) (payload : List UInt8) : PassesOn (uvcSet entity selector payload) :=
    passesOn_of_passes (FirstFailure.passes_uvcSet _ _ _)
  have hread (read : ShortReads.ControlRead) : PassesOn read.program :=
    passesOn_of_passes (@FirstFailure.passes_read Location (.control read))
  cases call with
  | setInteger control value =>
    have hcall : setInteger handle control value = withDevice handle fun _ => control.set value := by
      cases control <;> rfl
    rw [program, hcall]
    exact blind_leaving (blind_withDevice fun _ =>
      passesOn_of_refusesOrPasses (FirstFailure.setInteger_refusesOrPasses control value))
  | setAntiFlicker mode | setAeMode mode => exact blind_leaving (blind_withDecoded fun _ => hset _ _ _)
  | setAutoFocus on => exact blind_leaving (blind_withDevice fun _ => hset _ _ _)
  | setAeLock locked => exact blind_leaving (blind_withDevice fun _ => hset _ _ _)
  | setExposureTime value => exact blind_leaving (blind_withDevice fun _ => hset _ _ _)
  | setPanTilt pan tilt =>
    exact blind_leaving (blind_withDevice fun _ =>
      passesOn_of_refusesOrPasses (FirstFailure.setPanTilt_refusesOrPasses pan tilt))
  | setZoom value | setFocus value =>
    exact blind_leaving (blind_withDevice fun _ =>
      passesOn_of_refusesOrPasses (FirstFailure.ctSetF32_refusesOrPasses _ value))
  | setWhiteBalance mode kelvin =>
    exact blind_leaving (blind_withDecoded fun wb => passesOn_of_passes (FirstFailure.passes_setWhiteBalance wb _))
  | setMode setter code => exact blind_leaving (blind_setMode setter code)
  | integer control out =>
    have hget : readInteger handle control out m = readInt handle out control.get m := by cases control <;> rfl
    rw [program, hget, control.get_eq]
    exact blind_readInto (passesOn_of_passes (FirstFailure.passes_get_then fun _ => FailFast.failsFast_pure _))
  | antiFlicker out => exact blind_readInto (hread .antiFlicker)
  | autoFocus out => exact blind_readInto (hread .autoFocus)
  | aeMode out => exact blind_readInto (hread .aeMode)
  | exposureTime out => exact blind_readInto (hread .exposureTime)
  | zoom out => exact blind_readInto (hread .zoom)
  | focus out => exact blind_readInto (hread .focus)
  | panTilt outPan outTilt => exact blind_readPairInto (hread .panTilt)
  | whiteBalance outMode outKelvin => exact blind_readPairInto (hread .whiteBalance)
  | wdr out => exact blind_readInto (hread .wdr)
  | faceAe out => exact blind_readInto (hread .faceAe)
  | aiMode out => exact blind_readInto (hread .aiMode)

theorem blind_function (f : CFunction) : Blind (run handle m f) := by
  cases f with
  | call call => exact blind_call call
  | setFaceFocus on =>
    exact blind_leaving (blind_withDevice fun device =>
      passesOn_of_passes (FirstFailure.passes_setFaceFocus device _))
  | firmware outBuf bufLen =>
    exact blind_copyStringOut fun device => passesOn_of_passes (FirstFailure.passes_read (.firmwareFromCamera device))
  | serial outBuf bufLen =>
    exact blind_copyStringOut fun device => passesOn_of_passes (FirstFailure.passes_read (.serialFromCamera device))

end Functions

end Libobsbot.Platforms

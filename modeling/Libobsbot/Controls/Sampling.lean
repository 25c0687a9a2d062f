import Libobsbot.Controls.ReportedBytes
import Libobsbot.Poller.StatusEvents
import Libobsbot.Rpc.PollLoops

/-! # The sample and the getters

The poller's sample reads five controls with functions of its own. Where a control reads the same at any time, each
field of the sample is what the getter of that control returns, or its default; no read is in another's way.
-/

namespace Libobsbot.Sampling
open Foundations
open Foundations.Program (Uses Steps Exchange CrashFree)
set_option autoImplicit false

section Machine
variable {σ α : Type}

/-- What answers the transport's operations. -/
abbrev Transport (σ : Type) : Type := (op : TransportOp) → σ → op.Reply × σ

/-- The answer to a read of the Camera Terminal or the Processing Unit is fixed: any bytes, however few, or an error. -/
def FixedReads (answer : Transport σ) : Prop :=
  ∀ op, Poller.ReadsControl op → ∀ s s', (answer op s).1 = (answer op s').1

/-- Whenever it is called, `m` comes to `r`. -/
def ComesTo (answer : Transport σ) (m : DeviceM α) (r : Result α) : Prop :=
  ∀ s, ∃ s', Program.run answer m.run s = (.ok r, s')

/-- `unwrap_or`. -/
def orDefault (r : Result α) (default : α) : α := r.toOption.getD default

variable {answer : Transport σ}

theorem comesTo_of_uses (hfixed : FixedReads answer) {m : DeviceM α} (huses : Uses Poller.ReadsControl m.run)
    (hfree : CrashFree m.run) (s : σ) : ∃ r, ComesTo answer m r := by
  obtain ⟨r, s', hrun⟩ := hfree.run answer s
  refine ⟨r, fun s₁ => ⟨_, Prod.ext ?_ rfl⟩⟩
  rw [huses.run_congr hfixed s₁ s, hrun]

/-- A read of one control: one GET and what is made of it. -/
theorem comesTo_get (hfixed : FixedReads answer) {n : ℕ} {entity selector : UInt8} {out : Bytes n}
    (hentity : entity = Uvc.cameraTerminal ∨ entity = Uvc.processingUnit) (f : ℕ × Bytes n → α) (s : σ) :
    ∃ r, ComesTo answer (uvcGet .cur entity selector out >>= fun got => return f got) r := by
  have huses : Uses Poller.ReadsControl
      (uvcGet .cur entity selector out >>= fun got => (return f got : DeviceM α)).run :=
    Program.uses_exceptBind (Poller.readsControl_uvcGet hentity) fun _ => trivial
  refine comesTo_of_uses hfixed huses ?_ s
  rw [ExceptT.run_bind]
  rintro ⟨buf, got⟩
  cases got <;> trivial

theorem run_sampleInto {read : DeviceM α} {r : Result α} (h : ComesTo answer read r) (set : α → Status → Status)
    (snap : Status) (s : σ) : ∃ s', Program.run answer (sampleInto read set snap) s =
      (.ok (r.toOption.elim snap fun v => set v snap), s') := by
  obtain ⟨s', hrun⟩ := h s
  refine ⟨s', ?_⟩
  unfold sampleInto
  rw [Program.run_bind, hrun]
  cases r <;> rfl

theorem run_unwrapOr {m : DeviceM α} {r : Result α} {s s' : σ} (h : Program.run answer m.run s = (.ok r, s'))
    (default : α) : Program.run answer (unwrapOr m default) s = (.ok (orDefault r default), s') := by
  unfold unwrapOr
  rw [Program.run_bind, h]
  cases r <;> rfl

end Machine

/-! ## The sample -/

section Sample
variable {σ : Type} {answer : Transport σ}

/-- The five results as a snapshot. -/
def sampled (brightness contrast saturation : Result Int32) (panTilt : Result (Float32 × Float32))
    (zoom : Result Float32) : Status where
  firmware := ""
  serial := ""
  brightness := orDefault brightness 0
  contrast := orDefault contrast 0
  saturation := orDefault saturation 0
  zoom := orDefault zoom 0
  pan := (orDefault panTilt (0, 0)).1
  tilt := (orDefault panTilt (0, 0)).2

theorem run_sampleStatus {brightness contrast saturation : Result Int32} {panTilt : Result (Float32 × Float32)}
    {zoom : Result Float32} (hbrightness : ComesTo answer Device.brightness brightness)
    (hcontrast : ComesTo answer Device.contrast contrast) (hsaturation : ComesTo answer Device.saturation saturation)
    (hpanTilt : ComesTo answer Device.panTilt panTilt) (hzoom : ComesTo answer Device.zoom zoom) (s : σ) :
    ∃ s', Program.run answer sampleStatus s = (.ok (sampled brightness contrast saturation panTilt zoom), s') := by
  rw [ShortReads.sampleStatus_eq]
  obtain ⟨s₁, h₁⟩ := run_sampleInto hbrightness (fun v snap => { snap with brightness := v }) Status.default s
  obtain ⟨s₂, h₂⟩ := run_sampleInto hcontrast (fun v snap => { snap with contrast := v }) _ s₁
  obtain ⟨s₃, h₃⟩ := run_sampleInto hsaturation (fun v snap => { snap with saturation := v }) _ s₂
  obtain ⟨s₄, h₄⟩ := run_sampleInto hpanTilt (fun v snap => { snap with pan := v.1, tilt := v.2 }) _ s₃
  obtain ⟨s₅, h₅⟩ := run_sampleInto hzoom (fun v snap => { snap with zoom := v }) _ s₄
  refine ⟨s₅, ?_⟩
  rw [Program.run_bind, h₁]
  dsimp only
  rw [Program.run_bind, h₂]
  dsimp only
  rw [Program.run_bind, h₃]
  dsimp only
  rw [Program.run_bind, h₄]
  dsimp only
  rw [h₅]
  cases brightness <;> cases contrast <;> cases saturation <;> cases panTilt <;> cases zoom <;> rfl

theorem exists_comesTo (hfixed : FixedReads answer) (s : σ) :
    (∃ r, ComesTo answer Device.brightness r) ∧ (∃ r, ComesTo answer Device.contrast r) ∧
      (∃ r, ComesTo answer Device.saturation r) ∧ (∃ r, ComesTo answer Device.panTilt r) ∧
      ∃ r, ComesTo answer Device.zoom r := by
  have hu16 : ∀ selector, ∃ r, ComesTo answer (Device.puU16 selector) r := by
    intro selector
    rw [Device.puU16_eq]
    exact comesTo_get hfixed (.inr rfl) (fun got => i32FromU16 (u16FromLe got.2.toList)) s
  refine ⟨?_, hu16 _, hu16 _, ?_, ?_⟩
  · exact comesTo_get hfixed (.inr rfl) (fun got => (i16FromLe got.2.toList).toInt32) s
  · exact comesTo_get hfixed (.inl rfl) (fun got => (normalisedPantilt (i32FromLe (got.2.toList.take 4)),
      normalisedPantilt (i32FromLe (got.2.toList.drop 4)))) s
  · exact comesTo_get hfixed (.inl rfl) (fun got => (u16FromLe got.2.toList).toFloat32) s

end Sample

/-! ## The status -/

section Status
variable {Location : Type}

theorem crashFree_reads (call : Rpc.RpcCall Location) (hreads : call.Reads)
    (htotal : ∀ buf, ∃ v, call.decode buf = .ok v) : CrashFree call.program := by
  obtain ⟨frame, hframe, -⟩ := call.request_eq
  rw [call.program_eq hreads hframe]
  exact PollLoops.crashFree_setThenPoll htotal frame

theorem crashFree_firmwareFromCamera (self : Device Location) : CrashFree self.firmwareFromCamera.run :=
  crashFree_reads (.firmwareFromCamera self) trivial (Meet2.ReplyDecoder.decode_total .firmware)

theorem crashFree_serialFromCamera (self : Device Location) : CrashFree self.serialFromCamera.run :=
  crashFree_reads (.serialFromCamera self) trivial (Meet2.ReplyDecoder.decode_total .serial)

/-- The reads of a status, one after the other, and what it makes of them. -/
theorem run_status {σ : Type} {answer : Transport σ} {self : Device Location} {s s₁ s₂ s₃ : σ}
    {firmware serial : Result String} {snap : Status}
    (hfirmware : Program.run answer self.firmwareFromCamera.run s = (.ok firmware, s₁))
    (hserial : Program.run answer self.serialFromCamera.run s₁ = (.ok serial, s₂))
    (hsample : Program.run answer sampleStatus s₂ = (.ok snap, s₃)) : Program.run answer self.status.run s =
      (.ok (.ok { snap with firmware := orDefault firmware "", serial := orDefault serial "" }), s₃) := by
  rw [Poller.status_run, Program.run_bind, run_unwrapOr hfirmware]
  dsimp only
  rw [Program.run_bind, run_unwrapOr hserial]
  dsimp only
  rw [Program.run_bind, hsample]
  rfl

theorem crashFree_sampleInto {α : Type} {read : DeviceM α} (h : CrashFree read.run) (set : α → Status → Status)
    (snap : Status) : CrashFree (sampleInto read set snap) :=
  h.bind fun r => by cases r <;> trivial

theorem crashFree_sampleStatus : CrashFree sampleStatus := by
  have hget : ∀ {n : ℕ} (entity selector : UInt8) (out : Bytes n), CrashFree (uvcGet .cur entity selector out).run :=
    fun _ _ _ _ => trivial
  have hi16 : ∀ selector, CrashFree (readPuI16 selector).run := by
    intro selector
    rw [readPuI16, ExceptT.run_bind]
    exact (hget _ _ _).bind fun r => by cases r <;> trivial
  have hu16 : ∀ selector, CrashFree (readPuU16 selector).run := by
    intro selector
    rw [readPuU16, ExceptT.run_bind]
    exact (hget _ _ _).bind fun r => by cases r <;> trivial
  unfold sampleStatus
  refine (crashFree_sampleInto (hi16 _) _ _).bind fun _ => ?_
  refine (crashFree_sampleInto (hu16 _) _ _).bind fun _ => ?_
  refine (crashFree_sampleInto (hu16 _) _ _).bind fun _ => ?_
  refine (crashFree_sampleInto (hget _ _ _) _ _).bind fun _ => ?_
  exact crashFree_sampleInto (hget _ _ _) _ _

end Status

/-- With reads that are answered the same at any time, the sample is made of the getters' results; on every transport
the status is that sample with the two strings of the camera, or empty ones, and never an error. -/
theorem sample_agrees_with_getters {Location σ : Type} (answer : Transport σ) :
    (FixedReads answer → ∀ s, ∃ brightness contrast saturation panTilt zoom,
      ComesTo answer Device.brightness brightness ∧ ComesTo answer Device.contrast contrast ∧
      ComesTo answer Device.saturation saturation ∧ ComesTo answer Device.panTilt panTilt ∧
      ComesTo answer Device.zoom zoom ∧
      ∃ s', Program.run answer sampleStatus s =
        (.ok (sampled brightness contrast saturation panTilt zoom), s')) ∧
    ∀ (self : Device Location) (s : σ), ∃ firmware serial snap s₁ s₂ s₃,
      Program.run answer self.firmwareFromCamera.run s = (.ok firmware, s₁) ∧
      Program.run answer self.serialFromCamera.run s₁ = (.ok serial, s₂) ∧
      Program.run answer sampleStatus s₂ = (.ok snap, s₃) ∧
      Program.run answer self.status.run s =
        (.ok (.ok { snap with firmware := orDefault firmware "", serial := orDefault serial "" }), s₃) := by
  constructor
  · intro hfixed s
    obtain ⟨⟨brightness, h₁⟩, ⟨contrast, h₂⟩, ⟨saturation, h₃⟩, ⟨panTilt, h₄⟩, ⟨zoom, h₅⟩⟩ := exists_comesTo hfixed s
    exact ⟨_, _, _, _, _, h₁, h₂, h₃, h₄, h₅, run_sampleStatus h₁ h₂ h₃ h₄ h₅ s⟩
  · intro self s
    obtain ⟨firmware, s₁, hfirmware⟩ := (crashFree_firmwareFromCamera self).run answer s
    obtain ⟨serial, s₂, hserial⟩ := (crashFree_serialFromCamera self).run answer s₁
    obtain ⟨snap, s₃, hsample⟩ := crashFree_sampleStatus.run answer s₂
    exact ⟨firmware, serial, snap, s₁, s₂, s₃, hfirmware, hserial, hsample, run_status hfirmware hserial hsample⟩

/-- Brightness fails, every other control reads sevens. -/
def withoutBrightness : Transport Unit
  | .uvcSet _ _ _, s => (.ok (), s)
  | .uvcGet _ _ selector n out, s =>
    if selector = Uvc.Pu.brightness then ((out, .error .timeout), s)
    else ((⟨List.replicate n 7, List.length_replicate⟩, .ok n), s)
  | .sleep _, s => ((), s)

theorem sample_agrees_with_getters_partly : ∃ snap s', Program.run withoutBrightness sampleStatus () = (.ok snap, s') ∧
    snap.brightness = 0 ∧ snap.contrast = 0x0707 := by
  obtain ⟨hsample, -⟩ := @sample_agrees_with_getters Unit _ withoutBrightness
  have hfixed : FixedReads withoutBrightness := fun op _ s s' => rfl
  obtain ⟨brightness, contrast, saturation, panTilt, zoom, h₁, h₂, -, -, -, s', hrun⟩ := hsample hfixed ()
  obtain ⟨_, hbrightness⟩ := h₁ ()
  obtain ⟨_, hcontrast⟩ := h₂ ()
  refine ⟨_, s', hrun, ?_, ?_⟩
  · cases hbrightness
    rfl
  · cases hcontrast
    rfl

end Libobsbot.Sampling

import Libobsbot.Ffi.Registers
import Libobsbot.Ffi.Sessions
import Libobsbot.Macos.Threads
import Libobsbot.Platforms.OnLinux
import Libobsbot.Platforms.OnMacos

/-! # The plainest IOKit and driver

Whatever the camera, there are an IOKit that takes requests to it and a driver that serves it, with no state of their
own. A camera that keeps what it is sent, and refuses some controls, is one to put behind them.
-/

namespace Libobsbot.Platforms
open Foundations Uvcvideo V4l2Store Macos
open Ffi.Sessions Xu
set_option autoImplicit false

/-- The read that a request byte asks for. -/
def getOf (bRequest : UInt8) : Option UvcGet :=
  if bRequest = 0x81 then some .cur
  else if bRequest = 0x82 then some .min
  else if bRequest = 0x83 then some .max
  else none

theorem getOf_bRequest (req : UvcGet) : getOf req.bRequest = some req := by
  cases req <;> rfl

section Plain
variable {σ : Type} (device : UvcDevice σ)

/-! ## IOKit -/

/-- A null, a refusal: what the calls that are no transfers get here. -/
def nothing : (op : IokitOp) → op.Reply
  | .registryEntryIDMatching _ => 0
  | .serviceMatching => 0
  | .serviceGetMatchingService _ => 0
  | .serviceGetMatchingServices _ => (kernSuccess, 0)
  | .registryEntryGetRegistryEntryID _ => (kernSuccess, 0)
  | .registryEntryCreateCFProperty _ _ => 0
  | .iteratorNext _ => 0
  | .objectRelease _ => ()
  | .createPlugInInterfaceForService _ => (kernSuccess, 0)
  | .pluginQueryInterface _ => (kernSuccess, 0)
  | .pluginRelease _ => ()
  | .createInterfaceIterator _ _ => (kernSuccess, 0)
  | .deviceRequest _ _ req => (kioUsbPipeStalled, req)
  | .deviceRelease _ => ()
  | .stringNew _ => 0
  | .downcast _ _ => false
  | .numberToI64 _ => none
  | .stringToString _ => ""
  | .cfRelease _ => ()
  | .sleep _ => ()

/-- A request as it comes back: stalled where the camera refuses it. -/
def fetched {n : ℕ} (req : IOUSBDevRequest n) : Option (List UInt8) × σ → (Int32 × IOUSBDevRequest n) × σ
  | (some bytes, s) =>
    ((kernSuccess, { req with pData := req.pData.overwrite 0 bytes, wLenDone := UInt32.ofNat bytes.length }), s)
  | (none, s) => ((kioUsbPipeStalled, req), s)

def stored {n : ℕ} (req : IOUSBDevRequest n) (got : Bool × σ) : (Int32 × IOUSBDevRequest n) × σ :=
  ((if got.1 then kernSuccess else kioUsbPipeStalled, req), got.2)

def requested (interfaceNumber : UInt8) {n : ℕ} (req : IOUSBDevRequest n) (s : σ) :
    (Int32 × IOUSBDevRequest n) × σ :=
  let setup := Setup.of req
  if setup.interfaceNumber ≠ interfaceNumber then ((kioUsbPipeStalled, req), s)
  else match setup.direction, getOf setup.bRequest with
    | .hostToDevice, _ =>
      if setup.bRequest = MacosTransport.setCur then
        stored req (device.set setup.entity setup.selector req.pData.toList s)
      else ((kioUsbPipeStalled, req), s)
    | .deviceToHost, some get => fetched req (device.get get setup.entity setup.selector setup.length s)
    | .deviceToHost, none => ((kioUsbPipeStalled, req), s)

def plainIokit (transport : TransportInner) : (op : IokitOp) → σ → op.Reply × σ
  | .deviceRequest dev _ req, s =>
    if dev = transport.dev then requested device transport.interfaceNumber req s else ((kioUsbPipeStalled, req), s)
  | op, s => (nothing op, s)

theorem plainIokit_set {transport : TransportInner} {n : ℕ} {req : IOUSBDevRequest n} {entity selector : UInt8} {s : σ}
    (h : Setup.of req = ⟨.hostToDevice, MacosTransport.setCur, entity, selector, transport.interfaceNumber, n⟩) :
    plainIokit device transport (.deviceRequest transport.dev n req) s =
      stored req (device.set entity selector req.pData.toList s) := by
  simp [plainIokit, requested, h]

theorem plainIokit_get {transport : TransportInner} {n : ℕ} {req : IOUSBDevRequest n} {get : UvcGet}
    {entity selector : UInt8} {s : σ}
    (h : Setup.of req = ⟨.deviceToHost, get.bRequest, entity, selector, transport.interfaceNumber, n⟩) :
    plainIokit device transport (.deviceRequest transport.dev n req) s =
      fetched req (device.get get entity selector n s) := by
  simp [plainIokit, requested, h, getOf_bRequest]

theorem carries_plainIokit {transport : TransportInner} (hlive : transport.dev ≠ 0) :
    Carries (plainIokit device transport) transport id device where
  live := hlive
  set := by
    intro n req entity selector s hsetup
    rw [plainIokit_set device hsetup]
    refine ⟨?_, rfl⟩
    show (if (device.set entity selector req.pData.toList s).1 then kernSuccess else kioUsbPipeStalled) =
      kernSuccess ↔ _
    split
    · exact iff_of_true rfl ‹_›
    · exact iff_of_false kern_ne_stalled ‹_›
  get := by
    intro n req get entity selector s hsetup
    rw [plainIokit_get device hsetup, id_eq]
    have hshort : n < 65536 := by
      have hlength : (Setup.of req).length < 65536 := req.wLength.toNat_lt
      rwa [hsetup] at hlength
    have hfits := device.get_length get entity selector n s
    rcases hgot : device.get get entity selector n s with ⟨_ | bytes, s'⟩
    · exact ⟨.failed kern_ne_stalled rfl, rfl⟩
    · refine ⟨.data rfl ?_, rfl⟩
      have hbytes := hfits bytes (congrArg Prod.fst hgot)
      show (UInt32.ofNat bytes.length).toNat = bytes.length
      rw [UInt32.toNat_ofNat']
      omega
  sleep millis s := rfl

/-! ## The driver -/

/-- The pair whose payload a control is. -/
def ownerOf (cid : UInt32) : Option (UInt8 × UInt8) := (controlTable.find? (·.2 = cid)).map (·.1)

/-- Signed controls are sign-extended. -/
def valueOf (cid : UInt32) (bytes : List UInt8) : Int32 :=
  if bytes.length = 1 ∨ bytes.length = 2 ∨ bytes.length = 4 then payloadToI32 cid bytes else i32FromLe bytes

def partValue (cid : UInt32) (req : UvcGet) (entity selector : UInt8) (part : List UInt8 → List UInt8) (s : σ) :
    Except String Int32 :=
  match (device.get req entity selector (payloadWidth entity selector) s).1 with
  | some payload => .ok (valueOf cid (part payload))
  | none => .error "broken pipe"

def controlValue (cid : UInt32) (req : UvcGet) (s : σ) : Except String Int32 :=
  if cid = v4l2CidPanAbsolute then
    partValue device cid req Uvc.cameraTerminal Uvc.Ct.pantiltAbsolute (List.take 4) s
  else if cid = v4l2CidTiltAbsolute then
    partValue device cid req Uvc.cameraTerminal Uvc.Ct.pantiltAbsolute (List.drop 4) s
  else match ownerOf cid with
    | some (entity, selector) => partValue device cid req entity selector id s
    | none => .error "invalid argument"

def told (got : Bool × σ) : Except String Unit × σ := (if got.1 then .ok () else .error "broken pipe", got.2)

def setControl (cid : UInt32) (v : Int32) (s : σ) : Except String Unit × σ :=
  if cid = v4l2CidPanAbsolute then told (device.turn (fun payload => i32ToLe v ++ payload.drop 4) s)
  else if cid = v4l2CidTiltAbsolute then told (device.turn (fun payload => payload.take 4 ++ i32ToLe v) s)
  else match ownerOf cid with
    | some (entity, selector) =>
      told (device.set entity selector ((i32ToLe v).take (payloadWidth entity selector)) s)
    | none => (.error "invalid argument", s)

def queried {n : ℕ} (data : Bytes n) : Option (List UInt8) × σ → (Bytes n × Except String Unit) × σ
  | (some bytes, s) => ((data.overwrite 0 bytes, .ok ()), s)
  | (none, s) => ((data, .error "broken pipe"), s)

def queryUnit (unit selector query : UInt8) {n : ℕ} (data : Bytes n) (s : σ) :
    (Bytes n × Except String Unit) × σ :=
  if unit ≠ Meet2.xuEntityId then ((data, .error "no such entry"), s)
  else if query = UsbTransport.setCur then
    let (result, s) := told (device.set unit selector data.toList s)
    ((data, result), s)
  else match getOf query with
    | some get => queried data (device.get get unit selector n s)
    | none => ((data, .error "invalid argument"), s)

def plainDriver : (op : Ioctl) → σ → op.Reply × σ
  | .ctrlQuery unit selector query _ data, s => queryUnit device unit selector query data s
  | .gCtrl cid, s => (controlValue device cid .cur s, s)
  | .sCtrl cid value, s => setControl device cid value s
  | .queryctrl cid, s => (do
      let minimum ← controlValue device cid .min s
      let maximum ← controlValue device cid .max s
      return ⟨minimum, maximum⟩, s)
  | .sleep _, s => ((), s)

theorem low_valueOf (cid : UInt32) {bytes : List UInt8} (h : bytes.length ≤ 4) : Low (valueOf cid bytes) bytes := by
  unfold valueOf Low
  split
  · exact payloadToI32_bytes cid ‹_›
  · rw [i32ToLe, i32FromLe_toNat h, toLe_take 4 _ _ h, toLe_fromLe]

theorem ownerOf_cidFor {entity selector : UInt8} {cid : UInt32} (h : cidFor entity selector = some cid) :
    ownerOf cid = some (entity, selector) := by
  have hmem := cidFor_mem h
  simp only [controlTable, List.mem_cons, Prod.mk.injEq, List.not_mem_nil, or_false] at hmem
  rcases hmem with h | h | h | h | h | h | h <;> obtain ⟨⟨rfl, rfl⟩, rfl⟩ := h <;> rfl

/-- The least and the greatest payload of a control are known together. -/
def BoundedTogether : Prop := ∀ entity selector n s,
  (device.get .min entity selector n s).1.isSome = (device.get .max entity selector n s).1.isSome

section Reads
variable {cid : UInt32} {entity selector : UInt8} {part : List UInt8 → List UInt8}

theorem valued_partValue (hpart : ∀ payload, payload.length ≤ payloadWidth entity selector → (part payload).length ≤ 4)
    (req : UvcGet) (s : σ) :
    Valued (fun _ => True) part (device.get req entity selector (payloadWidth entity selector) s).1
      (partValue device cid req entity selector part s) := by
  unfold partValue
  have hfits := device.get_length req entity selector (payloadWidth entity selector) s
  cases hgot : (device.get req entity selector (payloadWidth entity selector) s).1 with
  | none => exact .failed trivial
  | some payload => exact .value (low_valueOf cid (hpart payload (hfits payload hgot)))

theorem reads_plainDriver (hbounded : BoundedTogether device)
    (hpart : ∀ payload, payload.length ≤ payloadWidth entity selector → (part payload).length ≤ 4)
    (hvalue : ∀ req s, controlValue device cid req s = partValue device cid req entity selector part s) :
    Reads (plainDriver device) id device cid entity selector part where
  current s := by
    show Valued _ _ _ (controlValue device cid .cur s)
    rw [hvalue]
    exact valued_partValue device hpart .cur s
  current_view s := rfl
  bounds s := by
    show Bounded part _ _ (do
      let minimum ← controlValue device cid .min s
      let maximum ← controlValue device cid .max s
      return ⟨minimum, maximum⟩)
    rw [hvalue, hvalue, id_eq]
    have hboth := hbounded entity selector (payloadWidth entity selector) s
    have hleast := @valued_partValue _ device cid _ _ _ hpart .min s
    have hgreatest := @valued_partValue _ device cid _ _ _ hpart .max s
    generalize (device.get .min entity selector (payloadWidth entity selector) s).1 = least at *
    generalize (device.get .max entity selector (payloadWidth entity selector) s).1 = greatest at *
    generalize partValue device cid .min entity selector part s = minimum at *
    generalize partValue device cid .max entity selector part s = maximum at *
    cases hleast with
    | value low =>
      cases hgreatest with
      | value low' => exact .bounds low low'
      | failed => cases hboth
    | failed =>
      cases hgreatest with
      | value low' => cases hboth
      | failed => exact .failed _
  bounds_view s := rfl

end Reads

theorem accepted_told (got : Bool × σ) : Accepted id got (told got) := by
  obtain ⟨accepted, s⟩ := got
  cases accepted with
  | true => exact .done s
  | false => exact .failed _ s

theorem drives_plainDriver (hbounded : BoundedTogether device) : Drives (plainDriver device) id device where
  reads := by
    intro entity selector cid hcid
    obtain ⟨hpan, htilt⟩ := cidFor_ne_axis hcid
    refine reads_plainDriver device hbounded (fun payload hlen => ?_) fun req s => ?_
    · have hwidth := payloadWidth_cid hcid
      rw [id_eq]
      omega
    · rw [controlValue, if_neg hpan, if_neg htilt, ownerOf_cidFor hcid]
  writes := by
    intro entity selector cid hcid v s
    obtain ⟨hpan, htilt⟩ := cidFor_ne_axis hcid
    show Accepted id _ (setControl device cid v s)
    rw [setControl, if_neg hpan, if_neg htilt, ownerOf_cidFor hcid]
    exact accepted_told _
  pan := reads_plainDriver device hbounded (fun payload _ => List.length_take_le 4 payload) fun _ _ => rfl
  tilt := by
    refine reads_plainDriver device hbounded (fun payload hlen => ?_) fun _ _ => rfl
    rw [List.length_drop]
    have hwidth : payloadWidth Uvc.cameraTerminal Uvc.Ct.pantiltAbsolute = 8 := rfl
    omega
  setPan v s := accepted_told _
  setTilt v s := accepted_told _
  setUnit selector {n} data s := accepted_told _
  getUnit := by
    intro req selector n data s
    have hquery : plainDriver device (.ctrlQuery Meet2.xuEntityId selector req.bRequest n data) s =
        queried data (device.get req Meet2.xuEntityId selector n s) := by
      show queryUnit device Meet2.xuEntityId selector req.bRequest data s = _
      rw [queryUnit, if_neg (not_not_intro rfl), if_neg (by cases req <;> decide), getOf_bRequest]
    rw [hquery, id_eq]
    rcases device.get req Meet2.xuEntityId selector n s with ⟨_ | bytes, s'⟩
    · exact ⟨.failed _, rfl⟩
    · exact ⟨.data, rfl⟩
  sleep millis s := rfl

end Plain

/-! ## A camera that keeps what it is sent -/

def shown (req : UvcGet) (entity selector : UInt8) (n : ℕ) (s : Cell → List UInt8) : List UInt8 :=
  if entity = Meet2.xuEntityId then (statusBlob s).toList.take n
  else match req with
    | .cur => (s (.register entity selector)).take n
    | .min => toLe n 0
    | .max => toLe n 100

theorem shown_length_le (req : UvcGet) (entity selector : UInt8) (n : ℕ) (s : Cell → List UInt8) :
    (shown req entity selector n s).length ≤ n := by
  unfold shown
  split
  · exact List.length_take_le ..
  · cases req with
    | cur => exact List.length_take_le ..
    | min | max => exact (toLe_length n _).le

/-- The camera of the panel, but for the controls that it does not know. -/
def keepingDevice (unknown : List (UInt8 × UInt8)) : UvcDevice (Cell → List UInt8) where
  set entity selector payload s :=
    if (entity, selector) ∈ unknown then (false, s) else (true, (keepingAnswer (.uvcSet entity selector payload) s).2)
  get req entity selector n s :=
    (if (entity, selector) ∈ unknown then none else some (shown req entity selector n s), s)
  get_length req entity selector n s bytes h := by
    dsimp only at h
    split at h
    · cases h
    · cases h
      exact shown_length_le req entity selector n s

section Keeping
variable {unknown : List (UInt8 × UInt8)} {s : Cell → List UInt8}

theorem keepingDevice_boundedTogether (unknown : List (UInt8 × UInt8)) : BoundedTogether (keepingDevice unknown) := by
  intro entity selector n s
  simp only [keepingDevice]
  split <;> rfl

/-- The driver's registers hold payloads of their widths. -/
def WholeCells (s : Cell → List UInt8) : Prop := ∀ entity selector, Dispatched entity selector →
  (s (.register entity selector)).length = payloadWidth entity selector

theorem dispatched_ne_xu {entity selector : UInt8} (h : Dispatched entity selector) : entity ≠ Meet2.xuEntityId := by
  rintro rfl
  obtain ⟨hpantilt, hcid⟩ := unit_not_mapped selector
  rcases h with h | h
  · exact hpantilt h
  · simp [hcid] at h

theorem command_registers (work : WorkModes) (controlId : UInt8) (value : List UInt8) (cells : Cell → List UInt8)
    (entity selector : UInt8) :
    work.command controlId value cells (.register entity selector) = cells (.register entity selector) := by
  unfold WorkModes.command
  split_ifs <;> simp

theorem wholeCells_keepingAnswer {entity selector : UInt8} {payload : List UInt8}
    (hop : Portable (.uvcSet entity selector payload)) (hs : WholeCells s) :
    WholeCells (keepingAnswer (.uvcSet entity selector payload) s).2 := by
  intro entity' selector' hdispatched
  rw [keepingAnswer]
  split_ifs with hunit hmode
  · dsimp only
    rw [command_registers]
    exact hs _ _ hdispatched
  · exact hs _ _ hdispatched
  · obtain ⟨-, hlen⟩ := hop.resolve_right fun h => hunit h.1
    by_cases heq : Cell.register entity' selector' = .register entity selector
    · obtain ⟨rfl, rfl⟩ := Cell.register.inj heq
      dsimp only
      rw [Function.update_self, hlen]
    · dsimp only
      rw [Function.update_of_ne heq]
      exact hs _ _ hdispatched

theorem shown_length {req : UvcGet} {entity selector : UInt8} {n : ℕ} {out : Bytes n}
    (hop : Portable (.uvcGet req entity selector n out)) (hs : WholeCells s) :
    (shown req entity selector n s).length = n := by
  unfold shown
  obtain ⟨hdispatched, rfl⟩ | ⟨rfl, rfl⟩ := hop
  · rw [if_neg (dispatched_ne_xu hdispatched)]
    cases req with
    | cur => exact (List.length_take_of_le (hs _ _ hdispatched).ge).trans rfl
    | min | max => exact toLe_length _ _
  · rw [if_pos rfl, List.length_take_of_le (statusBlob s).length_eq.ge]

theorem registers_keepingDevice (unknown : List (UInt8 × UInt8)) : Registers (keepingDevice unknown) WholeCells where
  keeps_set := by
    intro entity selector payload s hop hs
    simp only [keepingDevice]
    split
    · exact hs
    · exact wholeCells_keepingAnswer hop hs
  keeps_get _ hs := hs
  quiet _ _ := rfl
  whole := by
    intro req entity selector n out s bytes hop hs hgot
    simp only [keepingDevice] at hgot
    split at hgot
    · cases hgot
    · cases hgot
      exact shown_length hop hs
  unturned := by
    intro payload s hlen hs hgot
    have hunknown : (Uvc.cameraTerminal, Uvc.Ct.pantiltAbsolute) ∈ unknown := by
      by_contra hknown
      simp [keepingDevice, hknown] at hgot
    simp [keepingDevice, hunknown]
  turned := by
    intro payload s hlen hs hgot
    have hknown : (Uvc.cameraTerminal, Uvc.Ct.pantiltAbsolute) ∉ unknown := by
      intro hunknown
      simp [keepingDevice, hunknown] at hgot
    have hset (payload : List UInt8) (s : Cell → List UInt8) :
        (keepingDevice unknown).set Uvc.cameraTerminal Uvc.Ct.pantiltAbsolute payload s =
          (true, Function.update s (.register Uvc.cameraTerminal Uvc.Ct.pantiltAbsolute) payload) := if_neg hknown
    refine ⟨_, hset payload s, ?_, fun payload' _ => ?_⟩
    · show (if _ then none else some (shown .cur Uvc.cameraTerminal Uvc.Ct.pantiltAbsolute 8 _)) = some payload
      rw [if_neg hknown, shown, if_neg (by decide), Function.update_self, List.take_of_length_le hlen.le]
    · rw [hset, hset, Function.update_idem]

/-- The panel's camera tells of its transfers what a transport tells of this one. -/
theorem conveyed_keepingAnswer {registers : List Register} {op : TransportOp} (h : Moves registers op) :
    Conveyed (keepingDevice []) op s (keepingAnswer op s).1 (keepingAnswer op s).2 := by
  cases op with
  | uvcSet entity selector payload =>
    have hok : (keepingAnswer (.uvcSet entity selector payload) s).1 = .ok () := by
      rw [keepingAnswer]
      split_ifs <;> rfl
    rw [hok]
    exact .accepted rfl
  | uvcGet req entity selector n out =>
    obtain rfl : req = .cur := h.1
    have hread : keepingAnswer (.uvcGet .cur entity selector n out) s =
        ((out.overwrite 0 (shown .cur entity selector n s), .ok (shown .cur entity selector n s).length), s) := by
      rw [keepingAnswer, shown]
      split_ifs with hunit
      · rw [List.length_take, (statusBlob s).length_eq]
      · rw [List.length_take]
    rw [hread]
    exact .read rfl
  | sleep millis => exact .sleep

theorem zeroCells_whole : WholeCells zeroCells := by
  intro entity selector h
  rcases dispatched_cases h with hpantilt | ⟨cid, hcid⟩
  · cases isPantilt_iff.mp hpantilt
    rfl
  · have hmem := cidFor_mem hcid
    simp only [controlTable, List.mem_cons, Prod.mk.injEq, List.not_mem_nil, or_false] at hmem
    rcases hmem with h | h | h | h | h | h | h <;> obtain ⟨⟨rfl, rfl⟩, -⟩ := h <;> rfl

end Keeping

end Libobsbot.Platforms

import Libobsbot.Ffi.Marshalling
import Libobsbot.Rpc.Slot

/-! # Outputs of the C interface are all or nothing

Every function with out pointers marshals in one of a few ways: a value through one pointer, a pair through two, a
string into a buffer, a structure that is zeroed and filled. In each of them the first write comes after the last step
that can fail.
-/

namespace Libobsbot.Ffi.Raw
open Foundations
open Foundations.Program (Steps Exchange)
set_option autoImplicit false

/-- A call fails and leaves memory as it was, or it succeeds and what it writes are the outputs of a value it came
by. -/
def Delivers {α : Type} (outputs : α → List (ℕ × List UInt8)) (cameBy : α → Prop) (m : CMemory) (code : Int32)
    (m' : CMemory) : Prop :=
  (code ≠ obsbotOk ∧ m' = m) ∨ (code = obsbotOk ∧ ∃ v, cameBy v ∧ m' = m.writeAll (outputs v))

theorem mapError_ne_ok (e : Error) : mapError e ≠ obsbotOk := by
  cases e with
  | usb _ => show obsbotErrUsb ≠ obsbotOk; decide
  | timeout => decide
  | badResponse _ _ => show obsbotErrBadResponse ≠ obsbotOk; decide
  | unsupported _ => show obsbotErrUnsupported ≠ obsbotOk; decide
  | notFound => decide
  | outOfRange => decide
  | firmwareUnsupported _ _ => show obsbotErrFirmware ≠ obsbotOk; decide

theorem Delivers.mono {α : Type} {outputs : α → List (ℕ × List UInt8)} {cameBy cameBy' : α → Prop} {m m' : CMemory}
    {code : Int32} (h : Delivers outputs cameBy m code m') (hcame : ∀ v, cameBy v → cameBy' v) :
    Delivers outputs cameBy' m code m' := by
  obtain hfailed | ⟨hok, v, hv, hm⟩ := h
  · exact .inl hfailed
  · exact .inr ⟨hok, v, hcame v hv, hm⟩

/-! ## The ways of marshalling -/

section Marshalling
variable {Location α β : Type} {handle : Option (Device Location)} {m m' : CMemory} {code : Int32}
  {t : List (Exchange TransportOp TransportOp.Reply)}

/-- A value is what a successful run of the device's method came to, and no out pointer is null. -/
def ReadBy (handle : Option (Device Location)) (read : Device Location → DeviceM α) (outParams : List ℕ)
    (t : List (Exchange TransportOp TransportOp.Reply)) (v : α) : Prop :=
  ∃ device, handle = some device ∧ 0 ∉ outParams ∧ Steps (read device).run t (.done (.ok v))

theorem delivers_refused {outputs : α → List (ℕ × List UInt8)} {cameBy : α → Prop}
    (h : Steps (.done (obsbotErrNotFound, m)) t (.done (code, m'))) : Delivers outputs cameBy m code m' := by
  obtain ⟨-, hdone⟩ := Program.steps_done.mp h
  cases hdone
  exact .inl ⟨by decide, rfl⟩

/-- A read whose error is mapped and whose value is all that is written. -/
theorem delivers_read {outputs : α → List (ℕ × List UInt8)} {read : TransportProgram (Result α)}
    {finish : Result α → TransportProgram (Int32 × CMemory)}
    (hok : ∀ v, finish (.ok v) = .done (obsbotOk, m.writeAll (outputs v)))
    (herror : ∀ e, finish (.error e) = .done (mapError e, m))
    (h : Steps (read >>= finish) t (.done (code, m'))) :
    Delivers outputs (fun v => Steps read t (.done (.ok v))) m code m' := by
  obtain ⟨r, hr, hlast⟩ := h.bind_silent fun r => by
    cases r with
    | ok v => rw [hok]; trivial
    | error e => rw [herror]; trivial
  cases r with
  | ok v =>
    rw [hok] at hlast
    cases hlast
    exact .inr ⟨rfl, v, hr, rfl⟩
  | error e =>
    rw [herror] at hlast
    cases hlast
    exact .inl ⟨mapError_ne_ok e, rfl⟩

theorem steps_readInto {encode : α → List UInt8} {out : ℕ} {f : DeviceM α}
    (h : Steps (readInto handle encode out f m) t (.done (code, m'))) :
    Delivers (fun v => [(out, encode v)]) (ReadBy handle (fun _ => f) [out] t) m code m' := by
  unfold readInto at h
  cases handle with
  | none => exact delivers_refused h
  | some device =>
    by_cases hout : out = 0
    · rw [hout] at h
      exact delivers_refused h
    · rw [if_neg (by simpa using hout)] at h
      refine (delivers_read (fun _ => rfl) (fun _ => rfl) h).mono fun v hr => ?_
      exact ⟨device, rfl, by simpa using Ne.symm hout, hr⟩

theorem steps_readPairInto {encodeFst : α → List UInt8} {encodeSnd : β → List UInt8} {outFst outSnd : ℕ}
    {f : DeviceM (α × β)}
    (h : Steps (readPairInto handle encodeFst encodeSnd outFst outSnd f m) t (.done (code, m'))) :
    Delivers (fun v => [(outFst, encodeFst v.1), (outSnd, encodeSnd v.2)])
      (ReadBy handle (fun _ => f) [outFst, outSnd] t) m code m' := by
  unfold readPairInto at h
  cases handle with
  | none => exact delivers_refused h
  | some device =>
    by_cases hout : outFst = 0 ∨ outSnd = 0
    · rw [if_pos (by simpa using hout)] at h
      exact delivers_refused h
    · rw [if_neg (by simpa using hout)] at h
      refine (delivers_read (fun _ => rfl) (fun _ => rfl) h).mono fun v hr => ?_
      exact ⟨device, rfl, by simpa [eq_comm] using hout, hr⟩

/-- Everything a string call can do: refuse its arguments, fail with the read, find the buffer too small, or write the
string and a NUL. -/
theorem copyStringOut_cases {outBuf bufLen : ℕ} {f : Device Location → DeviceM String}
    (h : Steps (copyStringOut handle outBuf bufLen f m) t (.done (code, m'))) :
    ((handle = none ∨ outBuf = 0 ∨ bufLen = 0) ∧ code = obsbotErrNotFound ∧ m' = m) ∨
    ∃ device, handle = some device ∧ outBuf ≠ 0 ∧
      ((∃ e, Steps (f device).run t (.done (.error e)) ∧ code = mapError e ∧ m' = m) ∨
        ∃ s, Steps (f device).run t (.done (.ok s)) ∧
          ((bufLen < (utf8Bytes s).length + 1 ∧ code = obsbotErrOutOfRange ∧ m' = m) ∨
            ((utf8Bytes s).length + 1 ≤ bufLen ∧ code = obsbotOk ∧ m' = m.write outBuf (utf8Bytes s ++ [0])))) := by
  unfold copyStringOut at h
  cases handle with
  | none =>
    cases (Program.steps_done.mp h).2
    exact .inl ⟨.inl rfl, rfl, rfl⟩
  | some device =>
    dsimp only at h
    by_cases hargs : outBuf = 0 ∨ bufLen = 0
    · rw [if_pos (by simpa using hargs)] at h
      cases (Program.steps_done.mp h).2
      exact .inl ⟨.inr hargs, rfl, rfl⟩
    · rw [if_neg (by simpa using hargs)] at h
      obtain ⟨r, hr, hlast⟩ := h.bind_silent fun r => by
        cases r with
        | ok s => dsimp only; split <;> trivial
        | error e => trivial
      refine .inr ⟨device, rfl, fun hout => hargs (.inl hout), ?_⟩
      cases r with
      | error e =>
        cases hlast
        exact .inl ⟨e, hr, rfl, rfl⟩
      | ok s =>
        refine .inr ⟨s, hr, ?_⟩
        dsimp only at hlast
        by_cases hfits : bufLen < (utf8Bytes s).length + 1
        · rw [if_pos hfits] at hlast
          cases hlast
          exact .inl ⟨hfits, rfl, rfl⟩
        · rw [if_neg hfits] at hlast
          cases hlast
          exact .inr ⟨Nat.le_of_not_lt hfits, rfl, Memory.write_write _ _⟩

/-- What a string call with good arguments makes of its read. -/
theorem copyStringOut_read {outBuf bufLen : ℕ} {f : Device Location → DeviceM String} {device : Device Location}
    (hout : outBuf ≠ 0) (hlen : 1 ≤ bufLen) :
    (∀ s, Steps (f device).run t (.done (.ok s)) →
      ((utf8Bytes s).length + 1 ≤ bufLen → Steps (copyStringOut (some device) outBuf bufLen f m) t
        (.done (obsbotOk, m.write outBuf (utf8Bytes s ++ [0])))) ∧
      (bufLen < (utf8Bytes s).length + 1 → Steps (copyStringOut (some device) outBuf bufLen f m) t
        (.done (obsbotErrOutOfRange, m)))) ∧
    ∀ e, Steps (f device).run t (.done (.error e)) →
      Steps (copyStringOut (some device) outBuf bufLen f m) t (.done (mapError e, m)) := by
  have hargs : ¬ (outBuf == 0 || bufLen == 0) = true := by
    simp only [Bool.or_eq_true, beq_iff_eq]
    omega
  unfold copyStringOut
  dsimp only
  rw [if_neg hargs]
  refine ⟨fun s hs => ⟨fun hfits => hs.bind_last ?_, fun hlong => hs.bind_last ?_⟩, fun e he => he.bind_last rfl⟩
  · dsimp only
    rw [if_neg (by omega), Memory.write_write]
    rfl
  · dsimp only
    rw [if_pos hlong]
    rfl

theorem steps_copyStringOut {outBuf bufLen : ℕ} {f : Device Location → DeviceM String}
    (h : Steps (copyStringOut handle outBuf bufLen f m) t (.done (code, m'))) :
    Delivers (fun s => [(outBuf, utf8Bytes s ++ [0])]) (ReadBy handle f [outBuf] t) m code m' := by
  obtain ⟨-, rfl, rfl⟩ | ⟨device, rfl, hout, ⟨e, -, rfl, rfl⟩ | ⟨s, hs, ⟨-, rfl, rfl⟩ | ⟨-, rfl, rfl⟩⟩⟩ :=
    copyStringOut_cases h
  · exact .inl ⟨by decide, rfl⟩
  · exact .inl ⟨mapError_ne_ok e, rfl⟩
  · exact .inl ⟨by decide, rfl⟩
  · exact .inr ⟨rfl, s, ⟨device, rfl, by simpa using Ne.symm hout, hs⟩, rfl⟩

theorem steps_obsbotDeviceStatus {out : ℕ} (h : Steps (obsbotDeviceStatus handle out m) t (.done (code, m'))) :
    Delivers (fun snap => [(out, statusBytes snap)]) (ReadBy handle Device.status [out] t) m code m' := by
  unfold obsbotDeviceStatus at h
  cases handle with
  | none => exact delivers_refused h
  | some device =>
    by_cases hout : out = 0
    · rw [hout] at h
      exact delivers_refused h
    · dsimp only at h
      rw [if_neg (by simpa using hout)] at h
      have hfill : ∀ snap, fillStatus out snap (writeZeros sizeOfStatus out m) =
          m.writeAll [(out, statusBytes snap)] := fillStatus_zeroed m out
      refine (delivers_read (fun snap => ?_) (fun _ => rfl) h).mono fun snap hr => ?_
      · exact congrArg (fun m' => Program.done (obsbotOk, m')) (hfill snap)
      · exact ⟨device, rfl, by simpa using Ne.symm hout, hr⟩

theorem obsbotDeviceStatus_read {device : Device Location} {out : ℕ} {snap : Status} (hout : out ≠ 0)
    (h : Steps device.status.run t (.done (.ok snap))) :
    Steps (obsbotDeviceStatus (some device) out m) t (.done (obsbotOk, m.write out (statusBytes snap))) := by
  unfold obsbotDeviceStatus
  dsimp only
  rw [if_neg (by simpa using hout)]
  refine h.bind_last ?_
  dsimp only
  rw [fillStatus_zeroed]
  rfl

theorem steps_obsbotDevicesOpenFirst {registry : Option (Registry Location)} {intoRaw : Device Location → ℕ}
    {outDevice : ℕ} (h : Steps (obsbotDevicesOpenFirst registry intoRaw outDevice m) t (.done (code, m'))) :
    Delivers (fun device => [(outDevice, ptrToLe (intoRaw device))]) (fun device => ∃ r info rest,
      registry = some r ∧ outDevice ≠ 0 ∧ r.list = info :: rest ∧
        Steps (Devices.open r.openTransport info).run t (.done (.ok device))) m code m' := by
  unfold obsbotDevicesOpenFirst at h
  cases registry with
  | none => exact delivers_refused h
  | some r =>
    by_cases hout : outDevice = 0
    · rw [hout] at h
      exact delivers_refused h
    · dsimp only at h
      rw [if_neg (by simpa using hout)] at h
      cases hlist : r.list with
      | nil =>
        rw [hlist] at h
        exact delivers_refused h
      | cons info rest =>
        rw [hlist] at h
        refine (delivers_read (fun _ => rfl) (fun _ => rfl) h).mono fun device hopened => ?_
        exact ⟨r, info, rest, rfl, hout, hlist, hopened⟩

theorem steps_obsbotDevicesPollEvent {handleNull : Bool} {outEvent : ℕ} {timeoutMs : Int32}
    {u : List (Exchange ReceiveOp ReceiveOp.Reply)}
    (h : Steps (obsbotDevicesPollEvent handleNull outEvent timeoutMs m) u (.done (code, m'))) :
    Delivers (fun event => [(outEvent, eventBytes event)]) (fun event => handleNull = false ∧ outEvent ≠ 0 ∧
      u = [⟨receiveOp timeoutMs, some event⟩]) m code m' := by
  unfold obsbotDevicesPollEvent at h
  by_cases hnull : (handleNull || outEvent == 0) = true
  · rw [if_pos hnull] at h
    cases (Program.steps_done.mp h).2
    exact .inl ⟨by decide, rfl⟩
  · rw [if_neg hnull] at h
    obtain ⟨-, hopen⟩ | ⟨r, v, rfl, hv⟩ := Program.steps_op_bind.mp h
    · cases hopen
    cases r with
    | none =>
      cases (Program.steps_done.mp hv).2
      exact .inl ⟨by decide, rfl⟩
    | some event =>
      obtain ⟨rfl, hdone⟩ := Program.steps_done.mp hv
      cases hdone
      simp only [Bool.or_eq_true, beq_iff_eq, not_or, Bool.not_eq_true] at hnull
      exact .inr ⟨rfl, event, ⟨hnull.1, hnull.2, rfl⟩, fillEvent_zeroed m outEvent event⟩

theorem obsbotDevicesPollEvent_received {outEvent : ℕ} (hout : outEvent ≠ 0) (timeoutMs : Int32) (event : Event) :
    Steps (obsbotDevicesPollEvent false outEvent timeoutMs m) [⟨receiveOp timeoutMs, some event⟩]
      (.done (obsbotOk, m.write outEvent (eventBytes event))) := by
  unfold obsbotDevicesPollEvent
  rw [if_neg (by simpa using hout), ← fillEvent_zeroed]
  exact Program.steps_op_bind.mpr (.inr ⟨some event, [], rfl, .refl _⟩)

end Marshalling

/-! ## The readers of a device -/

inductive Reader where
  | brightness (outValue : ℕ)
  | contrast (outValue : ℕ)
  | saturation (outValue : ℕ)
  | hue (outValue : ℕ)
  | sharpness (outValue : ℕ)
  | gain (outValue : ℕ)
  | backlightCompensation (outValue : ℕ)
  | antiFlicker (outMode : ℕ)
  | autoFocus (outOn : ℕ)
  | aeMode (outMode : ℕ)
  | exposureTime (outValue : ℕ)
  | wdr (outMode : ℕ)
  | faceAe (outOn : ℕ)
  | aiMode (outMode : ℕ)
  | whiteBalance (outMode outKelvin : ℕ)
  | panTilt (outPan outTilt : ℕ)
  | zoom (out : ℕ)
  | focus (out : ℕ)
  | status (out : ℕ)
  | firmware (outBuf bufLen : ℕ)
  | serial (outBuf bufLen : ℕ)

namespace Reader
variable {Location : Type}

def call (handle : Option (Device Location)) : Reader → CMemory → TransportProgram (Int32 × CMemory)
  | .brightness outValue => obsbotDeviceBrightness handle outValue
  | .contrast outValue => obsbotDeviceContrast handle outValue
  | .saturation outValue => obsbotDeviceSaturation handle outValue
  | .hue outValue => obsbotDeviceHue handle outValue
  | .sharpness outValue => obsbotDeviceSharpness handle outValue
  | .gain outValue => obsbotDeviceGain handle outValue
  | .backlightCompensation outValue => obsbotDeviceBacklightCompensation handle outValue
  | .antiFlicker outMode => obsbotDeviceAntiFlicker handle outMode
  | .autoFocus outOn => obsbotDeviceAutoFocus handle outOn
  | .aeMode outMode => obsbotDeviceAeMode handle outMode
  | .exposureTime outValue => obsbotDeviceExposureTime handle outValue
  | .wdr outMode => obsbotDeviceWdr handle outMode
  | .faceAe outOn => obsbotDeviceFaceAe handle outOn
  | .aiMode outMode => obsbotDeviceAiMode handle outMode
  | .whiteBalance outMode outKelvin => obsbotDeviceWhiteBalance handle outMode outKelvin
  | .panTilt outPan outTilt => obsbotDevicePanTilt handle outPan outTilt
  | .zoom out => obsbotDeviceZoom handle out
  | .focus out => obsbotDeviceFocus handle out
  | .status out => obsbotDeviceStatus handle out
  | .firmware outBuf bufLen => obsbotDeviceFirmware handle outBuf bufLen
  | .serial outBuf bufLen => obsbotDeviceSerial handle outBuf bufLen

def outParams : Reader → List ℕ
  | .whiteBalance outMode outKelvin => [outMode, outKelvin]
  | .panTilt outPan outTilt => [outPan, outTilt]
  | .firmware outBuf _ | .serial outBuf _ => [outBuf]
  | .brightness out | .contrast out | .saturation out | .hue out | .sharpness out | .gain out
  | .backlightCompensation out | .antiFlicker out | .autoFocus out | .aeMode out | .exposureTime out | .wdr out
  | .faceAe out | .aiMode out | .zoom out | .focus out | .status out => [out]

/-- What the method of `Device` behind the reader comes to. -/
abbrev Value : Reader → Type
  | .antiFlicker _ => AntiFlicker
  | .autoFocus _ | .faceAe _ => Bool
  | .aeMode _ => AeMode
  | .exposureTime _ => UInt32
  | .wdr _ => WdrMode
  | .aiMode _ => AiMode
  | .whiteBalance _ _ => WhiteBalanceMode × UInt16
  | .panTilt _ _ => Float32 × Float32
  | .zoom _ | .focus _ => Float32
  | .status _ => Status
  | .firmware _ _ | .serial _ _ => String
  | .brightness _ | .contrast _ | .saturation _ | .hue _ | .sharpness _ | .gain _ | .backlightCompensation _ => Int32

def read (device : Device Location) : (reader : Reader) → DeviceM reader.Value
  | .brightness _ => Device.brightness
  | .contrast _ => Device.contrast
  | .saturation _ => Device.saturation
  | .hue _ => Device.hue
  | .sharpness _ => Device.sharpness
  | .gain _ => Device.gain
  | .backlightCompensation _ => Device.backlightCompensation
  | .antiFlicker _ => Device.antiFlicker
  | .autoFocus _ => Device.autoFocus
  | .aeMode _ => Device.aeMode
  | .exposureTime _ => Device.exposureTime
  | .wdr _ => Device.wdr
  | .faceAe _ => Device.faceAe
  | .aiMode _ => Device.aiMode
  | .whiteBalance _ _ => Device.whiteBalance
  | .panTilt _ _ => Device.panTilt
  | .zoom _ => Device.zoom
  | .focus _ => Device.focus
  | .status _ => device.status
  | .firmware _ _ => device.firmwareFromCamera
  | .serial _ _ => device.serialFromCamera

def outputs : (reader : Reader) → reader.Value → List (ℕ × List UInt8)
  | .brightness out, v | .contrast out, v | .saturation out, v | .hue out, v | .sharpness out, v | .gain out, v
  | .backlightCompensation out, v => [(out, i32ToLe v)]
  | .antiFlicker out, mode => [(out, i32ToLe (antiFlickerToInt mode))]
  | .autoFocus out, on | .faceAe out, on => [(out, i32ToLe (intFromBool on))]
  | .aeMode out, mode => [(out, i32ToLe (aeModeToInt mode))]
  | .exposureTime out, v => [(out, u32ToLe v)]
  | .wdr out, mode => [(out, i32ToLe (wdrToInt mode))]
  | .aiMode out, mode => [(out, i32ToLe (aiToInt mode))]
  | .whiteBalance outMode outKelvin, v => [(outMode, i32ToLe (wbToInt v.1)), (outKelvin, u16ToLe v.2)]
  | .panTilt outPan outTilt, v => [(outPan, f32ToLe v.1), (outTilt, f32ToLe v.2)]
  | .zoom out, v | .focus out, v => [(out, f32ToLe v)]
  | .status out, snap => [(out, statusBytes snap)]
  | .firmware outBuf _, s | .serial outBuf _, s => [(outBuf, utf8Bytes s ++ [0])]

/-- Each out pointer gets one write. -/
theorem outputs_outParams (reader : Reader) (v : reader.Value) :
    (reader.outputs v).map Prod.fst = reader.outParams := by
  cases reader <;> rfl

theorem delivers {handle : Option (Device Location)} {reader : Reader} {m m' : CMemory} {code : Int32}
    {t : List (Exchange TransportOp TransportOp.Reply)}
    (h : Steps (reader.call handle m) t (.done (code, m'))) :
    Delivers reader.outputs (ReadBy handle (fun device => reader.read device) reader.outParams t) m code m' := by
  cases reader with
  | whiteBalance outMode outKelvin => exact steps_readPairInto h
  | panTilt outPan outTilt => exact steps_readPairInto h
  | status out => exact steps_obsbotDeviceStatus h
  | firmware outBuf bufLen => exact steps_copyStringOut h
  | serial outBuf bufLen => exact steps_copyStringOut h
  | _ out => exact steps_readInto h

end Reader

/-- A code other than `OBSBOT_OK` leaves memory as it was; `OBSBOT_OK` means that each out pointer got its write, from
the value of one successful call, or one event that was received. -/
theorem outputs_all_or_nothing {Location : Type} (m m' : CMemory) (code : Int32) :
    (∀ (handle : Option (Device Location)) (reader : Reader) (t : List (Exchange TransportOp TransportOp.Reply)),
      Steps (reader.call handle m) t (.done (code, m')) →
      (code ≠ obsbotOk ∧ m' = m) ∨ (code = obsbotOk ∧ ∃ device v, handle = some device ∧
        Steps (reader.read device).run t (.done (.ok v)) ∧ 0 ∉ reader.outParams ∧
        (reader.outputs v).map Prod.fst = reader.outParams ∧ m' = m.writeAll (reader.outputs v))) ∧
    (∀ (handle : Option (Registry Location)) (intoRaw : Device Location → ℕ) (outDevice : ℕ)
        (t : List (Exchange TransportOp TransportOp.Reply)),
      Steps (obsbotDevicesOpenFirst handle intoRaw outDevice m) t (.done (code, m')) →
      (code ≠ obsbotOk ∧ m' = m) ∨ (code = obsbotOk ∧ ∃ registry info rest device, handle = some registry ∧
        registry.list = info :: rest ∧
        Steps (Devices.open registry.openTransport info).run t (.done (.ok device)) ∧ outDevice ≠ 0 ∧
        m' = m.write outDevice (ptrToLe (intoRaw device)))) ∧
    ∀ (handleNull : Bool) (outEvent : ℕ) (timeoutMs : Int32) (t : List (Exchange ReceiveOp ReceiveOp.Reply)),
      Steps (obsbotDevicesPollEvent handleNull outEvent timeoutMs m) t (.done (code, m')) →
      (code ≠ obsbotOk ∧ m' = m) ∨ (code = obsbotOk ∧ ∃ event, t = [⟨receiveOp timeoutMs, some event⟩] ∧
        outEvent ≠ 0 ∧ m' = m.write outEvent (eventBytes event)) := by
  refine ⟨fun handle reader t h => ?_, fun handle intoRaw outDevice t h => ?_,
    fun handleNull outEvent timeoutMs t h => ?_⟩
  · obtain hfailed | ⟨hok, v, ⟨device, hdevice, hnull, hread⟩, hm⟩ := Reader.delivers h
    · exact .inl hfailed
    · exact .inr ⟨hok, device, v, hdevice, hread, hnull, reader.outputs_outParams v, hm⟩
  · obtain hfailed | ⟨hok, device, ⟨registry, info, rest, hregistry, hnull, hlist, hopen⟩, hm⟩ :=
      steps_obsbotDevicesOpenFirst h
    · exact .inl hfailed
    · exact .inr ⟨hok, registry, info, rest, device, hregistry, hlist, hopen, hnull, hm⟩
  · obtain hfailed | ⟨hok, event, ⟨-, hnull, ht⟩, hm⟩ := steps_obsbotDevicesPollEvent h
    · exact .inl hfailed
    · exact .inr ⟨hok, event, ht, hnull, hm⟩

def lentMemory : CMemory := fun _ => 0xEE

/-- The mode is read, the temperature times out. -/
theorem outputs_all_or_nothing_half_read : ∃ t m', Steps
    (Reader.call (some Rpc.sampleDevice) (.whiteBalance 16 20) lentMemory) t (.done (obsbotErrTimeout, m')) ∧
    m' = lentMemory := by
  have hrun : Steps (Reader.call (some Rpc.sampleDevice) (.whiteBalance 16 20) lentMemory)
      [⟨.uvcGet .cur Uvc.processingUnit Uvc.Pu.whiteBalanceTemperatureAuto 1 (Bytes.zeros 1), (Bytes.zeros 1, .ok 1)⟩,
        ⟨.uvcGet .cur Uvc.processingUnit Uvc.Pu.whiteBalanceTemperature 2 (Bytes.zeros 2),
          (Bytes.zeros 2, .error .timeout)⟩] (.done (obsbotErrTimeout, lentMemory)) :=
    .perform _ (.perform _ (.refl _))
  obtain ⟨-, hsame⟩ | ⟨hok, -⟩ :=
    (outputs_all_or_nothing lentMemory lentMemory obsbotErrTimeout).1 (some Rpc.sampleDevice) _ _ hrun
  · exact ⟨_, _, hrun, hsame⟩
  · exact absurd hok (by decide)

end Libobsbot.Ffi.Raw

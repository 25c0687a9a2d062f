import Libobsbot.Foundations.Ownership
import Libobsbot.Source.Macos

/-! # The references of the macOS transport

Which references each call to IOKit and Core Foundation needs, gives up and hands out, and that `open`, the
transfers, the drop of the handle and `enumerate` keep to it whatever is replied (`references_returned`).
-/

namespace Libobsbot.Macos
open Foundations
open Foundations.Ownership
open Foundations.Program (Uses Yields OnOk)
set_option autoImplicit false

/-! ## The contract of the calls -/

inductive IoRef where
  | object (port : UInt32)
  | plugin (address : UInt64)
  | device (address : UInt64)
  | cf (address : UInt64)
  deriving DecidableEq

/-- Null refers to nothing. -/
def cfRef (address : UInt64) : Multiset IoRef := if address = 0 then 0 else {.cf address}

def objectRef (port : UInt32) : Multiset IoRef := if port = 0 then 0 else {.object port}

/-- An out parameter hands out a reference where the call succeeds. -/
def onSuccess {α : Type} [DecidableEq α] [Zero α] (r : Int32 × α) (ref : α → IoRef) : Multiset IoRef :=
  if r.1 = kernSuccess ∧ r.2 ≠ 0 then {ref r.2} else 0

def needs : IokitOp → List IoRef
  | .serviceGetMatchingService matching => [.cf matching]
  | .serviceGetMatchingServices matching => [.cf matching]
  | .registryEntryGetRegistryEntryID entry => [.object entry]
  | .registryEntryCreateCFProperty entry key => [.object entry, .cf key]
  | .iteratorNext iter => [.object iter]
  | .createPlugInInterfaceForService service => [.object service]
  | .pluginQueryInterface plugin => [.plugin plugin]
  | .createInterfaceIterator dev _ => [.device dev]
  | .deviceRequest dev _ _ => [.device dev]
  | .downcast value _ => [.cf value]
  | .numberToI64 number => [.cf number]
  | .stringToString string => [.cf string]
  | _ => []

def consumes : IokitOp → Multiset IoRef
  | .serviceGetMatchingService matching => {.cf matching}
  | .serviceGetMatchingServices matching => {.cf matching}
  | .objectRelease object => {.object object}
  | .pluginRelease plugin => {.plugin plugin}
  | .deviceRelease dev => {.device dev}
  | .cfRelease value => {.cf value}
  | _ => 0

def hands : (op : IokitOp) → op.Reply → Multiset IoRef
  | .registryEntryIDMatching _, dict => cfRef dict
  | .serviceMatching, dict => cfRef dict
  | .serviceGetMatchingService _, svc => objectRef svc
  | .serviceGetMatchingServices _, r => onSuccess r .object
  | .registryEntryCreateCFProperty _ _, value => cfRef value
  | .iteratorNext _, object => objectRef object
  | .createPlugInInterfaceForService _, r => onSuccess r .plugin
  | .pluginQueryInterface _, r => onSuccess r .device
  | .createInterfaceIterator _ _, r => onSuccess r .object
  | .stringNew _, string => {.cf string}
  | .downcast value _, true => {.cf value}
  | _, _ => 0

abbrev iokit : Contract IokitOp IokitOp.Reply IoRef := ⟨needs, consumes, hands⟩

def valueRef : Option UInt64 → Multiset IoRef
  | none => 0
  | some value => {.cf value}

theorem owning_readProperty (entry : UInt32) (key : String) :
    Owning iokit {.object entry} (readProperty entry key) fun value => {.object entry} + valueRef value := by
  unfold readProperty
  refine owning_call {.object entry} rfl (by simp [needs]) fun cfKey => ?_
  refine owning_call ({.object entry} + {.cf cfKey}) rfl (by simp [needs, hands]) fun cfPtr => ?_
  refine owning_call ({.object entry} + cfRef cfPtr) (add_right_comm _ _ _) (by simp [needs]) fun _ => ?_
  by_cases h : cfPtr = 0
  · rw [if_pos h]
    exact owning_done (by simp [h, cfRef, valueRef, hands])
  · rw [if_neg h]
    exact owning_done (by simp [h, cfRef, valueRef, hands])

/-- Both references to a property's value are released on every path. -/
theorem owning_readDowncast {α : Type} (kind : CFKind) (entry : UInt32) (key : String)
    {get : UInt64 → IokitProgram α}
    (hget : ∀ value, Owning iokit {.cf value} (get value) fun _ => {.cf value}) :
    Owning iokit {.object entry} (readDowncast kind entry key get) fun _ => {.object entry} := by
  unfold readDowncast
  refine owning_bind (owning_readProperty entry key) fun value => ?_
  cases value with
  | none => exact owning_done (add_zero _)
  | some value =>
    refine owning_call ({.object entry} + {.cf value}) rfl (by simp [needs, valueRef]) fun isKind => ?_
    cases isKind with
    | false =>
      refine owning_call {.object entry} rfl (by simp [needs]) fun _ => ?_
      exact owning_done (add_zero _)
    | true =>
      have hlent := (hget value).frame ({.object entry} + {.cf value})
      rw [add_comm] at hlent
      refine owning_bind hlent fun v => ?_
      refine owning_call ({.object entry} + {.cf value}) rfl (by simp [needs]) fun _ => ?_
      refine owning_call {.object entry} rfl (by simp [needs]) fun _ => ?_
      exact owning_done (add_zero _)

theorem owning_readU32Property (entry : UInt32) (key : String) :
    Owning iokit {.object entry} (readU32Property entry key) fun _ => {.object entry} := by
  refine owning_bind (owning_readDowncast .number entry key fun value => ?_) fun v => owning_done rfl
  exact owning_borrow ⟨by simp [needs, consumes, hands], fun _ => trivial⟩

theorem owning_readStringProperty (entry : UInt32) (key : String) :
    Owning iokit {.object entry} (readStringProperty entry key) fun _ => {.object entry} := by
  refine owning_readDowncast .string entry key fun value => ?_
  exact owning_borrow ⟨by simp [needs, consumes, hands], fun _ => trivial⟩

theorem owning_registryEntryId (entry : UInt32) :
    Owning iokit {.object entry} (registryEntryId entry) fun _ => {.object entry} := by
  unfold registryEntryId
  refine owning_call {.object entry} rfl (by simp [needs]) fun r => ?_
  dsimp only
  split
  · exact owning_done (add_zero _)
  · exact owning_done (add_zero _)

theorem owning_drop {held : Multiset IoRef} {object : UInt32} (h : object ≠ 0) :
    Owning iokit (held + {.object object}) (IOObject.drop object) fun _ => held := by
  rw [IOObject.drop, if_pos h]
  exact ⟨by simp [needs], Multiset.le_add_left _ _, fun _ => by simp [Owning, consumes, hands]⟩

/-! ## Opening -/

def serviceRef : Result UInt32 → Multiset IoRef
  | .ok service => {.object service}
  | .error _ => 0

def deviceRef : Result UInt64 → Multiset IoRef
  | .ok dev => {.device dev}
  | .error _ => 0

def transportRef : Result TransportInner → Multiset IoRef
  | .ok transport => {.device transport.dev}
  | .error _ => 0

theorem owning_lookup (registryId : UInt64) :
    Owning iokit 0 (lookupServiceByRegistryId registryId).run serviceRef := by
  unfold lookupServiceByRegistryId
  refine owning_exceptCall 0 rfl (by simp [needs]) fun dict => ?_
  by_cases hdict : dict = 0
  · rw [if_pos hdict]
    exact owning_done (by simp [hdict, hands, cfRef, serviceRef])
  · rw [if_neg hdict]
    refine owning_exceptCall 0 (by simp [hdict, hands, cfRef, consumes]) (by simp [hdict, needs, hands, cfRef])
      fun svc => ?_
    by_cases hsvc : svc = 0
    · rw [if_pos hsvc]
      exact owning_done (by simp [hsvc, hands, objectRef, serviceRef])
    · rw [if_neg hsvc]
      exact owning_done (by simp [hsvc, hands, objectRef, serviceRef])

theorem onSuccess_of {α : Type} [DecidableEq α] [Zero α] {kr : Int32} {x : α} {ref : α → IoRef}
    (h : ¬ (kr ≠ kernSuccess ∨ x = 0)) : onSuccess (kr, x) ref = {ref x} := if_pos (by tauto)

theorem onSuccess_of_failed {α : Type} [DecidableEq α] [Zero α] {kr : Int32} {x : α} {ref : α → IoRef}
    (h : kr ≠ kernSuccess ∨ x = 0) : onSuccess (kr, x) ref = 0 := if_neg (by tauto)

/-- The plug-in is released whether or not it gave an interface. -/
theorem owning_createDeviceInterface (service : UInt32) : Owning iokit {.object service}
    (createDeviceInterface service).run fun r => {.object service} + deviceRef r := by
  unfold createDeviceInterface
  refine owning_exceptCall {.object service} rfl (by simp [needs]) fun ⟨kr, plugin⟩ => ?_
  dsimp only [hands]
  by_cases hplugin : kr ≠ kernSuccess ∨ plugin = 0
  · rw [if_pos hplugin, onSuccess_of_failed hplugin]
    exact owning_done rfl
  · rw [if_neg hplugin, onSuccess_of hplugin]
    refine owning_exceptCall ({.object service} + {.plugin plugin}) rfl (by simp [needs]) fun ⟨qkr, iface⟩ => ?_
    refine owning_exceptCall ({.object service} + onSuccess (qkr, iface) .device) (add_right_comm _ _ _)
      (by simp [needs]) fun _ => ?_
    dsimp only [hands]
    by_cases hiface : qkr ≠ kernSuccess ∨ iface = 0
    · rw [if_pos hiface, onSuccess_of_failed hiface]
      exact owning_done rfl
    · rw [if_neg hiface, onSuccess_of hiface]
      exact owning_done (add_zero _)

theorem owning_find (dev : UInt64) :
    Owning iokit {.device dev} (findVideoControlInterfaceNumber dev).run fun _ => {.device dev} := by
  unfold findVideoControlInterfaceNumber
  refine owning_exceptCall {.device dev} rfl (by simp [needs]) fun ⟨kr, iter⟩ => ?_
  dsimp only [hands]
  by_cases hiter : kr ≠ kernSuccess ∨ iter = 0
  · rw [if_pos hiter, onSuccess_of_failed hiter]
    exact owning_done (add_zero _)
  · have hlive : iter ≠ 0 := fun h => hiter (.inr h)
    rw [if_neg hiter, onSuccess_of hiter]
    refine owning_exceptCall ({.device dev} + {.object iter}) rfl (by simp [needs]) fun svc => ?_
    dsimp only [hands]
    by_cases hsvc : svc = 0
    · rw [if_pos hsvc, objectRef, if_pos hsvc, add_zero]
      exact owning_exceptLift (owning_drop hlive) fun _ => owning_done rfl
    · rw [if_neg hsvc, objectRef, if_neg hsvc, add_comm]
      refine owning_exceptLift ((owning_readU32Property svc "bInterfaceNumber").frame _) fun n => ?_
      rw [add_comm]
      refine owning_exceptLift (owning_drop hsvc) fun _ => ?_
      refine owning_exceptLift (owning_drop hlive) fun _ => ?_
      split
      · exact owning_done rfl
      · exact owning_done rfl

theorem yields_createDeviceInterface (service : UInt32) :
    Yields (OnOk (· ≠ 0)) (createDeviceInterface service).run := by
  rintro ⟨kr, plugin⟩ -
  show Yields (OnOk (· ≠ 0)) (if kr ≠ kernSuccess ∨ plugin = 0 then throw _ else _ : IokitM UInt64).run
  split
  · trivial
  · rintro ⟨qkr, iface⟩ - _ -
    show Yields (OnOk (· ≠ 0)) (if qkr ≠ kernSuccess ∨ iface = 0 then throw _ else pure iface : IokitM UInt64).run
    split
    · trivial
    · rename_i h
      exact fun hiface => h (.inr hiface)

theorem owning_openService (service : UInt32) : Owning iokit {.object service}
    (openService service).run fun r => {.object service} + transportRef r := by
  unfold openService
  refine owning_exceptBind (owning_createDeviceInterface service) (yields_createDeviceInterface service)
    (fun dev _ => ?_) fun e => rfl
  have hfind := (owning_find dev).frame {.object service}
  rw [add_comm] at hfind
  refine owning_exceptLift hfind fun r => ?_
  cases r with
  | ok n => exact owning_done rfl
  | error e =>
    refine owning_exceptCall {.object service} rfl (by simp [needs]) fun _ => ?_
    exact owning_done rfl

theorem yields_lookup (registryId : UInt64) : Yields (OnOk (· ≠ 0)) (lookupServiceByRegistryId registryId).run := by
  intro dict _
  show Yields (OnOk (· ≠ 0)) (if dict = 0 then throw .notFound else _ : IokitM UInt32).run
  split
  · trivial
  · intro svc _
    show Yields (OnOk (· ≠ 0)) (if svc = 0 then throw .notFound else pure svc : IokitM UInt32).run
    split
    · trivial
    · assumption

theorem yields_openService (service : UInt32) :
    Yields (OnOk fun transport => transport.dev ≠ 0) (openService service).run := by
  refine Program.yieldsGiven_exceptBind (yields_createDeviceInterface service) fun dev hdev => ?_
  rw [ExceptT.run_bind_lift]
  refine Program.yieldsGiven_bind (Program.yieldsGiven_true _) fun r _ => ?_
  cases r with
  | ok n => exact hdev
  | error e => exact fun _ _ => trivial

theorem owning_open (info : DeviceInfo MacosLocation) :
    Owning iokit 0 (MacosTransport.open info).run transportRef := by
  unfold MacosTransport.open
  refine owning_exceptBind (owning_lookup info.location.registryId) (yields_lookup info.location.registryId)
    (fun service hservice => ?_) fun e => rfl
  refine owning_exceptLift (owning_openService service) fun opened => ?_
  rw [add_comm]
  refine owning_exceptLift (owning_drop hservice) fun _ => ?_
  exact owning_done rfl

/-- The device interface of an opened transport is not null. -/
theorem yields_open (info : DeviceInfo MacosLocation) :
    Yields (OnOk fun transport => transport.dev ≠ 0) (MacosTransport.open info).run := by
  refine Program.yieldsGiven_exceptBind (yields_lookup info.location.registryId) fun service _ => ?_
  rw [ExceptT.run_bind_lift]
  refine Program.yieldsGiven_bind (yields_openService service) fun opened hopened => ?_
  show Yields _ (ExceptT.lift (ServiceRelease.drop service) >>= _).run
  rw [ExceptT.run_bind_lift]
  exact Program.yieldsGiven_bind (Program.yieldsGiven_true _) fun _ _ => hopened

/-! ## Transfers -/

section Transfers
variable (transport : TransportInner)

/-- What a transfer calls: its own device interface, and nothing else. -/
def OnDevice (dev : UInt64) : IokitOp → Prop
  | .deviceRequest dev' _ _ => dev' = dev
  | _ => False

theorem owning_onDevice {α : Type} {dev : UInt64} {body : IokitProgram α} (h : Uses (OnDevice dev) body) :
    Owning iokit {.device dev} body fun _ => {.device dev} := by
  refine owning_borrow (h.mono fun op hop => ?_)
  cases op <;> first | exact hop.elim | simp_all [OnDevice, needs, consumes, hands]

theorem onDevice_deviceRequest {n : ℕ} (dev : UInt64) (req : IOUSBDevRequest n) :
    Uses (OnDevice dev) (deviceRequest dev req).run := by
  unfold deviceRequest
  split
  · trivial
  · exact ⟨rfl, fun _ => trivial⟩

theorem owning_uvcSet (entity selector : UInt8) (payload : List UInt8) :
    Owning (locked iokit) {.device transport.dev}
      (MacosTransport.uvcSet transport entity selector payload).program fun _ => {.device transport.dev} := by
  refine owning_critical (owning_onDevice (Program.uses_exceptBind trivial fun req => ?_))
  refine Program.uses_exceptBind (onDevice_deviceRequest transport.dev req) fun ⟨kr, _⟩ => ?_
  show Uses _ (if kr ≠ kernSuccess then throw _ else pure () : IokitM Unit).run
  split
  · trivial
  · trivial

theorem owning_uvcGet {n : ℕ} (req : UvcGet) (entity selector : UInt8) (out : Bytes n) :
    Owning (locked iokit) {.device transport.dev}
      (MacosTransport.uvcGet transport req entity selector out).program fun _ => {.device transport.dev} := by
  refine owning_critical (owning_onDevice ?_)
  split
  · trivial
  · refine Program.uses_bind (onDevice_deviceRequest transport.dev _) fun r => ?_
    cases r with
    | error e => trivial
    | ok got =>
      dsimp only
      split
      · trivial
      · trivial

theorem owning_answer (op : TransportOp) : Owning (locked iokit) {.device transport.dev}
    (MacosTransport.answer transport op).program fun _ => {.device transport.dev} := by
  cases op with
  | uvcSet entity selector payload => exact owning_uvcSet transport entity selector payload
  | uvcGet req entity selector n out => exact owning_uvcGet transport req entity selector out
  | sleep millis =>
    refine ⟨by simp [locked, needs], by simp [locked, consumes], fun r => ?_⟩
    simp [locked, consumes, hands, Owning]

end Transfers

/-! ## Enumeration -/

def iteratorRef : Option UInt32 → Multiset IoRef
  | some iter => {.object iter}
  | none => 0

theorem owning_matchingIter : Owning iokit 0 matchingIter iteratorRef := by
  unfold matchingIter
  refine owning_call 0 rfl (by simp [needs]) fun dict => ?_
  dsimp only [hands]
  by_cases hdict : dict = 0
  · rw [if_pos hdict, cfRef, if_pos hdict]
    exact owning_done rfl
  · rw [if_neg hdict, cfRef, if_neg hdict]
    refine owning_call 0 rfl (by simp [needs]) fun ⟨kr, iter⟩ => ?_
    dsimp only [hands]
    by_cases hiter : kr ≠ kernSuccess ∨ iter = 0
    · rw [if_pos hiter, onSuccess_of_failed hiter]
      exact owning_done rfl
    · rw [if_neg hiter, onSuccess_of hiter]
      exact owning_done rfl

def FoundIterator : Option UInt32 → Prop
  | some iter => iter ≠ 0
  | none => True

theorem yields_matchingIter : Yields FoundIterator matchingIter := by
  intro dict _
  show Yields FoundIterator (if dict = 0 then _ else _)
  split
  · trivial
  · rintro ⟨kr, iter⟩ -
    show Yields FoundIterator (if kr ≠ kernSuccess ∨ iter = 0 then _ else _)
    split
    · trivial
    · rename_i h
      exact fun hiter => h (.inr hiter)

theorem owning_deviceInfoFromService (service : UInt32) :
    Owning iokit {.object service} (deviceInfoFromService service) fun _ => {.object service} := by
  unfold deviceInfoFromService
  refine owning_bind (owning_readU32Property service "idVendor") fun vendorId => ?_
  cases vendorId with
  | none => exact owning_done rfl
  | some vendorId =>
    refine owning_bind (owning_readU32Property service "idProduct") fun productId => ?_
    cases productId with
    | none => exact owning_done rfl
    | some productId =>
      dsimp only
      split
      · exact owning_done rfl
      · split
        · refine owning_bind (owning_readStringProperty service "USB Serial Number") fun serial => ?_
          refine owning_bind (owning_registryEntryId service) fun registryId => ?_
          cases registryId with
          | none => exact owning_done rfl
          | some registryId =>
            dsimp only
            split
            · exact owning_done rfl
            · exact owning_done rfl
        · exact owning_done rfl

theorem owning_enumerateFrom (iter : UInt32) (rounds : ℕ) (out : List (DeviceInfo MacosLocation)) :
    Owning iokit {.object iter} (enumerateFrom iter rounds out) fun _ => {.object iter} := by
  induction rounds generalizing out with
  | zero => exact owning_done rfl
  | succ rounds ih =>
    unfold enumerateFrom
    refine owning_call {.object iter} rfl (by simp [needs]) fun raw => ?_
    dsimp only [hands]
    by_cases hraw : raw = 0
    · rw [if_pos hraw, objectRef, if_pos hraw]
      exact owning_done (add_zero _)
    · rw [if_neg hraw, objectRef, if_neg hraw, add_comm]
      refine owning_bind ((owning_deviceInfoFromService raw).frame _) fun info => ?_
      rw [add_comm]
      exact owning_bind (owning_drop hraw) fun _ => ih _

theorem owning_enumerate (rounds : ℕ) : Owning iokit 0 (enumerate rounds) fun _ => 0 := by
  unfold enumerate
  refine owning_bind_of_yields owning_matchingIter yields_matchingIter fun iter hiter => ?_
  cases iter with
  | none => exact owning_done rfl
  | some iter =>
    refine owning_bind (owning_enumerateFrom iter rounds []) fun out => ?_
    have hdrop : Owning iokit {.object iter} (IOObject.drop iter) fun _ => 0 := by
      have h := @owning_drop 0 iter hiter
      rwa [zero_add] at h
    exact owning_bind hdrop fun _ => owning_done rfl

/-! ## A handle, from `open` to `drop` -/

theorem owning_transportDrop {transport : TransportInner} (h : transport.dev ≠ 0) :
    Owning iokit {.device transport.dev} transport.drop fun _ => 0 := by
  rw [TransportInner.drop, if_neg h]
  exact ⟨by simp [needs], by simp [consumes], fun _ => by simp [Owning, consumes, hands]⟩

/-- A transport from `open` to its drop, with any calls on it in between. -/
def withTransport {α : Type} (info : DeviceInfo MacosLocation) (client : TransportProgram α) :
    Mutex.Prog IokitOp.Reply (Result α) := do
  match ← Mutex.working (MacosTransport.open info).run with
  | .error e => return .error e
  | .ok transport =>
    let a ← Mutex.client (MacosTransport.answer transport) client
    Mutex.working transport.drop
    return .ok a

theorem owning_withTransport {α : Type} (info : DeviceInfo MacosLocation) (client : TransportProgram α) :
    Owning (locked iokit) 0 (withTransport info client) fun _ => 0 := by
  refine owning_bind_of_yields (owning_working (owning_open info)) (yields_working (yields_open info))
    fun opened hopened => ?_
  cases opened with
  | error e => exact owning_done rfl
  | ok transport =>
    refine owning_bind (owning_translate (owning_answer transport) client) fun a => ?_
    exact owning_bind (owning_working (owning_transportDrop hopened)) fun _ => owning_done rfl

/-- Whatever IOKit answers and whatever is done with the handle, no call is given an object that has been
released or never was held, and each reference is released as often as it was handed out: by an enumeration, and by
a handle from `open` to its drop. -/
theorem references_returned {α : Type} (info : DeviceInfo MacosLocation) (client : TransportProgram α) (rounds : ℕ) :
    Returns (locked iokit) (withTransport info client) ∧ Returns iokit (enumerate rounds) :=
  ⟨(owning_withTransport info client).returns, (owning_enumerate rounds).returns⟩

end Libobsbot.Macos

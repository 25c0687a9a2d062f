import Libobsbot.Foundations.Mutex
import Libobsbot.Source.Meet2
import Libobsbot.Source.Uvcvideo

/-! # The macOS transport

`crates/libobsbot-core/src/transport/macos.rs`, as programs over the calls into IOKit, Core Foundation and the two
COM interfaces. Pointers are addresses and null is 0. A Rust value with a destructor is released where it
goes out of scope, by an operation of its own; `CFType::downcast` retains what it returns.
-/

namespace Libobsbot.Macos
open Foundations
set_option autoImplicit false

/-- `p_data` is the buffer itself. -/
structure IOUSBDevRequest (n : ℕ) where
  bmRequestType : UInt8
  bRequest : UInt8
  wValue : UInt16
  wIndex : UInt16
  wLength : UInt16
  pData : Bytes n
  wLenDone : UInt32

structure IOUSBFindInterfaceRequest where
  bInterfaceClass : UInt16
  bInterfaceSubClass : UInt16
  bInterfaceProtocol : UInt16
  bAlternateSetting : UInt16
  deriving DecidableEq

/-- The concrete types that a property is downcast to. -/
inductive CFKind where
  | number | string
  deriving DecidableEq

inductive IokitOp where
  | registryEntryIDMatching (registryId : UInt64)
  | serviceMatching
  | serviceGetMatchingService (matching : UInt64)
  | serviceGetMatchingServices (matching : UInt64)
  | registryEntryGetRegistryEntryID (entry : UInt32)
  | registryEntryCreateCFProperty (entry : UInt32) (key : UInt64)
  | iteratorNext (iter : UInt32)
  | objectRelease (object : UInt32)
  | createPlugInInterfaceForService (service : UInt32)
  | pluginQueryInterface (plugin : UInt64)
  | pluginRelease (plugin : UInt64)
  | createInterfaceIterator (dev : UInt64) (filter : IOUSBFindInterfaceRequest)
  | deviceRequest (dev : UInt64) (n : ℕ) (request : IOUSBDevRequest n)
  | deviceRelease (dev : UInt64)
  | stringNew (text : String)
  | downcast (value : UInt64) (kind : CFKind)
  | numberToI64 (number : UInt64)
  | stringToString (string : UInt64)
  | cfRelease (value : UInt64)
  | sleep (millis : ℕ)

/-- An out parameter stands next to the status it comes with. -/
abbrev IokitOp.Reply : IokitOp → Type
  | .registryEntryIDMatching _ => UInt64
  | .serviceMatching => UInt64
  | .serviceGetMatchingService _ => UInt32
  | .serviceGetMatchingServices _ => Int32 × UInt32
  | .registryEntryGetRegistryEntryID _ => Int32 × UInt64
  | .registryEntryCreateCFProperty _ _ => UInt64
  | .iteratorNext _ => UInt32
  | .objectRelease _ => Unit
  | .createPlugInInterfaceForService _ => Int32 × UInt64
  | .pluginQueryInterface _ => Int32 × UInt64
  | .pluginRelease _ => Unit
  | .createInterfaceIterator _ _ => Int32 × UInt32
  | .deviceRequest _ n _ => Int32 × IOUSBDevRequest n
  | .deviceRelease _ => Unit
  | .stringNew _ => UInt64
  | .downcast _ _ => Bool
  | .numberToI64 _ => Option Int64
  | .stringToString _ => String
  | .cfRelease _ => Unit
  | .sleep _ => Unit

abbrev IokitProgram (α : Type) : Type := Program IokitOp IokitOp.Reply α

abbrev IokitM (α : Type) : Type := ExceptT Error (Program IokitOp IokitOp.Reply) α

abbrev call (op : IokitOp) : IokitProgram op.Reply := .perform op .done

/-! ## Constants -/

def kernSuccess : Int32 := 0
def kioReturnExclusiveAccess : Int32 := -0x1fff_fd3b
def kusbFindInterfaceDontCare : UInt16 := 0xffff
def uvcInterfaceClassVideo : UInt16 := 0x0e
def uvcInterfaceSubclassVideoControl : UInt16 := 0x01

/-- `{kr:#010x}`. -/
def hexAlt010 (kr : Int32) : String :=
  "0x" ++ String.ofList (List.leftpad 8 '0' (Nat.toDigits 16 kr.toUInt32.toNat))

/-- `u32::try_from(i64)`. -/
def u32TryFromI64 (v : Int64) : Option UInt32 :=
  if 0 ≤ v.toInt ∧ v.toInt < 4294967296 then some (UInt32.ofNat v.toInt.toNat) else none

/-- `u16::try_from(u32)`. -/
def u16TryFromU32 (v : UInt32) : Option UInt16 :=
  if v.toNat < 65536 then some (UInt16.ofNat v.toNat) else none

/-- `u8::try_from(u32)`. -/
def u8TryFromU32 (v : UInt32) : Option UInt8 :=
  if v.toNat < 256 then some (UInt8.ofNat v.toNat) else none

/-! ## Destructors -/

/-- `Drop for IOObject`. -/
def IOObject.drop (object : UInt32) : IokitProgram Unit :=
  if object ≠ 0 then call (.objectRelease object) else .done ()

/-- `Drop for ServiceRelease`. -/
def ServiceRelease.drop (service : UInt32) : IokitProgram Unit := IOObject.drop service

/-! ## Registry properties -/

def readProperty (entry : UInt32) (key : String) : IokitProgram (Option UInt64) := do
  let cfKey ← call (.stringNew key)
  let cfPtr ← call (.registryEntryCreateCFProperty entry cfKey)
  call (.cfRelease cfKey)
  if cfPtr = 0 then return none
  else return some cfPtr

/-- A property, downcast and read by `get`: the body of `read_u32_property` and `read_string_property`. -/
def readDowncast {α : Type} (kind : CFKind) (entry : UInt32) (key : String) (get : UInt64 → IokitProgram α) :
    IokitProgram (Option α) := do
  match ← readProperty entry key with
  | none => return none
  | some value =>
    if ← call (.downcast value kind) then
      let v ← get value
      -- the downcast value and the property are two references to one object
      call (.cfRelease value)
      call (.cfRelease value)
      return some v
    else
      call (.cfRelease value)
      return none

def readU32Property (entry : UInt32) (key : String) : IokitProgram (Option UInt32) := do
  let v ← readDowncast .number entry key fun number => call (.numberToI64 number)
  return v.join.bind u32TryFromI64

def readStringProperty (entry : UInt32) (key : String) : IokitProgram (Option String) :=
  readDowncast .string entry key fun string => call (.stringToString string)

def registryEntryId (entry : UInt32) : IokitProgram (Option UInt64) := do
  let (kr, id) ← call (.registryEntryGetRegistryEntryID entry)
  if kr = kernSuccess then return some id
  else return none

/-! ## Opening -/

structure TransportInner where
  dev : UInt64
  interfaceNumber : UInt8
  deriving DecidableEq

def TransportInner.drop (self : TransportInner) : IokitProgram Unit :=
  if self.dev = 0 then .done () else call (.deviceRelease self.dev)

def lookupServiceByRegistryId (registryId : UInt64) : IokitM UInt32 := do
  let dict ← call (.registryEntryIDMatching registryId)
  if dict = 0 then throw .notFound
  else
    let svc ← call (.serviceGetMatchingService dict)
    if svc = 0 then throw .notFound
    else return svc

def createDeviceInterface (service : UInt32) : IokitM UInt64 := do
  let (kr, plugin) ← call (.createPlugInInterfaceForService service)
  if kr ≠ kernSuccess ∨ plugin = 0 then
    throw (.usb s!"macos: IOCreatePlugInInterfaceForService returned {hexAlt010 kr}")
  else
    let (qkr, iface) ← call (.pluginQueryInterface plugin)
    call (.pluginRelease plugin)
    if qkr ≠ kernSuccess ∨ iface = 0 then
      throw (.usb s!"macos: QueryInterface(IOUSBDeviceInterface) returned HRESULT {hexAlt010 qkr}")
    else return iface

def videoControlFilter : IOUSBFindInterfaceRequest where
  bInterfaceClass := uvcInterfaceClassVideo
  bInterfaceSubClass := uvcInterfaceSubclassVideoControl
  bInterfaceProtocol := kusbFindInterfaceDontCare
  bAlternateSetting := kusbFindInterfaceDontCare

def findVideoControlInterfaceNumber (dev : UInt64) : IokitM UInt8 := do
  let (kr, iter) ← call (.createInterfaceIterator dev videoControlFilter)
  if kr ≠ kernSuccess ∨ iter = 0 then
    throw (.usb s!"macos: CreateInterfaceIterator returned {hexAlt010 kr}")
  else
    let svc ← call (.iteratorNext iter)
    if svc = 0 then
      IOObject.drop iter
      throw (.usb "macos: no VideoControl interface on this device")
    else
      let n ← readU32Property svc "bInterfaceNumber"
      IOObject.drop svc
      IOObject.drop iter
      match n.bind u8TryFromU32 with
      | some n => return n
      | none => throw (.usb "macos: bInterfaceNumber missing on VideoControl interface")

/-- The rest of `open`, under the guard of the service. -/
def openService (service : UInt32) : IokitM TransportInner := do
  let dev ← createDeviceInterface service
  match ← ExceptT.lift (findVideoControlInterfaceNumber dev).run with
  | .ok interfaceNumber => return ⟨dev, interfaceNumber⟩
  | .error e =>
    call (.deviceRelease dev)
    throw e

def MacosTransport.open (info : DeviceInfo MacosLocation) : IokitM TransportInner := do
  let deviceService ← lookupServiceByRegistryId info.location.registryId
  let opened ← ExceptT.lift (openService deviceService).run
  ServiceRelease.drop deviceService
  .mk (.done opened)

/-! ## Transfers -/

inductive UvcRequestDirection where
  | hostToDevice | deviceToHost
  deriving DecidableEq

def buildRequest {n : ℕ} (direction : UvcRequestDirection) (bRequest entity selector interfaceNumber : UInt8)
    (data : Bytes n) : Result (IOUSBDevRequest n) :=
  if 65536 ≤ n then .error (.usb s!"macos: control transfer length {n} exceeds u16::MAX")
  else .ok {
    bmRequestType := match direction with
      | .hostToDevice => 0x21
      | .deviceToHost => 0xa1
    bRequest := bRequest
    wValue := selector.toUInt16 <<< 8
    wIndex := (entity.toUInt16 <<< 8) ||| interfaceNumber.toUInt16
    wLength := UInt16.ofNat n
    pData := data
    wLenDone := 0 }

def deviceRequest {n : ℕ} (dev : UInt64) (req : IOUSBDevRequest n) : IokitM (Int32 × IOUSBDevRequest n) :=
  if dev = 0 then throw (.usb "macos: device interface pointer is null")
  else ExceptT.lift (call (.deviceRequest dev n req))

def ioReturnError (stage : String) (kr : Int32) : Error :=
  let detail :=
    if kr = kioReturnExclusiveAccess then
      "kIOReturnExclusiveAccess - another app (FaceTime / Zoom / OBS / Cheese) is using the camera " ++
        "in a way that blocks raw USB control"
    else ""
  .usb s!"macos: {stage} returned IOReturn {hexAlt010 kr} {detail}"

namespace MacosTransport

def setCur : UInt8 := 0x01

/-- `payload.to_vec()`. -/
def toVec (payload : List UInt8) : Bytes payload.length := .ofList payload

/-- The lock is held from the first line of the body to its end. -/
def uvcSet (self : TransportInner) (entity selector : UInt8) (payload : List UInt8) :
    Mutex.Carried IokitOp.Reply (Result Unit) :=
  .critical <| ExceptT.run do
    let buf := toVec payload
    let req ← (.mk (.done (buildRequest .hostToDevice setCur entity selector self.interfaceNumber buf)) :
      IokitM (IOUSBDevRequest payload.length))
    let (kr, _) ← deviceRequest self.dev req
    if kr ≠ kernSuccess then throw (ioReturnError "DeviceRequest SET_CUR" kr)
    else return ()

def uvcGet {n : ℕ} (self : TransportInner) (req : UvcGet) (entity selector : UInt8) (out : Bytes n) :
    Mutex.Carried IokitOp.Reply (Bytes n × Result ℕ) :=
  .critical do
    match buildRequest .deviceToHost req.bRequest entity selector self.interfaceNumber out with
    | .error e => return (out, .error e)
    | .ok devReq =>
      match ← (deviceRequest self.dev devReq).run with
      | .error e => return (out, .error e)
      | .ok (kr, devReq) =>
        if kr ≠ kernSuccess then return (devReq.pData, .error (ioReturnError "DeviceRequest GET_*" kr))
        else return (devReq.pData, .ok devReq.wLenDone.toNat)

/-- Every transport call carried out by calls into IOKit. -/
def answer (self : TransportInner) : (op : TransportOp) → Mutex.Carried IokitOp.Reply op.Reply
  | .uvcSet entity selector payload => uvcSet self entity selector payload
  | .uvcGet req entity selector _ out => uvcGet self req entity selector out
  | .sleep millis => .plain (.sleep millis) fun _ => ()

end MacosTransport

/-! ## Enumeration -/

def matchingIter : IokitProgram (Option UInt32) := do
  let matching ← call .serviceMatching
  if matching = 0 then return none
  else
    let (kr, iter) ← call (.serviceGetMatchingServices matching)
    if kr ≠ kernSuccess ∨ iter = 0 then return none
    else return some iter

def deviceInfoFromService (service : UInt32) : IokitProgram (Option (DeviceInfo MacosLocation)) := do
  match ← readU32Property service "idVendor" with
  | none => return none
  | some vendorId =>
    match ← readU32Property service "idProduct" with
    | none => return none
    | some productId =>
      if vendorId ≠ Meet2.vendorId.toUInt32 then return none
      else if u16TryFromU32 productId = some Meet2.productIdMeet2 then
        let serial ← readStringProperty service "USB Serial Number"
        match ← registryEntryId service with
        | none => return none
        | some registryId =>
          match u16TryFromU32 vendorId, u16TryFromU32 productId with
          | some vendorId, some productId =>
            return some {
              vendorId := vendorId
              productId := productId
              productType := .meet2
              serial := serial.getD ""
              location := ⟨registryId⟩ }
          | _, _ => return none
      else return none

/-- The first `rounds` rounds of the loop; `none` where the iterator has given a service in each of them. -/
def enumerateFrom (iter : UInt32) :
    ℕ → List (DeviceInfo MacosLocation) → IokitProgram (Option (List (DeviceInfo MacosLocation)))
  | 0, _ => return none
  | rounds + 1, out => do
    let raw ← call (.iteratorNext iter)
    if raw = 0 then return some out
    else
      let info ← deviceInfoFromService raw
      IOObject.drop raw
      enumerateFrom iter rounds (out ++ info.toList)

def enumerate (rounds : ℕ) : IokitProgram (Option (List (DeviceInfo MacosLocation))) := do
  match ← matchingIter with
  | none => return some []
  | some iter =>
    let out ← enumerateFrom iter rounds []
    IOObject.drop iter
    return out

end Libobsbot.Macos

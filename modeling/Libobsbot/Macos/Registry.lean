import Libobsbot.Foundations.Referents
import Libobsbot.Macos.Ownership

/-! # The I/O registry

What the calls into IOKit are about: USB devices with their properties and interfaces, and the referents of the
references that the calls hand out. IOKit numbers every entry of the registry once.
-/

namespace Libobsbot.Macos
open Foundations
open Foundations.Referents
set_option autoImplicit false

/-- The number of a `CFNumber` as an `i64`, where it has one. -/
inductive CFValue where
  | number (v : Option Int64)
  | string (text : String)
  | other
  deriving DecidableEq

def CFValue.kind : CFValue → Option CFKind
  | .number _ => some .number
  | .string _ => some .string
  | .other => none

inductive Matching where
  | usbDevices
  | entryID (registryId : UInt64)
  deriving DecidableEq

/-- The calls that IOKit may refuse for a device. -/
inductive Access where
  | plugIn | deviceInterface | interfaceIterator

structure Registry (Entry : Type) where
  /-- In the order of an iterator over `IOUSBDevice`. -/
  usbDevices : List Entry
  registryId : Entry → UInt64
  find : UInt64 → Option Entry
  property : Entry → String → Option CFValue
  interfaces : Entry → List Entry
  /-- The class, subclass, protocol and alternate setting of an interface. -/
  interfaceKind : Entry → IOUSBFindInterfaceRequest
  grants : Entry → Access → Bool
  find_registryId : ∀ e ∈ usbDevices, find (registryId e) = some e

inductive Thing (Entry : Type) where
  | string (text : String)
  | value (v : CFValue)
  | matching (matching : Matching)
  /-- An iterator, with what is still to come. -/
  | entries (rest : List Entry)
  | entry (e : Entry)
  | plugIn (e : Entry)
  | device (e : Entry)
  deriving DecidableEq

def IOUSBFindInterfaceRequest.admits (filter kind : IOUSBFindInterfaceRequest) : Bool :=
  let admitsField (wanted actual : UInt16) := wanted == kusbFindInterfaceDontCare || wanted == actual
  admitsField filter.bInterfaceClass kind.bInterfaceClass &&
    admitsField filter.bInterfaceSubClass kind.bInterfaceSubClass &&
    admitsField filter.bInterfaceProtocol kind.bInterfaceProtocol &&
    admitsField filter.bAlternateSetting kind.bAlternateSetting

namespace Registry
variable {Entry : Type} (R : Registry Entry)

abbrev Holding (Entry : Type) : Type := Held IoRef (Thing Entry)

/-! ## The calls -/

/-- A call that hands something out next to a status, where it is granted. -/
def HandsOut {Address : Type} [Zero Address] (held : Holding Entry) (granted : Bool) (r : Int32 × Address)
    (ref : Address → IoRef) (thing : Thing Entry) (held' : Holding Entry) : Prop :=
  if granted then r.1 = kernSuccess ∧ r.2 ≠ 0 ∧ held' = held + {(ref r.2, thing)}
  else (r.1 ≠ kernSuccess ∨ r.2 = 0) ∧ held' = held

/-- A call that hands out an object, where there is one. -/
def HandsObject (held : Holding Entry) (found : Option (Thing Entry)) (svc : UInt32) (held' : Holding Entry) : Prop :=
  match found with
  | none => svc = 0 ∧ held' = held
  | some thing => svc ≠ 0 ∧ held' = held + {(.object svc, thing)}

/-- What the call answers, and what is held once it has. -/
def Serves (held : Holding Entry) : (op : IokitOp) → op.Reply → Holding Entry → Prop
  | .registryEntryIDMatching id, dict, held' => dict ≠ 0 ∧ held' = held + {(.cf dict, .matching (.entryID id))}
  | .serviceMatching, dict, held' => dict ≠ 0 ∧ held' = held + {(.cf dict, .matching .usbDevices)}
  | .serviceGetMatchingService dict, svc, held' => ∃ kept id, held = kept + {(.cf dict, .matching (.entryID id))} ∧
      HandsObject kept ((R.find id).map .entry) svc held'
  | .serviceGetMatchingServices dict, r, held' => ∃ kept, held = kept + {(.cf dict, .matching .usbDevices)} ∧
      HandsOut kept true r .object (.entries R.usbDevices) held'
  | .registryEntryGetRegistryEntryID entry, r, held' => ∃ e, (.object entry, .entry e) ∈ held ∧
      r = (kernSuccess, R.registryId e) ∧ held' = held
  | .registryEntryCreateCFProperty entry key, value, held' => ∃ e text, (.object entry, .entry e) ∈ held ∧
      (.cf key, .string text) ∈ held ∧ match R.property e text with
        | none => value = 0 ∧ held' = held
        | some v => value ≠ 0 ∧ held' = held + {(.cf value, .value v)}
  | .iteratorNext iter, svc, held' => ∃ kept rest, held = kept + {(.object iter, .entries rest)} ∧
      HandsObject (kept + {(.object iter, .entries rest.tail)}) (rest.head?.map .entry) svc held'
  | .objectRelease object, _, held' => ∃ thing, held = held' + {(.object object, thing)}
  | .createPlugInInterfaceForService service, r, held' => ∃ e, (.object service, .entry e) ∈ held ∧
      HandsOut held (R.grants e .plugIn) r .plugin (.plugIn e) held'
  | .pluginQueryInterface plugin, r, held' => ∃ e, (.plugin plugin, .plugIn e) ∈ held ∧
      HandsOut held (R.grants e .deviceInterface) r .device (.device e) held'
  | .pluginRelease plugin, _, held' => ∃ thing, held = held' + {(.plugin plugin, thing)}
  | .createInterfaceIterator dev filter, r, held' => ∃ e, (.device dev, .device e) ∈ held ∧
      HandsOut held (R.grants e .interfaceIterator) r .object
        (.entries ((R.interfaces e).filter fun i => filter.admits (R.interfaceKind i))) held'
  | .deviceRequest dev _ _, _, held' => ∃ e, (.device dev, .device e) ∈ held ∧ held' = held
  | .deviceRelease dev, _, held' => ∃ thing, held = held' + {(.device dev, thing)}
  | .stringNew text, string, held' => held' = held + {(.cf string, .string text)}
  | .downcast value kind, isKind, held' => ∃ v, (.cf value, .value v) ∈ held ∧ isKind = (v.kind == some kind) ∧
      held' = if isKind then held + {(.cf value, .value v)} else held
  | .numberToI64 number, v, held' => (.cf number, .value (.number v)) ∈ held ∧ held' = held
  | .stringToString string, text, held' => (.cf string, .value (.string text)) ∈ held ∧ held' = held
  | .cfRelease value, _, held' => ∃ thing, held = held' + {(.cf value, thing)}
  | .sleep _, _, held' => held' = held

/-! ## Cameras -/

def integerAt (e : Entry) (key : String) : Option Int :=
  match R.property e key with
  | some (.number (some v)) => some v.toInt
  | _ => none

def textAt (e : Entry) (key : String) : Option String :=
  match R.property e key with
  | some (.string text) => some text
  | _ => none

def isMeet2 (e : Entry) : Bool := R.integerAt e "idVendor" == some 0x3564 && R.integerAt e "idProduct" == some 0xfefb

def listing (e : Entry) : DeviceInfo MacosLocation where
  vendorId := 0x3564
  productId := 0xfefb
  productType := .meet2
  serial := (R.textAt e "USB Serial Number").getD ""
  location := ⟨R.registryId e⟩

def camerasOf (devices : List Entry) : List (DeviceInfo MacosLocation) := (devices.filter R.isMeet2).map R.listing

/-- A VideoControl interface: class 14, subclass 1. -/
def isVideoControl (i : Entry) : Bool :=
  (R.interfaceKind i).bInterfaceClass == 14 && (R.interfaceKind i).bInterfaceSubClass == 1

/-- The number of the first VideoControl interface. -/
def IsControlNumber (e : Entry) (n : UInt8) : Prop :=
  ∃ i, (R.interfaces e).find? R.isVideoControl = some i ∧ R.integerAt i "bInterfaceNumber" = some n.toNat

def Grants (e : Entry) : Prop := ∀ access, R.grants e access = true

/-- What opening a registry id may come to. Only a device that can be controlled is opened, and it is the one of that
id; nothing but its device interface is held in the end. -/
inductive Opened (id : UInt64) : Result TransportInner → Holding Entry → Prop
  | gone (none : R.find id = none) : Opened id (.error .notFound) 0
  | refused {e : Entry} {message : String} (found : R.find id = some e)
      (refusal : ¬ (R.Grants e ∧ ∃ n, R.IsControlNumber e n)) : Opened id (.error (.usb message)) 0
  | opened {e : Entry} {dev : UInt64} {n : UInt8} (found : R.find id = some e) (grants : R.Grants e)
      (number : R.IsControlNumber e n) : Opened id (.ok ⟨dev, n⟩) {(.device dev, .device e)}

end Registry

end Libobsbot.Macos

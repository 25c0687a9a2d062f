import Libobsbot.Foundations.HashMap
import Libobsbot.Source.Meet2
import Libobsbot.Source.VideoNodes

/-! # Enumeration on Linux

`mod linux` of `crates/libobsbot-core/src/discovery.rs`, over the file system that `open_for` walks too. The order in
which the map gives up its values is a parameter.
-/

namespace Libobsbot.Linux
open Foundations Uvcvideo
set_option autoImplicit false

def readU8 (path : Path) : SysfsM UInt8 :=
  .mk (.perform (.readToString path) fun r => match r with
    | .error e => .done (.error (.usb s!"read {path.display}: {e}"))
    | .ok s => match parseU8 (trim s) with
      | some b => .done (.ok b)
      | none => .done (.error (.usb s!"parse u8 from {path.display}")))

/-- `char::to_digit(16)`. -/
def toHexDigit (c : Char) : Option ℕ :=
  if '0' ≤ c ∧ c ≤ '9' then some (c.toNat - '0'.toNat)
  else if 'a' ≤ c ∧ c ≤ 'f' then some (c.toNat - 'a'.toNat + 10)
  else if 'A' ≤ c ∧ c ≤ 'F' then some (c.toNat - 'A'.toNat + 10)
  else none

/-- `u16::from_str_radix(_, 16)`: digits with at most one leading `+`, refused on overflow. -/
def parseU16Hex (s : List Char) : Option UInt16 :=
  let digits := match s with
    | '+' :: rest => rest
    | _ => s
  if digits = [] then none
  else (digits.foldlM parseDigit 0).map UInt16.ofNat
where
  parseDigit (acc : ℕ) (c : Char) : Option ℕ := do
    let digit ← toHexDigit c
    if acc * 16 + digit < 65536 then some (acc * 16 + digit) else none

example : parseU16Hex "+FefB".toList = some Meet2.productIdMeet2 ∧ parseU16Hex "10000".toList = none := by
  decide +kernel

def readU16Hex (path : Path) : SysfsM UInt16 :=
  .mk (.perform (.readToString path) fun r => match r with
    | .error e => .done (.error (.usb s!"read {path.display}: {e}"))
    | .ok s => match parseU16Hex (trim s) with
      | some n => .done (.ok n)
      | none => .done (.error (.usb s!"parse u16 hex from {path.display}")))

abbrev DeviceMap : Type := HashMap (UInt8 × UInt8) (DeviceInfo LinuxLocation)

def keyOf (info : DeviceInfo LinuxLocation) : UInt8 × UInt8 := (info.location.busnum, info.location.devnum)

/-- What an entry of the class directory adds to the map; `none` where the loop continues with the next entry. -/
def cameraAt (entry : OsString) : SysfsProgram (Option (DeviceInfo LinuxLocation)) := do
  let deviceLink := (videoClass.join entry).join (osStr "device")
  match ← .perform (.canonicalize deviceLink) .done with
  | .error _ => return none
  | .ok ifaceDir =>
    match ifaceDir.parent with
    | none => return none
    | some devDir =>
      -- the tuple is made of all four before any of them is looked at
      let busnum ← (readU8 (devDir.join (osStr "busnum"))).run
      let devnum ← (readU8 (devDir.join (osStr "devnum"))).run
      let vendorId ← (readU16Hex (devDir.join (osStr "idVendor"))).run
      let productId ← (readU16Hex (devDir.join (osStr "idProduct"))).run
      match busnum, devnum, vendorId, productId with
      | .ok busnum, .ok devnum, .ok vendorId, .ok productId =>
        if vendorId ≠ Meet2.vendorId then return none
        else if productId = Meet2.productIdMeet2 then
          let serial ← .perform (.readToString (devDir.join (osStr "serial"))) .done
          return some {
            vendorId := vendorId
            productId := productId
            productType := .meet2
            serial := String.ofList (trim (serial.toOption.getD ""))
            location := ⟨busnum, devnum⟩ }
        else return none
      | _, _, _, _ => return none

/-- `for entry in dir.flatten()`. -/
def collectDevices : List (Except String OsString) → DeviceMap → SysfsProgram DeviceMap
  | [], byDev => return byDev
  | .error _ :: dir, byDev => collectDevices dir byDev
  | .ok entry :: dir, byDev => do
    match ← cameraAt entry with
    | none => collectDevices dir byDev
    | some info => collectDevices dir (orInsert byDev (keyOf info) info)

def enumerate (order : (byDev : DeviceMap) → Listing byDev) : SysfsProgram (List (DeviceInfo LinuxLocation)) := do
  match ← .perform (.readDir videoClass) .done with
  | .error _ => return []
  | .ok dir =>
    let byDev ← collectDevices dir ∅
    return (order byDev).toList.map Sigma.snd

end Libobsbot.Linux

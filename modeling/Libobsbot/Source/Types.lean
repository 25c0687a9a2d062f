import Libobsbot.Foundations.Bytes

/-! # Public values: errors, enums, device descriptions, status, events

`crates/libobsbot-core/src/{error,types,status,discovery}.rs`. A `DeviceInfo` carries what the platform
adds to it (`LinuxLocation`, `MacosLocation`) as its `location`.
-/

namespace Libobsbot
open Foundations
set_option autoImplicit false

inductive Error where
  | usb (message : String)
  | timeout
  | badResponse (selector : UInt8) (bytes : List UInt8)
  | unsupported (message : String)
  | notFound
  | outOfRange
  | firmwareUnsupported (observed required : String)
  deriving DecidableEq

abbrev Result (α : Type) : Type := Except Error α

inductive ProductType where
  | meet2
  deriving DecidableEq

inductive FovType where
  | wide | medium | narrow
  deriving DecidableEq

/-- Field order is the derived lexicographic order. -/
structure FirmwareVersion where
  major : UInt8
  minor : UInt8
  patch : UInt8
  build : UInt8
  deriving DecidableEq

/-- `derive(PartialOrd, Ord)`. -/
def FirmwareVersion.cmp (v w : FirmwareVersion) : Ordering :=
  (compare v.major w.major).then <|
    (compare v.minor w.minor).then <| (compare v.patch w.patch).then <| compare v.build w.build

instance : LT FirmwareVersion := ⟨fun v w => v.cmp w = .lt⟩

/-- `str::parse::<u8>`: digits with at most one leading `+`, refused on overflow. -/
def parseU8 (s : List Char) : Option UInt8 :=
  let digits := match s with
    | '+' :: rest => rest
    | _ => s
  if digits = [] then none
  else (digits.foldlM parseDigit 0).map UInt8.ofNat
where
  parseDigit (acc : ℕ) (c : Char) : Option ℕ :=
    if c.isDigit then
      if acc * 10 + (c.toNat - 48) < 256 then some (acc * 10 + (c.toNat - 48)) else none
    else none

namespace FirmwareVersion

def parse (s : String) : Option FirmwareVersion :=
  match s.toList.splitOn '.' with
  | [a, b, c, d] => do
    let major ← parseU8 a
    let minor ← parseU8 b
    let patch ← parseU8 c
    let build ← parseU8 d
    return ⟨major, minor, patch, build⟩
  | _ => none

/-- `Display`. -/
def toString (v : FirmwareVersion) : String :=
  s!"{v.major.toNat}.{v.minor.toNat}.{v.patch.toNat}.{v.build.toNat}"

end FirmwareVersion

inductive AeMode where
  | manual | auto | shutterPriority | aperturePriority
  deriving DecidableEq

inductive AntiFlicker where
  | off | hz50 | hz60 | auto
  deriving DecidableEq

inductive WdrMode where
  | off | dol2To1
  deriving DecidableEq

inductive WhiteBalanceMode where
  | auto | manual
  deriving DecidableEq

inductive AutoFramingMode where
  | group | singleCloseUp | singleUpperBody
  deriving DecidableEq

inductive AiMode where
  | none | group | human | hand | whiteBoard | desk
  deriving DecidableEq

inductive MediaBgMode where
  | disable | color | replace | blur
  deriving DecidableEq

inductive MediaBgColor where
  | disable | null | blue | green | red | black | white
  deriving DecidableEq

inductive MediaMode where
  | normal | background | autoFrame
  deriving DecidableEq

inductive Cadence where
  | slow | fast
  deriving DecidableEq

def Cadence.periodMs : Cadence → ℕ
  | .slow => 2500
  | .fast => 25

structure Status where
  firmware : String
  serial : String
  brightness : Int32
  contrast : Int32
  saturation : Int32
  zoom : Float32
  pan : Float32
  tilt : Float32

/-- `Status::default()`. -/
def Status.default : Status where
  firmware := ""
  serial := ""
  brightness := 0
  contrast := 0
  saturation := 0
  zoom := 0
  pan := 0
  tilt := 0

structure LinuxLocation where
  busnum : UInt8
  devnum : UInt8
  deriving DecidableEq

structure MacosLocation where
  registryId : UInt64
  deriving DecidableEq

structure DeviceInfo (Location : Type) where
  vendorId : UInt16
  productId : UInt16
  productType : ProductType
  serial : String
  location : Location
  deriving DecidableEq

inductive Event where
  | deviceAdded (serial : String)
  | deviceRemoved (serial : String)
  | status (serial : String) (snapshot : Status)

end Libobsbot

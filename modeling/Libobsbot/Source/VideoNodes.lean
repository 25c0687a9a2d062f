import Libobsbot.Foundations.Ascii
import Libobsbot.Foundations.Program
import Libobsbot.Source.Types

/-! # Discovery of `/dev/videoN`

The last section of `crates/libobsbot-core/src/transport/uvcvideo.rs`, as a program over the file system. A name is the
bytes of its `OsString`, a path the names of its components from the root down; a failed call replies with the text of
its `io::Error`, and an opened file is its descriptor.
-/

namespace Libobsbot.Uvcvideo
open Foundations
set_option autoImplicit false

abbrev OsString : Type := List UInt8

abbrev Path : Type := List OsString

def osStr (s : String) : OsString := utf8Bytes s

namespace Path

def join (path : Path) (name : OsString) : Path := path ++ [name]

/-- The root has no parent. -/
def parent : Path → Option Path
  | [] => none
  | name :: names => some (name :: names).dropLast

/-! ## `String::from_utf8_lossy`, in which `Path::display` shows each name -/

/-- A sequence not yet complete: the bits so far, how many bytes are left, and where the next must lie. -/
structure Partial where
  bits : ℕ
  left : ℕ
  low : UInt8
  high : UInt8

def replacement : Char := '\uFFFD'

def lossyFirst (b : UInt8) : List Char × Option Partial :=
  if b < 0x80 then ([Char.ofNat b.toNat], none)
  else if 0xC2 ≤ b ∧ b ≤ 0xDF then ([], some ⟨b.toNat - 0xC0, 1, 0x80, 0xBF⟩)
  else if 0xE0 ≤ b ∧ b ≤ 0xEF then
    ([], some ⟨b.toNat - 0xE0, 2, if b = 0xE0 then 0xA0 else 0x80, if b = 0xED then 0x9F else 0xBF⟩)
  else if 0xF0 ≤ b ∧ b ≤ 0xF4 then
    ([], some ⟨b.toNat - 0xF0, 3, if b = 0xF0 then 0x90 else 0x80, if b = 0xF4 then 0x8F else 0xBF⟩)
  else ([replacement], none)

/-- A byte that does not fit ends the sequence before it and is looked at again as a first byte. -/
def lossyNext (pending : Option Partial) (b : UInt8) : List Char × Option Partial :=
  match pending with
  | none => lossyFirst b
  | some p =>
    if p.low ≤ b ∧ b ≤ p.high then
      let bits := p.bits * 64 + (b.toNat - 0x80)
      if p.left = 1 then ([Char.ofNat bits], none) else ([], some ⟨bits, p.left - 1, 0x80, 0xBF⟩)
    else (replacement :: (lossyFirst b).1, (lossyFirst b).2)

def lossy : Option Partial → List UInt8 → List Char
  | none, [] => []
  | some _, [] => [replacement]
  | pending, b :: bytes => (lossyNext pending b).1 ++ lossy (lossyNext pending b).2 bytes

def display (path : Path) : String :=
  "/" ++ "/".intercalate (path.map fun name => String.ofList (lossy none name))

example : display [osStr "dev", [0xC3, 0xA9, 0xE2, 0x82, 0x2E, 0xFF]] = "/dev/é\uFFFD.\uFFFD" := by decide +kernel

end Path

/-! ## The file system -/

inductive SysfsOp where
  | readDir (path : Path)
  | canonicalize (path : Path)
  | readToString (path : Path)
  | openReadWrite (path : Path)

abbrev SysfsOp.Reply : SysfsOp → Type
  | .readDir _ => Except String (List (Except String OsString))
  | .canonicalize _ => Except String Path
  | .readToString _ => Except String String
  | .openReadWrite _ => Except String ℕ

abbrev SysfsProgram (α : Type) : Type := Program SysfsOp SysfsOp.Reply α

abbrev SysfsM (α : Type) : Type := ExceptT Error (Program SysfsOp SysfsOp.Reply) α

/-- `char::is_whitespace`. -/
def isWhitespace (c : Char) : Bool :=
  let n := c.toNat
  (0x09 ≤ n && n ≤ 0x0D) || (0x2000 ≤ n && n ≤ 0x200A) ||
    [0x20, 0x85, 0xA0, 0x1680, 0x2028, 0x2029, 0x202F, 0x205F, 0x3000].contains n

def trim (s : String) : List Char :=
  ((s.toList.dropWhile isWhitespace).reverse.dropWhile isWhitespace).reverse

def readU8 (path : Path) : SysfsM UInt8 :=
  .mk (.perform (.readToString path) fun r => match r with
    | .error e => .done (.error (.usb e))
    | .ok s => match parseU8 (trim s) with
      | some b => .done (.ok b)
      | none => .done (.error (.usb s!"parse u8 from {path.display}")))

def videoClass : Path := [osStr "sys", osStr "class", osStr "video4linux"]

/-! ## `open_for` -/

/-- The USB numbers behind an entry of the class directory; `none` where the loop continues with the next entry. -/
def usbNumbers (entry : OsString) : SysfsProgram (Option (UInt8 × UInt8)) := do
  let deviceLink := (videoClass.join entry).join (osStr "device")
  match ← .perform (.canonicalize deviceLink) .done with
  | .error _ => return none
  | .ok ifaceDir =>
    match ifaceDir.parent with
    | none => return none
    | some devDir =>
      -- both files are read before either result is looked at
      let b ← (readU8 (devDir.join (osStr "busnum"))).run
      let d ← (readU8 (devDir.join (osStr "devnum"))).run
      match b, d with
      | .ok b, .ok d => return some (b, d)
      | _, _ => return none

def matchesIn (usbBusnum usbDevnum : UInt8) :
    List (Except String OsString) → List OsString → SysfsM (List OsString)
  | [], found => return found
  | .error e :: _, _ => throw (.usb s!"readdir: {e}")
  | .ok entry :: dir, found => do
    let numbers ← (usbNumbers entry : SysfsProgram (Option (UInt8 × UInt8)))
    if numbers = some (usbBusnum, usbDevnum) then
      matchesIn usbBusnum usbDevnum dir (found ++ [entry])
    else matchesIn usbBusnum usbDevnum dir found

/-- `Vec<OsString>::sort`: names are compared bytewise. -/
def sortNames (names : List OsString) : List OsString := names.insertionSort (· ≤ ·)

def readVideoClass : SysfsM (List (Except String OsString)) :=
  .mk (.perform (.readDir videoClass) fun r =>
    .done (r.mapError fun e => .usb s!"read /sys/class/video4linux: {e}"))

def openFirst : List OsString → SysfsM ℕ
  | [] => throw .notFound
  | name :: _ =>
    let path : Path := Path.join [osStr "dev"] name
    .mk (.perform (.openReadWrite path) fun r =>
      .done (r.mapError fun e => .usb s!"open {path.display}: {e}"))

def openFor (usbBusnum usbDevnum : UInt8) : SysfsM ℕ := do
  let dir ← readVideoClass
  let found ← matchesIn usbBusnum usbDevnum dir []
  openFirst (sortNames found)

end Libobsbot.Uvcvideo

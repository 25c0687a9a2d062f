import Libobsbot.Source.Types

/-! # Meet 2 command table

`crates/libobsbot-core/src/devices/meet2.rs`: the constants, the mode-register payload, CRC-16/USB, the
selector-0x02 frame builder and the reply parsers. A bound that the source checks by panicking is a
`Checked` result here.
-/

namespace Libobsbot.Meet2
open Foundations
set_option autoImplicit false

def vendorId : UInt16 := 0x3564
def productIdMeet2 : UInt16 := 0xfefb
def xuEntityId : UInt8 := 2
def xuSelModeRegister : UInt8 := 0x06

def modeMediaMode : UInt8 := 0x00
def modeWdr : UInt8 := 0x01
def modeFaceAe : UInt8 := 0x03
def modeFov : UInt8 := 0x04
def modeAiMode : UInt8 := 0x16
def modeAudioAgc : UInt8 := 0x17
def modeVertical : UInt8 := 0x0c
def modeFlipHorizontal : UInt8 := 0x14
def modeLed : UInt8 := 0x18
def modeBgMode : UInt8 := 0x05
def modeMaskLevel : UInt8 := 0x06
def modeBgColor : UInt8 := 0x10
def modeBgEnable : UInt8 := 0x11
def modeDisableSleepWithoutStream : UInt8 := 0x12
def modeSuspendTime : UInt8 := 0x0b
def modeMicDuringSleep : UInt8 := 0x13
def modeButtonMode : UInt8 := 0x07
def modeAutoFraming : UInt8 := 0x0d

abbrev modeRegisterPayloadLen : ℕ := 60

def statusBlobMarker : UInt8 := 0x27
def statusWdrOffset : ℕ := 6
def statusFaceAeOffset : ℕ := 7
def statusAiModeOffset : ℕ := 0x18

/-- `u8::try_from(n).expect(message)`. -/
def u8TryFrom (n : ℕ) (message : String) : Checked UInt8 :=
  if n < 256 then .ok (UInt8.ofNat n) else .error message

/-- `u16::try_from(n).expect(message)`. -/
def u16TryFrom (n : ℕ) (message : String) : Checked UInt16 :=
  if n < 65536 then .ok (UInt16.ofNat n) else .error message

def modeRegisterPayload (controlId : UInt8) (valueBytes : List UInt8) :
    Checked (Bytes modeRegisterPayloadLen) := do
  let buf := Bytes.zeros modeRegisterPayloadLen
  let buf := buf.set 0 controlId
  let buf := buf.set 1 (← u8TryFrom valueBytes.length "mode-register value must fit in 255 bytes")
  buf.copyFromSlice 2 (2 + valueBytes.length) valueBytes

def minFw : String := "0.0.0"

def xuSelRpc : UInt8 := 0x02
abbrev rpcFrameLen : ℕ := 60
def rpcReplyPollAttempts : ℕ := 10
def rpcReplyPollDelayMs : ℕ := 20

def rpcCmdIdOffset : ℕ := 10
def rpcSubCmdIdOffset : ℕ := 11
def rpcLenOffset : ℕ := 12
def rpcPayloadOffset : ℕ := 16

def rpcGetFirmware : UInt8 × UInt8 := (0x08, 0x04)
def rpcGetSerial : UInt8 × UInt8 := (0xC8, 0x18)
def rpcGetDeviceHash : UInt8 × UInt8 := (0x08, 0x18)

/-! ## CRC-16/USB -/

/-- One turn of the inner loop. -/
def crcBit (crc : UInt16) : UInt16 :=
  if crc &&& 1 ≠ 0 then (crc >>> 1) ^^^ 0xA001 else crc >>> 1

/-- One turn of the outer loop: a byte is folded in, then eight bits are shifted out. -/
def crcByte (crc : UInt16) (b : UInt8) : UInt16 := crcBit^[8] (crc ^^^ b.toUInt16)

def crc16Usb (data : List UInt8) : UInt16 := ~~~ (data.foldl crcByte 0xFFFF)

/-! ## Request frames -/

def buildRpcFrame (seqByte subSeq cmdSet cmdId subCmdId : UInt8) (payload : List UInt8)
    (tailOffset : ℕ) (tail : List UInt8) : Checked (Bytes rpcFrameLen) := do
  assertThat (payload.length + 16 ≤ rpcFrameLen) "payload too long"
  assertThat (16 + payload.length ≤ tailOffset) "tail overlaps payload"
  assertThat (tailOffset + tail.length ≤ rpcFrameLen) "tail past frame"
  let buf := Bytes.zeros rpcFrameLen
  let buf := buf.set 0 0xAA
  let buf := buf.set 1 seqByte
  let buf := buf.set 2 subSeq
  let outerLen : UInt16 := 12
  let buf ← buf.copyFromSlice 4 6 (toLe 2 outerLen.toNat)
  let buf := buf.set 8 0x0A
  let buf := buf.set 9 cmdSet
  let buf := buf.set 10 cmdId
  let buf := buf.set 11 subCmdId
  let innerLen ← u16TryFrom payload.length "payload fits in u16"
  let buf ← buf.copyFromSlice 12 14 (toLe 2 innerLen.toNat)
  let buf ← buf.copyFromSlice 16 (16 + payload.length) payload
  let buf ← buf.copyFromSlice tailOffset (tailOffset + tail.length) tail
  let outer := crc16Usb (← slice buf.toList 0 outerLen.toNat)
  let buf ← buf.copyFromSlice 6 8 (toLe 2 outer.toNat)
  -- bits 5 and 6 of the sequence byte ask for the inner CRC
  if seqByte &&& 0x60 ≠ 0 then
    let innerEnd := 16 + payload.length
    let inner := crc16Usb (← slice buf.toList 12 innerEnd)
    buf.copyFromSlice 14 16 (toLe 2 inner.toNat)
  else
    return buf

def buildMacQueryRequest : Checked (Bytes rpcFrameLen) :=
  buildRpcFrame 0x01 0x00 0x0D 0x08 0x18 [] 16 []

/-! ## Replies -/

/-- `usize::checked_add`. -/
def checkedAdd (a b : ℕ) : Option ℕ := if a + b < 2 ^ 64 then some (a + b) else none

def parseRpcReply (buf : List UInt8) : Checked (Option (UInt8 × UInt8 × List UInt8)) := do
  if buf.length < rpcPayloadOffset then return none
  if (← index buf 0) ≠ 0xAA then return none
  -- reply direction marker 0x0D, 0x0A; requests have these flipped
  if (← index buf 8) ≠ 0x0D then return none
  if (← index buf 9) ≠ 0x0A then return none
  let cmdId ← index buf rpcCmdIdOffset
  let subCmdId ← index buf rpcSubCmdIdOffset
  let lo ← index buf rpcLenOffset
  let hi ← index buf (rpcLenOffset + 1)
  match checkedAdd rpcPayloadOffset (fromLe [lo, hi]) with
  | none => return none
  | some stop =>
    if buf.length < stop then return none
    let payload ← slice buf rpcPayloadOffset stop
    return some (cmdId, subCmdId, payload)

def decodeFirmwareReply (buf : List UInt8) : Checked (Option String) := do
  match ← parseRpcReply buf with
  | none => return none
  | some (cmdId, subCmdId, payload) =>
    if (cmdId, subCmdId) ≠ rpcGetFirmware ∨ payload.length < 4 then return none
    let major ← index payload 3
    let minor ← index payload 2
    let patch ← index payload 1
    let build ← index payload 0
    return some s!"{major.toNat}.{minor.toNat}.{patch.toNat}.{build.toNat}"

/-- `u8::is_ascii_graphic`: `'!'..='~'`. -/
def isAsciiGraphic (b : UInt8) : Bool := 0x21 ≤ b && b ≤ 0x7E

def decodeSerialReply (buf : List UInt8) : Checked (Option String) := do
  match ← parseRpcReply buf with
  | none => return none
  | some (cmdId, subCmdId, payload) =>
    if (cmdId, subCmdId) ≠ rpcGetSerial then return none
    let stop := (payload.findIdx? (· == 0)).getD payload.length
    let bytes ← slice payload 0 stop
    if bytes.any (fun b => !isAsciiGraphic b) then return none
    return String.fromUTF8? ⟨bytes.toArray⟩

def decodeMacQueryReply (buf : List UInt8) : Checked (Option (Bytes 6)) := do
  match ← parseRpcReply buf with
  | none => return none
  | some (cmdId, subCmdId, payload) =>
    if (cmdId, subCmdId) ≠ rpcGetDeviceHash ∨ payload.length < 24 then return none
    let mac ← slice payload 18 24
    -- `try_into().ok()`
    return if h : mac.length = 6 then some ⟨mac, h⟩ else none

end Libobsbot.Meet2

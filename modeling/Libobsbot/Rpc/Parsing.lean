import Libobsbot.Rpc.ShortReplies

/-! # What a decoder reads of a buffer

The parser and the three decoders are total on buffers of any length, and each is the parser followed by a function of
what it parsed. So a decoder depends on the magic, the marker, the command and the declared payload, and two decoders
never accept the same buffer.
-/

namespace Libobsbot.Meet2
open Foundations
set_option autoImplicit false

inductive ReplyDecoder where
  | firmware | serial | macQuery
  deriving DecidableEq

namespace ReplyDecoder

abbrev Value : ReplyDecoder → Type
  | firmware => String
  | serial => String
  | macQuery => Bytes 6

def decode : (d : ReplyDecoder) → List UInt8 → Checked (Option d.Value)
  | firmware => decodeFirmwareReply
  | serial => decodeSerialReply
  | macQuery => decodeMacQueryReply

def ids : ReplyDecoder → UInt8 × UInt8
  | firmware => rpcGetFirmware
  | serial => rpcGetSerial
  | macQuery => rpcGetDeviceHash

theorem ids_injective {d d' : ReplyDecoder} (h : d.ids = d'.ids) : d = d' := by
  cases d <;> cases d' <;> first | rfl | exact absurd h (by decide)

theorem decode_acceptsOnly (d : ReplyDecoder) : AcceptsOnly d.decode d.ids := by
  cases d with
  | firmware => exact decodeFirmwareReply_acceptsOnly
  | serial => exact decodeSerialReply_acceptsOnly
  | macQuery => exact decodeMacQueryReply_acceptsOnly

end ReplyDecoder

/-! ## The decoders' results -/

theorem decodeFirmwareReply_eq (buf : List UInt8) : decodeFirmwareReply buf =
    .ok (if IsReply buf ∧ commandAt buf = rpcGetFirmware ∧ 4 ≤ (payloadOf buf).length then
      some (ShortReads.versionText (payloadOf buf)) else none) := by
  by_cases hreply : IsReply buf
  · rw [decodeFirmwareReply, parseRpcReply_of_isReply hreply]
    by_cases haccepted : commandAt buf = rpcGetFirmware ∧ 4 ≤ (payloadOf buf).length
    · have hno : ¬ (((commandAt buf).1, (commandAt buf).2) ≠ rpcGetFirmware ∨ (payloadOf buf).length < 4) := by
        rw [not_or]
        exact ⟨not_not.mpr haccepted.1, Nat.not_lt.mpr haccepted.2⟩
      have hlen := haccepted.2
      rw [if_pos ⟨hreply, haccepted⟩]
      apply (if_neg hno).trans
      rw [index_getD (by omega), index_getD (by omega), index_getD (by omega), index_getD (by omega)]
      rfl
    · rw [if_neg fun h => haccepted h.2]
      refine if_pos ?_
      by_contra hno
      rw [not_or, not_not, Nat.not_lt] at hno
      exact haccepted hno
  · rw [if_neg fun h => hreply h.1, decodeFirmwareReply, parseRpcReply_of_not_isReply hreply]
    rfl

def IsGraphic (bytes : List UInt8) : Prop := ∀ b ∈ bytes, isAsciiGraphic b = true

instance (bytes : List UInt8) : Decidable (IsGraphic bytes) := inferInstanceAs (Decidable (∀ b ∈ bytes, _))

theorem decodeSerialReply_eq (buf : List UInt8) : decodeSerialReply buf =
    .ok (if IsReply buf ∧ commandAt buf = rpcGetSerial ∧ IsGraphic (ShortReads.serialText (payloadOf buf)) then
      String.fromUTF8? ⟨(ShortReads.serialText (payloadOf buf)).toArray⟩ else none) := by
  have hany : (ShortReads.serialText (payloadOf buf)).any (fun b => !isAsciiGraphic b) = true ↔
      ¬ IsGraphic (ShortReads.serialText (payloadOf buf)) := by
    simp only [List.any_eq_true, IsGraphic, not_forall, Bool.not_eq_true', Bool.not_eq_true]
    simp only [exists_prop]
  by_cases hreply : IsReply buf
  · rw [decodeSerialReply, parseRpcReply_of_isReply hreply]
    by_cases hids : commandAt buf = rpcGetSerial
    · apply (if_neg (not_not.mpr hids)).trans
      rw [slice_of_le (Nat.zero_le _) (ShortReads.nulIndex_le _), List.drop_zero]
      by_cases hgraphic : IsGraphic (ShortReads.serialText (payloadOf buf))
      · rw [if_pos ⟨hreply, hids, hgraphic⟩]
        exact if_neg (hany.not.mpr (not_not.mpr hgraphic))
      · rw [if_neg fun h => hgraphic h.2.2]
        exact if_pos (hany.mpr hgraphic)
    · rw [if_neg fun h => hids h.2.1]
      exact if_pos hids
  · rw [if_neg fun h => hreply h.1, decodeSerialReply, parseRpcReply_of_not_isReply hreply]
    rfl

theorem ReplyDecoder.decode_total (d : ReplyDecoder) (buf : List UInt8) : ∃ r, d.decode buf = .ok r := by
  cases d with
  | firmware => exact ⟨_, decodeFirmwareReply_eq buf⟩
  | serial => exact ⟨_, decodeSerialReply_eq buf⟩
  | macQuery =>
    by_cases hany : ∃ mac, Rpc.CarriesMac mac buf
    · obtain ⟨mac, hcarries⟩ := hany
      exact ⟨_, Rpc.decodeMacQueryReply_carried hcarries⟩
    · exact ⟨_, Rpc.decodeMacQueryReply_foreign (not_exists.mp hany)⟩

/-! ## Independence of everything undeclared -/

/-- Both buffers hold all of the payload they declare, and they agree on byte 0, on bytes 8 to 13 and on that
payload. -/
structure SameReply (buf buf' : List UInt8) : Prop where
  admits : rpcPayloadOffset + u16At buf rpcLenOffset ≤ buf.length
  admits' : rpcPayloadOffset + u16At buf' rpcLenOffset ≤ buf'.length
  magic : buf.getD 0 0 = buf'.getD 0 0
  header : (buf.drop 8).take 6 = (buf'.drop 8).take 6
  payload : payloadOf buf = payloadOf buf'

theorem SameReply.byteAt {buf buf' : List UInt8} (h : SameReply buf buf') {i : ℕ} (hi : 8 ≤ i) (hi' : i < 14) :
    buf.getD i 0 = buf'.getD i 0 := by
  have hread : ∀ l : List UInt8, l.getD i 0 = ((l.drop 8).take 6).getD (i - 8) 0 := by
    intro l
    rw [List.getD_eq_getElem?_getD, List.getD_eq_getElem?_getD, List.getElem?_take_of_lt (by omega),
      List.getElem?_drop, Nat.add_sub_cancel' hi]
  rw [hread, hread, h.header]

theorem SameReply.parse {buf buf' : List UInt8} (h : SameReply buf buf') :
    parseRpcReply buf = parseRpcReply buf' := by
  have hlen := h.admits
  have hlen' := h.admits'
  have hcommand : commandAt buf = commandAt buf' := by
    unfold commandAt rpcCmdIdOffset rpcSubCmdIdOffset
    rw [h.byteAt (by omega) (by omega), h.byteAt (by omega) (by omega)]
  have hreply : IsReply buf ↔ IsReply buf' := by
    unfold IsReply
    rw [h.magic, h.byteAt (i := 8) (by omega) (by omega), h.byteAt (i := 9) (by omega) (by omega)]
    constructor
    · rintro ⟨-, hmagic, hfirst, hsecond, -⟩
      exact ⟨by omega, hmagic, hfirst, hsecond, hlen'⟩
    · rintro ⟨-, hmagic, hfirst, hsecond, -⟩
      exact ⟨by omega, hmagic, hfirst, hsecond, hlen⟩
  rw [parseRpcReply_eq, parseRpcReply_eq, hcommand, h.payload]
  simp only [hreply]

/-- A decoder is a function of what the parser made of the buffer. -/
theorem ReplyDecoder.decode_congr (d : ReplyDecoder) {buf buf' : List UInt8}
    (h : parseRpcReply buf = parseRpcReply buf') : d.decode buf = d.decode buf' := by
  cases d with
  | firmware =>
    show decodeFirmwareReply buf = decodeFirmwareReply buf'
    rw [decodeFirmwareReply, h, decodeFirmwareReply]
  | serial =>
    show decodeSerialReply buf = decodeSerialReply buf'
    rw [decodeSerialReply, h, decodeSerialReply]
  | macQuery =>
    show decodeMacQueryReply buf = decodeMacQueryReply buf'
    rw [decodeMacQueryReply, h, decodeMacQueryReply]

/-! ## What is accepted -/

theorem isReply_iff (buf : List UInt8) : IsReply buf ↔ 16 ≤ buf.length ∧ buf[0]? = some 0xAA ∧
    buf[8]? = some 0x0D ∧ buf[9]? = some 0x0A ∧ 16 + u16At buf 12 ≤ buf.length := by
  rw [getElem?_eq_some_iff_getD (by decide), getElem?_eq_some_iff_getD (by decide),
    getElem?_eq_some_iff_getD (by decide)]
  exact Iff.rfl

theorem payloadOf_length {buf : List UInt8} (h : IsReply buf) : (payloadOf buf).length = u16At buf rpcLenOffset := by
  have hend := h.2.2.2.2
  rw [payloadOf, List.length_take, List.length_drop]
  omega

/-- Every buffer is parsed without a panic, as a reply exactly when it is one and then as the slice it declares; at
most one decoder accepts it; and what it holds outside of byte 0, bytes 8 to 13 and that slice is not read. -/
theorem reply_parsing_exact :
    (∀ buf : List UInt8, ∃ parsed, parseRpcReply buf = .ok parsed ∧
      (parsed.isSome ↔ 16 ≤ buf.length ∧ buf[0]? = some 0xAA ∧ buf[8]? = some 0x0D ∧ buf[9]? = some 0x0A ∧
        16 + u16At buf 12 ≤ buf.length) ∧
      ∀ cmdId subCmdId payload, parsed = some (cmdId, subCmdId, payload) →
        buf[10]? = some cmdId ∧ buf[11]? = some subCmdId ∧ payload = (buf.drop 16).take (u16At buf 12) ∧
          payload.length = u16At buf 12) ∧
    (∀ (d : ReplyDecoder) (buf : List UInt8), ∃ r, d.decode buf = .ok r) ∧
    (∀ (d d' : ReplyDecoder) (buf : List UInt8) (v : d.Value) (v' : d'.Value),
      d.decode buf = .ok (some v) → d'.decode buf = .ok (some v') → d = d') ∧
    (∀ buf buf' : List UInt8, SameReply buf buf' → parseRpcReply buf = parseRpcReply buf' ∧
      ∀ d : ReplyDecoder, d.decode buf = d.decode buf') := by
  refine ⟨fun buf => ⟨_, parseRpcReply_eq buf, ?_, ?_⟩, ReplyDecoder.decode_total, ?_, ?_⟩
  · rw [← isReply_iff]
    by_cases hreply : IsReply buf
    · rw [if_pos hreply]
      exact iff_of_true rfl hreply
    · rw [if_neg hreply]
      exact iff_of_false (by decide) hreply
  · intro cmdId subCmdId payload h
    by_cases hreply : IsReply buf
    · rw [if_pos hreply] at h
      cases h
      have hlen : 16 ≤ buf.length := hreply.1
      exact ⟨getElem?_getD (by omega), getElem?_getD (by omega), rfl, payloadOf_length hreply⟩
    · rw [if_neg hreply] at h
      cases h
  · intro d d' buf v v' hv hv'
    obtain ⟨-, hids⟩ := d.decode_acceptsOnly buf v hv
    obtain ⟨-, hids'⟩ := d'.decode_acceptsOnly buf v' hv'
    exact ReplyDecoder.ids_injective (hids.symm.trans hids')
  · intro buf buf' h
    exact ⟨h.parse, fun d => d.decode_congr h.parse⟩

/-- A firmware reply, and the same over what a longer reply left behind it and in its unused header bytes. -/
theorem reply_parsing_exact_leftovers : ∃ v, decodeFirmwareReply
      ([0xAA, 1, 0, 0, 12, 0, 0, 0, 0x0D, 0x0A, 8, 4, 4, 0, 0, 0] ++ [1, 6, 4, 4]) = .ok v ∧
    decodeFirmwareReply ([0xAA, 9, 9, 9, 9, 9, 9, 9, 0x0D, 0x0A, 8, 4, 4, 0, 9, 9] ++ [1, 6, 4, 4] ++
      [0x52, 0x4D, 0x30, 0]) = .ok v := by
  have hsame : SameReply ([0xAA, 1, 0, 0, 12, 0, 0, 0, 0x0D, 0x0A, 8, 4, 4, 0, 0, 0] ++ [1, 6, 4, 4])
      ([0xAA, 9, 9, 9, 9, 9, 9, 9, 0x0D, 0x0A, 8, 4, 4, 0, 9, 9] ++ [1, 6, 4, 4] ++ [0x52, 0x4D, 0x30, 0]) := by
    constructor <;> decide
  obtain ⟨-, htotal, -, hundeclared⟩ := reply_parsing_exact
  obtain ⟨v, hv⟩ := htotal .firmware
    ([0xAA, 1, 0, 0, 12, 0, 0, 0, 0x0D, 0x0A, 8, 4, 4, 0, 0, 0] ++ [1, 6, 4, 4])
  exact ⟨v, hv, ((hundeclared _ _ hsame).2 .firmware).symm.trans hv⟩

end Libobsbot.Meet2

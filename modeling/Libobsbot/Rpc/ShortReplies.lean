import Libobsbot.Controls.ShortReads
import Libobsbot.Rpc.MacTail

/-! # Replies shorter than a frame

A poll loop hands one buffer of 60 bytes to all of its GETs and decodes it whole, so behind a short reply stands what
the reply before it left. A decoder looks at the header, at the payload length in it and at the bytes of its own field;
`FixesValue` says that a report of these is all that its result depends on.
-/

namespace Libobsbot.ShortReads
open Foundations
open Foundations.Program (Steps Exchange)
set_option autoImplicit false

/-! ## Replies -/

section Replies
open Meet2
variable {α : Type}

/-- Of two buffers that hold the same reported bytes, enough of them, both decode to the same value if they decode
at all. -/
def FixesValue (decode : List UInt8 → Checked (Option α)) (enough : List UInt8 → Prop) : Prop :=
  ∀ buf buf' len len' v v', buf.take len = buf'.take len' → enough (buf.take len) →
    decode buf = .ok (some v) → decode buf' = .ok (some v') → v = v'

theorem payloadOf_length_le (buf : List UInt8) : (payloadOf buf).length ≤ u16At buf rpcLenOffset :=
  List.length_take_le _ _

theorem payloadOf_take {buf : List UInt8} {k : ℕ} (hk : k ≤ (payloadOf buf).length) :
    (payloadOf buf).take k = (buf.take (rpcPayloadOffset + k)).drop rpcPayloadOffset := by
  have hcount := hk.trans (payloadOf_length_le buf)
  rw [payloadOf, List.take_take, Nat.min_eq_left hcount, List.drop_take, Nat.add_sub_cancel_left]

theorem payloadOf_agree {buf buf' : List UInt8} {len len' k : ℕ} (h : buf.take len = buf'.take len')
    (hreported : rpcPayloadOffset + k ≤ (buf.take len).length) (hk : k ≤ (payloadOf buf).length)
    (hk' : k ≤ (payloadOf buf').length) : (payloadOf buf).take k = (payloadOf buf').take k := by
  rw [payloadOf_take hk, payloadOf_take hk', take_eq_of_reported h hreported]

def versionText (payload : List UInt8) : String :=
  s!"{(payload.getD 3 0).toNat}.{(payload.getD 2 0).toNat}.{(payload.getD 1 0).toNat}.{(payload.getD 0 0).toNat}"

theorem decodeFirmwareReply_accepted {buf : List UInt8} {v : String}
    (h : decodeFirmwareReply buf = .ok (some v)) :
    4 ≤ (payloadOf buf).length ∧ v = versionText (payloadOf buf) := by
  obtain ⟨hreply, -⟩ := decodeFirmwareReply_acceptsOnly buf v h
  rw [decodeFirmwareReply, parseRpcReply_of_isReply hreply] at h
  by_cases hrefused : ((commandAt buf).1, (commandAt buf).2) ≠ rpcGetFirmware ∨ (payloadOf buf).length < 4
  · have hnone := (if_pos hrefused).symm.trans h
    cases hnone
  · have hsome := (if_neg hrefused).symm.trans h
    rw [not_or, Nat.not_lt] at hrefused
    have hlen := hrefused.2
    rw [index_getD (by omega), index_getD (by omega), index_getD (by omega), index_getD (by omega)] at hsome
    cases hsome
    exact ⟨hlen, rfl⟩

theorem decodeFirmwareReply_fixes :
    FixesValue decodeFirmwareReply fun bytes => rpcPayloadOffset + 4 ≤ bytes.length := by
  intro buf buf' len len' v v' hsame henough hv hv'
  obtain ⟨hlen, rfl⟩ := decodeFirmwareReply_accepted hv
  obtain ⟨hlen', rfl⟩ := decodeFirmwareReply_accepted hv'
  have hagree := payloadOf_agree hsame henough hlen hlen'
  unfold versionText
  rw [getD_eq_of_take hagree (i := 3) (by omega), getD_eq_of_take hagree (i := 2) (by omega),
    getD_eq_of_take hagree (i := 1) (by omega), getD_eq_of_take hagree (i := 0) (by omega)]

theorem decodeMacQueryReply_accepted {buf : List UInt8} {mac : Bytes 6}
    (h : decodeMacQueryReply buf = .ok (some mac)) : Rpc.CarriesMac mac buf := by
  by_cases hany : ∃ mac', Rpc.CarriesMac mac' buf
  · obtain ⟨mac', hcarries⟩ := hany
    rw [Rpc.decodeMacQueryReply_carried hcarries] at h
    cases h
    exact hcarries
  · rw [Rpc.decodeMacQueryReply_foreign (not_exists.mp hany)] at h
    cases h

theorem decodeMacQueryReply_fixes :
    FixesValue decodeMacQueryReply fun bytes => rpcPayloadOffset + 24 ≤ bytes.length := by
  intro buf buf' len len' v v' hsame henough hv hv'
  obtain ⟨-, -, hlen, hmac⟩ := decodeMacQueryReply_accepted hv
  obtain ⟨-, -, hlen', hmac'⟩ := decodeMacQueryReply_accepted hv'
  have hagree := payloadOf_agree hsame henough hlen hlen'
  have hsix : ∀ l : List UInt8, (l.drop 18).take 6 = (l.take 24).drop 18 := fun l => by rw [List.drop_take]
  apply Bytes.ext
  rw [← hmac, ← hmac', hsix, hsix, hagree]

def serialText (payload : List UInt8) : List UInt8 :=
  payload.take ((payload.findIdx? (· == 0)).getD payload.length)

theorem nulIndex_le (payload : List UInt8) :
    (payload.findIdx? (· == 0)).getD payload.length ≤ payload.length := by
  cases hnul : payload.findIdx? (· == 0) with
  | none => exact le_rfl
  | some i => exact (List.findIdx?_eq_some_iff_findIdx_eq.mp hnul).1.le

theorem decodeSerialReply_accepted {buf : List UInt8} {v : String}
    (h : decodeSerialReply buf = .ok (some v)) :
    String.fromUTF8? ⟨(serialText (payloadOf buf)).toArray⟩ = some v := by
  obtain ⟨hreply, -⟩ := decodeSerialReply_acceptsOnly buf v h
  rw [decodeSerialReply, parseRpcReply_of_isReply hreply] at h
  by_cases hrefused : ((commandAt buf).1, (commandAt buf).2) ≠ rpcGetSerial
  · have hnone := (if_pos hrefused).symm.trans h
    cases hnone
  · have hsome := (if_neg hrefused).symm.trans h
    rw [slice_of_le (Nat.zero_le _) (nulIndex_le _), List.drop_zero] at hsome
    by_cases hbytes : (serialText (payloadOf buf)).any (fun b => !isAsciiGraphic b)
    · have hnone := (if_pos hbytes).symm.trans hsome
      cases hnone
    · exact Except.ok.inj ((if_neg hbytes).symm.trans hsome)

/-- A reported part of the payload that is all of it, or holds its first NUL, has the whole text. -/
theorem serialText_append {reported rest : List UInt8} (h : rest = [] ∨ 0 ∈ reported) :
    serialText (reported ++ rest) = serialText reported := by
  obtain rfl | hnul := h
  · rw [List.append_nil]
  · have hfound := List.findIdx?_eq_some_of_exists (p := (· == 0)) ⟨0, hnul, rfl⟩
    have hlt := (List.findIdx?_eq_some_iff_findIdx_eq.mp hfound).1
    unfold serialText
    rw [List.findIdx?_append, hfound]
    exact List.take_append_of_le_length hlt.le

/-- The payload of a buffer begins with what is reported of it, once the header is. -/
theorem payloadOf_take_append (buf : List UInt8) {len : ℕ} (h : rpcPayloadOffset ≤ (buf.take len).length) :
    ∃ rest, payloadOf buf = payloadOf (buf.take len) ++ rest ∧
      (rpcPayloadOffset + u16At (buf.take len) rpcLenOffset ≤ (buf.take len).length → rest = []) := by
  have hlen := h.trans (List.length_take_le len buf)
  have hcount : u16At (buf.take len) rpcLenOffset = u16At buf rpcLenOffset := by
    unfold rpcPayloadOffset at hlen
    unfold u16At rpcLenOffset
    rw [List.drop_take, List.take_take, Nat.min_eq_left (by omega)]
  have hpayload : payloadOf (buf.take len) = (payloadOf buf).take (len - rpcPayloadOffset) := by
    rw [payloadOf, payloadOf, hcount, List.drop_take, List.take_take, List.take_take, Nat.min_comm]
  refine ⟨(payloadOf buf).drop (len - rpcPayloadOffset), ?_, ?_⟩
  · rw [hpayload, List.take_append_drop]
  · intro hwhole
    rw [hcount] at hwhole
    have hcount := payloadOf_length_le buf
    have hend := hwhole.trans (List.length_take_le len buf)
    exact List.drop_eq_nil_of_le (by omega)

theorem decodeSerialReply_fixes : FixesValue decodeSerialReply fun bytes =>
    rpcPayloadOffset ≤ bytes.length ∧
      (rpcPayloadOffset + u16At bytes rpcLenOffset ≤ bytes.length ∨ 0 ∈ payloadOf bytes) := by
  have htext : ∀ (buf : List UInt8) (len : ℕ), rpcPayloadOffset ≤ (buf.take len).length →
      (rpcPayloadOffset + u16At (buf.take len) rpcLenOffset ≤ (buf.take len).length ∨
        0 ∈ payloadOf (buf.take len)) →
      serialText (payloadOf buf) = serialText (payloadOf (buf.take len)) := by
    intro buf len hheader hpayload
    obtain ⟨rest, hsplit, hwhole⟩ := payloadOf_take_append buf hheader
    rw [hsplit]
    exact serialText_append (hpayload.imp hwhole id)
  rintro buf buf' len len' v v' hsame ⟨hheader, hpayload⟩ hv hv'
  have hv := decodeSerialReply_accepted hv
  have hv' := decodeSerialReply_accepted hv'
  rw [htext buf len hheader hpayload, hsame, ← htext buf' len' (hsame ▸ hheader) (hsame ▸ hpayload),
    hv'] at hv
  exact (Option.some.inj hv).symm

end Replies

section Polls
variable {Location : Type}

/-- The report of a GET is cut out of the buffer it left. -/
theorem reportOf_some {x : Exchange TransportOp TransportOp.Reply} {buf : List UInt8}
    (h : Rpc.gotBytes x = some buf) : ∃ n len, reportOf x = some ⟨n, buf.take len⟩ := by
  obtain ⟨op, r⟩ := x
  cases op with
  | uvcGet req entity selector n out =>
    obtain ⟨left, got⟩ := r
    cases got with
    | error e => cases h
    | ok len =>
      cases h
      exact ⟨n, len, rfl⟩
  | uvcSet entity selector payload => cases h
  | sleep millis => cases h

theorem reportOf_none {x : Exchange TransportOp TransportOp.Reply} (h : Rpc.gotBytes x = none) :
    reportOf x = none := by
  obtain ⟨op, r⟩ := x
  cases op with
  | uvcGet req entity selector n out =>
    obtain ⟨left, got⟩ := r
    cases got with
    | error e => rfl
    | ok len => cases h
  | uvcSet entity selector payload => rfl
  | sleep millis => rfl

theorem last_report {call : Rpc.RpcCall Location} (hreads : call.Reads)
    {t : List (Exchange TransportOp TransportOp.Reply)} {v : call.Value} (h : Steps call.program t (.done (.ok v))) :
    ∃ n buf len, (t.filterMap reportOf).getLast? = some ⟨n, buf.take len⟩ ∧ call.decode buf = .ok (some v) := by
  cases Rpc.RpcCall.steps_program hreads h with
  | rejected _ hopen => exact absurd rfl (hopen v)
  | accepted front last v' hsplit _ hdecoded hreturned =>
    cases hreturned
    obtain ⟨t₁, u, rfl, -, hlast⟩ := List.filterMap_eq_append_iff.mp hsplit
    obtain ⟨t₂, x, t₃, rfl, -, hx, hnone⟩ := List.filterMap_eq_cons_iff.mp hlast
    obtain ⟨n, len, hreport⟩ := reportOf_some hx
    have hafter : t₃.filterMap reportOf = [] := by
      rw [List.filterMap_eq_nil_iff] at hnone ⊢
      exact fun y hy => reportOf_none (hnone y hy)
    refine ⟨n, last, len, ?_, hdecoded⟩
    rw [List.filterMap_append, List.filterMap_append, List.filterMap_cons_some hreport, hafter,
      ← List.append_assoc, List.getLast?_concat]

theorem last_report_eq (call : Rpc.RpcCall Location) (hreads : call.Reads)
    {t t' : List (Exchange TransportOp TransportOp.Reply)} {v v' : call.Value} (h : Steps call.program t (.done (.ok v))) (h' : Steps call.program t' (.done (.ok v')))
    {enough : List UInt8 → Prop} (hfixes : FixesValue call.decode enough)
    (hsame : (t.filterMap reportOf).getLast?.toList = (t'.filterMap reportOf).getLast?.toList)
    (henough : ∀ g ∈ (t.filterMap reportOf).getLast?.toList, enough g.bytes) : v = v' := by
  obtain ⟨n, buf, len, hlast, hdecoded⟩ := last_report hreads h
  obtain ⟨n', buf', len', hlast', hdecoded'⟩ := last_report hreads h'
  rw [hlast, hlast'] at hsame
  rw [hlast] at henough
  have hbytes := congrArg Report.bytes (List.cons.inj hsame).1
  exact hfixes buf buf' len len' v v' hbytes (henough _ List.mem_cons_self) hdecoded hdecoded'

end Polls

end Libobsbot.ShortReads

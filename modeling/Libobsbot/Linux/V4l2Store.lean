import Libobsbot.Source.Uvcvideo

/-! # The V4L2 dispatch refines a raw UVC store

The driver keeps one `i32` per V4L2 control id; a raw transport would keep the payload of each
(entity, selector) pair. A pair of the dispatch owns one control id, pan/tilt owns two, and no id has
two owners, so the bytes of a pair are a function of the driver's state and the two runs agree on
every sequence of calls.
-/

namespace Libobsbot.V4l2Store
open Foundations Uvcvideo
set_option autoImplicit false

/-! ## The two stores -/

abbrev Driver : Type := UInt32 → Int32

/-- A driver that stores what `S_CTRL` gives it; the dispatched calls issue no other ioctl. -/
def Driver.answer : (op : Ioctl) → Driver → op.Reply × Driver
  | .gCtrl cid, d => (.ok (d cid), d)
  | .sCtrl cid value, d => (.ok (), Function.update d cid value)
  | .queryctrl _, d => (.error "not a stored value", d)
  | .ctrlQuery _ _ _ _ data, d => ((data, .error "no such unit"), d)
  | .sleep _, d => ((), d)

inductive Call where
  | set (entity selector : UInt8) (payload : List UInt8)
  | get (entity selector : UInt8) (n : ℕ) (out : Bytes n)

inductive Output where
  | set (result : Result Unit)
  | get (out : List UInt8) (result : Result ℕ)

/-- `v4l2_set` and `v4l2_get(Cur)`. -/
def Call.viaV4l2 : Call → Option (KernelProgram Output)
  | .set entity selector payload => (v4l2Set entity selector payload).map fun served => do
    return .set (← served.run)
  | .get entity selector _ out => (v4l2Get .cur entity selector out).map fun served => do
    let r ← served
    return .get r.1.toList r.2

def runV4l2 : Driver → List Call → Option (List (Except String Output) × Driver)
  | d, [] => some ([], d)
  | d, c :: cs => do
    let served ← c.viaV4l2
    let (o, d) := served.run Driver.answer d
    let (os, d) ← runV4l2 d cs
    return (o :: os, d)

abbrev RawStore : Type := UInt8 × UInt8 → List UInt8

def RawStore.step (r : RawStore) : Call → Output × RawStore
  | .set entity selector payload =>
    (.set (.ok ()), Function.update r (entity, selector) payload)
  | .get entity selector n out =>
    let bytes := (r (entity, selector)).take n
    (.get (splice out.toList 0 bytes) (.ok bytes.length), r)

def runRaw : RawStore → List Call → List Output × RawStore
  | r, [] => ([], r)
  | r, c :: cs =>
    let (o, r) := r.step c
    let (os, r) := runRaw r cs
    (o :: os, r)

/-! ## Admissible calls and related states -/

/-- The pairs `v4l2_set` and `v4l2_get` serve. -/
def Dispatched (entity selector : UInt8) : Prop :=
  isPantilt entity selector = true ∨ (cidFor entity selector).isSome = true

instance (entity selector : UInt8) : Decidable (Dispatched entity selector) :=
  inferInstanceAs (Decidable (_ ∨ _))

/-- The payload width that the `Device` methods use for a pair. -/
def payloadWidth (entity selector : UInt8) : ℕ :=
  if isPantilt entity selector then 8
  else if cidFor entity selector = some v4l2CidAutoWhiteBalance then 1
  else 2

def Call.Admissible : Call → Prop
  | .set entity selector payload =>
    Dispatched entity selector ∧ payload.length = payloadWidth entity selector
  | .get entity selector n _ => Dispatched entity selector ∧ n = payloadWidth entity selector

instance (c : Call) : Decidable c.Admissible := by
  cases c <;> exact inferInstanceAs (Decidable (_ ∧ _))

/-- What the driver holds for a pair, as bytes. -/
def storedBytes (d : Driver) (entity selector : UInt8) : List UInt8 :=
  if isPantilt entity selector then
    i32ToLe (d v4l2CidPanAbsolute) ++ i32ToLe (d v4l2CidTiltAbsolute)
  else match cidFor entity selector with
    | some cid => (i32ToLe (d cid)).take (payloadWidth entity selector)
    | none => []

def Related (d : Driver) (r : RawStore) : Prop :=
  ∀ entity selector, Dispatched entity selector →
    r (entity, selector) = storedBytes d entity selector

/-! ## One payload through an `i32` -/

theorem fromLe_mod (payload : List UInt8) :
    fromLe payload % 256 ^ payload.length = fromLe payload :=
  Nat.mod_eq_of_lt (fromLe_lt payload)

theorem i32FromLe_toNat {bytes : List UInt8} (h : bytes.length ≤ 4) :
    (i32FromLe bytes).toUInt32.toNat = fromLe bytes := by
  have hlt := fromLe_lt bytes
  have hpow : 256 ^ bytes.length ≤ 256 ^ 4 := Nat.pow_le_pow_right (by norm_num) h
  show (UInt32.ofNat (fromLe bytes)).toNat = fromLe bytes
  rw [UInt32.toNat_ofNat']
  exact Nat.mod_eq_of_lt (by omega)

theorem i32FromLe_bytes {bytes : List UInt8} (h : bytes.length = 4) :
    i32ToLe (i32FromLe bytes) = bytes := by
  rw [i32ToLe, i32FromLe_toNat (by omega), ← h, toLe_fromLe]

theorem u16FromLe_toNat {bytes : List UInt8} (h : bytes.length = 2) :
    (u16FromLe bytes).toNat = fromLe bytes := by
  have hlt := fromLe_lt bytes
  rw [h] at hlt
  show (UInt16.ofNat (fromLe bytes)).toNat = fromLe bytes
  rw [UInt16.toNat_ofNat']
  exact Nat.mod_eq_of_lt (by omega)

theorem i32FromU16_toNat (v : UInt16) : (i32FromU16 v).toUInt32.toNat = v.toNat := by
  have hv := v.toNat_lt
  show (UInt32.ofNat v.toNat).toNat = v.toNat
  rw [UInt32.toNat_ofNat']
  omega

/-- Sign extension is undone by keeping the low two bytes. -/
theorem toInt32_toNat_mod (v : Int16) :
    v.toInt32.toUInt32.toNat % 256 ^ 2 = v.toUInt16.toNat := by
  have hv : v.toBitVec.toNat < 2 ^ 16 := v.toBitVec.isLt
  show (v.toBitVec.signExtend 32).toNat % 256 ^ 2 = v.toBitVec.toNat
  rw [BitVec.toNat_signExtend, BitVec.toNat_setWidth]
  split <;> omega

/-- Read back at the width it was written with, a one-, two- or four-byte payload is unchanged. -/
theorem payloadToI32_mod (cid : UInt32) {payload : List UInt8}
    (h : payload.length = 1 ∨ payload.length = 2 ∨ payload.length = 4) :
    (payloadToI32 cid payload).toUInt32.toNat % 256 ^ payload.length = fromLe payload := by
  rcases h with h | h | h
  · obtain ⟨b, rfl⟩ := List.length_eq_one_iff.mp h
    have hb := b.toNat_lt
    show (UInt32.ofNat b.toNat).toNat % 256 ^ 1 = b.toNat + 256 * 0
    rw [UInt32.toNat_ofNat']
    omega
  · obtain ⟨a, b, rfl⟩ := List.length_eq_two.mp h
    show (if isSigned2byte cid then (i16FromLe [a, b]).toInt32
      else i32FromU16 (u16FromLe [a, b])).toUInt32.toNat % 256 ^ 2 = fromLe [a, b]
    split
    · rw [toInt32_toNat_mod]
      exact u16FromLe_toNat rfl
    · rw [i32FromU16_toNat, u16FromLe_toNat rfl]
      exact fromLe_mod [a, b]
  · obtain ⟨a, b, c, d, rfl⟩ : ∃ a b c d, payload = [a, b, c, d] := by
      match payload, h with
      | [a, b, c, d], _ => exact ⟨a, b, c, d, rfl⟩
    show (i32FromLe [a, b, c, d]).toUInt32.toNat % 256 ^ 4 = fromLe [a, b, c, d]
    rw [i32FromLe_toNat (by simp)]
    exact fromLe_mod [a, b, c, d]

theorem payloadToI32_bytes (cid : UInt32) {payload : List UInt8}
    (h : payload.length = 1 ∨ payload.length = 2 ∨ payload.length = 4) :
    (i32ToLe (payloadToI32 cid payload)).take payload.length = payload := by
  have hmod := (payloadToI32_mod cid h).trans (fromLe_mod payload).symm
  calc (i32ToLe (payloadToI32 cid payload)).take payload.length
      = toLe payload.length (payloadToI32 cid payload).toUInt32.toNat :=
        toLe_take 4 _ _ (by omega)
    _ = toLe payload.length (fromLe payload) := toLe_congr hmod
    _ = payload := toLe_fromLe payload

/-! ## Owners of control ids -/

def controlTable : List ((UInt8 × UInt8) × UInt32) :=
  [((3, 0x02), v4l2CidBrightness), ((3, 0x03), v4l2CidContrast), ((3, 0x07), v4l2CidSaturation),
   ((3, 0x0a), v4l2CidWhiteBalanceTemperature), ((3, 0x0b), v4l2CidAutoWhiteBalance),
   ((1, 0x06), v4l2CidFocusAbsolute), ((1, 0x0b), v4l2CidZoomAbsolute)]

theorem cidFor_mem {entity selector : UInt8} {cid : UInt32}
    (h : cidFor entity selector = some cid) : ((entity, selector), cid) ∈ controlTable := by
  unfold cidFor at h
  split_ifs at h with h₁ h₂ h₃ h₄ h₅ h₆ h₇ <;> cases h <;> simp_all [controlTable]

theorem controlTable_pairs : ((1, 0x0d) :: controlTable.map Prod.fst).Nodup := by decide

theorem controlTable_cids :
    (v4l2CidPanAbsolute :: v4l2CidTiltAbsolute :: controlTable.map Prod.snd).Nodup := by decide

/-- No control id has two owners. -/
theorem cidFor_inj {entity selector entity' selector' : UInt8} {cid : UInt32}
    (h : cidFor entity selector = some cid) (h' : cidFor entity' selector' = some cid) :
    (entity, selector) = (entity', selector') := by
  have hnodup := (List.nodup_cons.mp (List.nodup_cons.mp controlTable_cids).2).2
  exact congrArg Prod.fst (List.inj_on_of_nodup_map hnodup (cidFor_mem h) (cidFor_mem h') rfl)

theorem cidFor_ne_axis {entity selector : UInt8} {cid : UInt32}
    (h : cidFor entity selector = some cid) :
    cid ≠ v4l2CidPanAbsolute ∧ cid ≠ v4l2CidTiltAbsolute := by
  have hmem : cid ∈ controlTable.map Prod.snd := List.mem_map_of_mem (cidFor_mem h)
  have hpan := (List.nodup_cons.mp controlTable_cids).1
  have htilt := (List.nodup_cons.mp (List.nodup_cons.mp controlTable_cids).2).1
  exact ⟨fun he => hpan (he ▸ List.mem_cons_of_mem _ hmem), fun he => htilt (he ▸ hmem)⟩

theorem isPantilt_iff {entity selector : UInt8} :
    isPantilt entity selector = true ↔ (entity, selector) = (1, 0x0d) := by
  simp [isPantilt]

theorem not_isPantilt {entity selector : UInt8} {cid : UInt32}
    (h : cidFor entity selector = some cid) : isPantilt entity selector = false := by
  rw [Bool.eq_false_iff, Ne, isPantilt_iff]
  intro he
  have hmem : (entity, selector) ∈ controlTable.map Prod.fst := List.mem_map_of_mem (cidFor_mem h)
  exact (List.nodup_cons.mp controlTable_pairs).1 (he ▸ hmem)

/-! ## One call -/

theorem dispatched_cases {entity selector : UInt8} (h : Dispatched entity selector) :
    isPantilt entity selector = true ∨ ∃ cid, cidFor entity selector = some cid := by
  rcases h with h | h
  · exact .inl h
  · exact .inr (Option.isSome_iff_exists.mp h)

theorem storedBytes_pantilt (d : Driver) {entity selector : UInt8}
    (h : isPantilt entity selector = true) : storedBytes d entity selector =
      i32ToLe (d v4l2CidPanAbsolute) ++ i32ToLe (d v4l2CidTiltAbsolute) := by
  rw [storedBytes, if_pos h]

theorem storedBytes_cid (d : Driver) {entity selector : UInt8} {cid : UInt32}
    (h : cidFor entity selector = some cid) : storedBytes d entity selector =
      (i32ToLe (d cid)).take (payloadWidth entity selector) := by
  simp [storedBytes, not_isPantilt h, h]

theorem payloadWidth_pantilt {entity selector : UInt8} (h : isPantilt entity selector = true) :
    payloadWidth entity selector = 8 := by
  rw [payloadWidth, if_pos h]

theorem payloadWidth_cid {entity selector : UInt8} {cid : UInt32}
    (h : cidFor entity selector = some cid) :
    payloadWidth entity selector = 1 ∨ payloadWidth entity selector = 2 := by
  rw [payloadWidth, if_neg (by simp [not_isPantilt h])]
  split
  · exact .inl rfl
  · exact .inr rfl

theorem storedBytes_length (d : Driver) {entity selector : UInt8} (h : Dispatched entity selector) :
    (storedBytes d entity selector).length = payloadWidth entity selector := by
  rcases dispatched_cases h with h | ⟨cid, h⟩
  · rw [storedBytes_pantilt d h, payloadWidth_pantilt h]
    simp [i32ToLe]
  · rw [storedBytes_cid d h, List.length_take, i32ToLe, toLe_length]
    rcases payloadWidth_cid h with hw | hw <;> omega

theorem pantiltSet_run (d : Driver) {payload : List UInt8} (h : payload.length = 8) :
    (pantiltSet payload).run.run Driver.answer d = (.ok (.ok ()),
      Function.update (Function.update d v4l2CidPanAbsolute (i32FromLe (payload.take 4)))
        v4l2CidTiltAbsolute (i32FromLe (payload.drop 4))) := by
  unfold pantiltSet
  rw [if_neg (by omega)]
  rfl

theorem v4l2SCtrl_run (d : Driver) (cid : UInt32) (value : Int32) :
    (v4l2SCtrl cid value).run.run Driver.answer d = (.ok (.ok ()), Function.update d cid value) := rfl

theorem run_set (d : Driver) (m : KernelM Unit) {d' : Driver}
    (h : m.run.run Driver.answer d = (.ok (.ok ()), d')) :
    (do return Output.set (← m.run) : KernelProgram Output).run Driver.answer d =
      (.ok (.set (.ok ())), d') := by
  rw [Program.run_bind, h]
  rfl

/-- The state after a write: the payload on its own pair, the rest untouched. -/
theorem exists_write (d : Driver) {entity selector : UInt8} {payload : List UInt8}
    (h : Call.Admissible (.set entity selector payload)) :
    ∃ served d', (Call.set entity selector payload).viaV4l2 = some served ∧
      served.run Driver.answer d = (.ok (.set (.ok ())), d') ∧
      storedBytes d' entity selector = payload ∧
      ∀ entity' selector', (entity', selector') ≠ (entity, selector) → Dispatched entity' selector' →
        storedBytes d' entity' selector' = storedBytes d entity' selector' := by
  obtain ⟨hd, hlen⟩ := h
  rcases dispatched_cases hd with hp | ⟨cid, hc⟩
  · rw [payloadWidth_pantilt hp] at hlen
    refine ⟨_, _, ?_, run_set d _ (pantiltSet_run d hlen), ?_, ?_⟩
    · rw [Call.viaV4l2, v4l2Set, if_pos hp]
      rfl
    · have hne : v4l2CidPanAbsolute ≠ v4l2CidTiltAbsolute := by decide
      rw [storedBytes_pantilt _ hp, Function.update_of_ne hne, Function.update_self,
        Function.update_self, i32FromLe_bytes (by simp [hlen]), i32FromLe_bytes (by simp [hlen]),
        List.take_append_drop]
    · intro entity' selector' hpair hd'
      rcases dispatched_cases hd' with hp' | ⟨cid', hc'⟩
      · exact absurd ((isPantilt_iff.mp hp').trans (isPantilt_iff.mp hp).symm) hpair
      · obtain ⟨hpan, htilt⟩ := cidFor_ne_axis hc'
        rw [storedBytes_cid _ hc', storedBytes_cid _ hc', Function.update_of_ne htilt,
          Function.update_of_ne hpan]
  · refine ⟨_, _, ?_, run_set d _ (v4l2SCtrl_run d cid (payloadToI32 cid payload)), ?_, ?_⟩
    · rw [Call.viaV4l2, v4l2Set, if_neg (by simp [not_isPantilt hc]), hc]
      rfl
    · rw [storedBytes_cid _ hc, Function.update_self, ← hlen]
      apply payloadToI32_bytes cid
      rcases payloadWidth_cid hc with hw | hw <;> omega
    · intro entity' selector' hpair hd'
      obtain ⟨hpan, htilt⟩ := cidFor_ne_axis hc
      rcases dispatched_cases hd' with hp' | ⟨cid', hc'⟩
      · rw [storedBytes_pantilt _ hp', storedBytes_pantilt _ hp', Function.update_of_ne hpan.symm,
          Function.update_of_ne htilt.symm]
      · have hne : cid' ≠ cid := by
          rintro rfl
          exact hpair (cidFor_inj hc' hc)
        rw [storedBytes_cid _ hc', storedBytes_cid _ hc', Function.update_of_ne hne]

theorem run_get {n : ℕ} (d : Driver) (p : KernelProgram (Bytes n × Result ℕ)) {out : Bytes n}
    {bytes : List UInt8} (h : p.run Driver.answer d = (.ok (out, .ok n), d))
    (hout : out.toList = bytes) :
    (do let r ← p
        return Output.get r.1.toList r.2 : KernelProgram Output).run Driver.answer d =
      (.ok (.get bytes (.ok n)), d) := by
  rw [Program.run_bind, h, ← hout]
  rfl

theorem pantiltGet_run (d : Driver) (out : Bytes 8) :
    (pantiltGet .cur out).run Driver.answer d =
      (.ok ((out.overwrite 0 (i32ToLe (d v4l2CidPanAbsolute))).overwrite 4
        (i32ToLe (d v4l2CidTiltAbsolute)), .ok 8), d) := rfl

theorem exists_v4l2Get (d : Driver) {entity selector : UInt8} {cid : UInt32} {n : ℕ}
    (h : cidFor entity selector = some cid) (out : Bytes n) :
    ∃ served, v4l2Get .cur entity selector out = some served ∧
      served.run Driver.answer d =
        (.ok (out.overwrite 0 ((i32ToLe (d cid)).take (min 4 n)), .ok (min 4 n)), d) := by
  rw [v4l2Get, if_neg (by simp [not_isPantilt h]), h]
  exact ⟨_, rfl, rfl⟩

/-- A read returns what the driver holds for the pair and leaves the driver as it is. -/
theorem exists_read (d : Driver) {entity selector : UInt8} {n : ℕ} {out : Bytes n}
    (h : Call.Admissible (.get entity selector n out)) :
    ∃ served, (Call.get entity selector n out).viaV4l2 = some served ∧
      served.run Driver.answer d = (.ok (.get (storedBytes d entity selector) (.ok n)), d) := by
  obtain ⟨hd, hlen⟩ := h
  rcases dispatched_cases hd with hp | ⟨cid, hc⟩
  · rw [payloadWidth_pantilt hp] at hlen
    subst hlen
    refine ⟨_, ?_, run_get d _ (pantiltGet_run d out) ?_⟩
    · rw [Call.viaV4l2, v4l2Get, if_pos hp]
      rfl
    · rw [Bytes.overwrite_append _ (i32ToLe_length _) (by simp), Bytes.overwrite_toList _ (by simp),
        splice_zero_full (by simp), storedBytes_pantilt d hp]
  · have hw := payloadWidth_cid hc
    rw [← hlen] at hw
    have hmin : min 4 n = n := by omega
    obtain ⟨served, hs, hrun⟩ := exists_v4l2Get d hc out
    rw [hmin] at hrun
    have hbytes : ((i32ToLe (d cid)).take n).length = n := by
      rw [List.length_take, i32ToLe, toLe_length, min_comm, hmin]
    refine ⟨_, ?_, run_get d served hrun ?_⟩
    · rw [Call.viaV4l2, hs]
      rfl
    · rw [Bytes.overwrite_toList _ (by omega), splice_zero_full (by rw [hbytes, out.length_eq]),
        storedBytes_cid d hc, ← hlen]

/-! ## Sequences of calls -/

/-- One call on related states gives the raw store's output and leaves the states related. -/
theorem exists_step {d : Driver} {r : RawStore} (hr : Related d r) {c : Call}
    (hc : c.Admissible) : ∃ served d', c.viaV4l2 = some served ∧
      served.run Driver.answer d = (.ok (r.step c).1, d') ∧ Related d' (r.step c).2 := by
  cases c with
  | set entity selector payload =>
    obtain ⟨served, d', hs, hrun, hown, hother⟩ := exists_write d hc
    refine ⟨served, d', hs, hrun, fun entity' selector' hd' => ?_⟩
    by_cases hp : (entity', selector') = (entity, selector)
    · cases hp
      exact (Function.update_self _ _ _).trans hown.symm
    · rw [hother entity' selector' hp hd', ← hr entity' selector' hd']
      exact Function.update_of_ne hp _ _
  | get entity selector n out =>
    obtain ⟨served, hs, hrun⟩ := exists_read d hc
    have hlen : (storedBytes d entity selector).length = n := by
      rw [storedBytes_length d hc.1, ← hc.2]
    refine ⟨served, d, hs, ?_, hr⟩
    have hout : (r.step (.get entity selector n out)).1 =
        .get (storedBytes d entity selector) (.ok n) := by
      simp only [RawStore.step, hr entity selector hc.1]
      rw [List.take_of_length_le (by omega), splice_zero_full (by rw [hlen, out.length_eq]), hlen]
    rw [hrun, hout]

theorem exists_run {d : Driver} {r : RawStore} (hr : Related d r) (calls : List Call)
    (hc : ∀ c ∈ calls, c.Admissible) : ∃ d',
      runV4l2 d calls = some ((runRaw r calls).1.map .ok, d') ∧ Related d' (runRaw r calls).2 := by
  induction calls generalizing d r with
  | nil => exact ⟨d, rfl, hr⟩
  | cons c cs ih =>
    obtain ⟨served, d₁, hs, hrun, hr₁⟩ := exists_step hr (hc c (by simp))
    obtain ⟨d₂, hrun₂, hr₂⟩ := ih hr₁ fun c' h' => hc c' (by simp [h'])
    refine ⟨d₂, ?_, hr₂⟩
    simp [runV4l2, hs, hrun, hrun₂, runRaw]

/-! ## What the raw store promises -/

theorem runRaw_append (r : RawStore) (cs ds : List Call) :
    runRaw r (cs ++ ds) =
      ((runRaw r cs).1 ++ (runRaw (runRaw r cs).2 ds).1, (runRaw (runRaw r cs).2 ds).2) := by
  induction cs generalizing r with
  | nil => rfl
  | cons c cs ih => simp [runRaw, ih]

def Call.writes (entity selector : UInt8) : Call → Prop
  | .set entity' selector' _ => (entity', selector') = (entity, selector)
  | .get _ _ _ _ => False

theorem runRaw_frame (r : RawStore) {entity selector : UInt8} {cs : List Call}
    (h : ∀ c ∈ cs, ¬ c.writes entity selector) :
    (runRaw r cs).2 (entity, selector) = r (entity, selector) := by
  induction cs generalizing r with
  | nil => rfl
  | cons c cs ih =>
    have htail := ih (r.step c).2 fun c' h' => h c' (by simp [h'])
    apply htail.trans
    cases c with
    | set entity' selector' payload =>
      exact Function.update_of_ne (fun he => h (.set entity' selector' payload) (by simp) he.symm) _ _
    | get entity' selector' n out => rfl

/-- A payload is what the next read of its pair returns, whatever is done to other pairs meanwhile. -/
theorem runRaw_readback (r : RawStore) {entity selector : UInt8} {payload : List UInt8}
    (before between : List Call) (out : Bytes payload.length)
    (h : ∀ c ∈ between, ¬ c.writes entity selector) : ∃ outs,
      (runRaw r (before ++ .set entity selector payload ::
        (between ++ [.get entity selector _ out]))).1 =
        outs ++ [.get payload (.ok payload.length)] := by
  let r₁ := ((runRaw r before).2.step (.set entity selector payload)).2
  have hheld : (runRaw r₁ between).2 (entity, selector) = payload :=
    (runRaw_frame r₁ h).trans (Function.update_self _ _ _)
  have hread : (runRaw (runRaw r₁ between).2 [.get entity selector _ out]).1 =
      [.get payload (.ok payload.length)] := by
    simp only [runRaw, RawStore.step, hheld, List.take_length]
    rw [splice_zero_full (by rw [out.length_eq])]
  refine ⟨(runRaw r before).1 ++ .set (.ok ()) :: (runRaw r₁ between).1, ?_⟩
  rw [runRaw_append]
  show (runRaw r before).1 ++ .set (.ok ()) ::
    (runRaw r₁ (between ++ [.get entity selector _ out])).1 = _
  rw [runRaw_append, hread]
  simp

theorem related_storedBytes (d : Driver) : Related d fun p => storedBytes d p.1 p.2 :=
  fun _ _ _ => rfl

/-- From related states, `v4l2_set` and `v4l2_get` yield what the raw store yields, on every sequence
of calls: a payload is read back byte for byte and no other pair's read changes. -/
theorem v4l2_refines_raw {d : Driver} {r : RawStore} (hr : Related d r) :
    (∀ calls : List Call, (∀ c ∈ calls, c.Admissible) → ∃ d',
      runV4l2 d calls = some ((runRaw r calls).1.map .ok, d') ∧ Related d' (runRaw r calls).2) ∧
    (∀ (entity selector : UInt8) (payload : List UInt8) (before between : List Call)
      (out : Bytes payload.length),
      (∀ c ∈ before ++ .set entity selector payload :: between, c.Admissible) →
      (∀ c ∈ between, ¬ c.writes entity selector) → ∃ outs d',
        runV4l2 d (before ++ .set entity selector payload ::
          (between ++ [.get entity selector _ out])) =
          some (outs ++ [.ok (.get payload (.ok payload.length))], d')) ∧
    (∀ (entity selector entity' selector' : UInt8) (payload : List UInt8) (n : ℕ) (out : Bytes n),
      (Call.set entity selector payload).Admissible →
      (Call.get entity' selector' n out).Admissible →
      (entity', selector') ≠ (entity, selector) → ∃ read written d₁ d₂,
        runV4l2 d [.get entity' selector' n out] = some ([read], d₁) ∧
        runV4l2 d [.set entity selector payload, .get entity' selector' n out] =
          some ([written, read], d₂)) := by
  refine ⟨fun calls hc => exists_run hr calls hc, ?_, ?_⟩
  · intro entity selector payload before between out hc hw
    obtain ⟨outs, hraw⟩ := runRaw_readback r before between out hw
    have hset := hc (.set entity selector payload) (by simp)
    obtain ⟨d', hrun, _⟩ := exists_run hr (before ++ .set entity selector payload ::
      (between ++ [.get entity selector _ out])) (by
        intro c hmem
        rw [← List.cons_append, ← List.append_assoc, List.mem_append] at hmem
        rcases hmem with hmem | hmem
        · exact hc c hmem
        · rw [List.mem_singleton.mp hmem]
          exact hset)
    refine ⟨outs.map .ok, d', ?_⟩
    rw [hrun, hraw]
    simp
  · intro entity selector entity' selector' payload n out hset hget hpair
    obtain ⟨d₁, hrun₁, _⟩ := exists_run hr [.get entity' selector' n out] (by simpa)
    obtain ⟨d₂, hrun₂, _⟩ := exists_run hr
      [.set entity selector payload, .get entity' selector' n out] (by simp [hset, hget])
    refine ⟨_, .ok (.set (.ok ())), d₁, d₂, hrun₁, ?_⟩
    rw [hrun₂]
    simp [runRaw, RawStore.step, Function.update_of_ne hpair]

/-- The extremes of a signed, an unsigned and the packed control, read back in another order. -/
theorem v4l2_refines_raw_extremes : ∃ d',
    runV4l2 (fun _ => 0) [.set 3 0x02 [0x00, 0x80], .set 3 0x03 [0xff, 0xff],
      .set 1 0x0d [0, 0, 0, 0x80, 0xff, 0xff, 0xff, 0x7f], .get 3 0x03 2 (Bytes.zeros 2),
      .get 1 0x0d 8 (Bytes.zeros 8), .get 3 0x02 2 (Bytes.zeros 2)] =
      some ([.ok (.set (.ok ())), .ok (.set (.ok ())), .ok (.set (.ok ())),
        .ok (.get [0xff, 0xff] (.ok 2)),
        .ok (.get [0, 0, 0, 0x80, 0xff, 0xff, 0xff, 0x7f] (.ok 8)),
        .ok (.get [0x00, 0x80] (.ok 2))], d') := by
  obtain ⟨d', hrun, _⟩ := (v4l2_refines_raw (related_storedBytes fun _ => 0)).1
    [.set 3 0x02 [0x00, 0x80], .set 3 0x03 [0xff, 0xff],
      .set 1 0x0d [0, 0, 0, 0x80, 0xff, 0xff, 0xff, 0x7f], .get 3 0x03 2 (Bytes.zeros 2),
      .get 1 0x0d 8 (Bytes.zeros 8), .get 3 0x02 2 (Bytes.zeros 2)] (by decide)
  exact ⟨d', hrun⟩

end Libobsbot.V4l2Store

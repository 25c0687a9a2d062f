import Mathlib

/-! # Byte buffers

Fixed-size buffers with Rust's slice operations (a violated bound is a panic, carried as its message),
overwriting a range of a list, and little-endian encodings of any width.
-/

namespace Libobsbot.Foundations
set_option autoImplicit false

/-- `[u8; n]`. -/
@[ext] structure Bytes (n : ℕ) where
  toList : List UInt8
  length_eq : toList.length = n
  deriving DecidableEq

/-- A value, or the message of the panic that replaced it. -/
abbrev Checked (α : Type) : Type := Except String α

/-- `assert!(condition, message)`. -/
def assertThat (condition : Prop) [Decidable condition] (message : String) : Checked Unit :=
  if condition then .ok () else .error message

theorem assertThat_of {condition : Prop} [Decidable condition] (h : condition) (message : String) :
    assertThat condition message = .ok () := if_pos h

/-! ## Overwriting a range -/

section Splice
variable {α : Type}

/-- `buf` with `src` written over it from position `start`. -/
def splice (buf : List α) (start : ℕ) (src : List α) : List α :=
  buf.take start ++ src ++ buf.drop (start + src.length)

theorem splice_length {buf : List α} {start : ℕ} {src : List α}
    (h : start + src.length ≤ buf.length) : (splice buf start src).length = buf.length := by
  simp only [splice, List.length_append, List.length_take, List.length_drop]
  omega

theorem splice_zero (buf src : List α) : splice buf 0 src = src ++ buf.drop src.length := by
  rw [splice, List.take_zero, List.nil_append, Nat.zero_add]

theorem splice_zero_full {buf src : List α} (h : src.length = buf.length) :
    splice buf 0 src = src := by
  rw [splice_zero, h, List.drop_length, List.append_nil]

theorem splice_append_right {pre : List α} {start : ℕ} (buf : List α) (src : List α)
    (h : pre.length ≤ start) :
    splice (pre ++ buf) start src = pre ++ splice buf (start - pre.length) src := by
  have htake : List.take start (pre ++ buf) = pre ++ buf.take (start - pre.length) := by
    rw [List.take_append, List.take_of_length_le h]
  have hdrop : List.drop (start + src.length) (pre ++ buf) =
      buf.drop (start - pre.length + src.length) := by
    rw [List.drop_append, List.drop_eq_nil_of_le (by omega), List.nil_append]
    congr 1
    omega
  simp only [splice, htake, hdrop, List.append_assoc]

theorem splice_append_left {pre : List α} {start : ℕ} (buf : List α) {src : List α}
    (h : start + src.length ≤ pre.length) :
    splice (pre ++ buf) start src = splice pre start src ++ buf := by
  have htake : List.take start (pre ++ buf) = pre.take start := by
    rw [List.take_append_of_le_length (by omega)]
  have hdrop : List.drop (start + src.length) (pre ++ buf) =
      pre.drop (start + src.length) ++ buf := by
    rw [List.drop_append_of_le_length h]
  simp only [splice, htake, hdrop, List.append_assoc]

theorem splice_replicate (n start : ℕ) (a : α) {src : List α} (h : start + src.length ≤ n) :
    splice (List.replicate n a) start src =
      List.replicate start a ++ src ++ List.replicate (n - (start + src.length)) a := by
  simp only [splice, List.take_replicate, List.drop_replicate]
  rw [Nat.min_eq_left (by omega)]

end Splice

/-! ## Slices of a buffer -/

/-- `buf[i]`. -/
def index (buf : List UInt8) (i : ℕ) : Checked UInt8 :=
  match buf[i]? with
  | some b => .ok b
  | none => .error s!"index out of bounds: the len is {buf.length} but the index is {i}"

/-- `&buf[start..stop]`. -/
def slice (buf : List UInt8) (start stop : ℕ) : Checked (List UInt8) :=
  if stop < start then
    .error s!"slice index starts at {start} but ends at {stop}"
  else if buf.length < stop then
    .error s!"range end index {stop} out of range for slice of length {buf.length}"
  else .ok ((buf.take stop).drop start)

theorem index_of_lt {buf : List UInt8} {i : ℕ} (h : i < buf.length) : index buf i = .ok buf[i] := by
  simp [index, h]

theorem slice_of_le {buf : List UInt8} {start stop : ℕ} (h : start ≤ stop)
    (h' : stop ≤ buf.length) : slice buf start stop = .ok ((buf.take stop).drop start) := by
  rw [slice, if_neg (by omega), if_neg (by omega)]

theorem slice_append {a b c : List UInt8} {start stop : ℕ} (hs : a.length = start)
    (ht : start + b.length = stop) : slice (a ++ (b ++ c)) start stop = .ok b := by
  subst hs ht
  rw [slice_of_le (by omega) (by simp only [List.length_append]; omega), List.take_append,
    List.take_of_length_le (by omega), List.drop_left, Nat.add_sub_cancel_left, List.take_left]

namespace Bytes
variable {n : ℕ}

attribute [simp] length_eq

def ofList (l : List UInt8) : Bytes l.length := ⟨l, rfl⟩

@[simp] theorem ofList_toList (l : List UInt8) : (ofList l).toList = l := rfl

def zeros (n : ℕ) : Bytes n := ⟨List.replicate n 0, List.length_replicate⟩

@[simp] theorem zeros_toList (n : ℕ) : (zeros n).toList = List.replicate n 0 := rfl

/-- `buf[i] = b`. -/
def set (buf : Bytes n) (i : Fin n) (b : UInt8) : Bytes n :=
  ⟨buf.toList.set i b, by rw [List.length_set, buf.length_eq]⟩

@[simp] theorem set_toList (buf : Bytes n) (i : Fin n) (b : UInt8) :
    (buf.set i b).toList = buf.toList.set i b := rfl

/-- The buffer after `src` is written from `start`; unchanged where that leaves the buffer. -/
def overwrite (buf : Bytes n) (start : ℕ) (src : List UInt8) : Bytes n :=
  if h : start + src.length ≤ n then
    ⟨splice buf.toList start src, by rw [splice_length (by rwa [buf.length_eq]), buf.length_eq]⟩
  else buf

theorem overwrite_toList (buf : Bytes n) {start : ℕ} {src : List UInt8}
    (h : start + src.length ≤ n) : (overwrite buf start src).toList = splice buf.toList start src := by
  rw [overwrite, dif_pos h]

theorem overwrite_append (buf : Bytes n) {start : ℕ} {a b : List UInt8} (ha : a.length = start)
    (h : start + b.length ≤ n) : (buf.overwrite 0 a).overwrite start b = buf.overwrite 0 (a ++ b) := by
  subst ha
  have hlen : (a ++ b).length ≤ n := by
    rw [List.length_append]
    omega
  apply Bytes.ext
  rw [overwrite_toList _ h, overwrite_toList _ (by omega), overwrite_toList _ (by omega), splice_zero, splice_zero,
    splice_append_right _ _ (le_refl _), Nat.sub_self, splice_zero, List.drop_drop, List.append_assoc,
    List.length_append]

/-- `buf[start..stop].copy_from_slice(src)`. -/
def copyFromSlice (buf : Bytes n) (start stop : ℕ) (src : List UInt8) : Checked (Bytes n) :=
  if stop < start then
    .error s!"slice index starts at {start} but ends at {stop}"
  else if n < stop then
    .error s!"range end index {stop} out of range for slice of length {n}"
  else if stop - start ≠ src.length then
    .error "copy_from_slice: source slice length does not match destination slice length"
  else .ok (buf.overwrite start src)

theorem copyFromSlice_ok (buf : Bytes n) (start stop : ℕ) (src : List UInt8)
    (hs : start + src.length = stop) (hn : stop ≤ n) :
    ∃ buf', buf.copyFromSlice start stop src = .ok buf' ∧
      buf'.toList = splice buf.toList start src := by
  refine ⟨buf.overwrite start src, ?_, buf.overwrite_toList (by omega)⟩
  rw [copyFromSlice, if_neg (by omega), if_neg (by omega), if_neg (by omega)]

end Bytes

/-! ## Little-endian numbers -/

/-- The `width` low-order bytes of `v`, low-order byte first. -/
def toLe : ℕ → ℕ → List UInt8
  | 0, _ => []
  | width + 1, v => UInt8.ofNat v :: toLe width (v / 256)

def fromLe : List UInt8 → ℕ
  | [] => 0
  | b :: bs => b.toNat + 256 * fromLe bs

@[simp] theorem toLe_length (width v : ℕ) : (toLe width v).length = width := by
  induction width generalizing v with
  | zero => rfl
  | succ width ih => rw [toLe, List.length_cons, ih]

theorem fromLe_lt (bs : List UInt8) : fromLe bs < 256 ^ bs.length := by
  induction bs with
  | nil => simp [fromLe]
  | cons b bs ih =>
    have hb := b.toNat_lt
    rw [fromLe, List.length_cons, Nat.pow_succ]
    omega

theorem fromLe_toLe (width v : ℕ) : fromLe (toLe width v) = v % 256 ^ width := by
  induction width generalizing v with
  | zero => simp [toLe, fromLe, Nat.mod_one]
  | succ width ih =>
    have hbyte : (UInt8.ofNat v).toNat = v % 256 := UInt8.toNat_ofNat'
    rw [toLe, fromLe, ih, hbyte, pow_succ, mul_comm (256 ^ width) 256, Nat.mod_mul]

theorem toLe_fromLe (bs : List UInt8) : toLe bs.length (fromLe bs) = bs := by
  induction bs with
  | nil => rfl
  | cons b bs ih =>
    have hb := b.toNat_lt
    have hdiv : (b.toNat + 256 * fromLe bs) / 256 = fromLe bs := by omega
    rw [List.length_cons, fromLe, toLe, hdiv, ih]
    congr 1
    apply UInt8.toNat_inj.mp
    rw [UInt8.toNat_ofNat']
    omega

theorem toLe_congr {width v w : ℕ} (h : v % 256 ^ width = w % 256 ^ width) :
    toLe width v = toLe width w := by
  have hv := toLe_fromLe (toLe width v)
  have hw := toLe_fromLe (toLe width w)
  rw [fromLe_toLe, toLe_length] at hv hw
  rw [← hv, ← hw, h]

theorem toLe_take (width v k : ℕ) (h : k ≤ width) : (toLe width v).take k = toLe k v := by
  induction k generalizing width v with
  | zero => simp [toLe]
  | succ k ih =>
    obtain ⟨w, rfl⟩ : ∃ w, width = w + 1 := ⟨width - 1, by omega⟩
    rw [toLe, List.take_succ_cons, ih w (v / 256) (by omega), toLe]

end Libobsbot.Foundations

import Mathlib

/-! # A pair kept in two halves

A pair is written, and read, one half at a time, by any number of callers; each caller writes one pair or reads
one. A half is only ever a half of the first pair or of one written (`fst_written`, `snd_written`). Pairs are not
so: only where no access of another falls between the two writes of a caller, and no write of another
between the two reads of one, is every pair whole (`after_written`, `read_written`).
-/

namespace Libobsbot.Foundations.SplitPair
set_option autoImplicit false

/-- An access carries what it wrote or was answered. -/
inductive Access (ι V : Type) where
  | writeFst (caller : ι) (v : V)
  | writeSnd (caller : ι) (v : V)
  | readFst (caller : ι) (v : V)
  | readSnd (caller : ι) (v : V)

variable {ι V : Type}

namespace Access

def caller : Access ι V → ι
  | writeFst i _ => i
  | writeSnd i _ => i
  | readFst i _ => i
  | readSnd i _ => i

def IsWrite : Access ι V → Prop
  | writeFst _ _ => True
  | writeSnd _ _ => True
  | _ => False

def step (m : V × V) : Access ι V → V × V
  | writeFst _ v => (v, m.2)
  | writeSnd _ v => (m.1, v)
  | _ => m

/-- A read is answered with what is kept. -/
def Agrees (m : V × V) : Access ι V → Prop
  | readFst _ v => v = m.1
  | readSnd _ v => v = m.2
  | _ => True

theorem step_of_read {x : Access ι V} (h : ¬ x.IsWrite) (m : V × V) : x.step m = m := by
  cases x with
  | writeFst i v => exact absurd trivial h
  | writeSnd i v => exact absurd trivial h
  | readFst i v => rfl
  | readSnd i v => rfl

end Access

inductive Role (V : Type) where
  | writer (pair : V × V)
  | reader

def after (m : V × V) (s : List (Access ι V)) : V × V := s.foldl Access.step m

theorem after_append (m : V × V) (s t : List (Access ι V)) : after m (s ++ t) = after (after m s) t :=
  List.foldl_append

theorem after_of_reads (m : V × V) {s : List (Access ι V)} (h : ∀ x ∈ s, ¬ x.IsWrite) : after m s = m := by
  induction s generalizing m with
  | nil => rfl
  | cons x s ih =>
    obtain ⟨hx, hs⟩ := List.forall_mem_cons.mp h
    have hstep : after (x.step m) s = m := by rw [Access.step_of_read hx, ih m hs]
    exact hstep

/-- Every read was answered with what was kept at that point. -/
def Answered (m : V × V) (s : List (Access ι V)) : Prop :=
  ∀ a x b, s = a ++ x :: b → x.Agrees (after m a)

theorem answered_nil (m : V × V) : Answered m ([] : List (Access ι V)) := by
  intro a x b hs
  cases a with
  | nil => cases hs
  | cons y a => cases hs

theorem Answered.cons {m : V × V} {x : Access ι V} {s : List (Access ι V)} (hx : x.Agrees m)
    (hs : Answered (x.step m) s) : Answered m (x :: s) := by
  intro a y b hsplit
  cases a with
  | nil =>
    obtain ⟨rfl, -⟩ := List.cons.inj hsplit
    exact hx
  | cons z a =>
    obtain ⟨rfl, htail⟩ := List.cons.inj hsplit
    exact hs a y b htail

section Callers
variable [DecidableEq ι]

def own (i : ι) (s : List (Access ι V)) : List (Access ι V) := s.filter fun x => x.caller = i

theorem own_append (i : ι) (s t : List (Access ι V)) : own i (s ++ t) = own i s ++ own i t :=
  List.filter_append ..

theorem mem_own {i : ι} {s : List (Access ι V)} {x : Access ι V} : x ∈ own i s ↔ x ∈ s ∧ x.caller = i := by
  simp [own]

theorem own_cons_self {i : ι} {x : Access ι V} (h : x.caller = i) (s : List (Access ι V)) :
    own i (x :: s) = x :: own i s := by
  simp [own, h]

theorem own_concat {i : ι} {x : Access ι V} (h : x.caller = i) (s : List (Access ι V)) :
    own i (s ++ [x]) = own i s ++ [x] := by
  rw [own_append, own_cons_self h]
  rfl

/-- Every caller has done a part of its role, first half first. -/
def Follows (role : ι → Role V) (s : List (Access ι V)) : Prop :=
  ∀ i, (∀ pair, role i = .writer pair → own i s <+: [.writeFst i pair.1, .writeSnd i pair.2]) ∧
    (role i = .reader → ∃ v w, own i s <+: [.readFst i v, .readSnd i w])

theorem Follows.of_append {role : ι → Role V} {s t : List (Access ι V)} (h : Follows role (s ++ t)) :
    Follows role s := by
  intro i
  have hpre : own i s <+: own i (s ++ t) := by
    rw [own_append]
    exact List.prefix_append _ _
  refine ⟨fun pair hrole => hpre.trans ((h i).1 pair hrole), fun hrole => ?_⟩
  obtain ⟨v, w, hown⟩ := (h i).2 hrole
  exact ⟨v, w, hpre.trans hown⟩

end Callers

def MidWrite (i : ι) (s : List (Access ι V)) : Prop :=
  (∃ v, .writeFst i v ∈ s) ∧ ∀ v, .writeSnd i v ∉ s

def MidRead (i : ι) (s : List (Access ι V)) : Prop :=
  (∃ v, .readFst i v ∈ s) ∧ ∀ v, .readSnd i v ∉ s

/-- No access of another between two writes, and no write of another between two reads. -/
def Undivided (s : List (Access ι V)) : Prop :=
  ∀ a x b, s = a ++ x :: b → ∀ i, i ≠ x.caller → ¬ MidWrite i a ∧ (x.IsWrite → ¬ MidRead i a)

theorem Undivided.of_append {s t : List (Access ι V)} (h : Undivided (s ++ t)) : Undivided s := by
  intro a x b hs
  refine h a x (b ++ t) ?_
  rw [hs, List.append_assoc, List.cons_append]

/-- The pair there was at first, and the pairs written. -/
def Written (role : ι → Role V) (m q : V × V) : Prop := q = m ∨ ∃ i, role i = .writer q

section Whole
variable [DecidableEq ι] {role : ι → Role V} {m : V × V} {s : List (Access ι V)}

/-! ## What a role leaves room for -/

theorem Follows.writer_of_mem {i : ι} (h : Follows role s) {x : Access ι V} (hx : x ∈ s)
    (hi : x.caller = i) (hwrite : x.IsWrite) :
    ∃ pair, role i = .writer pair ∧ (x = .writeFst i pair.1 ∨ x = .writeSnd i pair.2) := by
  have hown : x ∈ own i s := mem_own.mpr ⟨hx, hi⟩
  cases hrole : role i with
  | writer pair =>
    have hmem := ((h i).1 pair hrole).subset hown
    simp only [List.mem_cons, List.not_mem_nil, or_false] at hmem
    exact ⟨pair, rfl, hmem⟩
  | reader =>
    obtain ⟨v, w, hpre⟩ := (h i).2 hrole
    have hmem := hpre.subset hown
    simp only [List.mem_cons, List.not_mem_nil, or_false] at hmem
    rcases hmem with rfl | rfl
    · exact absurd hwrite id
    · exact absurd hwrite id

theorem Follows.reader_of_mem {i : ι} (h : Follows role s) {x : Access ι V} (hx : x ∈ s)
    (hi : x.caller = i) (hread : ¬ x.IsWrite) : role i = .reader := by
  have hown : x ∈ own i s := mem_own.mpr ⟨hx, hi⟩
  cases hrole : role i with
  | writer pair =>
    have hmem := ((h i).1 pair hrole).subset hown
    simp only [List.mem_cons, List.not_mem_nil, or_false] at hmem
    rcases hmem with rfl | rfl
    · exact absurd trivial hread
    · exact absurd trivial hread
  | reader => rfl

theorem snoc_isPrefix_two {α : Type} {l : List α} {x y z : α} (h : l ++ [z] <+: [x, y]) :
    (l = [] ∧ z = x) ∨ (l = [x] ∧ z = y) := by
  obtain ⟨r, hr⟩ := h
  have hlen := congrArg List.length hr
  simp only [List.length_append, List.length_cons, List.length_nil] at hlen
  cases l with
  | nil => exact .inl ⟨rfl, (List.cons.inj hr).1⟩
  | cons a l =>
    obtain rfl : l = [] := by
      refine List.length_eq_zero_iff.mp ?_
      simp only [List.length_cons] at hlen
      omega
    obtain ⟨rfl, htail⟩ := List.cons.inj hr
    exact .inr ⟨rfl, (List.cons.inj htail).1⟩

/-- A caller's only access, and what the others did before and after it. -/
theorem split_own {i : ι} {x : Access ι V} (hown : own i s = [x]) :
    ∃ a b, s = a ++ x :: b ∧ own i a = [] ∧ own i b = [] := by
  obtain ⟨hmem, hx⟩ := mem_own.mp (hown ▸ List.mem_cons_self : x ∈ own i s)
  obtain ⟨a, b, rfl⟩ := List.append_of_mem hmem
  rw [own_append, own_cons_self hx] at hown
  have hlen := congrArg List.length hown
  simp only [List.length_append, List.length_cons, List.length_nil] at hlen
  exact ⟨a, b, rfl, List.length_eq_zero_iff.mp (by omega), List.length_eq_zero_iff.mp (by omega)⟩

theorem caller_ne_of_own_nil {i : ι} {b : List (Access ι V)} (hown : own i b = []) {y : Access ι V}
    (hy : y ∈ b) : y.caller ≠ i := by
  intro hi
  have hmem : y ∈ own i b := mem_own.mpr ⟨hy, hi⟩
  rw [hown] at hmem
  cases hmem

/-! ## The halves -/

theorem fst_written (h : Follows role s) :
    (after m s).1 = m.1 ∨ ∃ i pair, role i = .writer pair ∧ (after m s).1 = pair.1 := by
  induction s using List.reverseRecOn with
  | nil => exact .inl rfl
  | append_singleton s x ih =>
    rw [after_append]
    cases x with
    | writeFst i v =>
      obtain ⟨pair, hrole, hx | hx⟩ := h.writer_of_mem (x := .writeFst i v) (by simp) rfl trivial
      · cases hx
        exact .inr ⟨i, pair, hrole, rfl⟩
      · cases hx
    | writeSnd i v => exact ih h.of_append
    | readFst i v => exact ih h.of_append
    | readSnd i v => exact ih h.of_append

theorem snd_written (h : Follows role s) :
    (after m s).2 = m.2 ∨ ∃ i pair, role i = .writer pair ∧ (after m s).2 = pair.2 := by
  induction s using List.reverseRecOn with
  | nil => exact .inl rfl
  | append_singleton s x ih =>
    rw [after_append]
    cases x with
    | writeSnd i v =>
      obtain ⟨pair, hrole, hx | hx⟩ := h.writer_of_mem (x := .writeSnd i v) (by simp) rfl trivial
      · cases hx
      · cases hx
        exact .inr ⟨i, pair, hrole, rfl⟩
    | writeFst i v => exact ih h.of_append
    | readFst i v => exact ih h.of_append
    | readSnd i v => exact ih h.of_append

theorem readFst_written {i : ι} {v : V} (h : Follows role s) (hanswered : Answered m s)
    (hread : .readFst i v ∈ s) : v = m.1 ∨ ∃ j pair, role j = .writer pair ∧ v = pair.1 := by
  obtain ⟨a, b, rfl⟩ := List.append_of_mem hread
  have hv : v = (after m a).1 := hanswered a _ b rfl
  rw [hv]
  exact fst_written h.of_append

theorem readSnd_written {i : ι} {v : V} (h : Follows role s) (hanswered : Answered m s)
    (hread : .readSnd i v ∈ s) : v = m.2 ∨ ∃ j pair, role j = .writer pair ∧ v = pair.2 := by
  obtain ⟨a, b, rfl⟩ := List.append_of_mem hread
  have hv : v = (after m a).2 := hanswered a _ b rfl
  rw [hv]
  exact snd_written h.of_append

/-! ## The pairs -/

theorem midWrite_of_own_nil {i : ι} {a : List (Access ι V)} (ha : own i a = []) (v : V) :
    MidWrite i (a ++ [.writeFst i v]) := by
  refine ⟨⟨v, by simp⟩, fun w hw => ?_⟩
  rcases List.mem_append.mp hw with hw | hw
  · exact caller_ne_of_own_nil ha hw rfl
  · cases List.mem_singleton.mp hw

theorem midRead_of_own_nil {i : ι} {a b : List (Access ι V)} (ha : own i a = []) (hb : own i b = []) (v : V) :
    MidRead i (a ++ .readFst i v :: b) := by
  refine ⟨⟨v, by simp⟩, fun w hw => ?_⟩
  rcases List.mem_append.mp hw with hw | hw
  · exact caller_ne_of_own_nil ha hw rfl
  · rcases List.mem_cons.mp hw with hw | hw
    · cases hw
    · exact caller_ne_of_own_nil hb hw rfl

/-- A caller's second write comes right after its first, and makes its pair whole. -/
theorem after_of_writeSnd {i : ι} {v : V} (h : Follows role (s ++ [.writeSnd i v]))
    (hundivided : Undivided (s ++ [.writeSnd i v])) :
    role i = .writer (after m (s ++ [.writeSnd i v])) := by
  obtain ⟨pair, hrole, hx | hx⟩ := h.writer_of_mem (x := .writeSnd i v) (by simp) rfl trivial
  · cases hx
  cases hx
  have hrole : role i = .writer pair := hrole
  have hpre := (h i).1 pair hrole
  rw [own_concat (by rfl)] at hpre
  obtain ⟨-, he⟩ | ⟨hown, -⟩ := snoc_isPrefix_two hpre
  · cases he
  obtain ⟨a, b, rfl, ha, hb⟩ := split_own hown
  cases b with
  | nil =>
    rw [hrole, List.append_assoc, after_append]
    rfl
  | cons y b =>
    -- an access of another would lie between the two writes
    have hsplit : a ++ .writeFst i pair.1 :: y :: b ++ [.writeSnd i pair.2] =
        a ++ [.writeFst i pair.1] ++ y :: (b ++ [.writeSnd i pair.2]) := by simp
    have hne : i ≠ y.caller := (caller_ne_of_own_nil hb List.mem_cons_self).symm
    exact absurd (midWrite_of_own_nil ha pair.1) (hundivided _ y _ hsplit i hne).1

/-- Where no caller is between its writes, the pair is whole. -/
theorem after_written (h : Follows role s) (hundivided : Undivided s) (hwhole : ∀ i, ¬ MidWrite i s) :
    Written role m (after m s) := by
  induction s using List.reverseRecOn with
  | nil => exact .inl rfl
  | append_singleton s x ih =>
    have hread : ¬ x.IsWrite → Written role m (after m (s ++ [x])) := by
      intro hx
      rw [after_append, after_of_reads (after m s) (by simpa using hx)]
      refine ih h.of_append hundivided.of_append fun i hmid => hwhole i ?_
      obtain ⟨⟨v, hv⟩, hnone⟩ := hmid
      refine ⟨⟨v, List.mem_append_left _ hv⟩, fun w hw => ?_⟩
      rcases List.mem_append.mp hw with hw | hw
      · exact hnone w hw
      · rw [← List.mem_singleton.mp hw] at hx
        exact hx trivial
    cases x with
    | readFst i v => exact hread id
    | readSnd i v => exact hread id
    | writeSnd i v => exact .inr ⟨i, after_of_writeSnd h hundivided⟩
    | writeFst i v =>
      obtain ⟨pair, hrole, -⟩ := h.writer_of_mem (x := .writeFst i v) (by simp) rfl trivial
      have hpre := (h i).1 pair hrole
      rw [own_concat (by rfl)] at hpre
      obtain ⟨hown, -⟩ | ⟨-, he⟩ := snoc_isPrefix_two hpre
      · exact absurd (midWrite_of_own_nil hown v) (hwhole i)
      · cases he

/-- A caller's second read comes after its first, with no access of its own around the latter. -/
theorem exists_readFst {i : ι} {v w : V} {t c : List (Access ι V)} (h : Follows role (t ++ .readSnd i w :: c))
    (hfst : .readFst i v ∈ t ++ .readSnd i w :: c) :
    ∃ a b, t = a ++ .readFst i v :: b ∧ own i a = [] ∧ own i b = [] := by
  have hrole : role i = .reader := h.reader_of_mem hfst rfl id
  obtain ⟨v', w', hpre⟩ := (h i).2 hrole
  rw [own_append, own_cons_self (x := .readSnd i w) (by rfl)] at hpre
  have hbegin : own i t ++ [.readSnd i w] <+: [.readFst i v', .readSnd i w'] := by
    refine List.IsPrefix.trans ?_ hpre
    exact (List.prefix_append_right_inj _).mpr ⟨own i c, rfl⟩
  obtain ⟨-, he⟩ | ⟨hown, -⟩ := snoc_isPrefix_two hbegin
  · cases he
  have hmem : .readFst i v ∈ own i (t ++ .readSnd i w :: c) := mem_own.mpr ⟨hfst, rfl⟩
  rw [own_append, own_cons_self (x := .readSnd i w) (by rfl)] at hmem
  have hfirst := hpre.subset hmem
  simp only [List.mem_cons, List.not_mem_nil, or_false] at hfirst
  rcases hfirst with he | he
  · cases he
    exact split_own hown
  · cases he

theorem read_written {i : ι} {v w : V} (h : Follows role s) (hundivided : Undivided s)
    (hanswered : Answered m s) (hfst : .readFst i v ∈ s) (hsnd : .readSnd i w ∈ s) :
    Written role m (v, w) := by
  obtain ⟨t, c, rfl⟩ := List.append_of_mem hsnd
  obtain ⟨a, b, rfl, ha, hb⟩ := exists_readFst h hfst
  have hsplit : a ++ .readFst i v :: b ++ .readSnd i w :: c =
      a ++ .readFst i v :: (b ++ .readSnd i w :: c) := by simp
  -- nobody writes between the two reads
  have hreads : ∀ y ∈ b, ¬ y.IsWrite := by
    intro y hy hwrite
    obtain ⟨b₁, b₂, rfl⟩ := List.append_of_mem hy
    have hmid : MidRead i (a ++ .readFst i v :: b₁) := by
      rw [own_append] at hb
      exact midRead_of_own_nil ha (List.append_eq_nil_iff.mp hb).1 v
    have hne : i ≠ y.caller := (caller_ne_of_own_nil hb hy).symm
    have hat : a ++ .readFst i v :: (b₁ ++ y :: b₂) ++ .readSnd i w :: c =
        a ++ .readFst i v :: b₁ ++ y :: (b₂ ++ .readSnd i w :: c) := by simp
    exact (hundivided _ y _ hat i hne).2 hwrite hmid
  -- and nobody is between its writes at the first
  have hwhole : ∀ j, ¬ MidWrite j a := by
    intro j hmid
    by_cases hj : j = i
    · subst hj
      obtain ⟨⟨v', hv'⟩, -⟩ := hmid
      exact caller_ne_of_own_nil ha hv' rfl
    · exact (hundivided a _ _ hsplit j hj).1 hmid
  have hfirst : v = (after m a).1 := hanswered a _ _ hsplit
  have hsecond : w = (after m (a ++ .readFst i v :: b)).2 := hanswered _ _ _ rfl
  have hkept : after m (a ++ .readFst i v :: b) = after m a := by
    rw [after_append, after_of_reads]
    exact List.forall_mem_cons.mpr ⟨id, hreads⟩
  rw [hkept] at hsecond
  rw [hfirst, hsecond]
  rw [hsplit] at h hundivided
  exact after_written h.of_append hundivided.of_append hwhole

end Whole

end Libobsbot.Foundations.SplitPair

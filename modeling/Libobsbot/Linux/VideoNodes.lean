import Libobsbot.Foundations.NumeralOrder
import Libobsbot.Source.VideoNodes

/-! # Which node is opened

`open_for` sorts the names of a camera's nodes as byte strings and opens the first. That is the lowest-numbered node
only as long as the numbers have one length, or happen to be in dictionary order as well.
-/

namespace Libobsbot.VideoNodes
open Foundations Uvcvideo
set_option autoImplicit false

/-! ## Readers -/

/-- The readers of number files, which differ in what they parse and in what they say. -/
def readParsed {α : Type} (parse : List Char → Option α) (unread : String → Error) (unparsed : Error) (path : Path) :
    SysfsM α :=
  .mk (.perform (.readToString path) fun r =>
    .done (r.mapError unread >>= fun s => (parse (trim s)).elim (.error unparsed) .ok))

theorem readU8_eq (path : Path) :
    readU8 path = readParsed parseU8 .usb (.usb s!"parse u8 from {path.display}") path := by
  refine congrArg (Program.perform _) (funext fun r => ?_)
  cases r with
  | error e => rfl
  | ok s =>
    show _ = Program.done ((parseU8 (trim s)).elim _ _)
    dsimp only
    cases parseU8 (trim s) <;> rfl

/-! ## A file system -/

/-- What the file system holds: the class directory in the order it is read, where links lead, and the files. -/
structure Sysfs where
  entries : List OsString
  canonicalize : Path → Except String Path
  readToString : Path → Except String String
  openReadWrite : Path → Except String ℕ

namespace Sysfs
variable (fs : Sysfs)

/-- The paths opened are kept in order. -/
def answer : (op : SysfsOp) → List Path → op.Reply × List Path
  | .readDir _, opened => (.ok (fs.entries.map .ok), opened)
  | .canonicalize path, opened => (fs.canonicalize path, opened)
  | .readToString path, opened => (fs.readToString path, opened)
  | .openReadWrite path, opened => (fs.openReadWrite path, opened ++ [path])

def u8At (path : Path) : Option UInt8 := (fs.readToString path).toOption.bind fun s => parseU8 (trim s)

/-- The numbers in the directory above the interface that the entry's `device` link leads to. -/
def numbers (entry : OsString) : Option (UInt8 × UInt8) := do
  let ifaceDir ← (fs.canonicalize ((videoClass.join entry).join (osStr "device"))).toOption
  let devDir ← ifaceDir.parent
  let b ← fs.u8At (devDir.join (osStr "busnum"))
  let d ← fs.u8At (devDir.join (osStr "devnum"))
  return (b, d)

def nodesOf (busnum devnum : UInt8) : List OsString :=
  fs.entries.filter fun entry => fs.numbers entry = some (busnum, devnum)

def opened (busnum devnum : UInt8) : List Path := ((openFor busnum devnum).run.run fs.answer []).2

/-! ## One run -/

/-- A reader comes to a number exactly where the text of the file is one. -/
theorem run_readParsed {α : Type} {replyTo : (op : SysfsOp) → List Path → op.Reply × List Path}
    (hread : ∀ path log, replyTo (.readToString path) log = (fs.readToString path, log))
    (parse : List Char → Option α) (unread : String → Error) (unparsed : Error) (path : Path) (log : List Path) :
    ∃ r : Result α, (readParsed parse unread unparsed path).run.run replyTo log = (.ok r, log) ∧
      r.toOption = (fs.readToString path).toOption.bind fun s => parse (trim s) := by
  rw [readParsed, ExceptT.run_mk, Program.run_perform, hread]
  refine ⟨_, rfl, ?_⟩
  cases fs.readToString path with
  | error e => rfl
  | ok s =>
    show ((parse (trim s)).elim (.error unparsed) Except.ok).toOption = parse (trim s)
    cases parse (trim s) <;> rfl

theorem run_readU8 (path : Path) (log : List Path) : ∃ r : Result UInt8,
    (readU8 path).run.run fs.answer log = (.ok r, log) ∧ r.toOption = fs.u8At path := by
  rw [readU8_eq]
  exact fs.run_readParsed (fun _ _ => rfl) _ _ _ path log

theorem run_usbNumbers (entry : OsString) (log : List Path) :
    (usbNumbers entry).run fs.answer log = (.ok (fs.numbers entry), log) := by
  unfold usbNumbers numbers
  rw [Program.perform_bind, Program.run_perform, answer]
  cases hlink : fs.canonicalize ((videoClass.join entry).join (osStr "device")) with
  | error e => rfl
  | ok ifaceDir =>
    cases hparent : ifaceDir.parent with
    | none =>
      simp only [Program.done_bind, hparent, Except.toOption, Option.bind_eq_bind, Option.bind_some]
      rfl
    | some devDir =>
      obtain ⟨b, hb, hb'⟩ := fs.run_readU8 (devDir.join (osStr "busnum")) log
      obtain ⟨d, hd, hd'⟩ := fs.run_readU8 (devDir.join (osStr "devnum")) log
      simp only [Program.done_bind, hparent, Program.run_bind, hb, hd, Except.toOption, Option.bind_eq_bind,
        Option.bind_some, ← hb', ← hd']
      cases b <;> cases d <;> rfl

theorem run_matchesIn (busnum devnum : UInt8) (entries found : List OsString) (log : List Path) :
    (matchesIn busnum devnum (entries.map .ok) found).run.run fs.answer log =
      (.ok (.ok (found ++ entries.filter fun entry => fs.numbers entry = some (busnum, devnum))), log) := by
  induction entries generalizing found with
  | nil =>
    rw [List.filter_nil, List.append_nil]
    rfl
  | cons entry entries ih =>
    have hstep : (matchesIn busnum devnum ((entry :: entries).map .ok) found).run.run fs.answer log =
        (if fs.numbers entry = some (busnum, devnum) then
          matchesIn busnum devnum (entries.map .ok) (found ++ [entry])
        else matchesIn busnum devnum (entries.map .ok) found).run.run fs.answer log := by
      rw [List.map_cons, matchesIn]
      exact Program.run_exceptBind_ok (Program.run_exceptLift (fs.run_usbNumbers entry log))
    rw [hstep]
    by_cases hentry : fs.numbers entry = some (busnum, devnum)
    · rw [if_pos hentry, ih, List.filter_cons_of_pos (by simpa using hentry), List.append_assoc]
      rfl
    · rw [if_neg hentry, ih, List.filter_cons_of_neg (by simpa using hentry)]

/-- A call opens the first name in the order of bytes. -/
theorem run_openFor (busnum devnum : UInt8) : (openFor busnum devnum).run.run fs.answer [] =
    (openFirst (sortNames (fs.nodesOf busnum devnum))).run.run fs.answer [] := by
  have hdir : readVideoClass.run.run fs.answer [] = (.ok (.ok (fs.entries.map .ok)), []) := rfl
  have hfound := fs.run_matchesIn busnum devnum fs.entries [] []
  rw [List.nil_append] at hfound
  unfold openFor
  rw [Program.run_exceptBind_ok hdir, Program.run_exceptBind_ok hfound]
  rfl

/-- One path is opened; none if the device has no node. -/
theorem opened_eq (busnum devnum : UInt8) : fs.opened busnum devnum =
    ((sortNames (fs.nodesOf busnum devnum)).head?.map fun name => Path.join [osStr "dev"] name).toList := by
  unfold opened
  rw [run_openFor]
  cases sortNames (fs.nodesOf busnum devnum) with
  | nil => rfl
  | cons name names => rfl

end Sysfs

/-! ## Names and numbers -/

def videoNode (n : ℕ) : OsString := osStr "video" ++ decimal n

def devNode (n : ℕ) : Path := Path.join [osStr "dev"] (videoNode n)

theorem videoNode_le_iff {m n : ℕ} (h : m ≤ n) : videoNode m ≤ videoNode n ↔ m ≤ leading m n := by
  rw [videoNode, videoNode, append_le_append_left_iff, decimal_le_iff h]

/-- The node with the least number is opened exactly if no other number, cut to as many digits, is below it. -/
theorem lowest_opened_iff (fs : Sysfs) (busnum devnum : UInt8) {nodes : List ℕ} {m : ℕ}
    (hnodes : fs.nodesOf busnum devnum = nodes.map videoNode) (hm : m ∈ nodes) (hleast : ∀ n ∈ nodes, m ≤ n) :
    fs.opened busnum devnum = [devNode m] ↔ ∀ n ∈ nodes, m ≤ leading m n := by
  have hmem : videoNode m ∈ fs.nodesOf busnum devnum := hnodes ▸ List.mem_map_of_mem hm
  have hleading : (∀ n ∈ nodes, m ≤ leading m n) ↔ ∀ name ∈ fs.nodesOf busnum devnum, videoNode m ≤ name := by
    rw [hnodes, List.forall_mem_map]
    exact forall₂_congr fun n hn => (videoNode_le_iff (hleast n hn)).symm
  rw [hleading, fs.opened_eq]
  cases hsorted : sortNames (fs.nodesOf busnum devnum) with
  | nil =>
    have hnone := (List.mem_insertionSort (· ≤ ·)).mpr hmem
    rw [show List.insertionSort (· ≤ ·) (fs.nodesOf busnum devnum) = [] from hsorted] at hnone
    cases hnone
  | cons name names =>
    obtain ⟨hname, hfirst⟩ := insertionSort_cons_le hsorted
    show [Path.join [osStr "dev"] name] = [devNode m] ↔ _
    constructor
    · intro h
      have hpath : [osStr "dev"] ++ [name] = [osStr "dev"] ++ [videoNode m] := (List.cons.inj h).1
      obtain rfl := (List.cons.inj (List.append_cancel_left hpath)).1
      exact hfirst
    · intro h
      rw [List.le_antisymm (hfirst _ hmem) (h name hname), devNode]

/-- A class directory with the nodes of one camera, bus 1 and device 4. -/
def cameraNodes (nodes : List ℕ) : Sysfs where
  entries := nodes.map videoNode
  canonicalize _ := .ok [osStr "sys", osStr "devices", osStr "usb1", osStr "1-4", osStr "1-4:1.0"]
  readToString path := .ok (if path.getLast? = some (osStr "busnum") then "1\n" else "4\n")
  openReadWrite _ := .ok 3

theorem nodesOf_cameraNodes (nodes : List ℕ) : (cameraNodes nodes).nodesOf 1 4 = nodes.map videoNode := by
  refine List.filter_eq_self.mpr fun entry _ => ?_
  show decide (_ = _) = true
  rw [decide_eq_true_eq]
  rfl

theorem lowest_opened_iff_in_order : (cameraNodes [12, 1, 10]).opened 1 4 = [devNode 1] :=
  (lowest_opened_iff (cameraNodes [12, 1, 10]) 1 4 (nodesOf_cameraNodes _) (by decide) (by decide)).mpr (by decide)

/-- `video10` stands before `video9`. -/
theorem video9_passed_over : (cameraNodes [9, 10]).nodesOf 1 4 = [9, 10].map videoNode ∧
    (cameraNodes [9, 10]).opened 1 4 = [devNode 10] ∧ (cameraNodes [9, 10]).opened 1 4 ≠ [devNode 9] := by
  refine ⟨nodesOf_cameraNodes _, ?_⟩
  decide +kernel

end Libobsbot.VideoNodes

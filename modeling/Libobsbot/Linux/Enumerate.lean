import Libobsbot.Linux.VideoNodes
import Libobsbot.Source.Enumerate

/-! # Which cameras are listed, and which node a listed camera is opened by

`linux::enumerate` and `open_for` walk the same class directory, each with readers of its own. What the first lists is
a camera for every device directory that holds a Meet 2's files, in whatever order its nodes are met
(`enumerate_exact`); and by the numbers of a listed camera the second selects a node of that camera
(`listed_cameras_open`).
-/

namespace Libobsbot.VideoNodes
open Foundations Uvcvideo
set_option autoImplicit false

/-- The names that reading a directory comes upon. -/
def entriesOf (dir : Except String (List (Except String OsString))) : List OsString :=
  (dir.toOption.getD []).filterMap Except.toOption

namespace Sysfs
variable (fs : Sysfs)

/-- `answer`, where the class directory reads as `dir`. -/
def answerOver (dir : Except String (List (Except String OsString))) :
    (op : SysfsOp) → List Path → op.Reply × List Path
  | .readDir _, opened => (dir, opened)
  | op, opened => fs.answer op opened

theorem answerOver_entries : fs.answerOver (.ok (fs.entries.map .ok)) = fs.answer := by
  funext op opened
  cases op <;> rfl

theorem entriesOf_entries : entriesOf (.ok (fs.entries.map .ok)) = fs.entries := by
  show (fs.entries.map Except.ok).filterMap Except.toOption = fs.entries
  rw [List.filterMap_map]
  exact List.filterMap_some

/-! ## Device directories -/

/-- The directory of the USB device behind an entry. -/
def deviceDir (entry : OsString) : Option Path := do
  let ifaceDir ← (fs.canonicalize ((videoClass.join entry).join (osStr "device"))).toOption
  ifaceDir.parent

def numbersAt (device : Path) : Option (UInt8 × UInt8) := do
  let b ← fs.u8At (device.join (osStr "busnum"))
  let d ← fs.u8At (device.join (osStr "devnum"))
  return (b, d)

theorem numbers_eq (entry : OsString) : fs.numbers entry = (fs.deviceDir entry).bind fs.numbersAt := by
  unfold numbers deviceDir numbersAt
  cases (fs.canonicalize ((videoClass.join entry).join (osStr "device"))).toOption <;> rfl

def u16HexAt (path : Path) : Option UInt16 :=
  (fs.readToString path).toOption.bind fun s => Linux.parseU16Hex (trim s)

def serialAt (device : Path) : String :=
  String.ofList (trim ((fs.readToString (device.join (osStr "serial"))).toOption.getD ""))

/-- The description of the Meet 2 whose directory this is. -/
def camera (device : Path) : Option (DeviceInfo LinuxLocation) := do
  let (busnum, devnum) ← fs.numbersAt device
  if fs.u16HexAt (device.join (osStr "idVendor")) = some Meet2.vendorId ∧
      fs.u16HexAt (device.join (osStr "idProduct")) = some Meet2.productIdMeet2 then
    some {
      vendorId := Meet2.vendorId
      productId := Meet2.productIdMeet2
      productType := .meet2
      serial := fs.serialAt device
      location := ⟨busnum, devnum⟩ }
  else none

theorem numbersAt_of_camera {device : Path} {info : DeviceInfo LinuxLocation} (h : fs.camera device = some info) :
    fs.numbersAt device = some (Linux.keyOf info) := by
  unfold camera at h
  obtain ⟨⟨busnum, devnum⟩, hnumbers, hids⟩ := Option.bind_eq_some_iff.mp h
  dsimp only at hids
  split_ifs at hids
  cases hids
  exact hnumbers

/-- The devices that have a node among these, each once. -/
def devices (nodes : List OsString) : List Path := (nodes.filterMap fs.deviceDir).dedup

theorem mem_devices {nodes : List OsString} {device : Path} :
    device ∈ fs.devices nodes ↔ ∃ node ∈ nodes, fs.deviceDir node = some device := by
  rw [devices, List.mem_dedup, List.mem_filterMap]

/-- No two of these devices have the same numbers. -/
def DistinctNumbers (nodes : List OsString) : Prop :=
  ∀ device ∈ fs.devices nodes, ∀ device' ∈ fs.devices nodes,
    fs.numbersAt device ≠ none → fs.numbersAt device = fs.numbersAt device' → device = device'

instance (nodes : List OsString) : Decidable (fs.DistinctNumbers nodes) :=
  inferInstanceAs (Decidable (∀ device ∈ fs.devices nodes, ∀ device' ∈ fs.devices nodes,
    fs.numbersAt device ≠ none → fs.numbersAt device = fs.numbersAt device' → device = device'))

variable {fs}

theorem DistinctNumbers.eq {nodes : List OsString} (h : fs.DistinctNumbers nodes) {device device' : Path}
    (hmem : device ∈ fs.devices nodes) (hmem' : device' ∈ fs.devices nodes) {n : UInt8 × UInt8}
    (hn : fs.numbersAt device = some n) (hn' : fs.numbersAt device' = some n) : device = device' :=
  h device hmem device' hmem' (by rw [hn]; exact Option.some_ne_none n) (hn.trans hn'.symm)

theorem DistinctNumbers.of_same_devices {nodes nodes' : List OsString} (h : fs.DistinctNumbers nodes)
    (hsame : ∀ device, device ∈ fs.devices nodes' ↔ device ∈ fs.devices nodes) : fs.DistinctNumbers nodes' :=
  fun device hmem device' hmem' => h device ((hsame device).mp hmem) device' ((hsame device').mp hmem')

variable (fs)

/-! ## One run of the enumeration -/

theorem linuxReadU8_eq (path : Path) : Linux.readU8 path =
    readParsed parseU8 (fun e => .usb s!"read {path.display}: {e}") (.usb s!"parse u8 from {path.display}") path := by
  refine congrArg (Program.perform _) (funext fun r => ?_)
  cases r with
  | error e => rfl
  | ok s =>
    show _ = Program.done ((parseU8 (trim s)).elim _ _)
    dsimp only
    cases parseU8 (trim s) <;> rfl

theorem readU16Hex_eq (path : Path) : Linux.readU16Hex path =
    readParsed Linux.parseU16Hex (fun e => .usb s!"read {path.display}: {e}")
      (.usb s!"parse u16 hex from {path.display}") path := by
  refine congrArg (Program.perform _) (funext fun r => ?_)
  cases r with
  | error e => rfl
  | ok s =>
    show _ = Program.done ((Linux.parseU16Hex (trim s)).elim _ _)
    dsimp only
    cases Linux.parseU16Hex (trim s) <;> rfl

section Run
variable (dir : Except String (List (Except String OsString))) (log : List Path)

theorem run_linuxReadU8 (path : Path) : ∃ r : Result UInt8,
    (Linux.readU8 path).run.run (fs.answerOver dir) log = (.ok r, log) ∧ r.toOption = fs.u8At path := by
  rw [linuxReadU8_eq]
  exact fs.run_readParsed (fun _ _ => rfl) _ _ _ path log

theorem run_readU16Hex (path : Path) : ∃ r : Result UInt16,
    (Linux.readU16Hex path).run.run (fs.answerOver dir) log = (.ok r, log) ∧ r.toOption = fs.u16HexAt path := by
  rw [readU16Hex_eq]
  exact fs.run_readParsed (fun _ _ => rfl) _ _ _ path log

theorem run_cameraAt (entry : OsString) :
    (Linux.cameraAt entry).run (fs.answerOver dir) log = (.ok ((fs.deviceDir entry).bind fs.camera), log) := by
  unfold Linux.cameraAt deviceDir
  rw [Program.perform_bind, Program.run_perform]
  show Program.run _ (Program.done (fs.canonicalize ((videoClass.join entry).join (osStr "device"))) >>= _) log = _
  rw [Program.done_bind]
  cases fs.canonicalize ((videoClass.join entry).join (osStr "device")) with
  | error e => rfl
  | ok ifaceDir =>
    dsimp only
    show _ = (Except.ok (ifaceDir.parent.bind fs.camera), log)
    cases ifaceDir.parent with
    | none => rfl
    | some device =>
      obtain ⟨b, hb, hb'⟩ := fs.run_linuxReadU8 dir log (device.join (osStr "busnum"))
      obtain ⟨d, hd, hd'⟩ := fs.run_linuxReadU8 dir log (device.join (osStr "devnum"))
      obtain ⟨v, hv, hv'⟩ := fs.run_readU16Hex dir log (device.join (osStr "idVendor"))
      obtain ⟨p, hp, hp'⟩ := fs.run_readU16Hex dir log (device.join (osStr "idProduct"))
      simp only [Program.run_bind, hb, hd, hv, hp]
      show _ = (Except.ok (fs.camera device), log)
      unfold camera numbersAt
      rw [← hb', ← hd', ← hv', ← hp']
      -- all four files have been read; the first that is not a number ends both sides
      obtain e | b := b
      · rfl
      obtain e | d := d
      · rfl
      show _ = (Except.ok (if v.toOption = some Meet2.vendorId ∧ p.toOption = some Meet2.productIdMeet2 then _
        else _), log)
      obtain e | v := v
      · rw [if_neg fun h => Option.some_ne_none _ h.1.symm]
        rfl
      obtain e | p := p
      · rw [if_neg fun h => Option.some_ne_none _ h.2.symm]
        rfl
      show Program.run _ (if ¬ v = Meet2.vendorId then _ else if p = Meet2.productIdMeet2 then _ else _) log =
        (Except.ok (if some v = some Meet2.vendorId ∧ some p = some Meet2.productIdMeet2 then _ else _), log)
      rw [ite_not, ← ite_and]
      simp only [Option.some.injEq]
      split_ifs with hids
      · obtain ⟨rfl, rfl⟩ := hids
        rfl
      · rfl

theorem run_collectDevices (entries : List (Except String OsString)) (byDev : Linux.DeviceMap) :
    (Linux.collectDevices entries byDev).run (fs.answerOver dir) log = (.ok (collectFirst Linux.keyOf byDev
      ((entries.filterMap Except.toOption).filterMap fun entry => (fs.deviceDir entry).bind fs.camera)), log) := by
  induction entries generalizing byDev with
  | nil => rfl
  | cons entry entries ih =>
    cases entry with
    | error e => exact ih byDev
    | ok entry =>
      rw [Linux.collectDevices, Program.run_bind, fs.run_cameraAt dir log entry]
      show _ =
        (Except.ok (collectFirst Linux.keyOf byDev ((entry :: entries.filterMap Except.toOption).filterMap _)), log)
      rw [List.filterMap_cons]
      cases (fs.deviceDir entry).bind fs.camera with
      | none => exact ih byDev
      | some info => exact ih _

end Run

/-! ## The list -/

section Listed
variable {dir : Except String (List (Except String OsString))}

theorem mem_cameras {nodes : List OsString} {info : DeviceInfo LinuxLocation} :
    (info ∈ nodes.filterMap fun entry => (fs.deviceDir entry).bind fs.camera) ↔
      info ∈ (fs.devices nodes).filterMap fs.camera := by
  simp only [List.mem_filterMap, fs.mem_devices, Option.bind_eq_some_iff]
  constructor
  · rintro ⟨node, hnode, device, hdevice, hcamera⟩
    exact ⟨device, ⟨node, hnode, hdevice⟩, hcamera⟩
  · rintro ⟨device, ⟨node, hnode, hdevice⟩, hcamera⟩
    exact ⟨node, hnode, device, hdevice, hcamera⟩

variable {fs} {nodes : List OsString}

/-- The numbers of a camera tell which it is. -/
theorem DistinctNumbers.camera_eq (h : fs.DistinctNumbers nodes) {info info' : DeviceInfo LinuxLocation}
    (hmem : info ∈ (fs.devices nodes).filterMap fs.camera) (hmem' : info' ∈ (fs.devices nodes).filterMap fs.camera)
    (hkey : Linux.keyOf info = Linux.keyOf info') : info = info' := by
  obtain ⟨device, hdevice, hcamera⟩ := List.mem_filterMap.mp hmem
  obtain ⟨device', hdevice', hcamera'⟩ := List.mem_filterMap.mp hmem'
  obtain rfl := h.eq hdevice hdevice' (fs.numbersAt_of_camera hcamera) (hkey ▸ fs.numbersAt_of_camera hcamera')
  exact Option.some.inj (hcamera.symm.trans hcamera')

theorem DistinctNumbers.cameras_nodup (h : fs.DistinctNumbers nodes) :
    ((fs.devices nodes).filterMap fs.camera).Nodup := by
  refine List.pairwise_filterMap.mpr (List.Pairwise.imp_of_mem ?_ (List.nodup_dedup _))
  rintro device device' hdevice hdevice' hne info hcamera info' hcamera' rfl
  exact hne (h.eq hdevice hdevice' (fs.numbersAt_of_camera hcamera) (fs.numbersAt_of_camera hcamera'))

/-- The list of a directory is that of its names, whatever made the map give up its values in this order. -/
theorem run_enumerate (h : fs.DistinctNumbers (entriesOf dir)) (order : (byDev : Linux.DeviceMap) → Listing byDev)
    (log : List Path) : ∃ infos, (Linux.enumerate order).run (fs.answerOver dir) log = (.ok infos, log) ∧
      infos.Perm ((fs.devices (entriesOf dir)).filterMap fs.camera) := by
  cases dir with
  | error e => exact ⟨[], rfl, .refl _⟩
  | ok entries =>
    set names := entries.filterMap Except.toOption
    set items := names.filterMap fun entry => (fs.deviceDir entry).bind fs.camera
    have hmem : ∀ info, info ∈ items ↔ info ∈ (fs.devices names).filterMap fs.camera := fun info => fs.mem_cameras
    have hrun : (Linux.enumerate order).run (fs.answerOver (.ok entries)) log =
        (.ok ((order (collectFirst Linux.keyOf ∅ items)).toList.map Sigma.snd), log) := by
      have hwalk := fs.run_collectDevices (.ok entries) log entries ∅
      unfold Linux.enumerate
      show Program.run _ (Linux.collectDevices entries ∅ >>= _) log = _
      rw [Program.run_bind, hwalk]
      rfl
    have hvalues := values_collectFirst (fun info hinfo info' hinfo' => h.camera_eq ((hmem info).mp hinfo)
      ((hmem info').mp hinfo')) (order (collectFirst Linux.keyOf ∅ items))
    refine ⟨_, hrun, hvalues.trans ?_⟩
    refine (List.perm_ext_iff_of_nodup (List.nodup_dedup _) h.cameras_nodup).mpr fun info => ?_
    rw [List.mem_dedup]
    exact hmem info

end Listed

end Sysfs

/-- Whatever the class directory reads as, the list has one camera for every device of a node in it whose files are a
Meet 2's, with that device's serial, and nothing else; and it is the same list, but for its order, whatever nodes of
these devices are read, in whatever order and however often. -/
theorem enumerate_exact (fs : Sysfs) (dir : Except String (List (Except String OsString)))
    (hdistinct : fs.DistinctNumbers (entriesOf dir)) (order : (byDev : Linux.DeviceMap) → Listing byDev) :
    ∃ infos, (Linux.enumerate order).run (fs.answerOver dir) [] = (.ok infos, []) ∧
      infos.Perm ((fs.devices (entriesOf dir)).filterMap fs.camera) ∧ infos.Nodup ∧
      ∀ dir' order', (∀ device, (∃ node ∈ entriesOf dir', fs.deviceDir node = some device) ↔
          ∃ node ∈ entriesOf dir, fs.deviceDir node = some device) →
        ∃ infos', (Linux.enumerate order').run (fs.answerOver dir') [] = (.ok infos', []) ∧ infos'.Perm infos := by
  obtain ⟨infos, hrun, hperm⟩ := Sysfs.run_enumerate hdistinct order []
  refine ⟨infos, hrun, hperm, hperm.nodup_iff.mpr hdistinct.cameras_nodup, fun dir' order' hsame => ?_⟩
  have hsame' : ∀ device, device ∈ fs.devices (entriesOf dir') ↔ device ∈ fs.devices (entriesOf dir) := by
    intro device
    rw [fs.mem_devices, fs.mem_devices]
    exact hsame device
  have hdevices : (fs.devices (entriesOf dir')).Perm (fs.devices (entriesOf dir)) :=
    (List.perm_ext_iff_of_nodup (List.nodup_dedup _) (List.nodup_dedup _)).mpr hsame'
  obtain ⟨infos', hrun', hperm'⟩ := Sysfs.run_enumerate (hdistinct.of_same_devices hsame') order' []
  exact ⟨infos', hrun', hperm'.trans ((hdevices.filterMap _).trans hperm.symm)⟩

/-- Two cameras, one of them with two nodes, next to a webcam of another vendor and a node that leads nowhere. -/
def twoCameras : Sysfs where
  entries := [12, 3, 5, 10, 0].map videoNode
  canonicalize path :=
    let device := fun port => [osStr "sys", osStr "devices", osStr port, osStr "1.0"]
    if videoNode 12 ∈ path ∨ videoNode 3 ∈ path then .ok (device "1-4")
    else if videoNode 10 ∈ path then .ok (device "2-1")
    else if videoNode 5 ∈ path then .ok (device "1-7")
    else .error "ENOENT"
  readToString path :=
    if path.getLast? = some (osStr "busnum") then .ok (if osStr "2-1" ∈ path then "2\n" else "1\n")
    else if path.getLast? = some (osStr "devnum") then .ok (if osStr "1-7" ∈ path then "9\n" else "4\n")
    else if path.getLast? = some (osStr "idVendor") then .ok (if osStr "1-7" ∈ path then "046d\n" else "3564\n")
    else if path.getLast? = some (osStr "idProduct") then .ok "fefb\n"
    else .error "ENOENT"
  openReadWrite _ := .ok 3

def meet2At (busnum devnum : UInt8) : DeviceInfo LinuxLocation :=
  ⟨Meet2.vendorId, Meet2.productIdMeet2, .meet2, "", ⟨busnum, devnum⟩⟩

theorem enumerate_exact_two_cameras : ∃ infos,
    (Linux.enumerate fun byDev => (Listing.exists_listing byDev).some).run
      (twoCameras.answerOver (.ok (twoCameras.entries.map .ok))) [] = (.ok infos, []) ∧
    infos.Perm [meet2At 1 4, meet2At 2 4] := by
  obtain ⟨infos, hrun, hperm, -⟩ := enumerate_exact twoCameras (.ok (twoCameras.entries.map .ok)) (by decide +kernel)
    fun byDev => (Listing.exists_listing byDev).some
  have hcameras : (twoCameras.devices (entriesOf (.ok (twoCameras.entries.map .ok)))).filterMap twoCameras.camera =
      [meet2At 1 4, meet2At 2 4] := by decide +kernel
  exact ⟨infos, hrun, hcameras ▸ hperm⟩

/-! ## Opening what is listed -/

namespace Sysfs
variable (fs : Sysfs) {busnum devnum : UInt8}

def openPath (path : Path) : Result ℕ := (fs.openReadWrite path).mapError fun e => .usb s!"open {path.display}: {e}"

/-- The call comes down to opening this node, and no other. -/
def Selects (busnum devnum : UInt8) (name : OsString) : Prop :=
  (openFor busnum devnum).run.run fs.answer [] =
    (.ok (fs.openPath (Path.join [osStr "dev"] name)), [Path.join [osStr "dev"] name])

theorem mem_nodesOf {name : OsString} : name ∈ fs.nodesOf busnum devnum ↔
    name ∈ fs.entries ∧ ∃ device, fs.deviceDir name = some device ∧ fs.numbersAt device = some (busnum, devnum) := by
  rw [nodesOf, List.mem_filter, decide_eq_true_eq, fs.numbers_eq, Option.bind_eq_some_iff]

/-- A call on numbers that no node has, and on numbers that some node has. -/
theorem openFor_cases (busnum devnum : UInt8) :
    (fs.nodesOf busnum devnum = [] ∧
      (openFor busnum devnum).run.run fs.answer [] = (.ok (.error .notFound), [])) ∨
    ∃ name ∈ fs.nodesOf busnum devnum, fs.Selects busnum devnum name := by
  unfold Selects
  rw [run_openFor]
  cases hsorted : sortNames (fs.nodesOf busnum devnum) with
  | nil =>
    have hlength := List.length_insertionSort (· ≤ ·) (fs.nodesOf busnum devnum)
    rw [show List.insertionSort (· ≤ ·) (fs.nodesOf busnum devnum) = [] from hsorted] at hlength
    exact .inl ⟨List.eq_nil_of_length_eq_zero hlength.symm, rfl⟩
  | cons name names => exact .inr ⟨name, (insertionSort_cons_le hsorted).1, rfl⟩

theorem openPath_ne_notFound (path : Path) : fs.openPath path ≠ .error .notFound := by
  unfold openPath
  cases fs.openReadWrite path with
  | error e => exact fun h => by cases h
  | ok fd => exact fun h => by cases h

theorem notFound_iff (busnum devnum : UInt8) :
    ((openFor busnum devnum).run.run fs.answer []).1 = .ok (.error .notFound) ↔ fs.nodesOf busnum devnum = [] := by
  obtain ⟨hnone, hrun⟩ | ⟨name, hmem, hselects⟩ := fs.openFor_cases busnum devnum
  · exact iff_of_true (congrArg Prod.fst hrun) hnone
  · refine iff_of_false (fun hresult => ?_) (List.ne_nil_of_mem hmem)
    rw [Selects] at hselects
    rw [hselects] at hresult
    exact fs.openPath_ne_notFound _ (Except.ok.inj hresult)

variable {fs}

theorem Selects.unique {name name' : OsString} (h : fs.Selects busnum devnum name)
    (h' : fs.Selects busnum devnum name') : name = name' := by
  have hpath := congrArg Prod.snd (h.symm.trans h')
  exact (List.cons.inj (List.append_cancel_left (List.cons.inj hpath).1)).1

theorem Selects.mem_nodesOf {name : OsString} (h : fs.Selects busnum devnum name) :
    name ∈ fs.nodesOf busnum devnum := by
  obtain ⟨-, hnone⟩ | ⟨name', hmem, hselects⟩ := fs.openFor_cases busnum devnum
  · have hresult := congrArg Prod.snd (hnone.symm.trans h)
    cases hresult
  · exact h.unique hselects ▸ hmem

theorem DistinctNumbers.selects_camera (h : fs.DistinctNumbers fs.entries) {info : DeviceInfo LinuxLocation}
    (hinfo : info ∈ (fs.devices fs.entries).filterMap fs.camera) :
    ∃ name ∈ fs.entries, fs.Selects info.location.busnum info.location.devnum name ∧
      ∃ device, fs.deviceDir name = some device ∧ fs.camera device = some info := by
  obtain ⟨device, hdevice, hcamera⟩ := List.mem_filterMap.mp hinfo
  have hnumbers := fs.numbersAt_of_camera hcamera
  obtain ⟨node, hnode, hdir⟩ := fs.mem_devices.mp hdevice
  have hmem : node ∈ fs.nodesOf info.location.busnum info.location.devnum :=
    fs.mem_nodesOf.mpr ⟨hnode, device, hdir, hnumbers⟩
  obtain ⟨hnone, -⟩ | ⟨name, hselected, hselects⟩ := fs.openFor_cases info.location.busnum info.location.devnum
  · rw [hnone] at hmem
    cases hmem
  · obtain ⟨hname, device', hdir', hnumbers'⟩ := fs.mem_nodesOf.mp hselected
    obtain rfl := h.eq hdevice (fs.mem_devices.mpr ⟨name, hname, hdir'⟩) hnumbers hnumbers'
    exact ⟨name, hname, hselects, device, hdir', hcamera⟩

end Sysfs

/-- With the numbers of a listed camera, a node of that camera is what is opened; with any numbers, the node that is
opened is of the one device that has them, and there is none exactly if no node's device does. -/
theorem listed_cameras_open (fs : Sysfs) (hdistinct : fs.DistinctNumbers fs.entries)
    (order : (byDev : Linux.DeviceMap) → Listing byDev) :
    (∃ infos, (Linux.enumerate order).run fs.answer [] = (.ok infos, []) ∧ ∀ info ∈ infos,
      ∃ name ∈ fs.entries, fs.Selects info.location.busnum info.location.devnum name ∧
        ∃ device, fs.deviceDir name = some device ∧ fs.camera device = some info) ∧
    (∀ busnum devnum name, fs.Selects busnum devnum name → name ∈ fs.entries ∧ ∃ device,
      fs.deviceDir name = some device ∧ fs.numbersAt device = some (busnum, devnum) ∧
        ∀ device' ∈ fs.devices fs.entries, fs.numbersAt device' = some (busnum, devnum) → device' = device) ∧
    (∀ busnum devnum, ((openFor busnum devnum).run.run fs.answer []).1 = .ok (.error .notFound) ↔
      ∀ name ∈ fs.entries, ∀ device, fs.deviceDir name = some device →
        fs.numbersAt device ≠ some (busnum, devnum)) := by
  refine ⟨?_, fun busnum devnum name hselects => ?_, fun busnum devnum => ?_⟩
  · have hnames := fs.entriesOf_entries
    obtain ⟨infos, hrun, hperm⟩ := Sysfs.run_enumerate (hnames.symm ▸ hdistinct) order []
    rw [fs.answerOver_entries] at hrun
    rw [hnames] at hperm
    exact ⟨infos, hrun, fun info hinfo => hdistinct.selects_camera (hperm.mem_iff.mp hinfo)⟩
  · obtain ⟨hname, device, hdir, hnumbers⟩ := fs.mem_nodesOf.mp hselects.mem_nodesOf
    exact ⟨hname, device, hdir, hnumbers, fun device' hdevice' hnumbers' =>
      hdistinct.eq hdevice' (fs.mem_devices.mpr ⟨name, hname, hdir⟩) hnumbers' hnumbers⟩
  · rw [fs.notFound_iff, List.eq_nil_iff_forall_not_mem]
    simp only [fs.mem_nodesOf, not_and, not_exists, ne_eq]

theorem listed_cameras_open_two_cameras :
    (∃ infos, (Linux.enumerate fun byDev => (Listing.exists_listing byDev).some).run twoCameras.answer [] =
        (.ok infos, []) ∧ ∀ info ∈ infos, ∃ name ∈ twoCameras.entries,
          twoCameras.Selects info.location.busnum info.location.devnum name ∧
            ∃ device, twoCameras.deviceDir name = some device ∧ twoCameras.camera device = some info) ∧
    ((openFor 1 5).run.run twoCameras.answer []).1 = .ok (.error .notFound) := by
  obtain ⟨hlisted, -, hnotFound⟩ := listed_cameras_open twoCameras (by decide +kernel)
    fun byDev => (Listing.exists_listing byDev).some
  refine ⟨hlisted, (hnotFound 1 5).mpr fun name hname device hdir hnumbers => ?_⟩
  have hnone : ∀ name ∈ twoCameras.entries, (twoCameras.deviceDir name).bind twoCameras.numbersAt ≠ some (1, 5) := by
    decide +kernel
  exact hnone name hname (Option.bind_eq_some_iff.mpr ⟨device, hdir, hnumbers⟩)

end Libobsbot.VideoNodes

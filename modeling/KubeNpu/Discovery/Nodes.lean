import KubeNpu.Discovery.Discover

/-!
# Every node is discovered once, under its own device

`located` is what the reads of one directory entry say by themselves: the address
its sysfs link resolves to and the node.  A discovery groups these by address
(`Grouped`): the first entry of an address makes the device, in whichever
directory it is, and each later one is appended.

Whatever fails for an entry concerns that entry alone, and an error of the whole
discovery is always an error of listing one of the two directories.
-/

namespace KubeNpu

open Go

/-! ## One entry -/

/-- The address and the node of a character device whose three reads succeed. -/
def located (w : World) (devPath sysfsPath : String) (file : DirFile) :
    Option (String × Node) :=
  let fileFullPath := Filepath.join devPath file.name
  let sysfsFullPath := Filepath.join sysfsPath file.name
  if file.isCharDevice = true ∧ file.isDir = false then
    match w.stat fileFullPath, readUevent w sysfsFullPath,
      w.evalSymlinks (Filepath.join sysfsFullPath "device") with
    | .ok rdev, .ok _, .ok target =>
        some (Filepath.base target,
          { minor := Unix.minor rdev, major := Unix.major rdev, path := fileFullPath })
    | _, _, _ => none
  else none

/-- The nodes that the map holds for an address. -/
def nodesOf (devices : Map String Device) (addr : String) : List Node :=
  ((devices.lookup addr).map Device.nodes).getD []

/-- The nodes of an address among located entries, in order. -/
def nodesAt (found : List (String × Node)) (addr : String) : List Node :=
  (found.filter fun e => e.1 = addr).map Prod.snd

theorem nodesAt_append (found more : List (String × Node)) (addr : String) :
    nodesAt (found ++ more) addr = nodesAt found addr ++ nodesAt more addr := by
  simp [nodesAt]

variable {w : World} {devPath sysfsPath : String} {devices : Map String Device}

/-- An entry that is not located is passed over. -/
theorem discoverFile_of_not_located {file : DirFile}
    (h : located w devPath sysfsPath file = none) :
    discoverFile w devPath sysfsPath devices file = devices := by
  simp only [discoverFile, getDeviceAddress]
  split
  · rfl
  rename_i hdir
  split
  · rfl
  rename_i hchar
  have hkind : file.isCharDevice = true ∧ file.isDir = false :=
    ⟨by simpa using hchar, by simpa using hdir⟩
  simp only [located, if_pos hkind] at h
  split
  · rfl
  rename_i rdev hstat
  split
  · rfl
  rename_i uevent huevent
  -- all three reads succeed only for a located entry
  cases htarget : w.evalSymlinks (Filepath.join (Filepath.join sysfsPath file.name) "device") with
  | error err => rfl
  | ok target =>
      rw [hstat, huevent, htarget] at h
      cases h

/-- A located entry adds its node to its device and to no other. -/
theorem nodesOf_discoverFile {file : DirFile} {addr : String} {n : Node}
    (h : located w devPath sysfsPath file = some (addr, n)) (a : String) :
    nodesOf (discoverFile w devPath sysfsPath devices file) a =
      nodesOf devices a ++ if addr = a then [n] else [] := by
  simp only [located] at h
  split at h
  · rename_i hkind
    obtain ⟨hchar, hdir⟩ := hkind
    split at h
    · rename_i rdev uevent target hstat huevent htarget
      cases h
      simp only [discoverFile, getDeviceAddress, hchar, hdir, hstat, huevent, htarget,
        Bool.false_eq_true, if_false, Bool.not_true]
      rcases eq_or_ne (Filepath.base target) a with rfl | hne
      · cases hlookup : devices.lookup (Filepath.base target) with
        | none => simp [nodesOf, hlookup, newDevice]
        | some device => simp [nodesOf, hlookup]
      · cases hlookup : devices.lookup (Filepath.base target) with
        | none => simp [nodesOf, AList.lookup_insert_ne hne.symm, hne]
        | some device => simp [nodesOf, AList.lookup_insert_ne hne.symm, hne]
    · cases h
  · cases h

/-! ## One directory -/

/-- The map holds the located entries `found`, grouped by address. -/
def Grouped (devices : Map String Device) (found : List (String × Node)) : Prop :=
  ∀ addr, nodesOf devices addr = nodesAt found addr

theorem grouped_empty : Grouped ∅ [] := by
  intro addr
  rfl

/-- **One entry keeps the grouping.** -/
theorem Grouped.discoverFile {found : List (String × Node)} (h : Grouped devices found)
    (w : World) (devPath sysfsPath : String) (file : DirFile) :
    Grouped (discoverFile w devPath sysfsPath devices file)
      (found ++ (located w devPath sysfsPath file).toList) := by
  intro a
  cases hfile : located w devPath sysfsPath file with
  | none =>
      rw [discoverFile_of_not_located hfile, Option.toList_none, List.append_nil]
      exact h a
  | some e =>
      obtain ⟨addr, n⟩ := e
      rw [nodesOf_discoverFile hfile, nodesAt_append, h a]
      by_cases haddr : addr = a <;> simp [nodesAt, haddr]

/-- A whole directory does. -/
theorem Grouped.foldl {found : List (String × Node)} (h : Grouped devices found)
    (w : World) (devPath sysfsPath : String) (files : List DirFile) :
    Grouped (files.foldl (KubeNpu.discoverFile w devPath sysfsPath) devices)
      (found ++ files.filterMap (located w devPath sysfsPath)) := by
  induction files generalizing devices found with
  | nil => simpa using h
  | cons file files ih =>
      have hrest := ih (h.discoverFile w devPath sysfsPath file)
      rw [List.foldl_cons]
      cases hfile : located w devPath sysfsPath file <;> simpa [hfile] using hrest

/-- The entries that are not located may as well be missing. -/
theorem foldl_discoverFile_filter (files : List DirFile) :
    files.foldl (discoverFile w devPath sysfsPath) devices =
      (files.filter fun file => (located w devPath sysfsPath file).isSome).foldl
        (discoverFile w devPath sysfsPath) devices := by
  induction files generalizing devices with
  | nil => rfl
  | cons file files ih =>
      cases hfile : located w devPath sysfsPath file with
      | none =>
          rw [List.foldl_cons, discoverFile_of_not_located hfile, ih]
          simp [hfile]
      | some e =>
          rw [List.foldl_cons, ih]
          simp [hfile]

/-! ## Both directories -/

/-- The entries of a directory; one that cannot be listed has none. -/
def listing (w : World) (devPath : String) : List DirFile :=
  match w.readDir devPath with
  | .ok files => files
  | .error _ => []

/-- What the two directories hold, in directory order, the DRI directory first. -/
def locatedEntries (w : World) (paths : Paths) : List (String × Node) :=
  (listing w paths.driPath).filterMap (located w paths.driPath paths.sysfsDriPath) ++
    (listing w paths.accelPath).filterMap (located w paths.accelPath paths.sysfsAccelPath)

/-- Listing a directory fails, and not because it does not exist. -/
def ListingFails (w : World) (devPath : String) : Prop :=
  ∃ err, w.readDir devPath = .error err ∧ err.is .errNotExist = false

/-- Another listing of a directory has the same located entries in the same order,
or fails in the same way. -/
def SameLocated (w : World) (readDir : String → Except Err (List DirFile))
    (devPath sysfsPath : String) : Prop :=
  match w.readDir devPath, readDir devPath with
  | .error err, .error err' => err = err'
  | .ok files, .ok files' =>
      (files.filter fun file => (located w devPath sysfsPath file).isSome) =
        files'.filter fun file => (located w devPath sysfsPath file).isSome
  | _, _ => False

/-- **One directory**: the step of `Discover`, as a whole. -/
theorem orEmpty_discoverDevices (w : World) (devPath sysfsPath : String)
    (devices : Map String Device) :
    (ListingFails w devPath ∧
        ∃ err, orEmpty devices (discoverDevices w devPath sysfsPath devices) = .error err) ∨
      (¬ ListingFails w devPath ∧
        orEmpty devices (discoverDevices w devPath sysfsPath devices) =
          .ok ((listing w devPath).foldl (discoverFile w devPath sysfsPath) devices)) := by
  unfold ListingFails listing discoverDevices
  cases hdir : w.readDir devPath with
  | ok files =>
      right
      refine ⟨?_, rfl⟩
      rintro ⟨err, herr, -⟩
      cases herr
  | error err =>
      cases hexist : err.is .errNotExist with
      | false => exact Or.inl ⟨⟨err, rfl, hexist⟩, err, by simp [orEmpty, hexist]⟩
      | true =>
          refine Or.inr ⟨?_, by simp [orEmpty, hexist]⟩
          rintro ⟨err', herr, hnot⟩
          cases herr
          rw [hexist] at hnot
          cases hnot

/-- **A discovery as a whole.** -/
theorem discoverMap_spec (w : World) (paths : Paths) :
    ((ListingFails w paths.driPath ∨ ListingFails w paths.accelPath) ∧
        ∃ err, discoverMap w paths = .error err) ∨
      (¬ (ListingFails w paths.driPath ∨ ListingFails w paths.accelPath) ∧
        discoverMap w paths = .ok
          ((listing w paths.accelPath).foldl (discoverFile w paths.accelPath paths.sysfsAccelPath)
            ((listing w paths.driPath).foldl (discoverFile w paths.driPath paths.sysfsDriPath)
              ∅))) := by
  unfold discoverMap
  rcases orEmpty_discoverDevices w paths.driPath paths.sysfsDriPath ∅ with
    ⟨hfails, err, herr⟩ | ⟨hlists, hdri⟩
  · rw [herr]
    exact Or.inl ⟨Or.inl hfails, err, rfl⟩
  · rw [hdri]
    rcases orEmpty_discoverDevices w paths.accelPath paths.sysfsAccelPath
      ((listing w paths.driPath).foldl (discoverFile w paths.driPath paths.sysfsDriPath) ∅) with
      ⟨hfails, herr⟩ | ⟨hlists', haccel⟩
    · exact Or.inl ⟨Or.inr hfails, herr⟩
    · exact Or.inr ⟨not_or.mpr ⟨hlists, hlists'⟩, haccel⟩

/-- What a discovery finds is grouped by address. -/
theorem grouped_discoverMap {w : World} {paths : Paths} {devices : Map String Device}
    (h : discoverMap w paths = .ok devices) : Grouped devices (locatedEntries w paths) := by
  rcases discoverMap_spec w paths with ⟨-, err, herr⟩ | ⟨-, hok⟩
  · rw [herr] at h
    cases h
  · rw [hok] at h
    cases h
    have hdri := grouped_empty.foldl w paths.driPath paths.sysfsDriPath (listing w paths.driPath)
    rw [List.nil_append] at hdri
    exact hdri.foldl w _ _ _

/-- The devices of a discovery are those its map holds under their addresses. -/
theorem IsDiscovered.mem_iff {w : World} {paths : Paths} {devices : Map String Device}
    {result : List Device} (hdevices : discoverMap w paths = .ok devices)
    (hperm : result.Perm (devices.toList.map Prod.snd)) {d : Device} :
    d ∈ result ↔ devices.lookup d.pciAddress = some d := by
  rw [hperm.mem_iff]
  exact Map.mem_values_iff fun addr e he => (addressKeyed_discoverMap hdevices addr e he).1

/-- A discovered device has the nodes of its address. -/
theorem IsDiscovered.nodes_eq {w : World} {paths : Paths} {result : List Device}
    (h : IsDiscovered w paths result) {d : Device} (hd : d ∈ result) :
    d.nodes ≠ [] ∧ d.nodes = nodesAt (locatedEntries w paths) d.pciAddress := by
  obtain ⟨devices, hdevices, hperm⟩ := h
  have hlookup := (IsDiscovered.mem_iff hdevices hperm).mp hd
  refine ⟨(addressKeyed_discoverMap hdevices _ _ hlookup).2.2, ?_⟩
  rw [← grouped_discoverMap hdevices d.pciAddress, nodesOf, hlookup, Option.map_some,
    Option.getD_some]

/-- A located entry has its device. -/
theorem IsDiscovered.exists_device {w : World} {paths : Paths} {result : List Device}
    (h : IsDiscovered w paths result) {e : String × Node} (he : e ∈ locatedEntries w paths) :
    ∃ d ∈ result, d.pciAddress = e.1 := by
  obtain ⟨devices, hdevices, hperm⟩ := h
  have hmem : e.2 ∈ nodesAt (locatedEntries w paths) e.1 := by
    rw [nodesAt, List.mem_map]
    exact ⟨e, List.mem_filter.mpr ⟨he, by simp⟩, rfl⟩
  rw [← grouped_discoverMap hdevices e.1, nodesOf] at hmem
  cases hlookup : devices.lookup e.1 with
  | none =>
      rw [hlookup] at hmem
      cases hmem
  | some d =>
      have haddr := (addressKeyed_discoverMap hdevices _ _ hlookup).1
      refine ⟨d, (IsDiscovered.mem_iff hdevices hperm).mpr ?_, haddr⟩
      rw [haddr]
      exact hlookup

/-- **The nodes of all devices are the located entries, each once.** -/
theorem IsDiscovered.perm_located {w : World} {paths : Paths} {result : List Device}
    (h : IsDiscovered w paths result) :
    (result.flatMap fun d => d.nodes.map fun n => (d.pciAddress, n)).Perm
      (locatedEntries w paths) := by
  have hgroups : (result.flatMap fun d => d.nodes.map fun n => (d.pciAddress, n)) =
      (result.map Device.pciAddress).flatMap fun addr =>
        (locatedEntries w paths).filter fun e => e.1 = addr := by
    rw [List.flatMap_map]
    refine List.flatMap_congr ?_
    intro d hd
    rw [(h.nodes_eq hd).2, nodesAt, List.map_map]
    refine (List.map_congr_left ?_).trans (List.map_id _)
    intro e he
    have haddr : e.1 = d.pciAddress := by simpa using (List.mem_filter.mp he).2
    rw [Function.comp_apply, ← haddr]
    rfl
  rw [hgroups]
  refine Map.flatMap_filter_perm Prod.fst h.nodup_address ?_
  intro e he
  obtain ⟨d, hd, haddr⟩ := h.exists_device he
  exact List.mem_map.mpr ⟨d, hd, haddr⟩

/-- The listings are read by `discoverDevices` only. -/
theorem discoverDevices_readDir (w : World) (readDir : String → Except Err (List DirFile))
    (devPath sysfsPath : String) (devices : Map String Device) :
    discoverDevices { w with readDir } devPath sysfsPath devices =
      match readDir devPath with
      | .error err => .error err
      | .ok files => .ok (files.foldl (discoverFile w devPath sysfsPath) devices) := rfl

/-- One directory gives the same devices from a listing with the same located
entries. -/
theorem discoverDevices_congr {w : World} {readDir : String → Except Err (List DirFile)}
    {devPath sysfsPath : String} (h : SameLocated w readDir devPath sysfsPath)
    (devices : Map String Device) :
    discoverDevices { w with readDir } devPath sysfsPath devices =
      discoverDevices w devPath sysfsPath devices := by
  unfold SameLocated at h
  rw [discoverDevices_readDir, discoverDevices]
  cases hold : w.readDir devPath with
  | error err =>
      cases hnew : readDir devPath with
      | error err' =>
          rw [hold, hnew] at h
          obtain rfl : err = err' := h
          rfl
      | ok files =>
          rw [hold, hnew] at h
          cases h
  | ok files =>
      cases hnew : readDir devPath with
      | error err =>
          rw [hold, hnew] at h
          cases h
      | ok files' =>
          rw [hold, hnew] at h
          show Except.ok (files'.foldl (discoverFile w devPath sysfsPath) devices) =
            Except.ok (files.foldl (discoverFile w devPath sysfsPath) devices)
          rw [foldl_discoverFile_filter files', ← h, ← foldl_discoverFile_filter files]

/-- **The entries that fail can be added to a listing or taken out of it.** -/
theorem discoverMap_congr {w : World} {paths : Paths}
    {readDir : String → Except Err (List DirFile)}
    (hdri : SameLocated w readDir paths.driPath paths.sysfsDriPath)
    (haccel : SameLocated w readDir paths.accelPath paths.sysfsAccelPath) :
    discoverMap { w with readDir } paths = discoverMap w paths := by
  unfold discoverMap
  simp only [discoverDevices_congr hdri, discoverDevices_congr haccel]

/-- **Discovery neither loses nor duplicates nor misplaces a node.**  It fails
exactly when listing one of the two directories fails with an error other than
not-exist.  Otherwise the devices, in any order, have different addresses and at
least one node each; a device has the nodes of the entries that resolve to its
address, in directory order with the DRI directory first; and over all devices
these are the located entries of both directories, each once.  Entries that are
not located can be added or taken away without any effect. -/
theorem discover_exact (w : World) (paths : Paths) :
    ((∃ err, discover w paths = .error err) ↔
      ListingFails w paths.driPath ∨ ListingFails w paths.accelPath) ∧
    (∀ result, IsDiscovered w paths result →
      (result.map Device.pciAddress).Nodup ∧
      (∀ d ∈ result, d.nodes ≠ [] ∧
        d.nodes = nodesAt (locatedEntries w paths) d.pciAddress) ∧
      (result.flatMap fun d => d.nodes.map fun n => (d.pciAddress, n)).Perm
        (locatedEntries w paths)) ∧
    (∀ readDir, SameLocated w readDir paths.driPath paths.sysfsDriPath →
      SameLocated w readDir paths.accelPath paths.sysfsAccelPath →
      discoverMap { w with readDir } paths = discoverMap w paths) := by
  refine ⟨?_, ?_, fun readDir hdri haccel => discoverMap_congr hdri haccel⟩
  · unfold discover
    rcases discoverMap_spec w paths with ⟨hfails, err, herr⟩ | ⟨hlists, hok⟩
    · rw [herr]
      exact iff_of_true ⟨err, rfl⟩ hfails
    · rw [hok]
      refine iff_of_false ?_ hlists
      rintro ⟨err, herr⟩
      cases herr
  · exact fun result h => ⟨h.nodup_address, fun d hd => h.nodes_eq hd, h.perm_located⟩

/-- A machine with one device that has a node in each directory, and an entry that
`stat` cannot read between them. -/
def sharedWorld : World where
  readDir path :=
    if path = "/dev/dri" then .ok [⟨"by-path", true, false⟩, ⟨"card0", false, true⟩,
      ⟨"card1", false, true⟩]
    else .ok [⟨"accel0", false, true⟩]
  stat path :=
    if path = "/dev/dri/card1" then .error (.external "no such device")
    else if path = "/dev/dri/card0" then .ok 0xE200 else .ok 0x10500
  openFile _ := .ok ⟨"DRIVER=intel_vpu\n", none⟩
  readFile _ := .error (.external "no such file or directory")
  evalSymlinks _ := .ok "/sys/devices/pci0000:00/0000:00:0b.0"

/-- Its device. -/
def sharedDevice : Device where
  driverName := "intel_vpu"
  sysfsPath := "/sys/devices/pci0000:00/0000:00:0b.0"
  pciID := ""
  pciAddress := "0000:00:0b.0"
  numaNode := "-1"
  nodes := [⟨0, 226, "/dev/dri/card0"⟩, ⟨0, 261, "/dev/accel/accel0"⟩]

set_option maxRecDepth 8000 in
theorem isDiscovered_shared : IsDiscovered sharedWorld defaultPaths [sharedDevice] :=
  ⟨(∅ : Map String Device).insert "0000:00:0b.0" sharedDevice, by rfl, List.Perm.refl _⟩

/-- The statement for that machine. -/
theorem discover_exact_shared :
    ([sharedDevice].flatMap fun d => d.nodes.map fun n => (d.pciAddress, n)).Perm
      (locatedEntries sharedWorld defaultPaths) :=
  ((discover_exact sharedWorld defaultPaths).2.1 _ isDiscovered_shared).2.2

end KubeNpu

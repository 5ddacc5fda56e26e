import KubeNpu.Go.Gather
import KubeNpu.Discovery.Nodes

/-!
# A discovery as a grouping

Read by itself, a directory entry is a device with one node, a sighting, or
nothing.  `Discover` groups the sightings of both directories by their address: of
an address, the first sighting gives the driver, the PCI ID and the NUMA node, and
every sighting gives its node.
-/

namespace KubeNpu

open Go

/-- The device that one entry alone would make. -/
def sighting (w : World) (devPath sysfsPath : String) (file : DirFile) : Option Device :=
  let fileFullPath := Filepath.join devPath file.name
  let sysfsFullPath := Filepath.join sysfsPath file.name
  if file.isCharDevice = true ∧ file.isDir = false then
    match w.stat fileFullPath, readUevent w sysfsFullPath, getDeviceAddress w sysfsFullPath with
    | .ok rdev, .ok uevent, .ok (deviceAddress, deviceSysfsPath) =>
        some (newDevice w uevent deviceAddress deviceSysfsPath
          { minor := Unix.minor rdev, major := Unix.major rdev, path := fileFullPath })
    | _, _, _ => none
  else none

/-- What both directories show, in directory order, the DRI directory first. -/
def sightings (w : World) (paths : Paths) : List Device :=
  (listing w paths.driPath).filterMap (sighting w paths.driPath paths.sysfsDriPath) ++
    (listing w paths.accelPath).filterMap (sighting w paths.accelPath paths.sysfsAccelPath)

/-- A later sighting adds its nodes to the first one. -/
def Device.addNodes (first d : Device) : Device := { first with nodes := first.nodes ++ d.nodes }

/-- The device at an address. -/
def deviceAt (w : World) (paths : Paths) (addr : String) : Option Device :=
  Map.grouped Device.pciAddress Device.addNodes (sightings w paths) addr

variable {w : World} {devPath sysfsPath : String} {paths : Paths}

/-- **One entry adds its sighting**, if it is one. -/
theorem discoverFile_eq (devices : Map String Device) (file : DirFile) :
    discoverFile w devPath sysfsPath devices file =
      match sighting w devPath sysfsPath file with
      | none => devices
      | some d => Map.gather Device.pciAddress Device.addNodes devices d := by
  unfold discoverFile sighting
  cases hdir : file.isDir with
  | true => simp
  | false =>
      cases hchar : file.isCharDevice with
      | false => simp
      | true =>
          simp only [Bool.false_eq_true, if_false, Bool.not_true, and_self, if_true]
          cases w.stat (Filepath.join devPath file.name) with
          | error err => rfl
          | ok rdev =>
              cases readUevent w (Filepath.join sysfsPath file.name) with
              | error err => rfl
              | ok uevent =>
                  cases getDeviceAddress w (Filepath.join sysfsPath file.name) with
                  | error err => rfl
                  | ok found =>
                      obtain ⟨deviceAddress, deviceSysfsPath⟩ := found
                      simp only [Map.gather, Device.addNodes, newDevice]
                      cases devices.lookup deviceAddress <;> rfl

/-- A directory adds its sightings. -/
theorem foldl_discoverFile (files : List DirFile) (devices : Map String Device) :
    files.foldl (discoverFile w devPath sysfsPath) devices =
      Map.gatherAll Device.pciAddress Device.addNodes devices
        (files.filterMap (sighting w devPath sysfsPath)) := by
  induction files generalizing devices with
  | nil => rfl
  | cons file files ih =>
      rw [List.foldl_cons, ih, discoverFile_eq]
      cases hsighting : sighting w devPath sysfsPath file with
      | none => rw [List.filterMap_cons_none hsighting]
      | some d =>
          rw [List.filterMap_cons_some hsighting]
          rfl

/-- **A discovery groups the sightings by address.** -/
theorem lookup_discoverMap {devices : Map String Device} (h : discoverMap w paths = .ok devices)
    (addr : String) : devices.lookup addr = deviceAt w paths addr := by
  rcases discoverMap_spec w paths with ⟨-, err, herr⟩ | ⟨-, hok⟩
  · rw [herr] at h
    cases h
  · rw [hok] at h
    cases h
    rw [foldl_discoverFile, foldl_discoverFile, deviceAt, ← Map.lookup_gatherAll_empty]
    congr 1
    exact (List.foldl_append ..).symm

/-- The devices of a discovery, in whatever order, are those at the addresses. -/
theorem IsDiscovered.mem_iff_deviceAt {result : List Device} (h : IsDiscovered w paths result)
    {d : Device} : d ∈ result ↔ deviceAt w paths d.pciAddress = some d := by
  obtain ⟨devices, hdevices, hperm⟩ := h
  rw [IsDiscovered.mem_iff hdevices hperm, lookup_discoverMap hdevices]

/-- Two discoveries of one machine find the same devices. -/
theorem IsDiscovered.perm {result result' : List Device} (h : IsDiscovered w paths result)
    (h' : IsDiscovered w paths result') : result'.Perm result := by
  obtain ⟨devices, hdevices, hperm⟩ := h
  obtain ⟨devices', hdevices', hperm'⟩ := h'
  rw [hdevices] at hdevices'
  cases hdevices'
  exact hperm'.trans hperm.symm

/-- The first sighting and the nodes of the others. -/
private theorem foldl_addNodes (first : Device) (rest : List Device) :
    rest.foldl Device.addNodes first =
      { first with nodes := (first :: rest).flatMap Device.nodes } := by
  induction rest using List.reverseRecOn with
  | nil => simp
  | append_singleton rest d ih =>
      rw [List.foldl_append, List.foldl_cons, List.foldl_nil, ih]
      simp [Device.addNodes]

/-- **What a device is made of**: the first sighting of its address, with the nodes of
all of them. -/
theorem deviceAt_eq_some_iff {addr : String} {d : Device} :
    deviceAt w paths addr = some d ↔
      ∃ first rest, ((sightings w paths).filter fun s => s.pciAddress = addr) = first :: rest ∧
        d = { first with nodes := (first :: rest).flatMap Device.nodes } := by
  unfold deviceAt
  rw [Map.grouped_eq_some_iff]
  constructor
  · rintro ⟨first, rest, hgroup, rfl⟩
    exact ⟨first, rest, hgroup, foldl_addNodes first rest⟩
  · rintro ⟨first, rest, hgroup, rfl⟩
    exact ⟨first, rest, hgroup, foldl_addNodes first rest⟩

end KubeNpu

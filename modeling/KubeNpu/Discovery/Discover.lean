import KubeNpu.Discovery.Sysfs

/-!
# `pkg/discovery/discovery.go`: the devices of a machine

The character devices of two directories are grouped by the PCI address that
their sysfs link resolves to.  An entry that cannot be read is passed over, a
directory that does not exist counts as empty.

The devices come out of a map, so `discover` gives them in one order of many;
`IsDiscovered` is the result of a discovery in any order.
-/

namespace KubeNpu

open Go

/-- `discovery.Paths`. -/
structure Paths where
  driPath : String
  accelPath : String
  sysfsDriPath : String
  sysfsAccelPath : String

/-- The paths of the agent. -/
def defaultPaths : Paths := ⟨"/dev/dri", "/dev/accel", "/sys/class/drm", "/sys/class/accel"⟩

/-- The device of a first node. -/
def newDevice (w : World) (uevent : Map String String) (deviceAddress deviceSysfsPath : String)
    (n : Node) : Device where
  driverName := (uevent.lookup "DRIVER").getD ""
  sysfsPath := deviceSysfsPath
  pciID := (uevent.lookup "PCI_ID").getD ""
  pciAddress := deviceAddress
  numaNode := readNumaNode w deviceSysfsPath
  nodes := [n]

/-- One iteration of the loop of `discoverDevices`. -/
def discoverFile (w : World) (devPath sysfsPath : String) (devices : Map String Device)
    (file : DirFile) : Map String Device :=
  if file.isDir then devices
  else if !file.isCharDevice then devices
  else
    let fileFullPath := Filepath.join devPath file.name
    let sysfsFullPath := Filepath.join sysfsPath file.name
    match w.stat fileFullPath with
    | .error _ => devices
    | .ok rdev =>
        match readUevent w sysfsFullPath with
        | .error _ => devices
        | .ok uevent =>
            match getDeviceAddress w sysfsFullPath with
            | .error _ => devices
            | .ok (deviceAddress, deviceSysfsPath) =>
                let n : Node :=
                  { minor := Unix.minor rdev, major := Unix.major rdev, path := fileFullPath }
                match devices.lookup deviceAddress with
                | none =>
                    devices.insert deviceAddress
                      (newDevice w uevent deviceAddress deviceSysfsPath n)
                | some device =>
                    devices.insert deviceAddress { device with nodes := device.nodes ++ [n] }

/-- `discoverDevices`. -/
def discoverDevices (w : World) (devPath sysfsPath : String) (devices : Map String Device) :
    Except Err (Map String Device) :=
  match w.readDir devPath with
  | .error err => .error err
  | .ok files => .ok (files.foldl (discoverFile w devPath sysfsPath) devices)

/-- A failed directory is passed over if it does not exist. -/
def orEmpty (devices : Map String Device) (r : Except Err (Map String Device)) :
    Except Err (Map String Device) :=
  match r with
  | .error err => if !err.is .errNotExist then .error err else .ok devices
  | .ok devices => .ok devices

/-- The map that `Discover` fills. -/
def discoverMap (w : World) (paths : Paths) : Except Err (Map String Device) :=
  match orEmpty ∅ (discoverDevices w paths.driPath paths.sysfsDriPath ∅) with
  | .error err => .error err
  | .ok devices =>
      orEmpty devices (discoverDevices w paths.accelPath paths.sysfsAccelPath devices)

/-- `Discover`, with the devices in one order. -/
def discover (w : World) (paths : Paths) : Except Err (List Device) :=
  match discoverMap w paths with
  | .error err => .error err
  | .ok devices => .ok (devices.toList.map Prod.snd)

/-- What `Discover` may return: the devices in any order. -/
def IsDiscovered (w : World) (paths : Paths) (result : List Device) : Prop :=
  ∃ devices, discoverMap w paths = .ok devices ∧ result.Perm (devices.toList.map Prod.snd)

/-! ## The devices are keyed by their address -/

/-- Every device stands under its own address, with a driver and a node. -/
def AddressKeyed (devices : Map String Device) : Prop :=
  ∀ addr d, devices.lookup addr = some d →
    d.pciAddress = addr ∧ d.driverName ≠ "" ∧ d.nodes ≠ []

theorem addressKeyed_empty : AddressKeyed ∅ := by
  intro addr d h
  cases h

theorem AddressKeyed.insert {devices : Map String Device} (h : AddressKeyed devices)
    {addr : String} {d : Device} (haddr : d.pciAddress = addr) (hdriver : d.driverName ≠ "")
    (hnodes : d.nodes ≠ []) : AddressKeyed (devices.insert addr d) := by
  intro a e he
  rcases eq_or_ne a addr with rfl | hne
  · rw [AList.lookup_insert, Option.some_inj] at he
    subst he
    exact ⟨haddr, hdriver, hnodes⟩
  · rw [AList.lookup_insert_ne hne] at he
    exact h a e he

/-- **One entry keeps the devices under their addresses**: it is passed over, makes
a new device, or adds a node to one. -/
theorem AddressKeyed.discoverFile {devices : Map String Device} (h : AddressKeyed devices)
    (w : World) (devPath sysfsPath : String) (file : DirFile) :
    AddressKeyed (discoverFile w devPath sysfsPath devices file) := by
  simp only [KubeNpu.discoverFile]
  split
  · exact h
  split
  · exact h
  split
  · exact h
  split
  · exact h
  rename_i uevent huevent
  split
  · exact h
  rename_i deviceAddress deviceSysfsPath _
  cases hlookup : devices.lookup deviceAddress with
  | none => exact h.insert rfl (readUevent_ok huevent) (List.cons_ne_nil _ _)
  | some device =>
      obtain ⟨haddr, hdriver, -⟩ := h _ _ hlookup
      exact h.insert haddr hdriver (by simp)

theorem AddressKeyed.discoverDevices {devices devices' : Map String Device}
    (h : AddressKeyed devices) {w : World} {devPath sysfsPath : String}
    (hok : discoverDevices w devPath sysfsPath devices = .ok devices') :
    AddressKeyed devices' := by
  unfold KubeNpu.discoverDevices at hok
  split at hok
  · cases hok
  · rename_i files hfiles
    cases hok
    clear hfiles
    induction files generalizing devices with
    | nil => exact h
    | cons file rest ih => exact ih (h.discoverFile w devPath sysfsPath file)

theorem AddressKeyed.orEmpty {devices devices' : Map String Device} (h : AddressKeyed devices)
    {w : World} {devPath sysfsPath : String}
    (hok : orEmpty devices (KubeNpu.discoverDevices w devPath sysfsPath devices) = .ok devices') :
    AddressKeyed devices' := by
  cases hdir : KubeNpu.discoverDevices w devPath sysfsPath devices with
  | error err =>
      rw [hdir, KubeNpu.orEmpty] at hok
      split at hok
      · cases hok
      · cases hok
        exact h
  | ok found =>
      rw [hdir, KubeNpu.orEmpty] at hok
      cases hok
      exact h.discoverDevices hdir

/-- **What a discovery finds is keyed by address.** -/
theorem addressKeyed_discoverMap {w : World} {paths : Paths} {devices : Map String Device}
    (h : discoverMap w paths = .ok devices) : AddressKeyed devices := by
  unfold discoverMap at h
  split at h
  · cases h
  · rename_i found hdri
    exact (addressKeyed_empty.orEmpty hdri).orEmpty h

/-- **No two discovered devices have the same address.** -/
theorem IsDiscovered.nodup_address {w : World} {paths : Paths} {result : List Device}
    (h : IsDiscovered w paths result) : (result.map Device.pciAddress).Nodup := by
  obtain ⟨devices, hdevices, hperm⟩ := h
  refine ((hperm.map Device.pciAddress).nodup_iff).mpr ?_
  have hkeys : (devices.toList.map Prod.snd).map Device.pciAddress =
      devices.toList.map Prod.fst := by
    rw [List.map_map]
    refine List.map_congr_left ?_
    intro e he
    exact (addressKeyed_discoverMap hdevices e.1 e.2 (Map.mem_toList.mp he)).1
  rw [hkeys]
  exact devices.nodup_keys_toList

/-- Devices with one address are one device. -/
theorem IsDiscovered.eq_of_address {w : World} {paths : Paths} {result : List Device}
    (h : IsDiscovered w paths result) {d d' : Device} (hd : d ∈ result) (hd' : d' ∈ result)
    (haddr : d.pciAddress = d'.pciAddress) : d = d' :=
  List.inj_on_of_nodup_map h.nodup_address hd hd' haddr

end KubeNpu

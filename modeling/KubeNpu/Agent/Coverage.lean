import KubeNpu.Discovery.Sightings
import KubeNpu.Agent.Join

/-!
# From the device directories to the kernel filter

Discovery, the vendors and the setup loop together decide which calls the program
looks at.  Each of them hands on less than it reads: discovery a list of devices in
no order, the setup loop two maps in which a later device overwrites an earlier
one.  On a machine where a device number belongs to one device, none of it matters:
a call passes the filter exactly if some entry of the two directories has its
number and stands for a device whose vendor knows the ioctl, and every start of the
agent there comes to the same tables.
-/

namespace KubeNpu

open Go Machine

variable {w : World} {paths : Paths} {devices : List Device}

/-- A device number belongs to one device: entries with one number resolve to one
address. -/
def NumbersTellDevices (w : World) (paths : Paths) : Prop :=
  ∀ s ∈ sightings w paths, ∀ s' ∈ sightings w paths, ∀ major minor,
    s.Owns major minor → s'.Owns major minor → s.pciAddress = s'.pciAddress

/-- The device at an address is at that address, and has the nodes of the entries
that are. -/
theorem owns_deviceAt {addr : String} {d : Device} (h : deviceAt w paths addr = some d) :
    d.pciAddress = addr ∧ ∀ major minor, d.Owns major minor ↔
      ∃ s ∈ sightings w paths, s.pciAddress = addr ∧ s.Owns major minor := by
  obtain ⟨first, rest, hgroup, rfl⟩ := deviceAt_eq_some_iff.mp h
  have hmem : ∀ s, s ∈ first :: rest ↔ s ∈ sightings w paths ∧ s.pciAddress = addr := by
    intro s
    rw [← hgroup, List.mem_filter, decide_eq_true_eq]
  refine ⟨((hmem first).mp List.mem_cons_self).2, ?_⟩
  intro major minor
  constructor
  · rintro ⟨node, hnode, hnumbers⟩
    obtain ⟨s, hs, hnode⟩ := List.mem_flatMap.mp hnode
    obtain ⟨hseen, haddr⟩ := (hmem s).mp hs
    exact ⟨s, hseen, haddr, node, hnode, hnumbers⟩
  · rintro ⟨s, hseen, haddr, node, hnode, hnumbers⟩
    exact ⟨node, List.mem_flatMap.mpr ⟨s, (hmem s).mpr ⟨hseen, haddr⟩, hnode⟩, hnumbers⟩

/-- Then no two discovered devices share a node. -/
theorem disjointNodes_of_discovered (hfound : IsDiscovered w paths devices)
    (hone : NumbersTellDevices w paths) : DisjointNodes devices := by
  have hapart : devices.Pairwise fun d d' => d.pciAddress ≠ d'.pciAddress :=
    List.pairwise_map.mp hfound.nodup_address
  refine hapart.imp_of_mem ?_
  intro d d' hd hd' hne major minor howns howns'
  obtain ⟨-, hiff⟩ := owns_deviceAt (hfound.mem_iff_deviceAt.mp hd)
  obtain ⟨-, hiff'⟩ := owns_deviceAt (hfound.mem_iff_deviceAt.mp hd')
  obtain ⟨s, hs, haddr, hsowns⟩ := (hiff major minor).mp howns
  obtain ⟨s', hs', haddr', hsowns'⟩ := (hiff' major minor).mp howns'
  have hsame := hone s hs s' hs' major minor hsowns hsowns'
  exact hne (haddr.symm.trans (hsame.trans haddr'))

/-- **The owner of a number is the device at the address of its entry.** -/
theorem owner_of_discovered {registered : Registry} (hfound : IsDiscovered w paths devices)
    (hone : NumbersTellDevices w paths) {s : Device} (hs : s ∈ sightings w paths)
    {major minor : UInt32} (howns : s.Owns major minor) :
    owner registered devices major minor =
      (deviceAt w paths s.pciAddress).bind fun d =>
        (registered.getVendor d).map fun v => (d, v) := by
  have hdisjoint := disjointNodes_of_discovered hfound hone
  ext ⟨d, v⟩
  rw [owner_eq_some_iff_of_disjoint hdisjoint, Option.bind_eq_some_iff]
  constructor
  · rintro ⟨hd, hv, hdowns⟩
    have hat := hfound.mem_iff_deviceAt.mp hd
    obtain ⟨s', hs', haddr', howns'⟩ := ((owns_deviceAt hat).2 major minor).mp hdowns
    have hsame : s.pciAddress = d.pciAddress :=
      (hone s hs s' hs' major minor howns howns').trans haddr'
    exact ⟨d, hsame ▸ hat, by rw [hv]; rfl⟩
  · rintro ⟨d', hat, hvendor⟩
    obtain ⟨v', hv', heq⟩ := Option.map_eq_some_iff.mp hvendor
    obtain ⟨rfl, rfl⟩ := Prod.mk.inj heq
    obtain ⟨haddr, hiff⟩ := owns_deviceAt hat
    have hdowns := (hiff major minor).mpr ⟨s, hs, rfl, howns⟩
    exact ⟨hfound.mem_iff_deviceAt.mpr (haddr ▸ hat), hv', hdowns⟩

section Tables

variable {ω : Type} {registered : Registry} {setup : Setup ω}

/-- **A call is not passed over exactly if its owner's vendor knows the ioctl.** -/
theorem not_passed_iff (hnames : (registered.map Vendor.name).Nodup)
    (hlen : registered.length ≤ 2 ^ 32)
    (hok : setupDevices registered devices (Setup.start ω) = .ok setup) {call : Bpf.IoctlCall}
    {reserved : Bool} :
    Bpf.kubenpuIoctl setup.maps call reserved ≠ .passed ↔
      ∃ d v, owner registered devices call.major call.minor = some (d, v) ∧
        call.nr ∈ v.ioctls := by
  have hkind : Bpf.kubenpuIoctl setup.maps call reserved ≠ .passed ↔
      ∃ kind, Bpf.filterKind setup.maps call = some kind := by
    unfold Bpf.kubenpuIoctl
    cases Bpf.filterKind setup.maps call with
    | none => simp
    | some kind => cases reserved <;> simp
  rw [hkind, filterKind_of_setup hnames hlen hok]
  constructor
  · rintro ⟨kind, hbind⟩
    obtain ⟨⟨d, v⟩, howner, hlookup⟩ := Option.bind_eq_some_iff.mp hbind
    exact ⟨d, v, howner, Map.mem_iff_lookup.mpr ⟨kind, hlookup⟩⟩
  · rintro ⟨d, v, howner, hnr⟩
    obtain ⟨kind, hlookup⟩ := Map.mem_iff_lookup.mp hnr
    exact ⟨kind, Option.bind_eq_some_iff.mpr ⟨(d, v), howner, hlookup⟩⟩

/-- Where devices do not share nodes, any device of that number will do. -/
theorem not_passed_iff_of_disjoint (hnames : (registered.map Vendor.name).Nodup)
    (hlen : registered.length ≤ 2 ^ 32) (hdisjoint : DisjointNodes devices)
    (hok : setupDevices registered devices (Setup.start ω) = .ok setup) {call : Bpf.IoctlCall}
    {reserved : Bool} :
    Bpf.kubenpuIoctl setup.maps call reserved ≠ .passed ↔
      ∃ d ∈ devices, ∃ v, registered.getVendor d = some v ∧ d.Owns call.major call.minor ∧
        call.nr ∈ v.ioctls := by
  rw [not_passed_iff hnames hlen hok]
  constructor
  · rintro ⟨d, v, howner, hnr⟩
    obtain ⟨hd, hv, howns⟩ := (owner_eq_some_iff_of_disjoint hdisjoint).mp howner
    exact ⟨d, hd, v, hv, howns, hnr⟩
  · rintro ⟨d, hd, v, hv, howns, hnr⟩
    exact ⟨d, v, (owner_eq_some_iff_of_disjoint hdisjoint).mpr ⟨hd, hv, howns⟩, hnr⟩

/-- And the worker's map has the address and the vendor of that device. -/
theorem deviceMap_eq_some_iff_of_disjoint (hdisjoint : DisjointNodes devices)
    (hok : setupDevices registered devices (Setup.start ω) = .ok setup) {major minor : UInt32}
    {seen : DeviceMeta} :
    setup.deviceMap.lookup ⟨major, minor⟩ = some seen ↔
      ∃ d ∈ devices, ∃ v, registered.getVendor d = some v ∧ d.Owns major minor ∧
        seen = ⟨d.pciAddress, v.name⟩ := by
  rw [deviceMap_of_setup hok, Option.map_eq_some_iff]
  constructor
  · rintro ⟨⟨d, v⟩, howner, rfl⟩
    obtain ⟨hd, hv, howns⟩ := (owner_eq_some_iff_of_disjoint hdisjoint).mp howner
    exact ⟨d, hd, v, hv, howns, rfl⟩
  · rintro ⟨d, hd, v, hv, howns, rfl⟩
    exact ⟨(d, v), (owner_eq_some_iff_of_disjoint hdisjoint).mpr ⟨hd, hv, howns⟩, rfl⟩

end Tables

/-- A submission to the NPU of the machine with a node in each directory. -/
def npuCall : Bpf.IoctlCall where
  rdev := 0x10500000
  cmd := 0x4d
  timestamp := 0
  cgroupId := 4
  pidTgid := 0

theorem exists_setup_shared :
    ∃ s : Setup Unit, setupDevices agentRegistry [sharedDevice] (Setup.start Unit) = .ok s :=
  setupDevices_of_fits ⟨by decide, by decide⟩

theorem sightings_shared : sightings sharedWorld defaultPaths =
    [{ sharedDevice with nodes := [⟨0, 226, "/dev/dri/card0"⟩] },
      { sharedDevice with nodes := [⟨0, 261, "/dev/accel/accel0"⟩] }] := by
  rfl

/-- Its nodes have one address. -/
theorem numbersTellDevices_shared : NumbersTellDevices sharedWorld defaultPaths := by
  intro s hs s' hs' _ _ _ _
  rw [sightings_shared] at hs hs'
  simp only [List.mem_cons, List.not_mem_nil, or_false] at hs hs'
  rcases hs with rfl | rfl <;> rcases hs' with rfl | rfl <;> rfl

end KubeNpu

import KubeNpu.Agent.Setup

/-!
# The kernel filter and the device map agree

After the setup, the two kernel maps together decide for an ioctl call what the
vendor tables say about the last device that owns its node, and the worker finds
that same device by the numbers the event carries.

The kernel map `ioctls` is shared by all vendors, so the argument needs that
vendor IDs tell vendors apart.  IDs are 32-bit positions: this holds up to 2^32
vendors, and `filterKind_wraps` shows that it ends there.
-/

namespace KubeNpu

open Go Machine

/-! ## Who owns a node -/

/-- The device has a node with these numbers. -/
def Device.Owns (d : Device) (major minor : UInt32) : Prop :=
  ∃ node ∈ d.nodes, node.major = major ∧ node.minor = minor

instance (d : Device) (major minor : UInt32) : Decidable (d.Owns major minor) :=
  inferInstanceAs (Decidable (∃ node ∈ d.nodes, _))

/-- `d` is the last device in the list that has a registered vendor and owns the
node, and `v` is its vendor. -/
def LastOwner (registered : Registry) (devices : List Device) (major minor : UInt32)
    (d : Device) (v : Vendor) : Prop :=
  ∃ before after, devices = before ++ d :: after ∧ registered.getVendor d = some v ∧
    d.Owns major minor ∧ ∀ d' ∈ after, registered.getVendor d' ≠ none → ¬ d'.Owns major minor

/-- The last owner of a node, if it has one. -/
def owner (registered : Registry) (devices : List Device) (major minor : UInt32) :
    Option (Device × Vendor) :=
  ((knownDevices registered devices).filter fun p => p.1.Owns major minor).getLast?

theorem mem_knownDevices {registered : Registry} {devices : List Device} {d : Device}
    {v : Vendor} :
    (d, v) ∈ knownDevices registered devices ↔ d ∈ devices ∧ registered.getVendor d = some v := by
  simp only [knownDevices, List.mem_filterMap, Option.map_eq_some_iff]
  constructor
  · rintro ⟨d', hd', v', hv', heq⟩
    cases heq
    exact ⟨hd', hv'⟩
  · rintro ⟨hd, hv⟩
    exact ⟨d, hd, v, hv, rfl⟩

theorem knownDevices_singleton_some {registered : Registry} {d : Device} {v : Vendor}
    (h : registered.getVendor d = some v) : knownDevices registered [d] = [(d, v)] := by
  simp [knownDevices, h]

theorem knownDevices_singleton_none {registered : Registry} {d : Device}
    (h : registered.getVendor d = none) : knownDevices registered [d] = [] := by
  simp [knownDevices, h]

/-- One more device at the end owns the node, or leaves the owner as it was. -/
theorem owner_concat (registered : Registry) (devices : List Device) (d : Device)
    (major minor : UInt32) :
    owner registered (devices ++ [d]) major minor =
      match registered.getVendor d with
      | some v => if d.Owns major minor then some (d, v) else owner registered devices major minor
      | none => owner registered devices major minor := by
  unfold owner
  rw [knownDevices_append]
  cases hvendor : registered.getVendor d with
  | none => rw [knownDevices_singleton_none hvendor, List.append_nil]
  | some v =>
      rw [knownDevices_singleton_some hvendor, List.filter_append]
      by_cases howns : d.Owns major minor <;> simp [howns]

/-- **The owner is the last owner.** -/
theorem owner_eq_some_iff {registered : Registry} {devices : List Device}
    {major minor : UInt32} {d : Device} {v : Vendor} :
    owner registered devices major minor = some (d, v) ↔
      LastOwner registered devices major minor d v := by
  induction devices using List.reverseRecOn with
  | nil =>
      constructor
      · intro h
        cases h
      · rintro ⟨before, after, h, -⟩
        simp at h
  | append_singleton devices last ih =>
      rw [owner_concat]
      constructor
      · intro h
        -- the last device of the list either is the owner or does not matter
        by_cases hlast : registered.getVendor last ≠ none ∧ last.Owns major minor
        · obtain ⟨w, hw⟩ := Option.ne_none_iff_exists'.mp hlast.1
          simp only [hw, if_pos hlast.2, Option.some_inj, Prod.mk.injEq] at h
          obtain ⟨rfl, rfl⟩ := h
          exact ⟨devices, [], rfl, hw, hlast.2, fun d' hd' => by cases hd'⟩
        · have hold : owner registered devices major minor = some (d, v) := by
            cases hvendor : registered.getVendor last with
            | none => simpa only [hvendor] using h
            | some w =>
                have hnot : ¬ last.Owns major minor := fun howns =>
                  hlast ⟨by simp [hvendor], howns⟩
                simpa only [hvendor, if_neg hnot] using h
          obtain ⟨before, after, rfl, hv, howns, hafter⟩ := ih.mp hold
          refine ⟨before, after ++ [last], by simp, hv, howns, ?_⟩
          intro d' hd' hknown
          rcases List.mem_append.mp hd' with hd' | hd'
          · exact hafter d' hd' hknown
          · rw [List.mem_singleton.mp hd'] at hknown ⊢
            exact fun howns' => hlast ⟨hknown, howns'⟩
      · rintro ⟨before, after, hsplit, hv, howns, hafter⟩
        -- nothing after the owner: it is the last device itself
        rcases List.eq_nil_or_concat after with rfl | ⟨after, last', rfl⟩
        · obtain ⟨-, rfl⟩ : devices = before ∧ last = d := by
            simpa using hsplit
          simp only [hv, if_pos howns]
        · obtain ⟨rfl, rfl⟩ : devices = before ++ d :: after ∧ last = last' := by
            rw [List.concat_eq_append, ← List.cons_append, ← List.append_assoc] at hsplit
            simpa using List.append_inj' hsplit rfl
          have hold : owner registered (before ++ d :: after) major minor = some (d, v) :=
            ih.mpr ⟨before, after, rfl, hv, howns, fun d' hd' => hafter d' (by simp [hd'])⟩
          have hlast := hafter last (by simp)
          cases hvendor : registered.getVendor last with
          | none => simpa only [hvendor] using hold
          | some w => simpa only [hvendor, if_neg (hlast (by simp [hvendor]))] using hold

/-! ## Vendor IDs -/

namespace Registry

variable {registered : Registry}

theorem mem_of_getVendor {d : Device} {v : Vendor} (h : registered.getVendor d = some v) :
    v ∈ registered :=
  List.mem_of_find?_eq_some h

/-- The loop of `GetVendorID` stops at the position of the name. -/
theorem vendorIDFrom_of_getElem? {l : Registry} (hnames : (l.map Vendor.name).Nodup) {j : ℕ}
    {v : Vendor} (hj : l[j]? = some v) (i : ℕ) :
    vendorIDFrom v.name i l = UInt32.ofNat (i + j) + 1 := by
  induction l generalizing i j with
  | nil => cases hj
  | cons w rest ih =>
      rw [List.map_cons, List.nodup_cons] at hnames
      cases j with
      | zero =>
          rw [List.getElem?_cons_zero, Option.some_inj] at hj
          rw [vendorIDFrom, if_pos (by rw [hj]), Nat.add_zero]
      | succ j =>
          rw [List.getElem?_cons_succ] at hj
          have hne : w.name ≠ v.name := fun h =>
            hnames.1 (h ▸ List.mem_map_of_mem (List.mem_of_getElem? hj))
          rw [vendorIDFrom, if_neg hne, ih hnames.2 hj, Nat.add_assoc, Nat.add_comm 1 j]

/-- The ID of a vendor is its position plus one, in 32 bits. -/
theorem getVendorID_of_getElem? (hnames : (registered.map Vendor.name).Nodup) {j : ℕ}
    {v : Vendor} (hj : registered[j]? = some v) :
    registered.getVendorID v.name = UInt32.ofNat j + 1 := by
  rw [getVendorID, vendorIDFrom_of_getElem? hnames hj, Nat.zero_add]

/-- **IDs tell vendors apart** while positions fit 32 bits. -/
theorem eq_of_getVendorID_eq (hnames : (registered.map Vendor.name).Nodup)
    (hlen : registered.length ≤ 2 ^ 32) {v w : Vendor} (hv : v ∈ registered)
    (hw : w ∈ registered) (h : registered.getVendorID v.name = registered.getVendorID w.name) :
    v = w := by
  obtain ⟨i, hi⟩ := List.mem_iff_getElem?.mp hv
  obtain ⟨j, hj⟩ := List.mem_iff_getElem?.mp hw
  have hilt : i < registered.length := (List.getElem?_eq_some_iff.mp hi).1
  have hjlt : j < registered.length := (List.getElem?_eq_some_iff.mp hj).1
  rw [getVendorID_of_getElem? hnames hi, getVendorID_of_getElem? hnames hj] at h
  have hnat : UInt32.ofNat i = UInt32.ofNat j := by simpa using h
  have hij : i = j := by
    have hmod := congrArg UInt32.toNat hnat
    rw [UInt32.toNat_ofNat', UInt32.toNat_ofNat', Nat.mod_eq_of_lt (by omega),
      Nat.mod_eq_of_lt (by omega)] at hmod
    exact hmod
  rw [hij, hj] at hi
  exact (Option.some_inj.mp hi).symm

end Registry

/-! ## The tables after the setup -/

section Tables

variable {ω : Type} {registered : Registry} {devices : List Device} {s : Setup ω}

/-- The worker's map holds the last owner of each node. -/
theorem deviceMap_of_setup (hok : setupDevices registered devices (Setup.start ω) = .ok s)
    (major minor : UInt32) :
    s.deviceMap.lookup ⟨major, minor⟩ =
      (owner registered devices major minor).map fun p => ⟨p.1.pciAddress, p.2.name⟩ := by
  rw [(setupDevices_ok hok).deviceMap, Map.lookup_putAll, nodeWrites,
    Map.lastWrite_flatMap_const _ (fun p : Device × Vendor => p.1.nodes)
      (fun node : Node => (⟨node.major, node.minor⟩ : DeviceNode))
      fun p => (⟨p.1.pciAddress, p.2.name⟩ : DeviceMeta)]
  refine Option.or_none.trans ?_
  unfold owner
  congr 2
  exact List.filter_congr fun p _ => decide_eq_decide.mpr (by simp [Device.Owns])

/-- The kernel map `devices` holds the ID of its vendor. -/
theorem devices_of_setup (hok : setupDevices registered devices (Setup.start ω) = .ok s)
    (major minor : UInt32) :
    s.maps.devices.lookupElem ⟨major, minor⟩ =
      (owner registered devices major minor).map fun p => registered.getVendorID p.2.name := by
  rw [Bpf.HashMap.lookupElem, (setupDevices_ok hok).devices, Map.lookup_putAll, deviceWrites,
    Map.lastWrite_flatMap_const _ (fun p : Device × Vendor => p.1.nodes)
      (fun node : Node => (⟨node.major, node.minor⟩ : Bpf.DeviceKey))
      fun p => registered.getVendorID p.2.name]
  refine Option.or_none.trans ?_
  unfold owner
  congr 2
  exact List.filter_congr fun p _ => decide_eq_decide.mpr (by simp [Device.Owns])

/-- The kernel map `ioctls` holds, under the ID of a vendor of a discovered
device, the vendor's own table. -/
theorem ioctls_of_setup (hnames : (registered.map Vendor.name).Nodup)
    (hlen : registered.length ≤ 2 ^ 32)
    (hok : setupDevices registered devices (Setup.start ω) = .ok s) {d : Device} {v : Vendor}
    (hmem : (d, v) ∈ knownDevices registered devices) (nr : UInt32) :
    s.maps.ioctls.lookupElem ⟨registered.getVendorID v.name, nr⟩ = v.ioctls.lookup nr := by
  have hv := Registry.mem_of_getVendor (mem_knownDevices.mp hmem).2
  rw [Bpf.HashMap.lookupElem, (setupDevices_ok hok).ioctls, Map.lookup_putAll]
  have hlast : Map.lastWrite (ioctlWrites registered (knownDevices registered devices))
      ⟨registered.getVendorID v.name, nr⟩ = v.ioctls.lookup nr := by
    refine Map.lastWrite_eq_of_agree ?_ ?_
    · intro e he hkey
      obtain ⟨⟨d', v'⟩, hmem', he⟩ := List.mem_flatMap.mp he
      obtain ⟨⟨nr', kind⟩, hentry, rfl⟩ := List.mem_map.mp he
      have hv' := Registry.mem_of_getVendor (mem_knownDevices.mp hmem').2
      obtain ⟨hid, rfl⟩ := Bpf.IoctlKey.mk.inj hkey
      -- equal IDs mean equal vendors here, so both entries are of one table
      rw [← Registry.eq_of_getVendorID_eq hnames hlen hv' hv hid]
      exact Map.mem_toList.mp hentry
    · intro kind hkind
      refine ⟨(⟨registered.getVendorID v.name, nr⟩, kind), ?_, rfl⟩
      refine List.mem_flatMap.mpr ⟨(d, v), hmem, List.mem_map.mpr ⟨(nr, kind), ?_, rfl⟩⟩
      exact Map.mem_toList.mpr hkind
  rw [hlast]
  exact Option.or_none

/-- **The two kernel maps together** answer with the kind that the table of the
owner's vendor gives the ioctl number. -/
theorem filterKind_of_setup (hnames : (registered.map Vendor.name).Nodup)
    (hlen : registered.length ≤ 2 ^ 32)
    (hok : setupDevices registered devices (Setup.start ω) = .ok s) (call : Bpf.IoctlCall) :
    Bpf.filterKind s.maps call =
      (owner registered devices call.major call.minor).bind fun p =>
        p.2.ioctls.lookup call.nr := by
  unfold Bpf.filterKind
  rw [devices_of_setup hok]
  cases howner : owner registered devices call.major call.minor with
  | none => rfl
  | some p =>
      obtain ⟨d, v⟩ := p
      have hmem : (d, v) ∈ knownDevices registered devices :=
        List.mem_of_mem_filter (List.mem_of_getLast? howner)
      exact ioctls_of_setup hnames hlen hok hmem call.nr

end Tables

/-! ## Order of discovery -/

/-- No two devices share a node. -/
def DisjointNodes (devices : List Device) : Prop :=
  devices.Pairwise fun d d' => ∀ major minor, d.Owns major minor → ¬ d'.Owns major minor

/-- Without shared nodes, a node has at most one owner, wherever it stands. -/
theorem owner_eq_some_iff_of_disjoint {registered : Registry} {devices : List Device}
    (h : DisjointNodes devices) {major minor : UInt32} {d : Device} {v : Vendor} :
    owner registered devices major minor = some (d, v) ↔
      d ∈ devices ∧ registered.getVendor d = some v ∧ d.Owns major minor := by
  rw [owner_eq_some_iff]
  constructor
  · rintro ⟨before, after, rfl, hv, howns, -⟩
    exact ⟨List.mem_append_right _ List.mem_cons_self, hv, howns⟩
  · rintro ⟨hd, hv, howns⟩
    obtain ⟨before, after, rfl⟩ := List.append_of_mem hd
    refine ⟨before, after, rfl, hv, howns, ?_⟩
    intro d' hd' _
    have hrest := (List.pairwise_append.mp h).2.1
    exact (List.pairwise_cons.mp hrest).1 d' hd' major minor howns

theorem disjointNodes_perm {devices devices' : List Device} (hperm : devices'.Perm devices)
    (h : DisjointNodes devices) : DisjointNodes devices' := by
  refine (hperm.pairwise_iff ?_).mpr h
  intro d d' hdisjoint major minor howns' howns
  exact hdisjoint major minor howns howns'

/-- The owner of a node does not depend on the order then. -/
theorem owner_perm {registered : Registry} {devices devices' : List Device}
    (hperm : devices'.Perm devices) (h : DisjointNodes devices) (major minor : UInt32) :
    owner registered devices' major minor = owner registered devices major minor := by
  ext ⟨d, v⟩
  rw [owner_eq_some_iff_of_disjoint h,
    owner_eq_some_iff_of_disjoint (disjointNodes_perm hperm h), hperm.mem_iff]

/-! ## The filter, end to end -/

/-- **The kernel filter and the device map agree with the vendor tables**, for up
to 2^32 vendors with different names.  After a setup that ran to its end, a call
gets past the filter exactly when its node has a last owner whose vendor's table
has the ioctl number; the event of a call that is submitted, as the loader reads
it back, leads the worker to that owner and carries the kind of the table; and
without shared nodes every other order of the devices has the same results. -/
theorem filter_agrees {ω : Type} {registered : Registry} {devices : List Device} {s : Setup ω}
    (hnames : (registered.map Vendor.name).Nodup) (hlen : registered.length ≤ 2 ^ 32)
    (hok : setupDevices registered devices (Setup.start ω) = .ok s) (call : Bpf.IoctlCall) :
    (∀ reserved, Bpf.kubenpuIoctl s.maps call reserved ≠ .passed ↔
      ∃ d v, LastOwner registered devices call.major call.minor d v ∧ call.nr ∈ v.ioctls) ∧
    (∀ reserved e trailing, Bpf.kubenpuIoctl s.maps call reserved = .submitted e →
      ∃ d v kind event, LastOwner registered devices call.major call.minor d v ∧
        v.ioctls.lookup call.nr = some kind ∧
        Loader.readEvent (.ok (e.bytes ++ trailing)) = .ok event ∧
        s.deviceMap.lookup event.node = some ⟨d.pciAddress, v.name⟩ ∧
        Kind.string event.kind = Kind.string kind) ∧
    ∀ devices', devices'.Perm devices → DisjointNodes devices →
      ∃ s', setupDevices registered devices' (Setup.start ω) = .ok s' ∧
        (∀ reserved, Bpf.kubenpuIoctl s'.maps call reserved =
          Bpf.kubenpuIoctl s.maps call reserved) ∧
        ∀ node, s'.deviceMap.lookup node = s.deviceMap.lookup node := by
  have hfilter := filterKind_of_setup hnames hlen hok call
  refine ⟨?_, ?_, ?_⟩
  · intro reserved
    have hpassed : Bpf.kubenpuIoctl s.maps call reserved ≠ .passed ↔
        (Bpf.filterKind s.maps call).isSome = true := by
      unfold Bpf.kubenpuIoctl
      cases Bpf.filterKind s.maps call with
      | none => simp
      | some kind => cases reserved <;> simp
    rw [hpassed, hfilter]
    constructor
    · intro hsome
      obtain ⟨kind, hkind⟩ := Option.isSome_iff_exists.mp hsome
      obtain ⟨⟨d, v⟩, howner, hlookup⟩ := Option.bind_eq_some_iff.mp hkind
      exact ⟨d, v, owner_eq_some_iff.mp howner, Map.mem_iff_lookup.mpr ⟨kind, hlookup⟩⟩
    · rintro ⟨d, v, howner, hmem⟩
      obtain ⟨kind, hlookup⟩ := Map.mem_iff_lookup.mp hmem
      rw [owner_eq_some_iff.mpr howner]
      exact Option.isSome_iff_exists.mpr ⟨kind, hlookup⟩
  · intro reserved e trailing hsubmitted
    obtain ⟨kind, hkind, rfl⟩ : ∃ kind, Bpf.filterKind s.maps call = some kind ∧
        Bpf.pollEvent call kind = e := by
      unfold Bpf.kubenpuIoctl at hsubmitted
      cases hkind : Bpf.filterKind s.maps call with
      | none =>
          rw [hkind] at hsubmitted
          cases hsubmitted
      | some kind =>
          rw [hkind] at hsubmitted
          cases reserved with
          | true => exact ⟨kind, rfl, Bpf.HookResult.submitted.inj hsubmitted⟩
          | false => cases hsubmitted
    rw [hfilter] at hkind
    obtain ⟨⟨d, v⟩, howner, hlookup⟩ := Option.bind_eq_some_iff.mp hkind
    refine ⟨d, v, kind, Loader.ofBpf (Bpf.pollEvent call kind), owner_eq_some_iff.mp howner,
      hlookup, Loader.readEvent_bytes _ trailing, ?_, rfl⟩
    -- the 16 bits of the event's major hold all of it
    have hnode : (Loader.ofBpf (Bpf.pollEvent call kind)).node = ⟨call.major, call.minor⟩ :=
      congrArg (fun major => DeviceNode.mk major call.minor) (Bpf.toUInt32_toUInt16_major call)
    rw [hnode, deviceMap_of_setup hok, howner]
    rfl
  · intro devices' hperm hdisjoint
    obtain ⟨s', hok'⟩ := setupDevices_perm hperm hok
    refine ⟨s', hok', ?_, ?_⟩
    · intro reserved
      unfold Bpf.kubenpuIoctl
      rw [filterKind_of_setup hnames hlen hok', hfilter, owner_perm hperm hdisjoint]
    · intro node
      rw [deviceMap_of_setup hok' node.major node.minor, owner_perm hperm hdisjoint]
      exact (deviceMap_of_setup hok node.major node.minor).symm

/-- A machine with one GPU. -/
def gpu : Device where
  driverName := "i915"
  sysfsPath := "/sys/devices/pci0000:00/0000:00:02.0"
  pciID := "8086:7D55"
  pciAddress := "0000:00:02.0"
  numaNode := "0"
  nodes := [⟨128, 226, "/dev/dri/renderD128"⟩]

/-- A submission on its render node. -/
def gpuCall : Bpf.IoctlCall where
  rdev := 0x0E200080
  cmd := 0x69
  timestamp := 0
  cgroupId := 4
  pidTgid := 0

theorem exists_setup_gpu :
    ∃ s : Setup Unit, setupDevices agentRegistry [gpu] (Setup.start Unit) = .ok s :=
  setupDevices_of_fits ⟨by decide, by decide⟩

/-- The agent's registry on that machine lets the call past the filter. -/
theorem filter_agrees_gpu :
    ∃ s : Setup Unit, setupDevices agentRegistry [gpu] (Setup.start Unit) = .ok s ∧
      ∀ reserved, Bpf.kubenpuIoctl s.maps gpuCall reserved ≠ .passed ↔
        ∃ d v, LastOwner agentRegistry [gpu] gpuCall.major gpuCall.minor d v ∧
          gpuCall.nr ∈ v.ioctls := by
  obtain ⟨s, hok⟩ := exists_setup_gpu
  exact ⟨s, hok, (filter_agrees (by decide) (by decide) hok gpuCall).1⟩

/-! ## More vendors than IDs -/

/-- The string of `j` times the letter "v". -/
def unary (j : ℕ) : String := String.ofList (List.replicate j 'v')

/-- A vendor with a name of its own; all but the first count submissions. -/
def numbered (j : ℕ) : Vendor where
  name := unary j
  isMatch d := d.driverName = unary j
  ioctls := if j = 0 then ∅ else (∅ : Map UInt32 Kind).insert 0x69 Kind.kindSubmit

/-- A registry of `n` such vendors. -/
def vendorsUpTo (n : ℕ) : Registry := (List.range n).map numbered

theorem unary_injective : Function.Injective unary := by
  intro i j h
  have hlength := congrArg (fun s : String => s.toList.length) h
  simpa [unary] using hlength

theorem nodup_names_vendorsUpTo (n : ℕ) : ((vendorsUpTo n).map Vendor.name).Nodup := by
  rw [vendorsUpTo, List.map_map]
  exact List.Nodup.map unary_injective List.nodup_range

theorem getVendor_vendorsUpTo {n j : ℕ} (h : j < n) {d : Device} (hd : d.driverName = unary j) :
    (vendorsUpTo n).getVendor d = some (numbered j) := by
  have hmatch : ∀ i, (numbered i).isMatch d = decide (j = i) := fun i => by
    simp [numbered, hd, unary_injective.eq_iff]
  rw [Registry.getVendor, vendorsUpTo, List.find?_map]
  have hfind : (List.range n).find? (fun i => decide (j = i)) = some j := by
    rw [List.find?_range_eq_some]
    refine ⟨decide_eq_true rfl, List.mem_range.mpr h, ?_⟩
    intro i hi
    simp only [Bool.not_eq_true', decide_eq_false_iff_not]
    omega
  simp only [Function.comp_def, hmatch, hfind, Option.map_some]

theorem getVendorID_vendorsUpTo {n j : ℕ} (h : j < n) :
    (vendorsUpTo n).getVendorID (unary j) = UInt32.ofNat j + 1 := by
  have hj : (vendorsUpTo n)[j]? = some (numbered j) := by
    simp [vendorsUpTo, h]
  exact Registry.getVendorID_of_getElem? (nodup_names_vendorsUpTo n) hj

/-- The device of the first vendor, which counts no ioctl. -/
def firstDevice : Device := { gpu with driverName := unary 0 }

/-- A device of the vendor at position `j`. -/
def otherDevice (j : ℕ) : Device :=
  { gpu with
    driverName := unary j
    pciAddress := "0000:00:0b.0"
    nodes := [⟨129, 226, "/dev/dri/renderD129"⟩] }

/-- The setup of the two devices, when the other vendor's ID is that of the first. -/
private theorem setup_collision {n j : ℕ} (hj : j < n) (hpos : 0 < j)
    (hid : UInt32.ofNat j + 1 = 1) :
    ∃ s : Setup Unit,
      setupDevices (vendorsUpTo n) [firstDevice, otherDevice j] (Setup.start Unit) = .ok s ∧
        Bpf.filterKind s.maps gpuCall = some Kind.kindSubmit := by
  have hzero : 0 < n := hpos.trans hj
  have hknown : knownDevices (vendorsUpTo n) [firstDevice, otherDevice j] =
      [(firstDevice, numbered 0), (otherDevice j, numbered j)] := by
    simp only [knownDevices, List.filterMap_cons, List.filterMap_nil,
      getVendor_vendorsUpTo hzero (d := firstDevice) rfl,
      getVendor_vendorsUpTo hj (d := otherDevice j) rfl, Option.map_some]
  have hdevices : deviceWrites (vendorsUpTo n)
      [(firstDevice, numbered 0), (otherDevice j, numbered j)] =
      [(⟨226, 128⟩, 1), (⟨226, 129⟩, 1)] := by
    have hfirst : (vendorsUpTo n).getVendorID (numbered 0).name = 1 :=
      getVendorID_vendorsUpTo hzero
    have hother : (vendorsUpTo n).getVendorID (numbered j).name = 1 :=
      (getVendorID_vendorsUpTo hj).trans hid
    simp [deviceWrites, hfirst, hother, firstDevice, otherDevice, gpu]
  have hioctls : ioctlWrites (vendorsUpTo n)
      [(firstDevice, numbered 0), (otherDevice j, numbered j)] =
      [(⟨1, 0x69⟩, Kind.kindSubmit)] := by
    -- the wrapped ID puts the other vendor's table under the first one's key
    have hother : (vendorsUpTo n).getVendorID (numbered j).name = 1 :=
      (getVendorID_vendorsUpTo hj).trans hid
    have htable : (numbered j).ioctls = (∅ : Map UInt32 Kind).insert 0x69 Kind.kindSubmit :=
      if_neg hpos.ne'
    simp only [ioctlWrites, List.flatMap_cons, List.flatMap_nil, hother, htable]
    rfl
  obtain ⟨s, hok⟩ : ∃ s, setupDevices (vendorsUpTo n) [firstDevice, otherDevice j]
      (Setup.start Unit) = .ok s := by
    refine setupDevices_of_fits ?_
    rw [hknown, hdevices, hioctls]
    exact ⟨by decide, by decide⟩
  have hwrittenDevices := (setupDevices_ok hok).devices
  have hwrittenIoctls := (setupDevices_ok hok).ioctls
  rw [hknown, hdevices] at hwrittenDevices
  rw [hknown, hioctls] at hwrittenIoctls
  refine ⟨s, hok, ?_⟩
  unfold Bpf.filterKind Bpf.HashMap.lookupElem
  rw [hwrittenDevices, hwrittenIoctls]
  decide

/-- **Past 2^32 vendors the IDs wrap**: the last of 2^32 + 1 vendors gets the ID of
the first, and its ioctl number matches on the first one's device. -/
theorem filter_crosses_vendors :
    ((vendorsUpTo (2 ^ 32 + 1)).map Vendor.name).Nodup ∧
      ∃ s : Setup Unit,
        setupDevices (vendorsUpTo (2 ^ 32 + 1)) [firstDevice, otherDevice (2 ^ 32)]
          (Setup.start Unit) = .ok s ∧
        Bpf.kubenpuIoctl s.maps gpuCall true ≠ .passed ∧
        ¬ ∃ d v, LastOwner (vendorsUpTo (2 ^ 32 + 1)) [firstDevice, otherDevice (2 ^ 32)]
          gpuCall.major gpuCall.minor d v ∧ gpuCall.nr ∈ v.ioctls := by
  obtain ⟨s, hok, hkind⟩ := setup_collision (Nat.lt_succ_self (2 ^ 32)) (by norm_num) (by decide)
  refine ⟨nodup_names_vendorsUpTo _, s, hok, ?_, ?_⟩
  · unfold Bpf.kubenpuIoctl
    rw [hkind]
    simp
  · rintro ⟨d, v, ⟨before, after, hsplit, hv, howns, -⟩, hmem⟩
    have hd : d ∈ [firstDevice, otherDevice (2 ^ 32)] := by
      rw [hsplit]
      exact List.mem_append_right _ List.mem_cons_self
    rcases List.mem_pair.mp hd with rfl | rfl
    · rw [getVendor_vendorsUpTo (Nat.succ_pos _) rfl] at hv
      cases hv
      exact absurd hmem (by decide)
    · revert howns
      simp [Device.Owns, otherDevice]
      decide

end KubeNpu

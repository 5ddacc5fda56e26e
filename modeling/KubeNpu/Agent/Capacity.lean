import KubeNpu.Agent.Filter

/-!
# When the agent gets past its setup

The kernel maps have room for 32 nodes and 640 ioctls, and the setup loop ends the
program at the first entry that finds no room.  What counts is the number of
different keys that the devices with a vendor have between them, whatever order they
are in: a node or an ioctl that comes again takes no room, and a device that no
vendor knows takes none.  With the vendors of the agent only the nodes can run out.
-/

namespace KubeNpu

open Go Machine

variable {ω : Type} {registered : Registry} {devices : List Device}

/-! ## Sizes -/

/-- The keys of the kernel map `devices`: the nodes of the devices with a vendor. -/
def nodeKeys (registered : Registry) (devices : List Device) : List Bpf.DeviceKey :=
  (knownDevices registered devices).flatMap fun p =>
    p.1.nodes.map fun node => ⟨node.major, node.minor⟩

/-- The keys of the kernel map `ioctls`: the tables of those vendors. -/
def ioctlKeys (registered : Registry) (devices : List Device) : List Bpf.IoctlKey :=
  (knownDevices registered devices).flatMap fun p =>
    p.2.ioctls.toList.map fun e => ⟨registered.getVendorID p.2.name, e.1⟩

theorem map_fst_deviceWrites :
    (deviceWrites registered (knownDevices registered devices)).map Prod.fst =
      nodeKeys registered devices := by
  simp only [deviceWrites, nodeKeys, List.map_flatMap, List.map_map, Function.comp_def]

theorem map_fst_ioctlWrites :
    (ioctlWrites registered (knownDevices registered devices)).map Prod.fst =
      ioctlKeys registered devices := by
  simp only [ioctlWrites, ioctlKeys, List.map_flatMap, List.map_map, Function.comp_def]

/-- The writes of the whole loop fit if their different keys do. -/
theorem fits_start_iff :
    (Setup.start ω).Fits (deviceWrites registered (knownDevices registered devices))
        (ioctlWrites registered (knownDevices registered devices)) ↔
      (nodeKeys registered devices).dedup.length ≤ Bpf.maxEntriesDevices ∧
        (ioctlKeys registered devices).dedup.length ≤ Bpf.maxEntriesIoctls := by
  rw [← map_fst_deviceWrites, ← map_fst_ioctlWrites, ← Map.size_putAll_empty,
    ← Map.size_putAll_empty]
  exact ⟨fun h => ⟨h.devices, h.ioctls⟩, fun h => ⟨h.1, h.2⟩⟩

/-! ## What goes wrong -/

/-- The error of `AddDevice` when the map is full. -/
def addDeviceFull : Err :=
  .wrapf "failed to add device: %w" [] (.external "argument list too long")

/-- The error of `AddIoctl` when the map is full. -/
def addIoctlFull : Err :=
  .wrapf "failed to add ioctl: %w" [] (.external "argument list too long")

theorem Bpf.HashMap.put_error {K V : Type} [DecidableEq K] {maxEntries : ℕ}
    {m : Bpf.HashMap K V maxEntries} {k : K} {v : V} {err : Err} (h : m.put k v = .error err) :
    err = .external "argument list too long" := by
  unfold Bpf.HashMap.put at h
  split at h
  · cases h
  · cases h
    rfl

theorem addNodes_error {device : Device} {vendor : Vendor} {vendorID : UInt32} {nodes : List Node}
    {s : Setup ω} {err : Err} (h : addNodes device vendor vendorID nodes s = .error err) :
    err = addDeviceFull := by
  induction nodes generalizing s with
  | nil => cases h
  | cons node rest ih =>
      simp only [addNodes, Loader.addDevice] at h
      split at h
      · rename_i hadd
        split at hadd
        · rename_i hput
          cases hadd
          cases h
          rw [addDeviceFull, ← Bpf.HashMap.put_error hput]
        · cases hadd
      · exact ih h

theorem addIoctls_error {vendorID : UInt32} {kinds : List (UInt32 × Kind)} {s : Setup ω}
    {err : Err} (h : addIoctls vendorID kinds s = .error err) : err = addIoctlFull := by
  induction kinds generalizing s with
  | nil => cases h
  | cons e rest ih =>
      obtain ⟨key, val⟩ := e
      simp only [addIoctls, Loader.addIoctl] at h
      split at h
      · rename_i hadd
        split at hadd
        · rename_i hput
          cases hadd
          cases h
          rw [addIoctlFull, ← Bpf.HashMap.put_error hput]
        · cases hadd
      · exact ih h

/-- The error tells which of the two maps these writes overfill. -/
def Overfilled (s : Setup ω) (devices : List (Bpf.DeviceKey × UInt32))
    (ioctls : List (Bpf.IoctlKey × UInt8)) (err : Err) : Prop :=
  (err = addDeviceFull ∧
      Bpf.maxEntriesDevices < Map.size (s.maps.devices.entries.putAll devices)) ∨
    (err = addIoctlFull ∧
      Bpf.maxEntriesIoctls < Map.size (s.maps.ioctls.entries.putAll ioctls))

theorem setupDevice_error {device : Device} {s : Setup ω} {err : Err}
    (h : setupDevice registered device s = .error err) :
    Overfilled s (deviceWrites registered (knownDevices registered [device]))
      (ioctlWrites registered (knownDevices registered [device])) err := by
  unfold setupDevice at h
  cases hvendor : registered.getVendor device with
  | none =>
      simp only [hvendor] at h
      cases h
  | some vendor =>
      simp only [hvendor] at h
      rw [knownDevices_singleton_some hvendor]
      simp only [deviceWrites, ioctlWrites, List.flatMap_singleton]
      split at h
      · rename_i hnodes
        cases h
        refine Or.inl ⟨addNodes_error hnodes, not_le.mp fun hfits => ?_⟩
        -- nodes that fit are all added
        obtain ⟨s', hok⟩ := addNodes_of_fits (s := { s with
          collector := s.collector.setDeviceInfo device.pciAddress vendor.name
            device.driverName device.pciID device.numaNode }) device vendor _
          ⟨hfits, s.maps.ioctls.size_le⟩
        rw [hok] at hnodes
        cases hnodes
      · rename_i s₁ hnodes
        refine Or.inr ⟨addIoctls_error h, not_le.mp fun hfits => ?_⟩
        have hsame : s₁.maps.ioctls.entries = s.maps.ioctls.entries := (addNodes_ok hnodes).ioctls
        rw [← hsame] at hfits
        obtain ⟨s', hok⟩ := addIoctls_of_fits _ ⟨s₁.maps.devices.size_le, hfits⟩
        rw [hok] at h
        cases h

/-- **A loop that stops has filled a map.** -/
theorem setupDevices_error {s : Setup ω} {err : Err}
    (h : setupDevices registered devices s = .error err) :
    Overfilled s (deviceWrites registered (knownDevices registered devices))
      (ioctlWrites registered (knownDevices registered devices)) err := by
  induction devices generalizing s with
  | nil => cases h
  | cons device rest ih =>
      rw [← List.singleton_append, knownDevices_append, deviceWrites, List.flatMap_append,
        ioctlWrites, List.flatMap_append]
      simp only [setupDevices] at h
      split at h
      · rename_i hdevice
        cases h
        -- the writes of this device are a part of all
        rcases setupDevice_error hdevice with ⟨rfl, hfull⟩ | ⟨rfl, hfull⟩
        · exact Or.inl ⟨rfl, hfull.trans_le (Map.size_putAll_le _ _ _)⟩
        · exact Or.inr ⟨rfl, hfull.trans_le (Map.size_putAll_le _ _ _)⟩
      · rename_i s₁ hdevice
        have hwritten := setupDevice_ok hdevice
        have hrest := ih h
        unfold Overfilled at hrest ⊢
        rw [hwritten.devices, hwritten.ioctls, ← Map.putAll_append, ← Map.putAll_append] at hrest
        exact hrest

/-! ## The vendors of the agent -/

/-- The ioctls of both vendors, under their IDs. -/
def agentIoctlKeys : List Bpf.IoctlKey :=
  [⟨1, 0x69⟩, ⟨1, 0x5b⟩, ⟨1, 0x6c⟩, ⟨2, 0x4d⟩, ⟨2, 0x45⟩, ⟨2, 0x42⟩, ⟨2, 0x46⟩]

private theorem mem_agentIoctlKeys {v : Vendor} (hv : v ∈ agentRegistry) {nr : UInt32}
    (hnr : nr ∈ v.ioctls.toList.map Prod.fst) :
    (⟨agentRegistry.getVendorID v.name, nr⟩ : Bpf.IoctlKey) ∈ agentIoctlKeys := by
  rcases (by simpa [agentRegistry, Registry.registerVendor] using hv : v = i915 ∨ v = ivpu) with
    rfl | rfl
  · have htable : i915.ioctls.toList.map Prod.fst = [0x6c, 0x5b, 0x69] := by decide
    have hid : agentRegistry.getVendorID i915.name = 1 := by decide
    rw [htable] at hnr
    rw [hid]
    simp only [List.mem_cons, List.not_mem_nil, or_false] at hnr
    rcases hnr with rfl | rfl | rfl <;> decide
  · have htable : ivpu.ioctls.toList.map Prod.fst = [0x46, 0x42, 0x45, 0x4d] := by decide
    have hid : agentRegistry.getVendorID ivpu.name = 2 := by decide
    rw [htable] at hnr
    rw [hid]
    simp only [List.mem_cons, List.not_mem_nil, or_false] at hnr
    rcases hnr with rfl | rfl | rfl | rfl <;> decide

/-- Seven ioctls are all that the agent can add. -/
theorem ioctlKeys_agentRegistry (devices : List Device) :
    (ioctlKeys agentRegistry devices).dedup.length ≤ 7 := by
  have hsub : ∀ k ∈ ioctlKeys agentRegistry devices, k ∈ agentIoctlKeys := by
    intro k hk
    obtain ⟨⟨d, v⟩, hknown, hmem⟩ := List.mem_flatMap.mp hk
    obtain ⟨e, he, rfl⟩ := List.mem_map.mp hmem
    have hv : v ∈ agentRegistry := Registry.mem_of_getVendor (mem_knownDevices.mp hknown).2
    exact mem_agentIoctlKeys hv (List.mem_map_of_mem he)
  have hsubset : (ioctlKeys agentRegistry devices).dedup ⊆ agentIoctlKeys := by
    intro k hk
    exact hsub k (List.mem_dedup.mp hk)
  exact (List.subperm_of_subset (List.nodup_dedup _) hsubset).length_le

/-- **What the setup has room for.**  For any vendors and any devices, in any order: the
setup loop runs to its end exactly if the devices with a vendor have at most 32
different nodes and their vendors at most 640 different ioctls; a loop that stops does
so with the error of the map that has no room; and with the vendors of the agent, the
nodes alone decide. -/
theorem setup_capacity (registered : Registry) (devices : List Device) :
    ((∃ setup, setupDevices registered devices (Setup.start ω) = .ok setup) ↔
      (nodeKeys registered devices).dedup.length ≤ 32 ∧
        (ioctlKeys registered devices).dedup.length ≤ 640) ∧
    (∀ err, setupDevices registered devices (Setup.start ω) = .error err →
      (err = addDeviceFull ∧ 32 < (nodeKeys registered devices).dedup.length) ∨
        (err = addIoctlFull ∧ 640 < (ioctlKeys registered devices).dedup.length)) ∧
    ((∃ setup, setupDevices agentRegistry devices (Setup.start ω) = .ok setup) ↔
      (nodeKeys agentRegistry devices).dedup.length ≤ 32) ∧
    ∀ err, setupDevices agentRegistry devices (Setup.start ω) = .error err →
      err = addDeviceFull := by
  have hiff (registered : Registry) :
      (∃ setup, setupDevices registered devices (Setup.start ω) = .ok setup) ↔
        (nodeKeys registered devices).dedup.length ≤ 32 ∧
          (ioctlKeys registered devices).dedup.length ≤ 640 := by
    rw [← fits_start_iff (ω := ω)]
    exact ⟨fun ⟨setup, hok⟩ => (setupDevices_ok hok).fits, setupDevices_of_fits⟩
  have herror {registered : Registry} {err : Err}
      (h : setupDevices registered devices (Setup.start ω) = .error err) :
      (err = addDeviceFull ∧ 32 < (nodeKeys registered devices).dedup.length) ∨
        (err = addIoctlFull ∧ 640 < (ioctlKeys registered devices).dedup.length) := by
    rw [← map_fst_deviceWrites, ← map_fst_ioctlWrites, ← Map.size_putAll_empty,
      ← Map.size_putAll_empty]
    exact setupDevices_error h
  have hfew := ioctlKeys_agentRegistry devices
  refine ⟨hiff registered, fun err h => herror h, ?_, ?_⟩
  · rw [hiff agentRegistry]
    exact and_iff_left (by omega)
  · intro err h
    rcases herror h with ⟨rfl, -⟩ | ⟨-, hfull⟩
    · rfl
    · omega

end KubeNpu

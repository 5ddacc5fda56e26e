import KubeNpu.Agent.Worker

/-!
# `cmd/agent/main.go`: filling the tables

The setup loop fills the two maps of the kernel program, the map `deviceMap` of
the worker and the device rows of the collector from the discovered devices.  An
error of either map ends the program.

`setupDevices_ok` says what a loop that ran to its end has written, as four lists
of writes in order; everything later modules need about the loop follows from it
and from which write of a key is the last.
-/

namespace KubeNpu

open Go Machine

/-- What the setup loop fills. -/
structure Setup (ω : Type) where
  deviceMap : DeviceMap
  collector : Collector ω
  maps : Bpf.Filter

/-- The tables before the loop. -/
def Setup.start (ω : Type) : Setup ω := ⟨∅, newCollector ω, .empty⟩

variable {ω : Type}

/-- The loop over `device.Nodes`. -/
def addNodes (device : Device) (vendor : Vendor) (vendorID : UInt32) :
    List Node → Setup ω → Except Err (Setup ω)
  | [], s => .ok s
  | node :: rest, s =>
      let s := { s with
        deviceMap := s.deviceMap.insert ⟨node.major, node.minor⟩
          ⟨device.pciAddress, vendor.name⟩ }
      match Loader.addDevice s.maps node.major node.minor vendorID with
      | .error err => .error err
      | .ok maps => addNodes device vendor vendorID rest { s with maps }

/-- The loop over `vendor.Ioctls()`. -/
def addIoctls (vendorID : UInt32) : List (UInt32 × Kind) → Setup ω → Except Err (Setup ω)
  | [], s => .ok s
  | (key, val) :: rest, s =>
      match Loader.addIoctl s.maps vendorID key val with
      | .error err => .error err
      | .ok maps => addIoctls vendorID rest { s with maps }

/-- One iteration of the setup loop; a device without a vendor is skipped. -/
def setupDevice (registered : Registry) (device : Device) (s : Setup ω) :
    Except Err (Setup ω) :=
  match registered.getVendor device with
  | none => .ok s
  | some vendor =>
      let vendorID := registered.getVendorID vendor.name
      let s := { s with
        collector := s.collector.setDeviceInfo device.pciAddress vendor.name device.driverName
          device.pciID device.numaNode }
      match addNodes device vendor vendorID device.nodes s with
      | .error err => .error err
      | .ok s => addIoctls vendorID vendor.ioctls.toList s

/-- The setup loop. -/
def setupDevices (registered : Registry) : List Device → Setup ω → Except Err (Setup ω)
  | [], s => .ok s
  | device :: rest, s =>
      match setupDevice registered device s with
      | .error err => .error err
      | .ok s => setupDevices registered rest s

/-! ## What the loop writes -/

/-- The discovered devices that have a vendor, with it. -/
def knownDevices (registered : Registry) (devices : List Device) : List (Device × Vendor) :=
  devices.filterMap fun d => (registered.getVendor d).map fun v => (d, v)

theorem knownDevices_append (registered : Registry) (l₁ l₂ : List Device) :
    knownDevices registered (l₁ ++ l₂) = knownDevices registered l₁ ++ knownDevices registered l₂ :=
  List.filterMap_append

/-- The writes to `deviceMap`. -/
def nodeWrites (known : List (Device × Vendor)) : List (DeviceNode × DeviceMeta) :=
  known.flatMap fun p => p.1.nodes.map fun node =>
    (⟨node.major, node.minor⟩, ⟨p.1.pciAddress, p.2.name⟩)

/-- The writes to the kernel map `devices`. -/
def deviceWrites (registered : Registry) (known : List (Device × Vendor)) :
    List (Bpf.DeviceKey × UInt32) :=
  known.flatMap fun p => p.1.nodes.map fun node =>
    (⟨node.major, node.minor⟩, registered.getVendorID p.2.name)

/-- The writes to the kernel map `ioctls`. -/
def ioctlWrites (registered : Registry) (known : List (Device × Vendor)) :
    List (Bpf.IoctlKey × UInt8) :=
  known.flatMap fun p => p.2.ioctls.toList.map fun e =>
    (⟨registered.getVendorID p.2.name, e.1⟩, e.2)

/-- The device rows of the collector. -/
def infoWrites (known : List (Device × Vendor)) : List (DeviceKey × Unit) :=
  known.map fun p =>
    ({ device := p.1.pciAddress
       vendor := p.2.name
       driver := p.1.driverName
       pciID := p.1.pciID
       numaNode := p.1.numaNode }, ())

/-- The tables of `s'` are those of `s` after the given writes. -/
structure Setup.Written (s s' : Setup ω) (nodes : List (DeviceNode × DeviceMeta))
    (devices : List (Bpf.DeviceKey × UInt32)) (ioctls : List (Bpf.IoctlKey × UInt8))
    (infos : List (DeviceKey × Unit)) : Prop where
  deviceMap : s'.deviceMap = s.deviceMap.putAll nodes
  devices : s'.maps.devices.entries = s.maps.devices.entries.putAll devices
  ioctls : s'.maps.ioctls.entries = s.maps.ioctls.entries.putAll ioctls
  collector : s'.collector =
    { s.collector with deviceInfo := s.collector.deviceInfo.putAll infos }

namespace Setup.Written

theorem refl (s : Setup ω) : Setup.Written s s [] [] [] [] := ⟨rfl, rfl, rfl, rfl⟩

/-- Writes in sequence are appended. -/
theorem trans {s s' s'' : Setup ω} {n n' : List (DeviceNode × DeviceMeta)}
    {d d' : List (Bpf.DeviceKey × UInt32)} {i i' : List (Bpf.IoctlKey × UInt8)}
    {r r' : List (DeviceKey × Unit)} (h : Setup.Written s s' n d i r)
    (h' : Setup.Written s' s'' n' d' i' r') :
    Setup.Written s s'' (n ++ n') (d ++ d') (i ++ i') (r ++ r') where
  deviceMap := by rw [h'.deviceMap, h.deviceMap, Map.putAll_append]
  devices := by rw [h'.devices, h.devices, Map.putAll_append]
  ioctls := by rw [h'.ioctls, h.ioctls, Map.putAll_append]
  collector := by rw [h'.collector, h.collector, Map.putAll_append]

end Setup.Written

theorem Loader.addDevice_ok {maps maps' : Bpf.Filter} {major minor vendorID : UInt32}
    (h : Loader.addDevice maps major minor vendorID = .ok maps') :
    maps'.devices.entries = maps.devices.entries.insert ⟨major, minor⟩ vendorID ∧
      maps'.ioctls = maps.ioctls := by
  unfold Loader.addDevice at h
  split at h
  · cases h
  · rename_i hput
    cases h
    exact ⟨Bpf.HashMap.entries_of_put hput, rfl⟩

theorem Loader.addIoctl_ok {maps maps' : Bpf.Filter} {vendorID nr : UInt32} {kind : UInt8}
    (h : Loader.addIoctl maps vendorID nr kind = .ok maps') :
    maps'.ioctls.entries = maps.ioctls.entries.insert ⟨vendorID, nr⟩ kind ∧
      maps'.devices = maps.devices := by
  unfold Loader.addIoctl at h
  split at h
  · cases h
  · rename_i hput
    cases h
    exact ⟨Bpf.HashMap.entries_of_put hput, rfl⟩

theorem addNodes_ok {device : Device} {vendor : Vendor} {vendorID : UInt32} {nodes : List Node}
    {s s' : Setup ω} (h : addNodes device vendor vendorID nodes s = .ok s') :
    Setup.Written s s'
      (nodes.map fun node => (⟨node.major, node.minor⟩, ⟨device.pciAddress, vendor.name⟩))
      (nodes.map fun node => (⟨node.major, node.minor⟩, vendorID)) [] [] := by
  induction nodes generalizing s with
  | nil =>
      cases h
      exact .refl _
  | cons node rest ih =>
      simp only [addNodes] at h
      split at h
      · cases h
      · rename_i maps hadd
        obtain ⟨hdevices, hioctls⟩ := Loader.addDevice_ok hadd
        have hone : Setup.Written s { s with
              deviceMap := s.deviceMap.insert ⟨node.major, node.minor⟩
                ⟨device.pciAddress, vendor.name⟩
              maps := maps }
            [(⟨node.major, node.minor⟩, ⟨device.pciAddress, vendor.name⟩)]
            [(⟨node.major, node.minor⟩, vendorID)] [] [] :=
          ⟨rfl, hdevices, congrArg Bpf.HashMap.entries hioctls, rfl⟩
        exact hone.trans (ih h)

theorem addIoctls_ok {vendorID : UInt32} {kinds : List (UInt32 × Kind)} {s s' : Setup ω}
    (h : addIoctls vendorID kinds s = .ok s') :
    Setup.Written s s' [] [] (kinds.map fun e => (⟨vendorID, e.1⟩, e.2)) [] := by
  induction kinds generalizing s with
  | nil =>
      cases h
      exact .refl _
  | cons e rest ih =>
      obtain ⟨key, val⟩ := e
      simp only [addIoctls] at h
      split at h
      · cases h
      · rename_i maps hadd
        obtain ⟨hioctls, hdevices⟩ := Loader.addIoctl_ok hadd
        have hone : Setup.Written s { s with maps } [] [] [(⟨vendorID, key⟩, val)] [] :=
          ⟨rfl, congrArg Bpf.HashMap.entries hdevices, hioctls, rfl⟩
        exact hone.trans (ih h)

/-- One iteration writes the entries of its device, if it has a vendor. -/
theorem setupDevice_ok {registered : Registry} {device : Device} {s s' : Setup ω}
    (h : setupDevice registered device s = .ok s') :
    let known := knownDevices registered [device]
    Setup.Written s s' (nodeWrites known) (deviceWrites registered known)
      (ioctlWrites registered known) (infoWrites known) := by
  unfold setupDevice at h
  cases hvendor : registered.getVendor device with
  | none =>
      simp only [hvendor] at h
      cases h
      simp only [knownDevices, List.filterMap_cons, hvendor, Option.map_none, List.filterMap_nil]
      exact .refl _
  | some vendor =>
      simp only [hvendor] at h
      split at h
      · cases h
      · rename_i s₁ hnodes
        have hinfo : Setup.Written s { s with
            collector := s.collector.setDeviceInfo device.pciAddress vendor.name
              device.driverName device.pciID device.numaNode } [] [] []
            (infoWrites [(device, vendor)]) := ⟨rfl, rfl, rfl, rfl⟩
        have hall := (hinfo.trans (addNodes_ok hnodes)).trans (addIoctls_ok h)
        simpa [knownDevices, hvendor, nodeWrites, deviceWrites, ioctlWrites] using hall

/-- **What a setup that ran to its end has written.** -/
theorem setupDevices_ok {registered : Registry} {devices : List Device} {s s' : Setup ω}
    (h : setupDevices registered devices s = .ok s') :
    let known := knownDevices registered devices
    Setup.Written s s' (nodeWrites known) (deviceWrites registered known)
      (ioctlWrites registered known) (infoWrites known) := by
  induction devices generalizing s with
  | nil =>
      cases h
      exact .refl _
  | cons device rest ih =>
      simp only [setupDevices] at h
      split at h
      · cases h
      · rename_i s₁ hdevice
        have hall := (setupDevice_ok hdevice).trans (ih h)
        rw [← List.singleton_append, knownDevices_append]
        simpa only [nodeWrites, deviceWrites, ioctlWrites, infoWrites, List.flatMap_append,
          List.map_append] using hall

/-! ## When the loop runs to its end -/

/-- The writes fit the two kernel maps. -/
structure Setup.Fits (s : Setup ω) (devices : List (Bpf.DeviceKey × UInt32))
    (ioctls : List (Bpf.IoctlKey × UInt8)) : Prop where
  devices : Map.size (s.maps.devices.entries.putAll devices) ≤ Bpf.maxEntriesDevices
  ioctls : Map.size (s.maps.ioctls.entries.putAll ioctls) ≤ Bpf.maxEntriesIoctls

/-- What a finished loop has written does fit. -/
theorem Setup.Written.fits {s s' : Setup ω} {n : List (DeviceNode × DeviceMeta)}
    {d : List (Bpf.DeviceKey × UInt32)} {i : List (Bpf.IoctlKey × UInt8)}
    {r : List (DeviceKey × Unit)} (h : Setup.Written s s' n d i r) : s.Fits d i where
  devices := h.devices ▸ s'.maps.devices.size_le
  ioctls := h.ioctls ▸ s'.maps.ioctls.size_le

/-- The writes that come first fit alone. -/
theorem Setup.Fits.left {s : Setup ω} {d d' : List (Bpf.DeviceKey × UInt32)}
    {i i' : List (Bpf.IoctlKey × UInt8)} (h : s.Fits (d ++ d') (i ++ i')) : s.Fits d i where
  devices := by
    refine (Map.size_le_of_subset ?_).trans h.devices
    intro k hk
    rw [Map.putAll_append]
    exact Map.mem_putAll.mpr (Or.inl hk)
  ioctls := by
    refine (Map.size_le_of_subset ?_).trans h.ioctls
    intro k hk
    rw [Map.putAll_append]
    exact Map.mem_putAll.mpr (Or.inl hk)

/-- The writes that come later fit after the first ones. -/
theorem Setup.Fits.right {s s' : Setup ω} {n : List (DeviceNode × DeviceMeta)}
    {d d' : List (Bpf.DeviceKey × UInt32)} {i i' : List (Bpf.IoctlKey × UInt8)}
    {r : List (DeviceKey × Unit)} (h : s.Fits (d ++ d') (i ++ i'))
    (hwritten : Setup.Written s s' n d i r) : s'.Fits d' i' where
  devices := by
    rw [hwritten.devices, ← Map.putAll_append]
    exact h.devices
  ioctls := by
    rw [hwritten.ioctls, ← Map.putAll_append]
    exact h.ioctls

theorem addNodes_of_fits (device : Device) (vendor : Vendor) (vendorID : UInt32)
    {nodes : List Node} {s : Setup ω}
    (h : s.Fits (nodes.map fun node => (⟨node.major, node.minor⟩, vendorID)) []) :
    ∃ s', addNodes device vendor vendorID nodes s = .ok s' := by
  induction nodes generalizing s with
  | nil => exact ⟨s, rfl⟩
  | cons node rest ih =>
      have happend : s.Fits ([(⟨node.major, node.minor⟩, vendorID)] ++
          rest.map fun node => (⟨node.major, node.minor⟩, vendorID)) ([] ++ []) := h
      obtain ⟨devices, hput⟩ := Bpf.HashMap.put_of_size_le happend.left.devices
      simp only [addNodes, Loader.addDevice, hput]
      refine ih ⟨?_, h.ioctls⟩
      rw [Bpf.HashMap.entries_of_put hput]
      exact h.devices

theorem addIoctls_of_fits (vendorID : UInt32) {kinds : List (UInt32 × Kind)} {s : Setup ω}
    (h : s.Fits [] (kinds.map fun e => (⟨vendorID, e.1⟩, e.2))) :
    ∃ s', addIoctls vendorID kinds s = .ok s' := by
  induction kinds generalizing s with
  | nil => exact ⟨s, rfl⟩
  | cons e rest ih =>
      obtain ⟨key, val⟩ := e
      have happend : s.Fits ([] ++ []) ([(⟨vendorID, key⟩, val)] ++
          rest.map fun e => (⟨vendorID, e.1⟩, e.2)) := h
      obtain ⟨ioctls, hput⟩ := Bpf.HashMap.put_of_size_le happend.left.ioctls
      simp only [addIoctls, Loader.addIoctl, hput]
      refine ih ⟨h.devices, ?_⟩
      rw [Bpf.HashMap.entries_of_put hput]
      exact h.ioctls

theorem setupDevice_of_fits {registered : Registry} {device : Device} {s : Setup ω}
    (h : s.Fits (deviceWrites registered (knownDevices registered [device]))
      (ioctlWrites registered (knownDevices registered [device]))) :
    ∃ s', setupDevice registered device s = .ok s' := by
  unfold setupDevice
  cases hvendor : registered.getVendor device with
  | none => exact ⟨s, rfl⟩
  | some vendor =>
      have hknown : knownDevices registered [device] = [(device, vendor)] := by
        simp [knownDevices, hvendor]
      simp only [hknown, deviceWrites, ioctlWrites, List.flatMap_singleton] at h
      -- the row of the device does not touch the kernel maps
      have hfits : Setup.Fits { s with
            collector := s.collector.setDeviceInfo device.pciAddress vendor.name
              device.driverName device.pciID device.numaNode }
          ((device.nodes.map fun node =>
            (⟨node.major, node.minor⟩, registered.getVendorID vendor.name)) ++ [])
          ([] ++ vendor.ioctls.toList.map fun e =>
            (⟨registered.getVendorID vendor.name, e.1⟩, e.2)) := by
        rw [List.append_nil, List.nil_append]
        exact ⟨h.devices, h.ioctls⟩
      obtain ⟨s₁, hnodes⟩ := addNodes_of_fits device vendor _ hfits.left
      obtain ⟨s₂, hioctls⟩ := addIoctls_of_fits _ (hfits.right (addNodes_ok hnodes))
      refine ⟨s₂, ?_⟩
      simp only [hnodes]
      exact hioctls

/-- **Writes that fit are all done.** -/
theorem setupDevices_of_fits {registered : Registry} {devices : List Device} {s : Setup ω}
    (h : s.Fits (deviceWrites registered (knownDevices registered devices))
      (ioctlWrites registered (knownDevices registered devices))) :
    ∃ s', setupDevices registered devices s = .ok s' := by
  induction devices generalizing s with
  | nil => exact ⟨s, rfl⟩
  | cons device rest ih =>
      rw [← List.singleton_append, knownDevices_append, deviceWrites, List.flatMap_append,
        ioctlWrites, List.flatMap_append] at h
      obtain ⟨s₁, hdevice⟩ := setupDevice_of_fits h.left
      obtain ⟨s', hrest⟩ := ih (h.right (setupDevice_ok hdevice))
      refine ⟨s', ?_⟩
      simp only [setupDevices, hdevice]
      exact hrest

/-- Whether the loop runs to its end does not depend on the order of the devices. -/
theorem setupDevices_perm {registered : Registry} {devices devices' : List Device}
    {s s' : Setup ω} (hperm : devices'.Perm devices)
    (hok : setupDevices registered devices s = .ok s') :
    ∃ s'', setupDevices registered devices' s = .ok s'' := by
  have hknown : (knownDevices registered devices').Perm (knownDevices registered devices) :=
    hperm.filterMap _
  have hfits := (setupDevices_ok hok).fits
  refine setupDevices_of_fits ⟨?_, ?_⟩
  · refine (Map.size_le_of_subset ?_).trans hfits.devices
    intro k hk
    have hwrites := hknown.flatMap_right fun p : Device × Vendor => p.1.nodes.map fun node =>
      ((⟨node.major, node.minor⟩, registered.getVendorID p.2.name) : Bpf.DeviceKey × UInt32)
    refine Map.mem_putAll.mpr ((Map.mem_putAll.mp hk).imp_right ?_)
    rintro ⟨e, he, hkey⟩
    exact ⟨e, hwrites.mem_iff.mp he, hkey⟩
  · refine (Map.size_le_of_subset ?_).trans hfits.ioctls
    intro k hk
    have hwrites := hknown.flatMap_right fun p : Device × Vendor => p.2.ioctls.toList.map fun e =>
      ((⟨registered.getVendorID p.2.name, e.1⟩, e.2) : Bpf.IoctlKey × UInt8)
    refine Map.mem_putAll.mpr ((Map.mem_putAll.mp hk).imp_right ?_)
    rintro ⟨e, he, hkey⟩
    exact ⟨e, hwrites.mem_iff.mp he, hkey⟩

end KubeNpu

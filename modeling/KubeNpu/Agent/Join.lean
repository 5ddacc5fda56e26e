import KubeNpu.Agent.Filter
import KubeNpu.Agent.Scrape
import KubeNpu.Discovery.Discover

/-!
# Joining the ioctl series with the device rows

Dashboards join `kubenpu_ioctl_total` with `kubenpu_device_info` on the device
label.  The join is sound when each device label of the first has exactly one row
in the second, and it is: addresses are unique among the discovered devices, and
the setup loop records the row of a device before it enters the device into the
worker's map.
-/

namespace KubeNpu

open Go Machine

variable {ω : Type} {registered : Registry} {devices : List Device} {s : Setup ω}

/-- The row of a discovered device. -/
def infoRow (d : Device) (v : Vendor) : DeviceKey where
  device := d.pciAddress
  vendor := v.name
  driver := d.driverName
  pciID := d.pciID
  numaNode := d.numaNode

/-- The rows of the collector are those of the devices with a vendor. -/
theorem mem_deviceInfo_of_setup (hok : setupDevices registered devices (Setup.start ω) = .ok s)
    {row : DeviceKey} :
    row ∈ s.collector.deviceInfo ↔
      ∃ d v, d ∈ devices ∧ registered.getVendor d = some v ∧ row = infoRow d v := by
  have hcollector := (setupDevices_ok hok).collector
  rw [hcollector]
  show row ∈ Map.putAll ∅ (infoWrites (knownDevices registered devices)) ↔ _
  rw [Map.mem_putAll]
  constructor
  · rintro (h | ⟨e, he, rfl⟩)
    · exact absurd h (AList.notMem_empty row)
    · obtain ⟨⟨d, v⟩, hmem, rfl⟩ := List.mem_map.mp he
      obtain ⟨hd, hv⟩ := mem_knownDevices.mp hmem
      exact ⟨d, v, hd, hv, rfl⟩
  · rintro ⟨d, v, hd, hv, rfl⟩
    exact Or.inr ⟨(infoRow d v, ()),
      List.mem_map.mpr ⟨(d, v), mem_knownDevices.mpr ⟨hd, hv⟩, rfl⟩, rfl⟩

/-- Every entry of the worker's map comes from a device with a vendor. -/
theorem deviceMap_entry_of_setup (hok : setupDevices registered devices (Setup.start ω) = .ok s)
    {node : DeviceNode} {found : DeviceMeta} (h : s.deviceMap.lookup node = some found) :
    ∃ d v, d ∈ devices ∧ registered.getVendor d = some v ∧ found = ⟨d.pciAddress, v.name⟩ := by
  rw [deviceMap_of_setup hok node.major node.minor] at h
  obtain ⟨⟨d, v⟩, howner, rfl⟩ := Option.map_eq_some_iff.mp h
  have hmem : (d, v) ∈ knownDevices registered devices :=
    List.mem_of_mem_filter (List.mem_of_getLast? howner)
  obtain ⟨hd, hv⟩ := mem_knownDevices.mp hmem
  exact ⟨d, v, hd, hv, rfl⟩

/-- The collector that the agent starts to serve: the setup's, with its sources. -/
def servedCollector (s : Setup ω) (rebuilds : ω → UInt64) (lost : ω → Except Err UInt64) :
    Collector ω :=
  (s.collector.setCgroupIndexRebuildsSource rebuilds).setKernelDroppedSource lost

theorem fresh_servedCollector (hok : setupDevices registered devices (Setup.start ω) = .ok s)
    (rebuilds : ω → UInt64) (lost : ω → Except Err UInt64) :
    (servedCollector s rebuilds lost).Fresh := by
  have hcollector := (setupDevices_ok hok).collector
  refine ⟨?_, ?_⟩
  · show s.collector.ioctlTotal = ∅
    rw [hcollector]
    rfl
  · show s.collector.eventsDroppedTotal = _
    rw [hcollector]
    rfl

/-- A label tuple that was counted names a device of the worker's map. -/
theorem device_of_counted {deviceMap : DeviceMap} {acts : List (Activity ω)} {k : Key}
    (h : 0 < (outcomes deviceMap acts).count (.ioctl k)) :
    ∃ node found, deviceMap.lookup node = some found ∧ k.device = found.pciAddress ∧
      k.vendor = found.vendor := by
  obtain ⟨a, -, ha⟩ := List.mem_map.mp (List.count_pos_iff.mp h)
  cases a with
  | queueFull => cases ha
  | scrape w => cases ha
  | handled event result =>
      simp only [Activity.outcome, outcomeOf] at ha
      cases hlookup : deviceMap.lookup event.node with
      | none =>
          rw [hlookup] at ha
          cases ha
      | some found =>
          rw [hlookup] at ha
          cases result with
          | ok cI =>
              cases ha
              exact ⟨event.node, found, hlookup, rfl, rfl⟩
          | error err => cases hreason : reasonOf err <;> simp [hreason] at ha

/-- The device label of a row. -/
theorem mem_labels_deviceInfo {row : DeviceKey} {address : String} :
    ("device", address) ∈ (Collector.deviceInfoMetric row).labels ↔ row.device = address := by
  show ("device", address) ∈ [("device", row.device), ("vendor", row.vendor),
    ("driver", row.driver), ("pci_id", row.pciID), ("numa_node", row.numaNode)] ↔ _
  simp [eq_comm]

/-- The rows of a scrape with a given device label. -/
def rowsOf (scrape : List Metric) (address : String) : List Metric :=
  scrape.filter fun m => m.desc = deviceInfoDesc ∧ ("device", address) ∈ m.labels

/-- **Every ioctl series joins with one device row.**  For every discovery, every
registry and all activities of the agent: discovered addresses are unique, every
entry of the worker's map has its row in the collector, and at every scrape each
ioctl series has exactly one row with its device label, which carries its vendor
and the driver, PCI ID and NUMA node of the one discovered device with that
address. -/
theorem ioctl_joins_device_info {w : World} {paths : Paths}
    (hfound : IsDiscovered w paths devices)
    (hok : setupDevices registered devices (Setup.start ω) = .ok s) (rebuilds : ω → UInt64)
    (lost : ω → Except Err UInt64) (acts : List (Activity ω)) (v : ω) :
    (devices.map Device.pciAddress).Nodup ∧
    (∀ node found, s.deviceMap.lookup node = some found → ∃ row ∈ s.collector.deviceInfo,
      row.device = found.pciAddress ∧ row.vendor = found.vendor) ∧
    ∀ m ∈ scrapeAfter s.deviceMap (servedCollector s rebuilds lost) acts v, m.desc = ioctlDesc →
      ∃ (k : Key) (d : Device), m.labels = k.labels ∧ d ∈ devices ∧ d.pciAddress = k.device ∧
        rowsOf (scrapeAfter s.deviceMap (servedCollector s rebuilds lost) acts v) k.device =
          [Collector.deviceInfoMetric
            { device := k.device
              vendor := k.vendor
              driver := d.driverName
              pciID := d.pciID
              numaNode := d.numaNode }] := by
  have hfresh := fresh_servedCollector hok rebuilds lost
  refine ⟨hfound.nodup_address, ?_, ?_⟩
  · intro node found hlookup
    obtain ⟨d, vendor, hd, hv, rfl⟩ := deviceMap_entry_of_setup hok hlookup
    exact ⟨infoRow d vendor, (mem_deviceInfo_of_setup hok).mpr ⟨d, vendor, hd, hv, rfl⟩, rfl, rfl⟩
  · intro m hm hdesc
    obtain ⟨k, value, hk, rfl⟩ := Collector.mem_collect_ioctl.mp ⟨hm, hdesc⟩
    -- a published tuple was counted, so the worker found its device in the map
    have hcounted := (Collector.mem_after_ioctl hfresh _ _ k).mp
      (Map.mem_iff_lookup.mpr ⟨value, hk⟩)
    obtain ⟨node, found, hlookup, hdevice, hvendor⟩ := device_of_counted hcounted
    obtain ⟨d, vendor, hd, hv, rfl⟩ := deviceMap_entry_of_setup hok hlookup
    have hrow : ({ device := k.device
                   vendor := k.vendor
                   driver := d.driverName
                   pciID := d.pciID
                   numaNode := d.numaNode } : DeviceKey) = infoRow d vendor := by
      rw [hdevice, hvendor]
      rfl
    refine ⟨k, d, rfl, hd, hdevice.symm, ?_⟩
    rw [hrow]
    -- no series occurs twice, so it is enough to compare members
    refine List.perm_singleton.mp ((List.perm_ext_iff_of_nodup ?_ (List.nodup_singleton _)).mpr ?_)
    · refine List.Nodup.filter _ (List.Nodup.of_map Metric.series (Collector.nodup_series _ v ?_))
      intro hmem
      exact absurd ((Collector.mem_after_dropped hfresh _ _ _).mp hmem) (by decide)
    · intro m'
      have hinfo : ((servedCollector s rebuilds lost).after s.deviceMap acts).deviceInfo =
          s.collector.deviceInfo := by
        rw [Collector.after_eq_tallies]
        rfl
      rw [rowsOf, List.mem_filter, decide_eq_true_eq, List.mem_singleton, ← and_assoc,
        scrapeAfter, Collector.mem_collect_deviceInfo, hinfo]
      constructor
      · rintro ⟨⟨row, hmem, rfl⟩, hlabel⟩
        obtain ⟨d', vendor', hd', hv', rfl⟩ := (mem_deviceInfo_of_setup hok).mp hmem
        have haddr : d'.pciAddress = d.pciAddress := (mem_labels_deviceInfo.mp hlabel).trans hdevice
        -- two rows with one device label would be two devices with one address
        obtain rfl := hfound.eq_of_address hd' hd haddr
        rw [hv] at hv'
        cases hv'
        rfl
      · rintro rfl
        refine ⟨⟨_, (mem_deviceInfo_of_setup hok).mpr ⟨d, vendor, hd, hv, rfl⟩, rfl⟩, ?_⟩
        exact mem_labels_deviceInfo.mpr hdevice.symm

/-- The system of the machine with one GPU and no accel directory. -/
def gpuWorld : World where
  readDir path :=
    if path = "/dev/dri" then .ok [⟨"renderD128", false, true⟩]
    else .error (.sentinel .errNotExist)
  stat _ := .ok 0xE280
  openFile _ := .ok ⟨"DRIVER=i915\nPCI_ID=8086:7D55\n", none⟩
  readFile _ := .ok "0\n"
  evalSymlinks _ := .ok "/sys/devices/pci0000:00/0000:00:02.0"

set_option maxRecDepth 8000 in
theorem isDiscovered_gpu : IsDiscovered gpuWorld defaultPaths [gpu] :=
  ⟨(∅ : Map String Device).insert "0000:00:02.0" gpu, by rfl, List.Perm.refl _⟩

/-- The general statement on that machine, after one event of the GPU. -/
theorem ioctl_joins_device_info_gpu :
    ∃ s : Setup Unit, setupDevices agentRegistry [gpu] (Setup.start Unit) = .ok s ∧
      ∀ m ∈ scrapeAfter s.deviceMap (servedCollector s (fun _ => 0) fun _ => .ok 0)
          [.handled podEvent (.ok ⟨"default", "web", "app"⟩)] (), m.desc = ioctlDesc →
        ∃ (k : Key) (d : Device), m.labels = k.labels ∧ d ∈ [gpu] ∧ d.pciAddress = k.device ∧
          rowsOf (scrapeAfter s.deviceMap (servedCollector s (fun _ => 0) fun _ => .ok 0)
            [.handled podEvent (.ok ⟨"default", "web", "app"⟩)] ()) k.device =
            [Collector.deviceInfoMetric
              { device := k.device
                vendor := k.vendor
                driver := d.driverName
                pciID := d.pciID
                numaNode := d.numaNode }] := by
  obtain ⟨s, hok⟩ := exists_setup_gpu
  exact ⟨s, hok, (ioctl_joins_device_info isDiscovered_gpu hok _ _ _ ()).2.2⟩

end KubeNpu

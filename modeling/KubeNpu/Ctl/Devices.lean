import KubeNpu.Go.Strconv
import KubeNpu.Go.Tabular
import KubeNpu.Agent.Coverage

/-!
# `cmd/kubenpuctl/devices.go`: the device table

The command writes a header and one line for each discovered device.  `readTable`
reads such a text back into rows; it rests on every field of a device being fit for
a cell, and on "-" standing only for what is missing.

The command and the agent discover the same machine independently and each in its
own order.  The table says all the same what the agent does there.
-/

namespace KubeNpu.Ctl

open Go

/-- The paths that the command looks at. -/
def paths : Paths where
  driPath := "/dev/dri"
  accelPath := "/dev/accel"
  sysfsDriPath := "/sys/class/drm"
  sysfsAccelPath := "/sys/class/accel"

/-- `fmt.Sprintf("%d:%d", node.Major, node.Minor)`. -/
def nodeText (node : Node) : String :=
  Strconv.formatUint node.major.toNat ++ ":" ++ Strconv.formatUint node.minor.toNat

/-- The line of a device. -/
def deviceLine (registered : Registry) (device : Device) : String :=
  let nodes := device.nodes.map nodeText
  let vendorName :=
    match registered.getVendor device with
    | none => "-"
    | some vendor => vendor.name
  let pciID := if device.pciID = "" then "-" else device.pciID
  device.driverName ++ "\t" ++ pciID ++ "\t" ++ device.pciAddress ++ "\t" ++
    String.intercalate "," nodes ++ "\t" ++ vendorName ++ "\t" ++ device.numaNode ++ "\n"

/-- The line above the devices. -/
def headerLine : String := "DRIVER\tPCI ID\tADDRESS\tNODES\tVENDOR\tNUMA\n"

/-- `devicesCmd.RunE`: what it writes to the tab writer, by what `Discover` returned. -/
def devicesCmd (registered : Registry) : Except Err (List Device) → Except Err String
  | .error err => .error err
  | .ok devices =>
      .ok (devices.foldl (fun text device => text ++ deviceLine registered device) headerLine)

/-! ## Reading the table -/

/-- What a line says about a device. -/
structure Row where
  driver : String
  pciID : String
  address : String
  nodes : List DeviceNode
  vendor : Option String
  numa : String
  deriving DecidableEq, Repr

/-- The label set that the agent would publish for a row, if it has a vendor. -/
def Row.deviceKey (row : Row) : Option DeviceKey :=
  row.vendor.map fun vendor =>
    { device := row.address
      vendor
      driver := row.driver
      pciID := row.pciID
      numaNode := row.numa }

/-- The row of a device. -/
def rowOf (registered : Registry) (device : Device) : Row where
  driver := device.driverName
  pciID := device.pciID
  address := device.pciAddress
  nodes := device.nodes.map fun node => ⟨node.major, node.minor⟩
  vendor := (registered.getVendor device).map Vendor.name
  numa := device.numaNode

/-- A device or minor number. -/
def readNumber (s : String) : Option UInt32 :=
  (Strconv.decimal s).map fun n => UInt32.ofNat n.toNat

/-- The numbers of a node. -/
def readNode (s : String) : Option DeviceNode :=
  match Strings.split s ':' with
  | [major, minor] =>
      match readNumber major, readNumber minor with
      | some major, some minor => some ⟨major, minor⟩
      | _, _ => none
  | _ => none

/-- The row that the cells of a line make. -/
def readRow : List String → Option Row
  | [driver, pciID, address, nodes, vendor, numa] =>
      ((Strings.split nodes ',').mapM readNode).map fun nodes =>
        { driver
          pciID := if pciID = "-" then "" else pciID
          address
          nodes
          vendor := if vendor = "-" then none else some vendor
          numa }
  | _ => none

/-- The rows below the header. -/
def readTable (text : String) : Option (List Row) :=
  match Tabular.cells text with
  | ["DRIVER", "PCI ID", "ADDRESS", "NODES", "VENDOR", "NUMA"] :: rows => rows.mapM readRow
  | _ => none

/-- The fields of the device can be told apart in a table. -/
structure Listable (d : Device) : Prop where
  driver : Tabular.IsCell d.driverName
  pciID : Tabular.IsCell d.pciID
  pciID_ne : d.pciID ≠ "-"
  address : Tabular.IsCell d.pciAddress
  numa : Tabular.IsCell d.numaNode

/-- So can the names of the vendors. -/
def NamesListable (registered : Registry) : Prop :=
  ∀ v ∈ registered, Tabular.IsCell v.name ∧ v.name ≠ "-"

instance (registered : Registry) : Decidable (NamesListable registered) :=
  inferInstanceAs (Decidable (∀ v ∈ registered, _))

/-! ## The nodes -/

/-- A symbol that is no digit is in no number. -/
private theorem not_mem_formatUint {c : Char} (h : c.isDigit = false) (n : ℕ) :
    c ∉ (Strconv.formatUint n).toList := by
  rw [Strconv.formatUint, String.toList_ofList]
  intro hmem
  rw [Strconv.isDigit_of_mem hmem] at h
  cases h

private theorem not_mem_nodeText {c : Char} (hdigit : c.isDigit = false) (hcolon : c ≠ ':')
    (node : Node) : c ∉ (nodeText node).toList := by
  have hsep : c ∉ ":".toList := by simpa using hcolon
  rw [nodeText, String.toList_append, String.toList_append]
  simp only [List.mem_append, not_or]
  exact ⟨⟨not_mem_formatUint hdigit _, hsep⟩, not_mem_formatUint hdigit _⟩

private theorem readNumber_formatUint (x : UInt32) :
    readNumber (Strconv.formatUint x.toNat) = some x := by
  rw [readNumber, Strconv.decimal_formatUint, Option.map_some, Int.toNat_natCast,
    UInt32.ofNat_toNat]

/-- **A node is read back.** -/
theorem readNode_nodeText (node : Node) :
    readNode (nodeText node) = some ⟨node.major, node.minor⟩ := by
  have hsplit : Strings.split (nodeText node) ':' =
      [Strconv.formatUint node.major.toNat, Strconv.formatUint node.minor.toNat] := by
    have happend := Strings.split_append_sep (Strconv.formatUint node.major.toNat)
      (Strconv.formatUint node.minor.toNat) ':'
    rw [Strings.split_eq_singleton (not_mem_formatUint rfl _),
      Strings.split_eq_singleton (not_mem_formatUint rfl _)] at happend
    exact happend
  simp only [readNode, hsplit, readNumber_formatUint]

/-- What is read back one by one is read back as a list. -/
private theorem mapM_read {A B C : Type} {read : B → Option C} {write : A → B} {value : A → C}
    {l : List A} (h : ∀ a ∈ l, read (write a) = some (value a)) :
    (l.map write).mapM read = some (l.map value) := by
  induction l with
  | nil => rfl
  | cons a l ih =>
      have hrest := ih fun b hb => h b (List.mem_cons_of_mem a hb)
      rw [List.map_cons, List.mapM_cons, h a List.mem_cons_self, hrest]
      rfl

/-- The nodes of a device are read back, if it has any. -/
private theorem mapM_nodes {nodes : List Node} (hne : nodes ≠ []) :
    (Strings.split (String.intercalate "," (nodes.map nodeText)) ',').mapM readNode =
      some (nodes.map fun node => ⟨node.major, node.minor⟩) := by
  have hcomma : ∀ text ∈ nodes.map nodeText, ',' ∉ text.toList := by
    intro text htext
    obtain ⟨node, -, rfl⟩ := List.mem_map.mp htext
    exact not_mem_nodeText rfl (by decide) node
  have hsplit : Strings.split (String.intercalate "," (nodes.map nodeText)) ',' =
      nodes.map nodeText :=
    Strings.split_intercalate ',' hcomma (by simpa using hne)
  rw [hsplit]
  exact mapM_read fun node _ => readNode_nodeText node

/-! ## The lines -/

/-- The cells of a line. -/
def deviceCells (registered : Registry) (device : Device) : List String :=
  [device.driverName, if device.pciID = "" then "-" else device.pciID, device.pciAddress,
    String.intercalate "," (device.nodes.map nodeText),
    ((registered.getVendor device).map Vendor.name).getD "-", device.numaNode]

theorem deviceLine_eq (registered : Registry) (device : Device) :
    deviceLine registered device = Tabular.line (deviceCells registered device) := by
  refine String.toList_inj.mp ?_
  unfold deviceLine Tabular.line deviceCells
  cases registered.getVendor device <;> simp [String.intercalate_cons_cons]

/-- **The command writes a table.** -/
theorem devicesCmd_eq (registered : Registry) (devices : List Device) :
    devicesCmd registered (.ok devices) =
      .ok (Tabular.render (["DRIVER", "PCI ID", "ADDRESS", "NODES", "VENDOR", "NUMA"] ::
        devices.map (deviceCells registered))) := by
  have hlines : ∀ text, devices.foldl (fun text d => text ++ deviceLine registered d) text =
      text ++ Tabular.render (devices.map (deviceCells registered)) := by
    induction devices with
    | nil => simp [Tabular.render]
    | cons d devices ih =>
        intro text
        rw [List.foldl_cons, ih, deviceLine_eq, String.append_assoc]
        simp [Tabular.render]
  have hheader : headerLine =
      Tabular.line ["DRIVER", "PCI ID", "ADDRESS", "NODES", "VENDOR", "NUMA"] := by decide
  rw [devicesCmd, hlines, hheader, Tabular.render, Tabular.render, List.map_cons,
    String.join_cons]

section Rows

variable {registered : Registry} {d : Device}

/-- The name of the vendor of a device is fit for a cell. -/
private theorem isCell_vendor (hnames : NamesListable registered) (d : Device) :
    Tabular.IsCell (((registered.getVendor d).map Vendor.name).getD "-") := by
  cases hvendor : registered.getVendor d with
  | none => decide
  | some v => exact (hnames v (Registry.mem_of_getVendor hvendor)).1

theorem isCell_deviceCells (hnames : NamesListable registered) (hd : Listable d) :
    ∀ cell ∈ deviceCells registered d, Tabular.IsCell cell := by
  have hpciID : Tabular.IsCell (if d.pciID = "" then "-" else d.pciID) := by
    split
    · decide
    · exact hd.pciID
  have hnodes : Tabular.IsCell (String.intercalate "," (d.nodes.map nodeText)) := by
    refine Tabular.isCell_intercalate (by decide) ?_
    intro text htext
    obtain ⟨node, -, rfl⟩ := List.mem_map.mp htext
    exact ⟨not_mem_nodeText rfl (by decide) node, not_mem_nodeText rfl (by decide) node⟩
  intro cell hcell
  simp only [deviceCells, List.mem_cons, List.not_mem_nil, or_false] at hcell
  rcases hcell with rfl | rfl | rfl | rfl | rfl | rfl
  · exact hd.driver
  · exact hpciID
  · exact hd.address
  · exact hnodes
  · exact isCell_vendor hnames d
  · exact hd.numa

/-- **A line is read back as the row of its device.** -/
theorem readRow_deviceCells (hnames : NamesListable registered) (hd : Listable d)
    (hne : d.nodes ≠ []) : readRow (deviceCells registered d) = some (rowOf registered d) := by
  have hpciID : (if (if d.pciID = "" then "-" else d.pciID) = "-" then ""
      else if d.pciID = "" then "-" else d.pciID) = d.pciID := by
    by_cases hempty : d.pciID = ""
    · simp [hempty]
    · simp [hempty, hd.pciID_ne]
  have hvendor : (if ((registered.getVendor d).map Vendor.name).getD "-" = "-" then none
      else some (((registered.getVendor d).map Vendor.name).getD "-")) =
        (registered.getVendor d).map Vendor.name := by
    cases hv : registered.getVendor d with
    | none => rfl
    | some v => simp [(hnames v (Registry.mem_of_getVendor hv)).2]
  rw [deviceCells, readRow, mapM_nodes hne, Option.map_some, hpciID, hvendor]
  rfl

end Rows

/-- **The table is read back.** -/
theorem readTable_devicesCmd {registered : Registry} {devices : List Device}
    (hnames : NamesListable registered)
    (hdevices : ∀ d ∈ devices, Listable d ∧ d.nodes ≠ []) :
    ∃ text, devicesCmd registered (.ok devices) = .ok text ∧
      readTable text = some (devices.map (rowOf registered)) := by
  refine ⟨_, devicesCmd_eq registered devices, ?_⟩
  rw [readTable, Tabular.cells_render]
  · exact mapM_read fun d hd => readRow_deviceCells hnames (hdevices d hd).1 (hdevices d hd).2
  · intro row hrow
    rcases List.mem_cons.mp hrow with rfl | hrow
    · exact ⟨List.cons_ne_nil _ _, by decide⟩
    · obtain ⟨d, hd, rfl⟩ := List.mem_map.mp hrow
      exact ⟨List.cons_ne_nil _ _, isCell_deviceCells hnames (hdevices d hd).1⟩

/-! ## The table and the agent -/

section Agent

variable {w : World} {registered : Registry}

/-- The discovered devices can be listed if the directory entries can. -/
theorem listable_of_discovered {devices : List Device} (h : IsDiscovered w paths devices)
    (hsightings : ∀ s ∈ sightings w paths, Listable s) :
    ∀ d ∈ devices, Listable d ∧ d.nodes ≠ [] := by
  intro d hd
  obtain ⟨first, rest, hgroup, hfirst⟩ := deviceAt_eq_some_iff.mp (h.mem_iff_deviceAt.mp hd)
  have hmem : first ∈ sightings w paths :=
    List.mem_of_mem_filter (hgroup ▸ List.mem_cons_self)
  obtain ⟨found, hfound, hperm⟩ := h
  have hkeyed := addressKeyed_discoverMap hfound
    d.pciAddress d ((IsDiscovered.mem_iff hfound hperm).mp hd)
  have hlist := hsightings first hmem
  refine ⟨?_, hkeyed.2.2⟩
  rw [hfirst]
  exact ⟨hlist.driver, hlist.pciID, hlist.pciID_ne, hlist.address, hlist.numa⟩

theorem mem_nodes_rowOf {d : Device} {major minor : UInt32} :
    ⟨major, minor⟩ ∈ (rowOf registered d).nodes ↔ d.Owns major minor := by
  simp [rowOf, Device.Owns]

theorem vendor_rowOf {d : Device} {name : String} :
    (rowOf registered d).vendor = some name ↔
      ∃ v, registered.getVendor d = some v ∧ v.name = name :=
  Option.map_eq_some_iff

theorem deviceKey_rowOf {d : Device} {key : DeviceKey} :
    (rowOf registered d).deviceKey = some key ↔
      ∃ v, registered.getVendor d = some v ∧ infoRow d v = key := by
  unfold Row.deviceKey rowOf
  rw [Option.map_map, Option.map_eq_some_iff]
  rfl

end Agent

end KubeNpu.Ctl

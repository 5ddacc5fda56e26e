import KubeNpu.Sentinels
import KubeNpu.Machine.Tally

/-!
# `pkg/metrics/metrics.go`: the collector

The collector keeps one counter per label tuple, one per drop reason, and the
set of device rows; a scrape (`collect`) publishes them together with two values
it reads from outside at that moment.

A `Metric` cannot be built with the wrong number of label values: the panic of
`MustNewConstMetric` is a proof field, so every scrape is well formed in that
respect by construction.  Values are the integers before the conversion to
`float64`.
-/

namespace KubeNpu

open Go Machine

/-! ## Descriptors and metrics -/

/-- `prometheus.Desc`, without constant labels (the agent uses none). -/
structure Desc where
  fqName : String
  help : String
  variableLabels : List String
  deriving DecidableEq, Repr

/-- `prometheus.ValueType`. -/
inductive ValueType where
  | counterValue
  | gaugeValue
  deriving DecidableEq, Repr

/-- A constant metric: `prometheus.MustNewConstMetric`, which panics unless
there is one value for each label. -/
structure Metric where
  desc : Desc
  valueType : ValueType
  value : UInt64
  labelValues : List String
  labels_match : labelValues.length = desc.variableLabels.length
  deriving DecidableEq

namespace Metric

/-- The published label pairs: each value under its own name. -/
def labels (m : Metric) : List (String × String) := m.desc.variableLabels.zip m.labelValues

/-- What identifies a series within a scrape. -/
def series (m : Metric) : Desc × List String := (m.desc, m.labelValues)

end Metric

def ioctlDesc : Desc where
  fqName := "kubenpu_ioctl_total"
  help := "Total number of ioctls"
  variableLabels := ["namespace", "pod", "container", "device", "vendor", "kind"]

def eventsDroppedDesc : Desc where
  fqName := "kubenpu_events_dropped_total"
  help := "Total number of dropped events"
  variableLabels := ["reason"]

def cgroupRebuildsDesc : Desc where
  fqName := "kubenpu_cgroup_index_rebuilds_total"
  help := "Total number of cgroup index rebuilds"
  variableLabels := []

def deviceInfoDesc : Desc where
  fqName := "kubenpu_device_info"
  help := "Device information"
  variableLabels := ["device", "vendor", "driver", "pci_id", "numa_node"]

/-! ## The collector -/

def reasonDeviceUnknown : String := "device_unknown"

def reasonNotPod : String := "not_pod"

def reasonNotIndexed : String := "not_indexed"

def reasonContainerNotFound : String := "container_not_found"

def reasonQueueFull : String := "queue_full"

def reasonRingbufFull : String := "ringbuf_full"

/-- `dropReasons`: the reasons counted in userspace. -/
def dropReasons : List String :=
  [reasonDeviceUnknown, reasonNotPod, reasonNotIndexed, reasonContainerNotFound, reasonQueueFull]

/-- `metrics.key`. -/
structure Key where
  /-- The field `namespace`. -/
  ns : String
  pod : String
  container : String
  device : String
  vendor : String
  kind : String
  deriving DecidableEq, Repr

/-- `metrics.deviceKey`. -/
structure DeviceKey where
  device : String
  vendor : String
  driver : String
  pciID : String
  numaNode : String
  deriving DecidableEq, Repr

/-- `metrics.Collector`; `ω` is the world its two sources read. -/
structure Collector (ω : Type) where
  ioctlTotal : Map Key UInt64
  eventsDroppedTotal : Map String UInt64
  deviceInfo : Map DeviceKey Unit
  cgroupIndexRebuildsSource : Option (ω → UInt64)
  kernelDroppedSource : Option (ω → Except Err UInt64)

/-- `NewCollector`. -/
def newCollector (ω : Type) : Collector ω where
  ioctlTotal := ∅
  eventsDroppedTotal := (∅ : Map String UInt64).putAll (dropReasons.map fun reason => (reason, 0))
  deviceInfo := ∅
  cgroupIndexRebuildsSource := none
  kernelDroppedSource := none

namespace Collector

variable {ω : Type}

/-- `Collector.IncIoctl`. -/
def incIoctl (c : Collector ω) (ns pod container device vendor kind : String) : Collector ω :=
  { c with ioctlTotal := Tally.bump c.ioctlTotal { ns, pod, container, device, vendor, kind } }

/-- `Collector.IncEventsDropped`. -/
def incEventsDropped (c : Collector ω) (reason : String) : Collector ω :=
  { c with eventsDroppedTotal := Tally.bump c.eventsDroppedTotal reason }

/-- `Collector.SetCgroupIndexRebuildsSource`. -/
def setCgroupIndexRebuildsSource (c : Collector ω) (source : ω → UInt64) : Collector ω :=
  { c with cgroupIndexRebuildsSource := some source }

/-- `Collector.SetKernelDroppedSource`. -/
def setKernelDroppedSource (c : Collector ω) (source : ω → Except Err UInt64) : Collector ω :=
  { c with kernelDroppedSource := some source }

/-- `Collector.SetDeviceInfo`. -/
def setDeviceInfo (c : Collector ω) (device vendor driver pciID numaNode : String) :
    Collector ω :=
  { c with deviceInfo := c.deviceInfo.insert { device, vendor, driver, pciID, numaNode } () }

/-- The series of one label tuple. -/
def ioctlMetric (k : Key) (value : UInt64) : Metric where
  desc := ioctlDesc
  valueType := .counterValue
  value := value
  labelValues := [k.ns, k.pod, k.container, k.device, k.vendor, k.kind]
  labels_match := rfl

/-- The series of one drop reason. -/
def eventsDroppedMetric (reason : String) (value : UInt64) : Metric where
  desc := eventsDroppedDesc
  valueType := .counterValue
  value := value
  labelValues := [reason]
  labels_match := rfl

/-- The series of the rebuild counter. -/
def cgroupRebuildsMetric (value : UInt64) : Metric where
  desc := cgroupRebuildsDesc
  valueType := .counterValue
  value := value
  labelValues := []
  labels_match := rfl

/-- The row of one device. -/
def deviceInfoMetric (k : DeviceKey) : Metric where
  desc := deviceInfoDesc
  valueType := .gaugeValue
  value := 1
  labelValues := [k.device, k.vendor, k.driver, k.pciID, k.numaNode]
  labels_match := rfl

/-- What the kernel source adds to a scrape; an error adds nothing. -/
def kernelDropped (c : Collector ω) (w : ω) : List Metric :=
  match c.kernelDroppedSource with
  | none => []
  | some source =>
      match source w with
      | .ok lost => [eventsDroppedMetric reasonRingbufFull lost]
      | .error _ => []

/-- The value of the rebuild counter; 0 without a source. -/
def cgroupRebuilds (c : Collector ω) (w : ω) : UInt64 :=
  match c.cgroupIndexRebuildsSource with
  | none => 0
  | some source => source w

/-- `Collector.Collect`: the metrics sent to the channel, in order. -/
def collect (c : Collector ω) (w : ω) : List Metric :=
  (c.ioctlTotal.toList.map fun e => ioctlMetric e.1 e.2) ++
    (c.eventsDroppedTotal.toList.map fun e => eventsDroppedMetric e.1 e.2) ++
    c.kernelDropped w ++
    [cgroupRebuildsMetric (c.cgroupRebuilds w)] ++
    (c.deviceInfo.toList.map fun e => deviceInfoMetric e.1)

/-! ## What each operation leaves alone -/

section Frame

variable (c : Collector ω) (reason : String) (k : Key)

@[simp] theorem incEventsDropped_ioctlTotal :
    (c.incEventsDropped reason).ioctlTotal = c.ioctlTotal := rfl

@[simp] theorem incEventsDropped_eventsDroppedTotal :
    (c.incEventsDropped reason).eventsDroppedTotal = Tally.bump c.eventsDroppedTotal reason := rfl

@[simp] theorem incIoctl_ioctlTotal :
    (c.incIoctl k.ns k.pod k.container k.device k.vendor k.kind).ioctlTotal =
      Tally.bump c.ioctlTotal k := rfl

@[simp] theorem incIoctl_eventsDroppedTotal :
    (c.incIoctl k.ns k.pod k.container k.device k.vendor k.kind).eventsDroppedTotal =
      c.eventsDroppedTotal := rfl

end Frame

end Collector

end KubeNpu

import Mathlib

/-!
# `pkg/discovery/device.go`: discovered devices
-/

namespace KubeNpu

/-- `discovery.Node`: a character device, by the numbers `stat` reports. -/
structure Node where
  minor : UInt32
  major : UInt32
  path : String
  deriving DecidableEq, Repr

/-- `discovery.Device`: a PCI device and its nodes. -/
structure Device where
  driverName : String
  sysfsPath : String
  pciID : String
  pciAddress : String
  numaNode : String
  nodes : List Node
  deriving DecidableEq, Repr

end KubeNpu

import KubeNpu.Go.Maps
import KubeNpu.Discovery.Device

/-!
# `pkg/hw`: vendors, their ioctl tables, and the registry

A vendor recognises its devices and names the ioctl numbers that are counted,
with the kind each is counted under.  The registry is a list that `init`
functions append to; a vendor's ID in the kernel is its position in that list
plus one, as a 32-bit number.
-/

namespace KubeNpu

open Go

/-- `hw.Kind`: a byte with four named values. -/
abbrev Kind := UInt8

namespace Kind

def kindUnknown : Kind := 0

def kindSubmit : Kind := 1

def kindAlloc : Kind := 2

def kindWait : Kind := 3

/-- `Kind.String`. -/
def string (k : Kind) : String :=
  if k = kindSubmit then "submit"
  else if k = kindAlloc then "alloc"
  else if k = kindWait then "wait"
  else "unknown"

end Kind

/-- `hw.Vendor`, as far as the agent calls it. -/
structure Vendor where
  name : String
  /-- The method `Match`. -/
  isMatch : Device → Bool
  ioctls : Map UInt32 Kind

/-- `registeredVendors`. -/
abbrev Registry := List Vendor

namespace Registry

/-- `RegisterVendor`. -/
def registerVendor (registered : Registry) (vendor : Vendor) : Registry :=
  registered ++ [vendor]

/-- `GetVendor`: the first vendor that matches. -/
def getVendor (registered : Registry) (d : Device) : Option Vendor :=
  registered.find? fun vendor => vendor.isMatch d

/-- The loop of `GetVendorID`, from position `i` on. -/
def vendorIDFrom (vendorName : String) : ℕ → Registry → UInt32
  | _, [] => 0
  | i, vendor :: rest =>
      if vendor.name = vendorName then UInt32.ofNat i + 1
      else vendorIDFrom vendorName (i + 1) rest

/-- `GetVendorID`; 0 is no vendor. -/
def getVendorID (registered : Registry) (vendorName : String) : UInt32 :=
  vendorIDFrom vendorName 0 registered

end Registry

/-! ## The vendors of the agent -/

/-- `i915.Vendor`. -/
def i915 : Vendor where
  name := "i915"
  isMatch d := d.driverName = "i915"
  ioctls := (∅ : Map UInt32 Kind).putAll
    [(0x69, Kind.kindSubmit), -- DRM_I915_GEM_EXECBUFFER2
     (0x5b, Kind.kindAlloc),  -- DRM_I915_GEM_CREATE
     (0x6c, Kind.kindWait)]   -- DRM_I915_GEM_WAIT

/-- `ivpu.Vendor`. -/
def ivpu : Vendor where
  name := "ivpu"
  isMatch d := d.driverName = "intel_vpu"
  ioctls := (∅ : Map UInt32 Kind).putAll
    [(0x4d, Kind.kindSubmit), -- DRM_IVPU_CMDQ_SUBMIT
     (0x45, Kind.kindSubmit), -- DRM_IVPU_SUBMIT
     (0x42, Kind.kindAlloc),  -- DRM_IVPU_BO_CREATE
     (0x46, Kind.kindWait)]   -- DRM_IVPU_BO_WAIT

/-- The registry of the agent, as its imports fill it. -/
def agentRegistry : Registry := (Registry.registerVendor [] i915).registerVendor ivpu

end KubeNpu

import KubeNpu.Bpf

/-!
# `pkg/loader/loader.go`: userspace access to the maps and the ring buffer
-/

namespace KubeNpu

open Go

/-- `loader.Event`. -/
structure Event where
  timestamp : UInt64
  cgroupID : UInt64
  tgid : UInt32
  cmd : UInt32
  minor : UInt32
  major : UInt16
  kind : UInt8
  deriving DecidableEq

namespace Loader

/-- `Loader.AddDevice`. -/
def addDevice (maps : Bpf.Filter) (major minor vendorID : UInt32) : Except Err Bpf.Filter :=
  match maps.devices.put ⟨major, minor⟩ vendorID with
  | .error err => .error (.wrapf "failed to add device: %w" [] err)
  | .ok devices => .ok { maps with devices }

/-- `Loader.AddIoctl`. -/
def addIoctl (maps : Bpf.Filter) (vendorID nr : UInt32) (kind : UInt8) : Except Err Bpf.Filter :=
  match maps.ioctls.put ⟨vendorID, nr⟩ kind with
  | .error err => .error (.wrapf "failed to add ioctl: %w" [] err)
  | .ok ioctls => .ok { maps with ioctls }

/-! ## Reading events -/

/-- What `ringbuf.Reader.Read` returns: a record's raw sample, or an error. -/
abbrev ReadResult := Except Err (List UInt8)

/-- `unsafe.Sizeof(bpfEvent{})`. -/
def sizeofBpfEvent : ℕ := 32

/-- `(*bpfEvent)(unsafe.Pointer(&record.RawSample[0]))`, copied field by field. -/
def eventAt (raw : List UInt8) : Event where
  timestamp := UInt64.ofNat (Bytes.field raw 0 8)
  cgroupID := UInt64.ofNat (Bytes.field raw 8 8)
  tgid := UInt32.ofNat (Bytes.field raw 16 4)
  cmd := UInt32.ofNat (Bytes.field raw 20 4)
  minor := UInt32.ofNat (Bytes.field raw 24 4)
  major := UInt16.ofNat (Bytes.field raw 28 2)
  kind := UInt8.ofNat (Bytes.field raw 30 1)

/-- `Loader.ReadEvent`. -/
def readEvent (read : ReadResult) : Except Err Event :=
  match read with
  | .error err =>
      if err.is .errClosed then .error err
      else .error (.wrapf "failed to read ring buffer: %w" [] err)
  | .ok rawSample =>
      if rawSample.length < sizeofBpfEvent then
        .error (.errorf "invalid event size: got %d bytes, want at least %d"
          [.num rawSample.length, .num sizeofBpfEvent])
      else .ok (eventAt rawSample)

/-- The event of a record that the program filled in. -/
def ofBpf (e : Bpf.Event) : Event where
  timestamp := e.timestamp
  cgroupID := e.cgroupId
  tgid := e.tgid
  cmd := e.cmd
  minor := e.minor
  major := e.major
  kind := e.kind

/-- **The two layouts agree**: reading the bytes of a kernel event, whatever
follows them in the sample, gives back its fields. -/
theorem eventAt_bytes (e : Bpf.Event) (trailing : List UInt8) :
    eventAt (e.bytes ++ trailing) = ofBpf e := by
  have h64 (n : UInt64) : n.toNat < 256 ^ 8 := n.toNat_lt
  have h32 (n : UInt32) : n.toNat < 256 ^ 4 := n.toNat_lt
  have h16 (n : UInt16) : n.toNat < 256 ^ 2 := n.toNat_lt
  have h8 (n : UInt8) : n.toNat < 256 ^ 1 := n.toNat_lt
  -- each offset is the sum of the widths in front of the field
  have hread : ∀ (raw : List UInt8), raw = e.bytes ++ trailing →
      Bytes.field raw (0) 8 = e.timestamp.toNat ∧
      Bytes.field raw (8 + 0) 8 = e.cgroupId.toNat ∧
      Bytes.field raw (8 + (8 + 0)) 4 = e.tgid.toNat ∧
      Bytes.field raw (8 + (8 + (4 + 0))) 4 = e.cmd.toNat ∧
      Bytes.field raw (8 + (8 + (4 + (4 + 0)))) 4 = e.minor.toNat ∧
      Bytes.field raw (8 + (8 + (4 + (4 + (4 + 0))))) 2 = e.major.toNat ∧
      Bytes.field raw (8 + (8 + (4 + (4 + (4 + (2 + 0)))))) 1 = e.kind.toNat := by
    rintro raw rfl
    simp only [Bpf.Event.bytes, List.append_assoc, Bytes.field_skip]
    exact ⟨Bytes.field_toLE _ (h64 _), Bytes.field_toLE _ (h64 _), Bytes.field_toLE _ (h32 _),
      Bytes.field_toLE _ (h32 _), Bytes.field_toLE _ (h32 _), Bytes.field_toLE _ (h16 _),
      Bytes.field_toLE _ (h8 _)⟩
  obtain ⟨htime, hcgroup, htgid, hcmd, hminor, hmajor, hkind⟩ := hread _ rfl
  simp only [Nat.add_zero, Nat.reduceAdd] at hcgroup htgid hcmd hminor hmajor hkind
  rw [eventAt, htime, hcgroup, htgid, hcmd, hminor, hmajor, hkind]
  simp only [UInt64.ofNat_toNat, UInt32.ofNat_toNat, UInt16.ofNat_toNat, UInt8.ofNat_toNat, ofBpf]

theorem readEvent_bytes (e : Bpf.Event) (trailing : List UInt8) :
    readEvent (.ok (e.bytes ++ trailing)) = .ok (ofBpf e) := by
  have hsize : ¬ (e.bytes ++ trailing).length < sizeofBpfEvent := by
    rw [List.length_append, Bpf.Event.length_bytes]
    exact Nat.not_lt.mpr (Nat.le_add_right _ _)
  simp only [readEvent, if_neg hsize, eventAt_bytes]

/-! ## The loss counter -/

/-- `Loader.DroppedEvents`: the 64-bit sum of the per-CPU counters, where
`lookupErr` is the error of reading them. -/
def droppedEvents (perCPU : List UInt64) (lookupErr : Option String) : Except Err UInt64 :=
  match lookupErr with
  | some text => .error (.wrapf "read dropped counter: %w" [] (.external text))
  | none => .ok (perCPU.foldl (· + ·) 0)

end Loader

end KubeNpu

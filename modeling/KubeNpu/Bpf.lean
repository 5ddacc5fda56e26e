import KubeNpu.Go.Bytes
import KubeNpu.Go.Maps
import KubeNpu.Sentinels

/-!
# `bpf/drm_common.bpf.c`: the kernel side

The program attached to `drm_ioctl` looks the device number of the inode up in
`devices`, the pair of vendor ID and ioctl number up in `ioctls`, and submits one
event for a call that passes both lookups.  When the ring buffer has no room the
event is lost, and a per-CPU counter says so.

The hash maps keep their capacity as a field, so no map holds more entries than
`max_entries`; `put` is the update that userspace does, which fails on a new key
once the map is full.
-/

namespace KubeNpu.Bpf

open Go

/-! ## Maps -/

/-- A `BPF_MAP_TYPE_HASH` with `max_entries = maxEntries`. -/
structure HashMap (K V : Type) (maxEntries : ℕ) where
  entries : Map K V
  size_le : entries.size ≤ maxEntries

namespace HashMap

variable {K V : Type} [DecidableEq K] {maxEntries : ℕ}

/-- The map as it is loaded. -/
def empty : HashMap K V maxEntries := ⟨∅, Nat.zero_le _⟩

/-- `bpf_map_lookup_elem`. -/
def lookupElem (m : HashMap K V maxEntries) (k : K) : Option V := m.entries.lookup k

/-- An existing key keeps the size, a new one adds to it. -/
theorem size_insert (m : Map K V) (k : K) (v : V) :
    Map.size (m.insert k v) = if k ∈ m then m.size else m.size + 1 := by
  rw [Map.size_eq_length_keys, Map.size_eq_length_keys, AList.keys_insert, List.length_cons]
  by_cases hk : k ∈ m
  · have hmem : k ∈ m.keys := AList.mem_keys.mp hk
    have hpos := List.length_pos_of_mem hmem
    rw [if_pos hk, List.length_erase_of_mem hmem]
    omega
  · have hmem : k ∉ m.keys := fun h => hk (AList.mem_keys.mpr h)
    rw [if_neg hk, List.erase_of_not_mem hmem]

/-- `Map.Put`: `E2BIG` for a new key in a full map. -/
def put (m : HashMap K V maxEntries) (k : K) (v : V) : Except Err (HashMap K V maxEntries) :=
  if h : k ∈ m.entries ∨ m.entries.size < maxEntries then
    .ok
      { entries := m.entries.insert k v
        size_le := by
          have := m.size_le
          rw [size_insert]
          split
          · exact m.size_le
          · rename_i hk
            exact h.resolve_left hk }
  else .error (.external "argument list too long")

theorem entries_of_put {m m' : HashMap K V maxEntries} {k : K} {v : V}
    (h : m.put k v = .ok m') : m'.entries = m.entries.insert k v := by
  unfold put at h
  split at h
  · cases h
    rfl
  · cases h

/-- An update that leaves no more than `maxEntries` entries succeeds. -/
theorem put_of_size_le {m : HashMap K V maxEntries} {k : K} {v : V}
    (h : Map.size (m.entries.insert k v) ≤ maxEntries) : ∃ m', m.put k v = .ok m' := by
  unfold put
  rw [size_insert] at h
  by_cases hk : k ∈ m.entries
  · rw [dif_pos (Or.inl hk)]
    exact ⟨_, rfl⟩
  · rw [if_neg hk] at h
    rw [dif_pos (Or.inr (Nat.lt_of_succ_le h))]
    exact ⟨_, rfl⟩

end HashMap

/-- `struct device_key`. -/
structure DeviceKey where
  major : UInt32
  minor : UInt32
  deriving DecidableEq

/-- `struct ioctl_key`. -/
structure IoctlKey where
  vendorId : UInt32
  nr : UInt32
  deriving DecidableEq

/-- `MAX_ENTRIES_DEVICES`. -/
abbrev maxEntriesDevices : ℕ := 32

/-- `MAX_ENTRIES_IOCTLS`. -/
abbrev maxEntriesIoctls : ℕ := 640

/-- The two maps the filter reads; userspace fills them before the program is
attached. -/
structure Filter where
  devices : HashMap DeviceKey UInt32 maxEntriesDevices
  ioctls : HashMap IoctlKey UInt8 maxEntriesIoctls

/-- The maps as they are loaded. -/
def Filter.empty : Filter := ⟨.empty, .empty⟩

/-! ## The event -/

/-- `struct event`. -/
structure Event where
  timestamp : UInt64
  cgroupId : UInt64
  tgid : UInt32
  cmd : UInt32
  minor : UInt32
  major : UInt16
  kind : UInt8
  pad : UInt8
  deriving DecidableEq

/-- The bytes of `struct event` in memory: every field lies on a multiple of its
size, so the layout has no holes. -/
def Event.bytes (e : Event) : List UInt8 :=
  Bytes.toLE 8 e.timestamp.toNat ++ (Bytes.toLE 8 e.cgroupId.toNat ++
    (Bytes.toLE 4 e.tgid.toNat ++ (Bytes.toLE 4 e.cmd.toNat ++ (Bytes.toLE 4 e.minor.toNat ++
      (Bytes.toLE 2 e.major.toNat ++ (Bytes.toLE 1 e.kind.toNat ++
        Bytes.toLE 1 e.pad.toNat))))))

/-- `sizeof(struct event)`. -/
def Event.sizeof : ℕ := 32

theorem Event.length_bytes (e : Event) : e.bytes.length = Event.sizeof := by
  simp [Event.bytes, Event.sizeof]

/-! ## The program -/

/-- One call of `drm_ioctl`, with what the helpers answer during it. -/
structure IoctlCall where
  /-- `filp->f_inode->i_rdev`, a 32-bit `dev_t`. -/
  rdev : UInt32
  cmd : UInt32
  /-- `bpf_ktime_get_tai_ns()`. -/
  timestamp : UInt64
  /-- `bpf_get_current_cgroup_id()`. -/
  cgroupId : UInt64
  /-- `bpf_get_current_pid_tgid()`. -/
  pidTgid : UInt64
  deriving DecidableEq

namespace IoctlCall

/-- `rdev & 0xFFFFF`. -/
def minor (call : IoctlCall) : UInt32 := call.rdev &&& 0xFFFFF

/-- `rdev >> 20`. -/
def major (call : IoctlCall) : UInt32 := call.rdev >>> 20

/-- `cmd & 0xFF`. -/
def nr (call : IoctlCall) : UInt32 := call.cmd &&& 0xFF

end IoctlCall

/-- The filter of `kubenpu_ioctl`: the kind of a call that passes both lookups. -/
def filterKind (maps : Filter) (call : IoctlCall) : Option UInt8 :=
  match maps.devices.lookupElem ⟨call.major, call.minor⟩ with
  | none => none
  | some devicesData => maps.ioctls.lookupElem ⟨devicesData, call.nr⟩

/-- The event the program fills in for a call of kind `kind`. -/
def pollEvent (call : IoctlCall) (kind : UInt8) : Event where
  timestamp := call.timestamp
  cgroupId := call.cgroupId
  tgid := (call.pidTgid >>> 32).toUInt32
  cmd := call.cmd
  minor := call.minor
  major := call.major.toUInt16
  kind := kind
  pad := 0

/-- What one execution of the program does. -/
inductive HookResult where
  /-- A lookup missed; nothing was reserved. -/
  | passed
  /-- `bpf_ringbuf_reserve` failed; the loss is counted. -/
  | lost
  /-- The event was submitted. -/
  | submitted (e : Event)
  deriving DecidableEq

/-- `kubenpu_ioctl`; `reserved` is whether `bpf_ringbuf_reserve` succeeds. -/
def kubenpuIoctl (maps : Filter) (call : IoctlCall) (reserved : Bool) : HookResult :=
  match filterKind maps call with
  | none => .passed
  | some kind => if reserved then .submitted (pollEvent call kind) else .lost

/-- The major number of a 32-bit `dev_t` has 12 bits, so the narrowing store into
the event loses nothing. -/
theorem toUInt32_toUInt16_major (call : IoctlCall) :
    call.major.toUInt16.toUInt32 = call.major := by
  have hlt : call.major.toNat < 2 ^ 16 := by
    have hrdev := call.rdev.toNat_lt
    rw [IoctlCall.major, UInt32.toNat_shiftRight]
    simp only [UInt32.toNat_ofNat, Nat.shiftRight_eq_div_pow, Nat.reduceMod, Nat.reducePow]
    omega
  rw [← UInt32.toNat_inj]
  simp only [UInt16.toNat_toUInt32, UInt32.toNat_toUInt16]
  exact Nat.mod_eq_of_lt hlt

end KubeNpu.Bpf

import KubeNpu.Go.Bits
import KubeNpu.Agent.Worker
import KubeNpu.Discovery.Nodes

/-!
# Kernel and userspace agree on device numbers

The kernel keeps a device number as 12 bits of major above 20 bits of minor.  The
program splits it there, narrows the major to 16 bits and writes both into the
event; userspace learns the same number from `stat`, which reports it in another
layout, `newEncodeDev`, and splits that with `unix.Major` and `unix.Minor`.

Both ways lead to the same two numbers (`major_stRdev`, `minor_stRdev`), and the
two numbers determine the device number.
-/

namespace KubeNpu

open Go

/-! ## The layout that `stat` reports -/

/-- `new_encode_dev`: the kernel's encoding of a `dev_t` for `stat`, from its
major and its minor number. -/
def newEncodeDev (dev : UInt32) : UInt32 :=
  let major := dev >>> 20
  let minor := dev &&& 0xFFFFF
  (minor &&& (0xff : UInt32)) ||| (major <<< 8) ||| ((minor &&& ~~~(0xff : UInt32)) <<< 12)

/-- The 64-bit `st_rdev` of a device. -/
def stRdev (dev : UInt32) : UInt64 := (newEncodeDev dev).toUInt64

/-- The major number of a `dev_t`, as a natural number. -/
def majorOf (dev : UInt32) : ℕ := dev.toNat / 2 ^ 20

/-- The minor number of a `dev_t`. -/
def minorOf (dev : UInt32) : ℕ := dev.toNat % 2 ^ 20

theorem majorOf_lt (dev : UInt32) : majorOf dev < 2 ^ 12 := by
  have hlt := dev.toNat_lt
  unfold majorOf
  omega

theorem minorOf_lt (dev : UInt32) : minorOf dev < 2 ^ 20 :=
  Nat.mod_lt _ (by decide)

theorem toNat_shiftRight_20 (dev : UInt32) : (dev >>> 20).toNat = majorOf dev := by
  rw [UInt32.toNat_shiftRight, majorOf]
  exact Nat.shiftRight_eq_div_pow _ _

theorem toNat_and_mask_20 (dev : UInt32) : (dev &&& 0xFFFFF).toNat = minorOf dev := by
  rw [UInt32.toNat_and, minorOf]
  exact Nat.and_two_pow_sub_one_eq_mod _ 20

/-- The encoding as a sum of fields: the rest of the minor, the major, and the low
byte of the minor. -/
def packed (major minor : ℕ) : ℕ := minor / 2 ^ 8 * 2 ^ 20 + (major * 2 ^ 8 + minor % 2 ^ 8)

/-- **The shifts and masks of the encoding put the fields together.** -/
theorem toNat_newEncodeDev (dev : UInt32) :
    (newEncodeDev dev).toNat = packed (majorOf dev) (minorOf dev) := by
  have hmajor := majorOf_lt dev
  have hminor := minorOf_lt dev
  have hlow : ((dev &&& 0xFFFFF) &&& 0xff).toNat = minorOf dev % 2 ^ 8 := by
    rw [UInt32.toNat_and, toNat_and_mask_20]
    exact Nat.and_two_pow_sub_one_eq_mod _ 8
  have hmiddle : ((dev >>> 20) <<< 8).toNat = majorOf dev * 2 ^ 8 := by
    rw [UInt32.toNat_shiftLeft, toNat_shiftRight_20]
    show majorOf dev <<< 8 % 2 ^ 32 = _
    rw [Nat.shiftLeft_eq]
    exact Nat.mod_eq_of_lt (by omega)
  have hhigh : (((dev &&& 0xFFFFF) &&& ~~~(0xff : UInt32)) <<< 12).toNat =
      minorOf dev / 2 ^ 8 * 2 ^ 20 := by
    rw [UInt32.toNat_shiftLeft, UInt32.toNat_and, toNat_and_mask_20]
    show (minorOf dev &&& ((2 ^ 24 - 1) <<< 8)) <<< 12 % 2 ^ 32 = _
    rw [Bits.and_mask, Nat.shiftLeft_eq, Bits.field]
    omega
  unfold newEncodeDev
  rw [UInt32.toNat_or, UInt32.toNat_or, hlow, hmiddle, hhigh, Nat.or_comm (minorOf dev % 2 ^ 8),
    Bits.mul_or (Nat.mod_lt _ (by decide)), Nat.or_comm, Bits.mul_or (by omega), packed]

theorem toNat_stRdev (dev : UInt32) :
    (stRdev dev).toNat = packed (majorOf dev) (minorOf dev) := by
  rw [stRdev, UInt32.toNat_toUInt64, toNat_newEncodeDev]

/-! ## Splitting it again -/

section

variable {major minor : ℕ} (hmajor : major < 2 ^ 12) (hminor : minor < 2 ^ 20)

include hmajor in
theorem field_packed_major : Bits.field (packed major minor) 8 12 = major := by
  unfold packed Bits.field
  omega

include hmajor hminor in
/-- The encoding has 32 bits. -/
theorem packed_lt : packed major minor < 2 ^ 32 := by
  unfold packed
  omega

include hmajor hminor in
theorem field_packed_above : Bits.field (packed major minor) 44 20 = 0 := by
  have hlt := packed_lt hmajor hminor
  rw [Bits.field, Nat.div_eq_of_lt (hlt.trans (by decide)), Nat.zero_mod]

theorem field_packed_low : Bits.field (packed major minor) 0 8 = minor % 2 ^ 8 := by
  unfold packed Bits.field
  omega

include hmajor hminor in
theorem field_packed_high : Bits.field (packed major minor) 20 24 = minor / 2 ^ 8 := by
  unfold packed Bits.field
  omega

end

/-- **`unix.Major` undoes the encoding.** -/
theorem major_stRdev (dev : UInt32) : Unix.major (stRdev dev) = dev >>> 20 := by
  have hmajor := majorOf_lt dev
  have hminor := minorOf_lt dev
  rw [← UInt32.toNat_inj, toNat_shiftRight_20, Unix.major, UInt32.toNat_or,
    UInt64.toNat_toUInt32, UInt64.toNat_toUInt32, UInt64.toNat_shiftRight,
    UInt64.toNat_shiftRight, UInt64.toNat_and, UInt64.toNat_and, toNat_stRdev]
  show (packed (majorOf dev) (minorOf dev) &&& ((2 ^ 12 - 1) <<< 8)) >>> 8 % 2 ^ 32 |||
    (packed (majorOf dev) (minorOf dev) &&& ((2 ^ 20 - 1) <<< 44)) >>> 32 % 2 ^ 32 = _
  -- the encoding has 32 bits, so nothing comes from above
  rw [Bits.and_mask_shiftRight, Bits.and_mask, field_packed_major hmajor,
    field_packed_above hmajor hminor, Nat.zero_mul, Nat.zero_shiftRight, Nat.zero_mod, Nat.or_zero]
  exact Nat.mod_eq_of_lt (by omega)

/-- **`unix.Minor` undoes the encoding.** -/
theorem minor_stRdev (dev : UInt32) : Unix.minor (stRdev dev) = dev &&& 0xFFFFF := by
  have hmajor := majorOf_lt dev
  have hminor := minorOf_lt dev
  rw [← UInt32.toNat_inj, toNat_and_mask_20, Unix.minor, UInt32.toNat_or,
    UInt64.toNat_toUInt32, UInt64.toNat_toUInt32, UInt64.toNat_shiftRight, UInt64.toNat_and,
    UInt64.toNat_and, toNat_stRdev]
  show (packed (majorOf dev) (minorOf dev) &&& ((2 ^ 8 - 1) <<< 0)) % 2 ^ 32 |||
    (packed (majorOf dev) (minorOf dev) &&& ((2 ^ 24 - 1) <<< 20)) >>> 12 % 2 ^ 32 = _
  rw [Bits.and_mask, Bits.and_mask, field_packed_low, field_packed_high hmajor hminor]
  have hlow : minorOf dev % 2 ^ 8 * 2 ^ 0 % 2 ^ 32 = minorOf dev % 2 ^ 8 := by omega
  have hhigh : (minorOf dev / 2 ^ 8 * 2 ^ 20) >>> 12 % 2 ^ 32 = minorOf dev / 2 ^ 8 * 2 ^ 8 := by
    rw [Nat.shiftRight_eq_div_pow]
    omega
  rw [hlow, hhigh, Nat.or_comm, Bits.mul_or (Nat.mod_lt _ (by decide))]
  omega

/-- Major and minor determine the device number. -/
theorem dev_eq_of_split {dev dev' : UInt32} (hmajor : dev >>> 20 = dev' >>> 20)
    (hminor : dev &&& 0xFFFFF = dev' &&& 0xFFFFF) : dev = dev' := by
  rw [← UInt32.toNat_inj, toNat_shiftRight_20, toNat_shiftRight_20] at hmajor
  rw [← UInt32.toNat_inj, toNat_and_mask_20, toNat_and_mask_20] at hminor
  rw [← UInt32.toNat_inj]
  unfold majorOf at hmajor
  unfold minorOf at hminor
  omega

/-! ## From the hook to the worker -/

/-- The key that the worker looks up for a call, once the event has gone through
the ring buffer. -/
theorem node_pollEvent (call : Bpf.IoctlCall) (kind : UInt8) :
    (Loader.ofBpf (Bpf.pollEvent call kind)).node =
      ⟨Unix.major (stRdev call.rdev), Unix.minor (stRdev call.rdev)⟩ := by
  rw [major_stRdev, minor_stRdev]
  show (⟨call.major.toUInt16.toUInt32, call.minor⟩ : DeviceNode) = _
  rw [Bpf.toUInt32_toUInt16_major]
  rfl

/-- A located node has the device number that `stat` reported. -/
theorem located_node {w : World} {devPath sysfsPath : String} {file : DirFile} {rdev : UInt64}
    {addr : String} {n : Node} (hstat : w.stat (Filepath.join devPath file.name) = .ok rdev)
    (h : located w devPath sysfsPath file = some (addr, n)) :
    n.major = Unix.major rdev ∧ n.minor = Unix.minor rdev := by
  simp only [located] at h
  split at h
  · split at h
    · rename_i hstat' _ _
      rw [hstat] at hstat'
      cases hstat'
      cases h
      exact ⟨rfl, rfl⟩
    · cases h
  · cases h

/-- **Kernel and userspace agree on the wire format and on device numbers.**  The
bytes of an event, with anything behind them, are read back as its fields, and a
shorter record is an error.  For every device number, the pair that reaches the
worker, and the pair the program looks up, are the major and minor of the
`st_rdev` that `stat` reports, which is the pair discovery stores for the node; and
different device numbers give different pairs. -/
theorem events_and_device_numbers_agree :
    (∀ (e : Bpf.Event) (trailing : List UInt8),
      Loader.readEvent (.ok (e.bytes ++ trailing)) =
        .ok ⟨e.timestamp, e.cgroupId, e.tgid, e.cmd, e.minor, e.major, e.kind⟩) ∧
    (∀ raw : List UInt8, raw.length < Bpf.Event.sizeof →
      ∃ err, Loader.readEvent (.ok raw) = .error err) ∧
    (∀ (call : Bpf.IoctlCall) kind trailing, ∃ event : Event,
      Loader.readEvent (.ok ((Bpf.pollEvent call kind).bytes ++ trailing)) = .ok event ∧
      event.node = ⟨Unix.major (stRdev call.rdev), Unix.minor (stRdev call.rdev)⟩ ∧
      (⟨call.major, call.minor⟩ : Bpf.DeviceKey) =
        ⟨Unix.major (stRdev call.rdev), Unix.minor (stRdev call.rdev)⟩ ∧
      ∀ (w : World) devPath sysfsPath file addr (n : Node),
        w.stat (Filepath.join devPath file.name) = .ok (stRdev call.rdev) →
        located w devPath sysfsPath file = some (addr, n) → event.node = ⟨n.major, n.minor⟩) ∧
    (∀ (call call' : Bpf.IoctlCall) kind kind',
      (Loader.ofBpf (Bpf.pollEvent call kind)).node =
        (Loader.ofBpf (Bpf.pollEvent call' kind')).node → call.rdev = call'.rdev) := by
  refine ⟨Loader.readEvent_bytes, ?_, ?_, ?_⟩
  · intro raw hshort
    have hsize : raw.length < Loader.sizeofBpfEvent := hshort
    simp only [Loader.readEvent, if_pos hsize]
    exact ⟨_, rfl⟩
  · intro call kind trailing
    have hnode := node_pollEvent call kind
    refine ⟨_, Loader.readEvent_bytes _ _, hnode, ?_, ?_⟩
    · rw [major_stRdev, minor_stRdev]
      rfl
    · intro w devPath sysfsPath file addr n hstat hlocated
      obtain ⟨hmajor, hminor⟩ := located_node hstat hlocated
      rw [hnode, hmajor, hminor]
  · intro call call' kind kind' heq
    rw [node_pollEvent, node_pollEvent, major_stRdev, minor_stRdev, major_stRdev,
      minor_stRdev] at heq
    exact dev_eq_of_split (congrArg DeviceNode.major heq) (congrArg DeviceNode.minor heq)

/-- A call on the render node 226:128. -/
def renderCall : Bpf.IoctlCall where
  rdev := 0xE200080
  cmd := 0x6458
  timestamp := 0
  cgroupId := 4
  pidTgid := 0

/-- What the worker reads for it. -/
theorem events_and_device_numbers_agree_render :
    ∃ event : Event,
      Loader.readEvent (.ok ((Bpf.pollEvent renderCall 1).bytes ++ [0, 0])) = .ok event ∧
        event.node = ⟨226, 128⟩ := by
  obtain ⟨event, hread, hnode, -⟩ :=
    events_and_device_numbers_agree.2.2.1 renderCall 1 [0, 0]
  exact ⟨event, hread, hnode.trans (by decide)⟩

end KubeNpu

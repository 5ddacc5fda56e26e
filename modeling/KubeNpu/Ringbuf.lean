import KubeNpu.Loader

/-!
# The ring buffer `events`

The buffer belongs to the kernel, and the library `cilium/ebpf/ringbuf` reads it;
the repository has the code of neither.  `Ringbuf` is what the program and the
loader call, over an arbitrary type of buffers, and `Ringbuf.Lawful` is what both
sides document: a submitted record is appended whole, a successful `Read` removes
the oldest record whole, a failing one removes nothing, and after `Close` every
`Read` returns, and fails with `ErrClosed`.  No law says when a reservation succeeds, so
every capacity is a case of `Ringbuf`.
-/

namespace KubeNpu

open Go

/-- A ring buffer map with the library's reader of it. -/
structure Ringbuf (R : Type) where
  /-- The submitted records that were not read, the oldest first. -/
  records : R → List (List UInt8)
  /-- The reader was closed. -/
  closed : R → Bool
  /-- Whether `bpf_ringbuf_reserve` of so many bytes succeeds. -/
  reserve : R → ℕ → Bool
  /-- `bpf_ringbuf_submit` of a reserved record. -/
  submit : R → List UInt8 → R
  /-- What `Reader.Read` may return, and the buffer after it. -/
  Read : R → Loader.ReadResult → R → Prop
  /-- `Reader.Close`. -/
  close : R → R

/-- What the kernel and the library promise. -/
structure Ringbuf.Lawful {R : Type} (rb : Ringbuf R) : Prop where
  records_submit : ∀ r sample, rb.records (rb.submit r sample) = rb.records r ++ [sample]
  closed_submit : ∀ r sample, rb.closed (rb.submit r sample) = rb.closed r
  records_read_ok : ∀ {r sample r'}, rb.Read r (.ok sample) r' →
    rb.records r = sample :: rb.records r'
  records_read_error : ∀ {r err r'}, rb.Read r (.error err) r' → rb.records r' = rb.records r
  closed_read : ∀ {r answer r'}, rb.Read r answer r' → rb.closed r' = rb.closed r
  read_closed : ∀ {r answer r'}, rb.closed r = true → rb.Read r answer r' →
    ∃ err, answer = .error err ∧ err.is .errClosed = true
  read_returns : ∀ {r}, rb.closed r = true → ∃ answer r', rb.Read r answer r'
  records_close : ∀ r, rb.records (rb.close r) = rb.records r
  closed_close : ∀ r, rb.closed (rb.close r) = true

/-! ## A buffer in memory -/

/-- A buffer of `size` bytes.  A record takes a header of 8 bytes and is padded to
a multiple of 8. -/
structure MemRing where
  size : ℕ
  unread : List (List UInt8)
  readerClosed : Bool
  deriving DecidableEq

namespace MemRing

/-- The space of a record with `len` bytes of data. -/
def space (len : ℕ) : ℕ := 8 + (len + 7) / 8 * 8

/-- The bytes taken by unread records. -/
def used (r : MemRing) : ℕ := (r.unread.map fun sample => space sample.length).sum

/-- `Read` of a buffer in memory: the oldest record, a deadline that passed, or
the closed reader. -/
inductive Read : MemRing → Loader.ReadResult → MemRing → Prop where
  | record {size : ℕ} (sample : List UInt8) (rest : List (List UInt8)) :
      Read ⟨size, sample :: rest, false⟩ (.ok sample) ⟨size, rest, false⟩
  | deadline {size : ℕ} {unread : List (List UInt8)} :
      Read ⟨size, unread, false⟩ (.error (.external "i/o timeout")) ⟨size, unread, false⟩
  | closed {size : ℕ} {unread : List (List UInt8)} :
      Read ⟨size, unread, true⟩ (.error (.sentinel .errClosed)) ⟨size, unread, true⟩

/-- The buffer in memory as a ring buffer map; one byte always stays free. -/
def ringbuf : Ringbuf MemRing where
  records := unread
  closed := readerClosed
  reserve r len := r.used + space len < r.size
  submit r sample := { r with unread := r.unread ++ [sample] }
  Read := Read
  close r := { r with readerClosed := true }

theorem lawful : ringbuf.Lawful where
  records_submit _ _ := rfl
  closed_submit _ _ := rfl
  records_read_ok h := by
    cases h
    rfl
  records_read_error h := by cases h <;> rfl
  closed_read h := by cases h <;> rfl
  read_closed hclosed h := by
    cases h with
    | closed => exact ⟨_, rfl, rfl⟩
    | record => cases hclosed
    | deadline => cases hclosed
  read_returns {r} hclosed := by
    obtain ⟨size, unread, readerClosed⟩ := r
    have hclosed : readerClosed = true := hclosed
    subst hclosed
    exact ⟨_, _, .closed⟩
  records_close _ := rfl
  closed_close _ := rfl

end MemRing

end KubeNpu

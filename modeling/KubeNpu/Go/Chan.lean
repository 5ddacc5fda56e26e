import Mathlib

/-!
# Buffered channels

A channel as its one sender and its one receiver see it.  A receiver that finds
the buffer empty parks; whether it is parked is the receiver's state, so the
sender's operations take it as an argument.  The buffer never holds more than
the capacity, which is a field of the channel.
-/

namespace Go

/-- A channel made with `make(chan α, cap)`. -/
structure Chan (α : Type) where
  cap : ℕ
  /-- The buffered values, the oldest first. -/
  buf : List α
  closed : Bool
  length_le : buf.length ≤ cap

/-- How a send in a `select` with a `default` ends. -/
inductive SendResult where
  /-- A send on a closed channel panics. -/
  | panics
  /-- A parked receiver takes the value. -/
  | handed
  /-- The value is buffered. -/
  | buffered
  /-- The `default` is taken. -/
  | full
  deriving DecidableEq, Repr

/-- How a receive ends. -/
inductive RecvResult (α : Type) where
  | item (a : α)
  /-- The channel is closed and drained. -/
  | closed
  /-- The receiver parks. -/
  | parks

namespace Chan

variable {α : Type}

/-- `make(chan α, cap)`. -/
def make (cap : ℕ) : Chan α := ⟨cap, [], false, Nat.zero_le cap⟩

/-- `select { case ch <- a: default: }`. -/
def trySend (ch : Chan α) (parked : Bool) (a : α) : SendResult × Chan α :=
  if ch.closed then (.panics, ch)
  else if parked then (.handed, ch)
  else if h : ch.buf.length < ch.cap then
    (.buffered,
      { ch with
        buf := ch.buf ++ [a]
        length_le := by
          rw [List.length_append, List.length_singleton]
          exact h })
  else (.full, ch)

/-- `a, ok := <-ch`, up to the point where it would park. -/
def recv (ch : Chan α) : RecvResult α × Chan α :=
  match h : ch.buf with
  | a :: rest =>
      (.item a,
        { ch with
          buf := rest
          length_le := by
            have hle := ch.length_le
            rw [h, List.length_cons] at hle
            exact Nat.le_of_succ_le hle })
  | [] => if ch.closed then (.closed, ch) else (.parks, ch)

/-- `close(ch)`; `none` is the panic of closing twice. -/
def close (ch : Chan α) : Option (Chan α) :=
  if ch.closed then none else some { ch with closed := true }

@[simp] theorem make_buf (cap : ℕ) : (make cap : Chan α).buf = [] := rfl

/-- What a send does, by its result. -/
theorem trySend_spec (ch : Chan α) (parked : Bool) (a : α) :
    (ch.trySend parked a).2.closed = ch.closed ∧
      match (ch.trySend parked a).1 with
      | .panics => ch.closed = true ∧ (ch.trySend parked a).2.buf = ch.buf
      | .handed => parked = true ∧ (ch.trySend parked a).2.buf = ch.buf
      | .buffered => parked = false ∧ (ch.trySend parked a).2.buf = ch.buf ++ [a]
      | .full => parked = false ∧ (ch.trySend parked a).2.buf = ch.buf := by
  unfold trySend
  split
  · exact ⟨rfl, by assumption, rfl⟩
  · split
    · exact ⟨rfl, by assumption, rfl⟩
    · have hparked : parked = false := Bool.eq_false_iff.mpr (by assumption)
      split
      · exact ⟨rfl, hparked, rfl⟩
      · exact ⟨rfl, hparked, rfl⟩

/-- What a receive does, by its result. -/
theorem recv_spec (ch : Chan α) :
    ch.recv.2.closed = ch.closed ∧
      match ch.recv.1 with
      | .item a => ch.buf = a :: ch.recv.2.buf
      | .closed => ch.closed = true ∧ ch.buf = [] ∧ ch.recv.2.buf = []
      | .parks => ch.closed = false ∧ ch.buf = [] ∧ ch.recv.2.buf = [] := by
  unfold recv
  split
  · rename_i a rest hbuf
    exact ⟨rfl, hbuf⟩
  · rename_i hbuf
    split
    · exact ⟨rfl, by assumption, hbuf, hbuf⟩
    · exact ⟨rfl, Bool.eq_false_iff.mpr (by assumption), hbuf, hbuf⟩

theorem close_spec {ch ch' : Chan α} (h : ch.close = some ch') :
    ch.closed = false ∧ ch'.closed = true ∧ ch'.buf = ch.buf := by
  unfold close at h
  split at h
  · cases h
  · cases h
    exact ⟨Bool.eq_false_iff.mpr (by assumption), rfl, rfl⟩

end Chan

end Go

import Mathlib

/-!
# Little-endian byte layouts

A fixed-width field of a packed record occupies `w` bytes, least significant
first.  `toLE` writes a field and `ofLE` reads one; a record is the
concatenation of its fields, and `field` reads the bytes at an offset, as a
pointer cast does.  `field_skip` steps over the field in front, and `field_toLE`
reads the one that was written there.
-/

namespace Bytes

/-- The `w` little-endian bytes of `n`. -/
def toLE : ℕ → ℕ → List UInt8
  | 0, _ => []
  | w + 1, n => UInt8.ofNat n :: toLE w (n / 256)

/-- The number whose little-endian bytes are given. -/
def ofLE : List UInt8 → ℕ
  | [] => 0
  | b :: bs => b.toNat + 256 * ofLE bs

/-- The field of width `w` at byte `offset`. -/
def field (raw : List UInt8) (offset w : ℕ) : ℕ := ofLE ((raw.drop offset).take w)

@[simp] theorem length_toLE (w n : ℕ) : (toLE w n).length = w := by
  induction w generalizing n with
  | zero => rfl
  | succ w ih => rw [toLE, List.length_cons, ih]

/-- **Reading back what was written**, for a value that fits the width. -/
theorem ofLE_toLE {w n : ℕ} (h : n < 256 ^ w) : ofLE (toLE w n) = n := by
  induction w generalizing n with
  | zero =>
      obtain rfl : n = 0 := by simpa using h
      rfl
  | succ w ih =>
      have hdiv : n / 256 < 256 ^ w := by
        rw [Nat.div_lt_iff_lt_mul (by decide)]
        simpa [pow_succ] using h
      have hbyte : (UInt8.ofNat n).toNat = n % 256 := by simp
      rw [toLE, ofLE, ih hdiv, hbyte]
      omega

/-- A later field is read from what follows the first one. -/
theorem field_skip (w n : ℕ) (back : List UInt8) (offset width : ℕ) :
    field (toLE w n ++ back) (w + offset) width = field back offset width := by
  rw [field, field, List.drop_append, length_toLE, Nat.add_sub_cancel_left,
    List.drop_eq_nil_of_le (by rw [length_toLE]; exact Nat.le_add_right _ _), List.nil_append]

/-- The field at the front of a record is the one written first. -/
theorem field_toLE {w n : ℕ} (back : List UInt8) (h : n < 256 ^ w) :
    field (toLE w n ++ back) 0 w = n := by
  have htake : (toLE w n ++ back).take w = toLE w n := by
    rw [List.take_append_of_le_length (by rw [length_toLE]), List.take_of_length_le]
    rw [length_toLE]
  rw [field, List.drop_zero, htake, ofLE_toLE h]

end Bytes

import Mathlib

/-!
# Monotonic time and durations

`time.Now` reads a clock whose value is a signed 64-bit count of nanoseconds
since the process started, and `time.Since` subtracts two such readings with
saturation at the ends of `time.Duration`.  Both are modelled at their machine
width; `Time.sub_lt_iff` is the one fact a caller needs, that a comparison of an
elapsed time with a positive duration is never wrong because of the width.
-/

namespace Go

/-- `time.Duration`: signed nanoseconds. -/
abbrev Duration := Int64

/-- `time.Second`. -/
def second : Duration := 1000000000

/-- A reading of the monotonic clock. -/
structure Time where
  /-- Nanoseconds since the process started. -/
  ext : Int64
  deriving DecidableEq, Repr

namespace Time

/-- The reading as a mathematical integer. -/
def nanos (t : Time) : Int := t.ext.toInt

/-- Two readings in order. -/
instance : LE Time := ⟨fun s t => s.nanos ≤ t.nanos⟩

instance : DecidableRel (α := Time) (· ≤ ·) :=
  fun s t => inferInstanceAs (Decidable (s.nanos ≤ t.nanos))

theorem le_def {s t : Time} : s ≤ t ↔ s.nanos ≤ t.nanos := Iff.rfl

instance : Preorder Time where
  le_refl _ := le_def.mpr le_rfl
  le_trans _ _ _ h₁ h₂ := le_def.mpr ((le_def.mp h₁).trans (le_def.mp h₂))

theorem nanos_lt (t : Time) : t.nanos < 2 ^ 63 := Int64.toInt_lt t.ext

theorem le_nanos (t : Time) : -2 ^ 63 ≤ t.nanos := Int64.le_toInt t.ext

/-- `t.Sub(u)` on monotonic readings, saturating. -/
def sub (t u : Time) : Duration :=
  let d := t.ext - u.ext
  if d < 0 ∧ u.ext < t.ext then Int64.maxValue
  else if 0 < d ∧ t.ext < u.ext then Int64.minValue
  else d

/-- **An elapsed time compares with a positive duration as the integers do**,
whether or not the difference fits 64 bits. -/
theorem sub_lt_iff (t u : Time) {d : Duration} (hd : 0 < d) :
    t.sub u < d ↔ t.nanos - u.nanos < d.toInt := by
  have ht := nanos_lt t
  have ht' := le_nanos t
  have hu := nanos_lt u
  have hu' := le_nanos u
  have hdlt := Int64.toInt_lt d
  have hdpos : 0 < d.toInt := by simpa [Int64.lt_iff_toInt_lt] using hd
  have hmax : Int64.maxValue.toInt = 2 ^ 63 - 1 := by decide
  have hmin : Int64.minValue.toInt = -2 ^ 63 := by decide
  simp only [sub, nanos, Int64.lt_iff_toInt_lt, Int64.toInt_sub, Int64.toInt_zero] at *
  have hwrap : (t.ext.toInt - u.ext.toInt).bmod (2 ^ 64) = t.ext.toInt - u.ext.toInt ∨
      (t.ext.toInt - u.ext.toInt).bmod (2 ^ 64) = t.ext.toInt - u.ext.toInt - 2 ^ 64 ∧
        2 ^ 63 ≤ t.ext.toInt - u.ext.toInt ∨
      (t.ext.toInt - u.ext.toInt).bmod (2 ^ 64) = t.ext.toInt - u.ext.toInt + 2 ^ 64 ∧
        t.ext.toInt - u.ext.toInt < -2 ^ 63 := by
    rw [Int.bmod_def]
    omega
  split
  · rw [hmax]; omega
  · split
    · rw [hmin]; omega
    · rw [Int64.toInt_sub]; omega

/-- The comparison a guard makes, the other way around. -/
theorem not_sub_lt_iff (t u : Time) {d : Duration} (hd : 0 < d) :
    ¬ t.sub u < d ↔ d.toInt ≤ t.nanos - u.nanos := by
  rw [sub_lt_iff t u hd]
  omega

end Time

end Go

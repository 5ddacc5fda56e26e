import Mathlib

/-!
# Decimal numbers of the `strconv` package

`decimal` is the number a string writes: an optional sign and at least one digit,
of any length.  `parseInt` is that number if 64 bits hold it.
-/

namespace Go.Strconv

/-- The value of a decimal digit. -/
def digit (c : Char) : Option ℕ :=
  if '0' ≤ c ∧ c ≤ '9' then some (c.toNat - '0'.toNat) else none

/-- The value of the digits `cs` behind digits of the value `n`. -/
def digitsFrom : ℕ → List Char → Option ℕ
  | n, [] => some n
  | n, c :: cs =>
      match digit c with
      | none => none
      | some d => digitsFrom (10 * n + d) cs

/-- The value of a non-empty string of digits. -/
def digits : List Char → Option ℕ
  | [] => none
  | c :: cs => digitsFrom 0 (c :: cs)

/-- The integer that a string writes in decimal, if it writes one. -/
def decimal (s : String) : Option ℤ :=
  match s.toList with
  | '+' :: cs => (digits cs).map fun n => (n : ℤ)
  | '-' :: cs => (digits cs).map fun n => -(n : ℤ)
  | cs => (digits cs).map fun n => (n : ℤ)

/-- `strconv.ParseInt(s, 10, 64)`; `none` is a non-nil error, for the syntax or for
the range. -/
def parseInt (s : String) : Option Int64 :=
  match decimal s with
  | none => none
  | some n => if -2 ^ 63 ≤ n ∧ n < 2 ^ 63 then some (Int64.ofInt n) else none

/-- `strconv.Atoi`, on a platform whose `int` has 64 bits. -/
def atoi (s : String) : Option Int64 := parseInt s

/-- **What is parsed is what is written**, and the width is the only limit. -/
theorem parseInt_eq_some_iff {s : String} {x : Int64} :
    parseInt s = some x ↔ decimal s = some x.toInt := by
  unfold parseInt
  cases hdecimal : decimal s with
  | none => simp
  | some n =>
      by_cases hrange : -2 ^ 63 ≤ n ∧ n < 2 ^ 63
      · simp only [if_pos hrange, Option.some_inj]
        rw [← Int64.toInt_inj, Int64.toInt_ofInt_of_le hrange.1 hrange.2]
      · simp only [if_neg hrange, Option.some_inj]
        refine iff_of_false (by simp) ?_
        rintro rfl
        exact hrange ⟨x.le_toInt, x.toInt_lt⟩

/-- So a number is rejected exactly when 64 bits do not hold it. -/
theorem parseInt_eq_none_iff {s : String} {n : ℤ} (h : decimal s = some n) :
    parseInt s = none ↔ ¬ (-2 ^ 63 ≤ n ∧ n < 2 ^ 63) := by
  unfold parseInt
  rw [h]
  simp

/-! ## Writing numbers -/

/-- `strconv.FormatUint(n, 10)`, and `%d` of an unsigned number. -/
def formatUint (n : ℕ) : String := String.ofList (Nat.toDigits 10 n)

/-- `strconv.FormatInt(n, 10)`. -/
def formatInt (n : ℤ) : String :=
  if n < 0 then String.ofList ('-' :: Nat.toDigits 10 n.natAbs) else formatUint n.natAbs

/-- `strconv.Itoa`, on a platform whose `int` has 64 bits. -/
def itoa (x : Int64) : String := formatInt x.toInt

theorem digit_of_isDigit {c : Char} (h : c.isDigit = true) :
    digit c = some (c.toNat - '0'.toNat) := by
  have hrange : '0' ≤ c ∧ c ≤ '9' := by
    simpa [Char.isDigit, Char.le_def] using h
  rw [digit, if_pos hrange]

/-- Digits are read as the number they write. -/
theorem digitsFrom_of_isDigit {cs : List Char} (h : ∀ c ∈ cs, c.isDigit = true) (n : ℕ) :
    digitsFrom n cs = some (Nat.ofDigitChars 10 cs n) := by
  induction cs generalizing n with
  | nil => rw [digitsFrom, Nat.ofDigitChars_nil]
  | cons c cs ih =>
      rw [digitsFrom, digit_of_isDigit (h c List.mem_cons_self)]
      rw [Nat.ofDigitChars_cons]
      exact ih (fun c' hc' => h c' (List.mem_cons_of_mem c hc')) _

theorem isDigit_of_mem {n : ℕ} {c : Char} (h : c ∈ Nat.toDigits 10 n) : c.isDigit = true :=
  Nat.isDigit_of_mem_toDigits (by decide) (by decide) h

/-- **The digits of a number are read as it.** -/
theorem digits_toDigits (n : ℕ) : digits (Nat.toDigits 10 n) = some n := by
  cases hcs : Nat.toDigits 10 n with
  | nil => exact absurd hcs Nat.toDigits_ne_nil
  | cons c cs =>
      rw [digits, ← hcs, digitsFrom_of_isDigit fun c hc => isDigit_of_mem hc]
      rw [Nat.ofDigitChars_ten_toDigits]

theorem decimal_formatUint (n : ℕ) : decimal (formatUint n) = some (n : ℤ) := by
  have hdigits := digits_toDigits n
  unfold decimal formatUint
  rw [String.toList_ofList]
  cases hcs : Nat.toDigits 10 n with
  | nil => exact absurd hcs Nat.toDigits_ne_nil
  | cons c cs =>
      have hc : c.isDigit = true := isDigit_of_mem (hcs ▸ List.mem_cons_self)
      rw [hcs] at hdigits
      -- a digit is not a sign
      split
      · rename_i heq
        rw [(List.cons.inj heq).1] at hc
        exact absurd hc (by decide)
      · rename_i heq
        rw [(List.cons.inj heq).1] at hc
        exact absurd hc (by decide)
      · rw [hdigits]
        rfl

/-- **What is written is read back.** -/
theorem decimal_formatInt (n : ℤ) : decimal (formatInt n) = some n := by
  unfold formatInt
  split
  · rename_i hneg
    have hminus : decimal (String.ofList ('-' :: Nat.toDigits 10 n.natAbs)) =
        (digits (Nat.toDigits 10 n.natAbs)).map fun (k : ℕ) => -(k : ℤ) := by
      unfold decimal
      rw [String.toList_ofList]
      cases hdigits : digits (Nat.toDigits 10 n.natAbs) <;> simp [hdigits]
    rw [hminus, digits_toDigits, Option.map_some, Int.ofNat_natAbs_of_nonpos hneg.le, neg_neg]
  · rename_i hpos
    rw [decimal_formatUint, Int.natAbs_of_nonneg (not_lt.mp hpos)]

theorem atoi_itoa (x : Int64) : atoi (itoa x) = some x :=
  parseInt_eq_some_iff.mpr (decimal_formatInt x.toInt)

theorem itoa_ne_empty (x : Int64) : itoa x ≠ "" := by
  intro h
  have hsome := decimal_formatInt x.toInt
  rw [← itoa, h] at hsome
  cases hsome

end Go.Strconv

import KubeNpu.Go.Strconv
import KubeNpu.Go.Time

/-!
# `pkg/config/config.go`: settings from the environment

Every setting is an environment variable with a default.  A duration is written as
a number of seconds: any number that 64 bits hold is accepted, and then multiplied
by `time.Second` in 64 bits, where the product may wrap around.

`getEnvTimeDuration_exact_iff` says for which values the duration is what was
written: the small ones, and the few for which the wrapped product happens to be
the default.
-/

namespace KubeNpu

open Go

/-- The environment: `os.LookupEnv`. -/
abbrev Env := String → Option String

/-- `config.Config`. -/
structure Config where
  host : String
  port : Int64
  driPath : String
  accelPath : String
  sysfsDriPath : String
  sysfsAccelPath : String
  cgroupRootPath : String
  criSocketPath : String
  interval : Duration
  debug : Bool
  appVersion : String
  shutdownTimeout : Duration
  criTimeout : Duration
  cacheTTL : Duration
  queueSize : Int64
  deriving DecidableEq

/-- `getEnv`. -/
def getEnv (env : Env) (key fallback : String) : String :=
  match env key with
  | none => fallback
  | some v => if v ≠ "" then v else fallback

/-- `getEnvInt`. -/
def getEnvInt (env : Env) (key : String) (fallback : Int64) : Int64 :=
  match env key with
  | none => fallback
  | some v =>
      if v = "" then fallback
      else
        match Strconv.atoi v with
        | none => fallback
        | some n =>
            if n ≤ 0 then fallback
            else if key = "KUBENPU_PORT" ∧ 65535 < n then fallback
            else n

/-- `getEnvTimeDuration`. -/
def getEnvTimeDuration (env : Env) (key : String) (fallback : Duration) : Duration :=
  match env key with
  | none => fallback
  | some v =>
      if v = "" then fallback
      else
        match Strconv.parseInt v with
        | none => fallback
        | some seconds => seconds * second

/-- `Load`. -/
def load (env : Env) : Config where
  host := getEnv env "KUBENPU_HOST" "0.0.0.0"
  port := getEnvInt env "KUBENPU_PORT" 8080
  driPath := getEnv env "KUBENPU_DRI_PATH" "/dev/dri"
  accelPath := getEnv env "KUBENPU_ACCEL_PATH" "/dev/accel"
  sysfsDriPath := getEnv env "KUBENPU_SYSFS_DRI_PATH" "/sys/class/drm"
  sysfsAccelPath := getEnv env "KUBENPU_SYSFS_ACCEL_PATH" "/sys/class/accel"
  cgroupRootPath := getEnv env "KUBENPU_CGROUP_ROOT_PATH" "/sys/fs/cgroup"
  criSocketPath := getEnv env "KUBENPU_CRI_SOCKET_PATH" "/run/k3s/containerd/containerd.sock"
  interval := getEnvTimeDuration env "KUBENPU_INTERVAL" (5 * second)
  debug := getEnvInt env "KUBENPU_DEBUG" 0 ≠ 0
  appVersion := getEnv env "KUBENPU_APP_VERSION" "0.0.1"
  shutdownTimeout := getEnvTimeDuration env "KUBENPU_SHUTDOWN_TIMEOUT" (5 * second)
  criTimeout := getEnvTimeDuration env "KUBENPU_CRI_TIMEOUT" (5 * second)
  cacheTTL := getEnvTimeDuration env "KUBENPU_CACHE_TTL" (60 * second)
  queueSize := getEnvInt env "KUBENPU_QUEUE_SIZE" 4096

/-! ## Settings are never unusable numbers or empty texts -/

/-- A text is the default or not empty. -/
theorem getEnv_ne_empty (env : Env) (key : String) {fallback : String} (h : fallback ≠ "") :
    getEnv env key fallback ≠ "" := by
  unfold getEnv
  split
  · exact h
  · split
    · assumption
    · exact h

/-- A number is the default or positive, and a port fits 16 bits. -/
theorem getEnvInt_spec (env : Env) (key : String) (fallback : Int64) :
    getEnvInt env key fallback = fallback ∨
      (0 < getEnvInt env key fallback ∧
        (key = "KUBENPU_PORT" → getEnvInt env key fallback ≤ 65535)) := by
  unfold getEnvInt
  split
  · exact Or.inl rfl
  split
  · exact Or.inl rfl
  split
  · exact Or.inl rfl
  split
  · exact Or.inl rfl
  · rename_i n _ hpos
    split
    · exact Or.inl rfl
    · rename_i hport
      refine Or.inr ⟨Int64.not_le.mp hpos, ?_⟩
      intro hkey
      exact Int64.not_lt.mp fun hlarge => hport ⟨hkey, hlarge⟩

/-- **The agent's own checks never fail on a setting**: the port and the size of the
queue are in range, and no path is empty. -/
theorem load_usable (env : Env) :
    (0 < (load env).port ∧ (load env).port ≤ 65535) ∧ 0 < (load env).queueSize ∧
      (load env).cgroupRootPath ≠ "" ∧ (load env).criSocketPath ≠ "" := by
  refine ⟨?_, ?_, getEnv_ne_empty env _ (by decide), getEnv_ne_empty env _ (by decide)⟩
  · rcases getEnvInt_spec env "KUBENPU_PORT" 8080 with hdefault | ⟨hpos, hport⟩
    · show 0 < getEnvInt env "KUBENPU_PORT" 8080 ∧ getEnvInt env "KUBENPU_PORT" 8080 ≤ 65535
      rw [hdefault]
      decide
    · exact ⟨hpos, hport rfl⟩
  · rcases getEnvInt_spec env "KUBENPU_QUEUE_SIZE" 4096 with hdefault | ⟨hpos, -⟩
    · show 0 < getEnvInt env "KUBENPU_QUEUE_SIZE" 4096
      rw [hdefault]
      decide
    · exact hpos

/-! ## Durations -/

/-- The duration `d` is the default, or exactly the number of seconds that the
variable writes. -/
def DurationExact (env : Env) (key : String) (fallback d : Duration) : Prop :=
  d = fallback ∨
    ∃ v n, env key = some v ∧ Strconv.decimal v = some n ∧ d.toInt = 10 ^ 9 * n

/-- If the variable writes a number that 64 bits hold, it is small, or it differs
from the `k` seconds of the default by a multiple of `2^55`. -/
def SecondsFit (env : Env) (key : String) (k : ℤ) : Prop :=
  ∀ v n, env key = some v → Strconv.decimal v = some n → -2 ^ 63 ≤ n → n < 2 ^ 63 →
    |n| ≤ 9223372036 ∨ 2 ^ 55 ∣ n - k

/-- A multiple of `10^9 = 2^9 * 5^9` is one of `2^64` if the factor is one of
`2^55`. -/
theorem dvd_mul_nanos (m : ℤ) : 2 ^ 64 ∣ m * 10 ^ 9 ↔ 2 ^ 55 ∣ m := by
  have hfactor : m * 10 ^ 9 = 2 ^ 9 * (m * 5 ^ 9) := by ring
  have hpow : (2 : ℤ) ^ 64 = 2 ^ 9 * 2 ^ 55 := by norm_num
  rw [hfactor, hpow, mul_dvd_mul_iff_left (by norm_num)]
  have hcoprime : IsCoprime ((2 : ℤ) ^ 55) (5 ^ 9) := by
    refine IsCoprime.pow ?_
    exact ⟨-2, 1, by norm_num⟩
  exact ⟨hcoprime.dvd_of_dvd_mul_right, fun h => h.mul_right _⟩

/-- The product with `time.Second`, as an integer. -/
theorem toInt_mul_second (x : Int64) :
    (x * second).toInt = (x.toInt * 10 ^ 9).bmod (2 ^ 64) :=
  Int64.toInt_mul x second

/-- The product is exact for small numbers only. -/
theorem mul_second_exact_iff (x : Int64) :
    (x * second).toInt = 10 ^ 9 * x.toInt ↔ |x.toInt| ≤ 9223372036 := by
  rw [toInt_mul_second, Int.bmod_def, abs_le]
  omega

/-- The product is the default when it wraps around to it. -/
theorem mul_second_eq_iff {x fallback : Int64} {k : ℤ} (hk : fallback.toInt = k * 10 ^ 9) :
    x * second = fallback ↔ 2 ^ 55 ∣ x.toInt - k := by
  have hlt := fallback.toInt_lt
  have hle := fallback.le_toInt
  rw [← Int64.toInt_inj, toInt_mul_second, ← dvd_mul_nanos, sub_mul, ← hk]
  generalize x.toInt * 10 ^ 9 = product
  rw [Int.bmod_def]
  omega

section

variable {env : Env} {key v : String} {n : ℤ}

/-- A variable that writes `n` makes the duration exact as the default or as `n`
seconds. -/
theorem durationExact_iff_of_decimal (hv : env key = some v) (hn : Strconv.decimal v = some n)
    (fallback d : Duration) :
    DurationExact env key fallback d ↔ d = fallback ∨ d.toInt = 10 ^ 9 * n := by
  refine or_congr_right ?_
  constructor
  · rintro ⟨v', n', hv', hn', hexact⟩
    rw [hv] at hv'
    cases hv'
    rw [hn] at hn'
    cases hn'
    exact hexact
  · exact fun hexact => ⟨v, n, hv, hn, hexact⟩

/-- It fits if `n` does. -/
theorem secondsFit_iff_of_decimal (hv : env key = some v) (hn : Strconv.decimal v = some n)
    (k : ℤ) :
    SecondsFit env key k ↔
      (-2 ^ 63 ≤ n → n < 2 ^ 63 → |n| ≤ 9223372036 ∨ 2 ^ 55 ∣ n - k) := by
  constructor
  · exact fun hfits => hfits v n hv hn
  · intro hfits v' n' hv' hn'
    rw [hv] at hv'
    cases hv'
    rw [hn] at hn'
    cases hn'
    exact hfits

/-- A variable that is not set fits, and so does one that writes no number. -/
theorem secondsFit_of_no_decimal (h : ∀ v, env key = some v → Strconv.decimal v = none) (k : ℤ) :
    SecondsFit env key k := by
  intro v n hv hn
  rw [h v hv] at hn
  cases hn

end

/-- **When a duration is what was written**: exactly when the number is small, or
wraps around to the default. -/
theorem getEnvTimeDuration_exact_iff (env : Env) (key : String) {fallback : Duration} {k : ℤ}
    (hk : fallback.toInt = k * 10 ^ 9) :
    DurationExact env key fallback (getEnvTimeDuration env key fallback) ↔
      SecondsFit env key k := by
  unfold getEnvTimeDuration
  cases hv : env key with
  | none =>
      refine iff_of_true (Or.inl rfl) (secondsFit_of_no_decimal ?_ k)
      intro v hset
      rw [hv] at hset
      cases hset
  | some v =>
      by_cases hempty : v = ""
      · subst hempty
        refine iff_of_true (Or.inl rfl) (secondsFit_of_no_decimal ?_ k)
        intro v hset
        rw [hv] at hset
        cases hset
        rfl
      simp only [if_neg hempty]
      cases hparse : Strconv.parseInt v with
      | none =>
          refine iff_of_true (Or.inl rfl) ?_
          cases hn : Strconv.decimal v with
          | none =>
              refine secondsFit_of_no_decimal ?_ k
              intro v' hset
              rw [hv] at hset
              cases hset
              exact hn
          | some n =>
              -- a number that was rejected is out of range
              rw [secondsFit_iff_of_decimal hv hn]
              intro hle hlt
              exact absurd ⟨hle, hlt⟩ ((Strconv.parseInt_eq_none_iff hn).mp hparse)
      | some x =>
          have hn := Strconv.parseInt_eq_some_iff.mp hparse
          show DurationExact env key fallback (x * second) ↔ SecondsFit env key k
          rw [durationExact_iff_of_decimal hv hn, secondsFit_iff_of_decimal hv hn,
            mul_second_eq_iff hk, mul_second_exact_iff, or_comm]
          exact ⟨fun h _ _ => h, fun h => h x.le_toInt x.toInt_lt⟩

end KubeNpu

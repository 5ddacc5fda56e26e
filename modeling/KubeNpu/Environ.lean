import KubeNpu.Config

/-!
# The settings that an environment can ask for

`Load` accepts every environment, and quietly replaces what it cannot use.  Turned
around: which settings can be asked for, and how?  The texts that are not empty, the
ports of 16 bits, the positive sizes, and of the durations the multiples of 512
nanoseconds, since a duration is a product with `time.Second` that wraps around in
64 bits, and `time.Second` is `2^9` times an odd number.  `Config.environ` writes
such settings as an environment, and `Load` reads it back exactly.
-/

namespace KubeNpu

open Go

/-- What is the same of all settings that `Load` returns. -/
structure Config.Loadable (c : Config) : Prop where
  texts : ∀ text ∈ [c.host, c.driPath, c.accelPath, c.sysfsDriPath, c.sysfsAccelPath,
    c.cgroupRootPath, c.criSocketPath, c.appVersion], text ≠ ""
  port : 0 < c.port ∧ c.port ≤ 65535
  queueSize : 0 < c.queueSize
  durations : ∀ d ∈ [c.interval, c.shutdownTimeout, c.criTimeout, c.cacheTTL], 512 ∣ d.toInt

/-! ## Writing an environment -/

/-- The inverse of `5^9` modulo `2^55`. -/
def inverseNanos : ℤ := 20211507185753197

/-- A number of seconds whose product with `time.Second` is the duration, for a
multiple of 512 nanoseconds. -/
def secondsOf (d : Duration) : ℤ := d.toInt / 512 * inverseNanos % 2 ^ 55

/-- The variables that ask for the settings. -/
def Config.variables (c : Config) : List (String × String) :=
  [("KUBENPU_HOST", c.host), ("KUBENPU_PORT", Strconv.itoa c.port),
    ("KUBENPU_DRI_PATH", c.driPath), ("KUBENPU_ACCEL_PATH", c.accelPath),
    ("KUBENPU_SYSFS_DRI_PATH", c.sysfsDriPath), ("KUBENPU_SYSFS_ACCEL_PATH", c.sysfsAccelPath),
    ("KUBENPU_CGROUP_ROOT_PATH", c.cgroupRootPath), ("KUBENPU_CRI_SOCKET_PATH", c.criSocketPath),
    ("KUBENPU_INTERVAL", Strconv.formatInt (secondsOf c.interval)),
    ("KUBENPU_DEBUG", if c.debug then "1" else "0"), ("KUBENPU_APP_VERSION", c.appVersion),
    ("KUBENPU_SHUTDOWN_TIMEOUT", Strconv.formatInt (secondsOf c.shutdownTimeout)),
    ("KUBENPU_CRI_TIMEOUT", Strconv.formatInt (secondsOf c.criTimeout)),
    ("KUBENPU_CACHE_TTL", Strconv.formatInt (secondsOf c.cacheTTL)),
    ("KUBENPU_QUEUE_SIZE", Strconv.itoa c.queueSize)]

/-- The environment with these variables. -/
def Config.environ (c : Config) : Env := fun key => c.variables.lookup key

section

variable {env : Env} {key : String}

theorem getEnv_of_some {v : String} (hset : env key = some v) (hv : v ≠ "") (fallback : String) :
    getEnv env key fallback = v := by
  simp only [getEnv, hset, if_pos hv]

theorem getEnvInt_of_itoa {n : Int64} (hset : env key = some (Strconv.itoa n)) (hpos : 0 < n)
    (hport : key = "KUBENPU_PORT" → n ≤ 65535) (fallback : Int64) :
    getEnvInt env key fallback = n := by
  have hrange : ¬ (key = "KUBENPU_PORT" ∧ 65535 < n) := fun h =>
    absurd h.2 (Int64.not_lt.mpr (hport h.1))
  simp only [getEnvInt, hset, if_neg (Strconv.itoa_ne_empty n), Strconv.atoi_itoa,
    if_neg (Int64.not_le.mpr hpos), if_neg hrange]

/-- The seconds are in range, and their product is the duration. -/
theorem mul_secondsOf {d : Duration} (h : 512 ∣ d.toInt) :
    (-2 ^ 63 ≤ secondsOf d ∧ secondsOf d < 2 ^ 63) ∧ Int64.ofInt (secondsOf d) * second = d := by
  have hlow : 0 ≤ secondsOf d := Int.emod_nonneg _ (by norm_num)
  have hhigh : secondsOf d < 2 ^ 55 := Int.emod_lt_of_pos _ (by norm_num)
  have hrange : -2 ^ 63 ≤ secondsOf d ∧ secondsOf d < 2 ^ 63 := ⟨by omega, by omega⟩
  refine ⟨hrange, ?_⟩
  have hlt := d.toInt_lt
  have hle := d.le_toInt
  obtain ⟨k, hk⟩ := h
  have hdiv : d.toInt / 512 = k := by omega
  have hsplit := Int.emod_add_mul_ediv (k * inverseNanos) (2 ^ 55)
  have hseconds : secondsOf d = k * inverseNanos % 2 ^ 55 := by rw [secondsOf, hdiv]
  rw [← Int64.toInt_inj, toInt_mul_second, Int64.toInt_ofInt_of_le hrange.1 hrange.2, hseconds]
  -- the product differs from the duration by a multiple of `2^64`
  unfold inverseNanos at hsplit ⊢
  generalize k * 20211507185753197 / 2 ^ 55 = q at hsplit
  rw [Int.bmod_def]
  omega

theorem formatInt_ne_empty (n : ℤ) : Strconv.formatInt n ≠ "" := by
  intro h
  have hsome := Strconv.decimal_formatInt n
  rw [h] at hsome
  cases hsome

theorem getEnvTimeDuration_of_seconds {d : Duration}
    (hset : env key = some (Strconv.formatInt (secondsOf d))) (h : 512 ∣ d.toInt)
    (fallback : Duration) : getEnvTimeDuration env key fallback = d := by
  obtain ⟨hrange, hproduct⟩ := mul_secondsOf h
  have hparse : Strconv.parseInt (Strconv.formatInt (secondsOf d)) =
      some (Int64.ofInt (secondsOf d)) := by
    rw [Strconv.parseInt, Strconv.decimal_formatInt]
    exact if_pos hrange
  simp only [getEnvTimeDuration, hset, if_neg (formatInt_ne_empty _), hparse]
  exact hproduct

/-- A duration that `Load` returns is a product with `time.Second`. -/
theorem dvd_getEnvTimeDuration (env : Env) (key : String) {fallback : Duration}
    (h : 512 ∣ fallback.toInt) : 512 ∣ (getEnvTimeDuration env key fallback).toInt := by
  unfold getEnvTimeDuration
  split
  · exact h
  split
  · exact h
  split
  · exact h
  · rw [toInt_mul_second, Int.bmod_def]
    omega

end

end KubeNpu

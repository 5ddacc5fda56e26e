import KubeNpu.Config
import KubeNpu.Podmap.Calls

/-!
# The configured durations

`Load` reads four durations from the environment, and `main` passes three of them
to `NewPodMap`, which rejects an interval or a TTL that is not positive.  A number
of seconds whose product with `time.Second` wraps around to a positive number
passes that check, and the agent runs with a duration that nobody wrote.
-/

namespace KubeNpu

open Go

/-- Every duration that `Load` returns is its default or what its variable says. -/
structure DurationsExact (env : Env) : Prop where
  interval : DurationExact env "KUBENPU_INTERVAL" (5 * second) (load env).interval
  cacheTTL : DurationExact env "KUBENPU_CACHE_TTL" (60 * second) (load env).cacheTTL
  criTimeout : DurationExact env "KUBENPU_CRI_TIMEOUT" (5 * second) (load env).criTimeout
  shutdownTimeout :
    DurationExact env "KUBENPU_SHUTDOWN_TIMEOUT" (5 * second) (load env).shutdownTimeout

/-- The call of `NewPodMap` in `main`. -/
def newPodMapOf (cfg : Config) (start : StartEnv) : Except Err PodMap :=
  newPodMap cfg.cgroupRootPath cfg.criSocketPath cfg.interval cfg.criTimeout cfg.cacheTTL start

/-- The interval and the TTL of a pod map that starts are their defaults or what
the variables say. -/
def CheckedExact (env : Env) : Prop :=
  ∀ start p, newPodMapOf (load env) start = .ok p →
    DurationExact env "KUBENPU_INTERVAL" (5 * second) p.index.interval ∧
      DurationExact env "KUBENPU_CACHE_TTL" (60 * second) p.cacheTTL

theorem toInt_five_seconds : (5 * second).toInt = 5 * 10 ^ 9 := by decide

theorem toInt_sixty_seconds : (60 * second).toInt = 60 * 10 ^ 9 := by decide

/-- `NewPodMap` passes the durations on. -/
theorem DurationsExact.checked {env : Env} (h : DurationsExact env) : CheckedExact env := by
  intro start p hnew
  obtain ⟨hindex, -, -, hcacheTTL, -⟩ := newPodMap_ok hnew
  rw [hindex, hcacheTTL]
  exact ⟨h.interval, h.cacheTTL⟩

/-- **When the configured durations are exact.**  They are, and with them the
interval and the TTL of the pod map, if and only if each of the four variables
writes no number of 64 bits, a number of at most 9223372036 seconds in either
direction, or one that wraps around to the default. -/
theorem durations_exact_iff (env : Env) :
    (DurationsExact env ∧ CheckedExact env) ↔
      SecondsFit env "KUBENPU_INTERVAL" 5 ∧ SecondsFit env "KUBENPU_CACHE_TTL" 60 ∧
        SecondsFit env "KUBENPU_CRI_TIMEOUT" 5 ∧ SecondsFit env "KUBENPU_SHUTDOWN_TIMEOUT" 5 := by
  have hinterval := getEnvTimeDuration_exact_iff env "KUBENPU_INTERVAL" toInt_five_seconds
  have hcacheTTL := getEnvTimeDuration_exact_iff env "KUBENPU_CACHE_TTL" toInt_sixty_seconds
  have hcriTimeout := getEnvTimeDuration_exact_iff env "KUBENPU_CRI_TIMEOUT" toInt_five_seconds
  have hshutdown := getEnvTimeDuration_exact_iff env "KUBENPU_SHUTDOWN_TIMEOUT" toInt_five_seconds
  constructor
  · rintro ⟨h, -⟩
    exact ⟨hinterval.mp h.interval, hcacheTTL.mp h.cacheTTL, hcriTimeout.mp h.criTimeout,
      hshutdown.mp h.shutdownTimeout⟩
  · rintro ⟨h₁, h₂, h₃, h₄⟩
    have hexact : DurationsExact env :=
      ⟨hinterval.mpr h₁, hcacheTTL.mpr h₂, hcriTimeout.mpr h₃, hshutdown.mpr h₄⟩
    exact ⟨hexact, hexact.checked⟩

/-- An environment that sets the interval to some 585 years. -/
def overflowEnv : Env := fun key =>
  if key = "KUBENPU_INTERVAL" then some "18446744074" else none

/-- A start on a node where everything answers. -/
def quietStart : StartEnv := ⟨onePodFS, ⟨0⟩, ⟨none, none⟩⟩

theorem not_exact_overflow :
    ¬ DurationExact overflowEnv "KUBENPU_INTERVAL" (5 * second) (load overflowEnv).interval := by
  rintro (hdefault | ⟨v, n, hset, hdecimal, hexact⟩)
  · exact absurd hdefault (by decide)
  · cases hset
    have hn : Strconv.decimal "18446744074" = some 18446744074 := by decide
    rw [hn] at hdecimal
    cases hdecimal
    exact absurd hexact (by decide)

set_option maxRecDepth 8000 in
/-- **A wrapped interval is accepted**: the product is 290448384 nanoseconds, and
the pod map starts with it. -/
theorem overflow_interval_accepted :
    ¬ (DurationsExact overflowEnv ∧ CheckedExact overflowEnv) ∧
      (load overflowEnv).interval.toInt = 290448384 ∧
      ∃ p, newPodMapOf (load overflowEnv) quietStart = .ok p ∧
        p.index.interval.toInt = 290448384 ∧
        ¬ DurationExact overflowEnv "KUBENPU_INTERVAL" (5 * second) p.index.interval := by
  refine ⟨fun h => not_exact_overflow h.1.interval, by decide, _, rfl, by decide, ?_⟩
  exact not_exact_overflow

end KubeNpu

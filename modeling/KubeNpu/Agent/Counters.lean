import KubeNpu.Agent.Scrape

/-!
# The counters after a run of the worker

A run of the worker leaves behind the collector it began with, and on it the
outcomes of its acts, in order.  So a counter is the number of acts with its
outcome, as 64 bits hold it, whatever order they came in.
-/

namespace KubeNpu

open Go Machine

variable {ω : Type}

/-- The outcome that raises a counter. -/
def Series.outcome : Series → Outcome
  | ioctl k => .ioctl k
  | dropped reason => .dropped reason

/-- What the acts of a run count. -/
def workerOutcomes (deviceMap : DeviceMap)
    (past : List (Transition (WorkerState ω) (WorkerAct ω))) : List Outcome :=
  past.map fun t => t.label.outcome deviceMap t.pre.podMap

theorem Collector.applyAll_concat (c : Collector ω) (os : List Outcome) (o : Outcome) :
    c.applyAll (os ++ [o]) = (c.applyAll os).apply o := by
  rw [applyAll, List.foldl_append]
  rfl

/-- **A run applies the outcomes of its acts**, and changes nothing else in the
collector. -/
theorem WorkerRun.collector_eq {deviceMap : DeviceMap} {s₀ s : WorkerState ω}
    {past : List (Transition (WorkerState ω) (WorkerAct ω))}
    (run : WorkerRun deviceMap s₀ past s) :
    s.collector = s₀.collector.applyAll (workerOutcomes deviceMap past) := by
  induction run with
  | start => rfl
  | @snoc past s act s' run hstep ih =>
      subst hstep
      have hmore : workerOutcomes deviceMap (past ++ [⟨s, act, s.next deviceMap act⟩]) =
          workerOutcomes deviceMap past ++ [act.outcome deviceMap s.podMap] := List.map_append
      rw [WorkerState.next_collector, ih, hmore, Collector.applyAll_concat]

/-- **A counter is the number of its outcomes**, modulo 2^64. -/
theorem Collector.read_applyAll {c : Collector ω} (hfresh : c.Fresh) (os : List Outcome)
    (x : Series) : (c.applyAll os).read x = os.count x.outcome % 2 ^ 64 := by
  rw [applyAll_eq]
  cases x with
  | ioctl k =>
      have hzero : Tally.value c.ioctlTotal k = 0 := by
        rw [hfresh.1]
        rfl
      show Tally.value (Tally.bumps c.ioctlTotal (os.filterMap Outcome.ioctlKey)) k = _
      rw [Tally.value_bumps_mod, hzero, count_ioctlKey, Nat.zero_add, Series.outcome]
  | dropped reason =>
      have hzero : Tally.value c.eventsDroppedTotal reason = 0 := by
        rw [Tally.value, lookup_fresh_dropped hfresh]
        split <;> rfl
      show Tally.value (Tally.bumps c.eventsDroppedTotal (os.filterMap Outcome.dropReason))
        reason = _
      rw [Tally.value_bumps_mod, hzero, count_dropReason, Nat.zero_add, Series.outcome]

/-- So it is after a run that starts with nothing counted. -/
theorem WorkerRun.read_eq {deviceMap : DeviceMap} {s₀ s : WorkerState ω}
    {past : List (Transition (WorkerState ω) (WorkerAct ω))} (hfresh : s₀.collector.Fresh)
    (run : WorkerRun deviceMap s₀ past s) (x : Series) :
    s.collector.read x = (workerOutcomes deviceMap past).count x.outcome % 2 ^ 64 := by
  rw [run.collector_eq, Collector.read_applyAll hfresh]

end KubeNpu

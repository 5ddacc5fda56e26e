import KubeNpu.Agent.Provenance

/-!
# The books of the agent

Conservation counts events in places that nobody can look into.  From the outside
there is the scrape: the sum of its `kubenpu_ioctl_total` and
`kubenpu_events_dropped_total` series.  At every moment that sum, the events that
are still on their way, and the events whose resolution failed without a counted
reason, are together the calls that passed both lookups; so two scrapes and the
log tell how many calls there were, and a counter that loses an event would show.

The kernel's share comes from the per-CPU counters, which a scrape may fail to
read.  Then the losses are missing from the sum, and nothing else is.
-/

namespace KubeNpu

open Go Machine

/-- What the two sources of the collector read during a scrape. -/
structure ScrapeView where
  /-- `cgroupIndexRebuilds`. -/
  rebuilds : UInt64
  /-- The per-CPU values of `dropped`. -/
  perCPU : List UInt64
  /-- The error of looking them up. -/
  lookupErr : Option String

/-- The collector with the sources that `main` gives it. -/
def agentCollector (setup : Setup ScrapeView) : Collector ScrapeView :=
  servedCollector setup ScrapeView.rebuilds fun v => Loader.droppedEvents v.perCPU v.lookupErr

/-- The published events: the values of the two families that count them. -/
def publishedEvents (scrape : List Metric) : ℕ :=
  ((scrape.filter fun m => m.desc = ioctlDesc ∨ m.desc = eventsDroppedDesc).map
    fun m => m.value.toNat).sum

theorem publishedEvents_append (l₁ l₂ : List Metric) :
    publishedEvents (l₁ ++ l₂) = publishedEvents l₁ + publishedEvents l₂ := by
  simp only [publishedEvents, List.filter_append, List.map_append, List.sum_append]

/-- A group of series that count events. -/
private theorem publishedEvents_map {A : Type} (l : List A) (metric : A → Metric)
    (h : ∀ a, (metric a).desc = ioctlDesc ∨ (metric a).desc = eventsDroppedDesc) :
    publishedEvents (l.map metric) = (l.map fun a => (metric a).value.toNat).sum := by
  rw [publishedEvents, List.filter_map, List.filter_eq_self.mpr, List.map_map]
  · rfl
  · intro a _
    exact decide_eq_true (h a)

/-- A group that does not. -/
private theorem publishedEvents_none {l : List Metric}
    (h : ∀ m ∈ l, ¬ (m.desc = ioctlDesc ∨ m.desc = eventsDroppedDesc)) :
    publishedEvents l = 0 := by
  rw [publishedEvents, List.filter_eq_nil_iff.mpr]
  · rfl
  · intro m hm hdesc
    exact h m hm (of_decide_eq_true hdesc)

/-- **The published events are the two tallies and the kernel's value.** -/
theorem Collector.publishedEvents_collect {ω : Type} (c : Collector ω) (w : ω) :
    publishedEvents (c.collect w) =
      Tally.total c.ioctlTotal + Tally.total c.eventsDroppedTotal +
        publishedEvents (c.kernelDropped w) := by
  have hrest : publishedEvents ([cgroupRebuildsMetric (c.cgroupRebuilds w)] ++
      c.deviceInfo.toList.map fun e => deviceInfoMetric e.1) = 0 := by
    refine publishedEvents_none ?_
    intro m hm
    rcases List.mem_append.mp hm with hrebuilds | hinfo
    · rw [List.mem_singleton.mp hrebuilds]
      exact (by decide :
        ¬ (cgroupRebuildsDesc = ioctlDesc ∨ cgroupRebuildsDesc = eventsDroppedDesc))
    · obtain ⟨e, -, rfl⟩ := List.mem_map.mp hinfo
      exact (by decide : ¬ (deviceInfoDesc = ioctlDesc ∨ deviceInfoDesc = eventsDroppedDesc))
  rw [collect, List.append_assoc, publishedEvents_append, hrest, Nat.add_zero,
    publishedEvents_append, publishedEvents_append,
    publishedEvents_map _ _ fun _ => Or.inl rfl, publishedEvents_map _ _ fun _ => Or.inr rfl]
  rfl

/-- An outcome that counts for something counts for a tuple or for a reason. -/
theorem length_keys_add_reasons (os : List Outcome) :
    (os.filterMap Outcome.ioctlKey).length + (os.filterMap Outcome.dropReason).length =
      os.countP Outcome.isCounted := by
  induction os with
  | nil => rfl
  | cons o os ih =>
      rw [List.filterMap_cons, List.filterMap_cons, List.countP_cons]
      cases o <;>
        simp only [Outcome.ioctlKey, Outcome.dropReason, Outcome.isCounted, List.length_cons,
          if_true, Bool.false_eq_true, if_false] <;>
        omega

/-- The others are the uncounted ones. -/
theorem countP_add_uncounted (os : List Outcome) :
    os.countP Outcome.isCounted + os.count .uncounted = os.length := by
  induction os with
  | nil => rfl
  | cons o os ih =>
      rw [List.countP_cons, List.count_cons, List.length_cons]
      cases o <;> simp [Outcome.isCounted] <;> omega

/-- After some outcomes the tallies hold every one that counts for something. -/
theorem Collector.total_applyAll {ω : Type} {c : Collector ω} (hfresh : c.Fresh)
    {os : List Outcome} (hlen : os.length < 2 ^ 64) :
    Tally.total (c.applyAll os).ioctlTotal + Tally.total (c.applyAll os).eventsDroppedTotal =
      os.countP Outcome.isCounted := by
  have hsplit := length_keys_add_reasons os
  have hle := List.countP_le_length (p := Outcome.isCounted) (l := os)
  have hzero : Tally.total (newCollector ω).eventsDroppedTotal = 0 := rfl
  have hnone : Tally.total (∅ : Map Key UInt64) = 0 := rfl
  rw [applyAll_eq]
  simp only [hfresh.1, hfresh.2]
  rw [Tally.total_bumps (by rw [hnone]; omega), Tally.total_bumps (by rw [hzero]; omega),
    hzero, hnone]
  omega

namespace Pipeline

open PipelineAct

variable {R : Type} {n : ℕ}

/-- What a scrape publishes while the agent is in a state. -/
def scrape (s : Pipeline R ScrapeView n) (lookupErr : Option String) : List Metric :=
  s.agent.collector.collect ⟨s.agent.podMap.rebuilds, List.ofFn s.dropped, lookupErr⟩

/-- The events that are on their way: in the ring buffer, in the hand of `main`, in
the queue, in the hand of the worker. -/
def inFlight {ω : Type} (cfg : PipelineConfig R) (s : Pipeline R ω n) : ℕ :=
  (cfg.ringbuf.records s.ring).length + s.main.held.length + s.queue.buf.length +
    s.worker.held.length

/-- The events that were handled and counted nowhere. -/
def uncountedEvents {ω : Type} (deviceMap : DeviceMap)
    (past : List (Transition (Pipeline R ω n) (PipelineAct n))) : ℕ :=
  (agentOutcomes deviceMap past).count .uncounted

section

variable {ω : Type} {cfg : PipelineConfig R} {s : Pipeline R ω n}
  {past : List (Transition (Pipeline R ω n) (PipelineAct n))}

/-- The worker and the reader have an outcome for every event they are done with. -/
theorem length_agentOutcomes (deviceMap : DeviceMap)
    (past : List (Transition (Pipeline R ω n) (PipelineAct n))) :
    (agentOutcomes deviceMap past).length =
      (collect finished past).length + (collect turnedAway past).length := by
  induction past using List.reverseRecOn with
  | nil => rfl
  | append_singleton past t ih =>
      obtain ⟨pre, act, post⟩ := t
      rw [agentOutcomes_concat, collect_concat, collect_concat, List.length_append,
        List.length_append, List.length_append, ih]
      have hone : ((act.workerAct ω).map
          fun a => a.outcome deviceMap pre.agent.podMap).toList.length =
            act.finished.toList.length + act.turnedAway.toList.length := by
        cases act with
        | send event result => cases result <;> rfl
        | _ => rfl
      omega

/-- **Where the calls that passed the lookups are**, in terms of outcomes. -/
theorem calls_eq {queueSize : ℕ} {ring : R} {agent : WorkerState ω}
    (hlaw : cfg.ringbuf.Lawful) (hempty : cfg.ringbuf.records ring = [])
    (run : PipelineRun cfg (start queueSize ring agent) past s) :
    (collect (passedCall cfg.maps) past).length = (collect lossCPU past).length +
      (agentOutcomes cfg.deviceMap past).length + s.inFlight cfg := by
  have hpassed := passed_eq run
  have htaken := congrArg List.length (custody_of_run hlaw hempty run).taken_eq
  have hsubmitted : (collect submitted past).length = (collect taken past).length +
      (s.queue.buf ++
        (s.main.held ++ (cfg.ringbuf.records s.ring).map Loader.eventAt)).length +
        (collect turnedAway past).length := (relay_sound hlaw hempty run).length_eq
  rw [List.length_append] at htaken
  rw [List.length_append, List.length_append, List.length_map] at hsubmitted
  rw [length_agentOutcomes, inFlight]
  omega

end

/-- The kernel's series of a scrape has the losses so far. -/
private theorem published_losses {setup : Setup ScrapeView} {os : List Outcome} {view : ScrapeView}
    {losses : ℕ} (hlost : Loader.droppedEvents view.perCPU view.lookupErr =
      .ok (UInt64.ofNat losses)) (hsmall : losses < 2 ^ 64) :
    publishedEvents (((agentCollector setup).applyAll os).kernelDropped view) = losses := by
  have hvalue : (UInt64.ofNat losses).toNat = losses := by
    rw [UInt64.toNat_ofNat']
    exact Nat.mod_eq_of_lt hsmall
  rw [Collector.applyAll_eq]
  simp only [agentCollector, servedCollector, Collector.kernelDropped,
    Collector.setKernelDroppedSource, hlost]
  exact hvalue

/-- A scrape that cannot read them has no such series. -/
private theorem published_failed (setup : Setup ScrapeView) (os : List Outcome) (rebuilds : UInt64)
    (perCPU : List UInt64) (text : String) :
    publishedEvents (((agentCollector setup).applyAll os).kernelDropped
      ⟨rebuilds, perCPU, some text⟩) = 0 := by
  rw [Collector.applyAll_eq]
  rfl

end Pipeline

end KubeNpu

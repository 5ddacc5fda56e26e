import KubeNpu.Agent.Worker
import KubeNpu.Machine.Run

/-!
# Every event is accounted for once, unless its resolution is uncounted

The worker counts an event under a label tuple or under a drop reason; an error
that carries no sentinel is logged and counted nowhere.  `Attributable` says, in
terms of the pod map before the call and of the world during it, when no such
error can come up, and `outcomeOf_uncounted_iff` shows that it says so exactly.

`workerTotal` is what the published totals of the worker add up to.  One
iteration raises it by one or not at all (`workerTotal_apply`), so along a run
it falls behind the number of handled events by exactly the uncounted ones.
-/

namespace KubeNpu

open Go Machine

/-! ## When a resolution is counted -/

/-- A path that the worker can count: it is no Kubernetes path at all, or it
parses and the runtime says something about its container. -/
def PathCounted (p : PodMap) (path : String) (env : CallEnv) : Prop :=
  Strings.contains path "kubepods" = false ∨
    ∃ ids, parseCgroupPath path = .ok ids ∧
      ¬ CRIClient.Unanswered
        (env.containerStatus p.cri.criTimeout (CRIClient.statusRequest ids.containerID))

/-- A cgroup ID that `ContainerInfo` names or rejects with a counted sentinel: it
is not 0, and either a young cache entry answers or the path it has in the
consulted index, if any, can be counted. -/
def Attributable (p : PodMap) (cgroupID : UInt64) (env : CallEnv) : Prop :=
  cgroupID ≠ 0 ∧
    ((p.freshEntry cgroupID env.cacheCheck).isSome = true ∨
      ∀ path, (p.consulted cgroupID env).index.byInode.lookup cgroupID = some path →
        PathCounted p path env)

/-- An event is counted if its device is unknown or its cgroup attributable. -/
def Counted (deviceMap : DeviceMap) (p : PodMap) (event : Event) (env : CallEnv) : Prop :=
  deviceMap.lookup event.node = none ∨ Attributable p event.cgroupID env

theorem reasonOf_eq_none_iff {err : Err} :
    reasonOf err = none ↔ err.is .errNotPod = false ∧ err.is .errNotIndexed = false ∧
      err.is .errContainerNotFound = false := by
  unfold reasonOf
  by_cases hpod : err.is .errNotPod = true
  · simp [hpod]
  · by_cases hidx : err.is .errNotIndexed = true
    · simp [hpod, hidx]
    · by_cases hfound : err.is .errContainerNotFound = true <;> simp [hpod, hidx, hfound]

/-- An error without a sentinel has no reason. -/
theorem reasonOf_of_no_sentinel {err : Err} (h : ∀ s, err.is s = false) : reasonOf err = none :=
  reasonOf_eq_none_iff.mpr ⟨h _, h _, h _⟩

theorem reasonOf_congr {err inner : Err} (h : ∀ s, err.is s = inner.is s) :
    reasonOf err = reasonOf inner := by
  simp only [reasonOf, h]

/-- A path that does not parse is counted exactly when it is no Kubernetes path. -/
private theorem reasonOf_parse_error {p : PodMap} {path : String} {inner : Err} {env : CallEnv}
    (h : parseCgroupPath path = .error inner) :
    reasonOf inner ≠ none ↔ PathCounted p path env := by
  have hsentinel := parseCgroupPath_error h
  constructor
  · intro hreason
    refine Or.inl (by_contra fun hsub => hreason (reasonOf_of_no_sentinel fun s => ?_))
    exact Bool.eq_false_iff.mpr fun hs => hsub ((hsentinel s).mp hs).2
  · rintro (hsub | ⟨ids, hok, -⟩) hnone
    · have hpod := (hsentinel .errNotPod).mpr ⟨rfl, hsub⟩
      rw [(reasonOf_eq_none_iff.mp hnone).1] at hpod
      cases hpod
    · rw [h] at hok
      cases hok

/-- A parsed path is counted exactly when the runtime answers. -/
private theorem pathCounted_of_parse {p : PodMap} {path : String} {ids : ToIDs} {env : CallEnv}
    (h : parseCgroupPath path = .ok ids) :
    PathCounted p path env ↔
      ¬ CRIClient.Unanswered
        (env.containerStatus p.cri.criTimeout (CRIClient.statusRequest ids.containerID)) := by
  constructor
  · rintro (hsub | ⟨ids', hok, hanswer⟩)
    · rw [(parseCgroupPath_ok h).1] at hsub
      cases hsub
    · rw [h] at hok
      cases hok
      exact hanswer
  · exact fun hanswer => Or.inr ⟨ids, h, hanswer⟩

/-- For a miss, attributability is about the path in the consulted index. -/
private theorem attributable_of_miss {p : PodMap} {cgroupID : UInt64} {env : CallEnv}
    {path : String} (hid : cgroupID ≠ 0) (hmiss : p.freshEntry cgroupID env.cacheCheck = none)
    (hpath : (p.consulted cgroupID env).index.byInode.lookup cgroupID = some path) :
    Attributable p cgroupID env ↔ PathCounted p path env := by
  constructor
  · rintro ⟨-, hfresh | hall⟩
    · rw [hmiss] at hfresh
      cases hfresh
    · exact hall path hpath
  · intro h
    refine ⟨hid, Or.inr ?_⟩
    intro path' hpath'
    rw [hpath] at hpath'
    cases hpath'
    exact h

/-- **An answer of the pod map is counted exactly when the cgroup is
attributable.** -/
theorem attributable_iff (p : PodMap) (cgroupID : UInt64) (env : CallEnv) :
    Attributable p cgroupID env ↔
      ∀ err, (p.containerInfo cgroupID env).1 = .error err → reasonOf err ≠ none := by
  have hexit := p.containerInfo_exit cgroupID env
  generalize (p.containerInfo cgroupID env).1 = result at hexit ⊢
  generalize (p.containerInfo cgroupID env).2 = q at hexit
  cases hexit with
  | emptyID hid hnone =>
      constructor
      · exact fun h => absurd hid h.1
      · exact fun h => absurd (reasonOf_of_no_sentinel hnone) (h _ rfl)
  | hit hid hfresh =>
      constructor
      · intro _ err herr
        cases herr
      · intro _
        exact ⟨hid, Or.inl (by rw [hfresh]; rfl)⟩
  | @notIndexed err hid hmiss habsent hidx =>
      constructor
      · rintro - err' ⟨⟩ hnone
        rw [(reasonOf_eq_none_iff.mp hnone).2.1] at hidx
        cases hidx
      · intro _
        refine ⟨hid, Or.inr ?_⟩
        intro path hpath
        rw [AList.lookup_eq_none.mpr habsent] at hpath
        cases hpath
  | @notParsed path inner err hid hmiss hpath hparse hsame =>
      rw [attributable_of_miss hid hmiss hpath, ← reasonOf_parse_error hparse]
      constructor
      · rintro h err' ⟨⟩
        rwa [reasonOf_congr hsame]
      · intro h
        rw [← reasonOf_congr hsame]
        exact h _ rfl
  -- the runtime's reply decides: not-found and missing labels have a reason,
  -- a failed call and an empty status have none
  | @notNamed path ids inner err hid hmiss hpath hparse hnames hsame =>
      rw [attributable_of_miss hid hmiss hpath, pathCounted_of_parse hparse]
      have hcase := CRIClient.containerNames_error (parseCgroupPath_ok hparse).2 hnames
      constructor
      · rintro hanswer err' ⟨⟩ hnone
        rw [reasonOf_congr hsame, reasonOf_eq_none_iff] at hnone
        rcases hcase with ⟨hun, -⟩ | ⟨-, hfound | hpod⟩
        · exact hanswer hun
        · rw [hnone.2.2] at hfound
          cases hfound
        · rw [hnone.1] at hpod
          cases hpod
      · rintro h hun
        rcases hcase with ⟨-, hnone⟩ | ⟨hanswer, -⟩
        · exact h _ rfl (by rw [reasonOf_congr hsame]; exact reasonOf_of_no_sentinel hnone)
        · exact hanswer hun
  | @named path ids info hid hmiss hpath hparse hnames =>
      rw [attributable_of_miss hid hmiss hpath, pathCounted_of_parse hparse]
      constructor
      · intro _ err herr
        cases herr
      · intro _
        exact CRIClient.containerNames_ok_answered hnames

/-- An iteration counts nothing exactly when its event is not `Counted`. -/
theorem outcomeOf_uncounted_iff (deviceMap : DeviceMap) (p : PodMap) (event : Event)
    (env : CallEnv) :
    outcomeOf deviceMap event (p.containerInfo event.cgroupID env).1 = .uncounted ↔
      ¬ Counted deviceMap p event env := by
  unfold Counted outcomeOf
  rw [attributable_iff]
  cases deviceMap.lookup event.node with
  | none => simp
  | some device =>
      cases hresult : (p.containerInfo event.cgroupID env).1 with
      | ok cI => simp
      | error err => cases hreason : reasonOf err <;> simp [hreason]

/-! ## The totals of the worker -/

/-- A counter of the collector. -/
inductive Series where
  | ioctl (k : Key)
  | dropped (reason : String)
  deriving DecidableEq

namespace Collector

variable {ω : Type}

/-- The value of a counter. -/
def read (c : Collector ω) : Series → ℕ
  | .ioctl k => Tally.value c.ioctlTotal k
  | .dropped reason => Tally.value c.eventsDroppedTotal reason

/-- The sum of all `ioctlTotal` values and of the worker's drop reasons. -/
def workerTotal (c : Collector ω) : ℕ :=
  Tally.total c.ioctlTotal +
    (workerReasons.map fun reason => Tally.value c.eventsDroppedTotal reason).sum

/-- Exactly one counter goes up, by exactly one. -/
def RaisesOne (c c' : Collector ω) : Prop :=
  ∃ x, c'.read x = c.read x + 1 ∧ ∀ y, y ≠ x → c'.read y = c.read y

/-- Nothing has been counted yet: the counters are those of `newCollector`. -/
def Fresh (c : Collector ω) : Prop :=
  c.ioctlTotal = ∅ ∧ c.eventsDroppedTotal = (newCollector ω).eventsDroppedTotal

theorem fresh_newCollector : (newCollector ω).Fresh := ⟨rfl, rfl⟩

theorem workerTotal_of_fresh {c : Collector ω} (h : c.Fresh) : c.workerTotal = 0 := by
  rw [workerTotal, h.1, h.2]
  rfl

/-- What an outcome adds to the worker's totals. -/
def weight : Outcome → ℕ
  | .ioctl _ => 1
  | .dropped reason => if reason ∈ workerReasons then 1 else 0
  | .uncounted => 0

/-- One more drop raises the sum over the reasons by one if the reason is summed. -/
private theorem sum_value_bump {m : Map String UInt64} {reason : String} {reasons : List String}
    (hnodup : reasons.Nodup) (h : reason ∈ reasons → Tally.value m reason + 1 < 2 ^ 64) :
    (reasons.map fun r => Tally.value (Tally.bump m reason) r).sum =
      (reasons.map fun r => Tally.value m r).sum + if reason ∈ reasons then 1 else 0 := by
  induction reasons with
  | nil => rfl
  | cons r reasons ih =>
      rw [List.nodup_cons] at hnodup
      rw [List.map_cons, List.sum_cons, List.map_cons, List.sum_cons,
        ih hnodup.2 fun hmem => h (List.mem_cons_of_mem r hmem)]
      by_cases hr : r = reason
      · subst hr
        rw [Tally.value_bump_self (h List.mem_cons_self), if_neg hnodup.1,
          if_pos List.mem_cons_self]
        omega
      · have hiff : reason ∈ r :: reasons ↔ reason ∈ reasons := by
          rw [List.mem_cons]
          exact or_iff_right (Ne.symm hr)
        rw [Tally.value_bump_ne m hr]
        simp only [hiff]
        omega

private theorem value_le_sum {m : Map String UInt64} {reason : String} {reasons : List String}
    (h : reason ∈ reasons) :
    Tally.value m reason ≤ (reasons.map fun r => Tally.value m r).sum :=
  List.single_le_sum (fun _ _ => Nat.zero_le _) _ (List.mem_map.mpr ⟨reason, h, rfl⟩)

theorem read_ioctl_le_workerTotal (c : Collector ω) (k : Key) :
    c.read (.ioctl k) ≤ c.workerTotal :=
  (Tally.value_le_total _ k).trans (Nat.le_add_right _ _)

theorem read_dropped_le_workerTotal (c : Collector ω) {reason : String}
    (h : reason ∈ workerReasons) : c.read (.dropped reason) ≤ c.workerTotal :=
  (value_le_sum h).trans (Nat.le_add_left _ _)

/-- **One operation raises the worker's totals by its weight.** -/
theorem workerTotal_apply {c : Collector ω} {o : Outcome}
    (h : c.workerTotal + weight o < 2 ^ 64) :
    (c.apply o).workerTotal = c.workerTotal + weight o := by
  cases o with
  | ioctl k =>
      have hk := read_ioctl_le_workerTotal c k
      have htotal := Tally.total_bump (m := c.ioctlTotal) (k := k)
        (lt_of_le_of_lt (Nat.succ_le_succ hk) h)
      simp only [apply, workerTotal, incIoctl_ioctlTotal, incIoctl_eventsDroppedTotal, htotal,
        weight]
      omega
  | dropped reason =>
      have hroom : reason ∈ workerReasons →
          Tally.value c.eventsDroppedTotal reason + 1 < 2 ^ 64 := by
        intro hmem
        have hle := read_dropped_le_workerTotal c hmem
        rw [weight, if_pos hmem] at h
        exact lt_of_le_of_lt (Nat.succ_le_succ hle) h
      have hsum := sum_value_bump (by decide) hroom
      simp only [apply, workerTotal, incEventsDropped_ioctlTotal,
        incEventsDropped_eventsDroppedTotal, hsum, weight]
      omega
  | uncounted => rfl

/-- A counted outcome raises one counter. -/
theorem raisesOne_ioctl {c : Collector ω} {k : Key} (h : c.workerTotal + 1 < 2 ^ 64) :
    RaisesOne c (c.apply (.ioctl k)) := by
  have hk := read_ioctl_le_workerTotal c k
  refine ⟨.ioctl k, Tally.value_bump_self (lt_of_le_of_lt (Nat.succ_le_succ hk) h), ?_⟩
  intro y hy
  cases y with
  | ioctl j => exact Tally.value_bump_ne _ fun hj => hy (by rw [hj])
  | dropped reason => rfl

theorem raisesOne_dropped {c : Collector ω} {reason : String} (hreason : reason ∈ workerReasons)
    (h : c.workerTotal + 1 < 2 ^ 64) : RaisesOne c (c.apply (.dropped reason)) := by
  have hr := read_dropped_le_workerTotal c hreason
  refine ⟨.dropped reason, Tally.value_bump_self (lt_of_le_of_lt (Nat.succ_le_succ hr) h), ?_⟩
  intro y hy
  cases y with
  | ioctl k => rfl
  | dropped r => exact Tally.value_bump_ne _ fun heq => hy (by rw [heq])

/-- An uncounted outcome raises none. -/
theorem not_raisesOne_uncounted (c : Collector ω) : ¬ RaisesOne c (c.apply .uncounted) := by
  rintro ⟨x, hx, -⟩
  exact absurd hx (Nat.ne_of_lt (Nat.lt_succ_self _))

end Collector

/-! ## Runs of the worker -/

/-- What happens around the worker: it handles an event, the reader drops one, or
the metrics server scrapes. -/
inductive WorkerAct (ω : Type) where
  | event (event : Event) (env : CallEnv)
  | queueFull
  | scrape (w : ω)

namespace WorkerAct

variable {ω : Type}

/-- The act is an iteration of the worker loop. -/
def isEvent : WorkerAct ω → Bool
  | event _ _ => true
  | queueFull => false
  | scrape _ => false

/-- What the act counts, for a pod map before it. -/
def outcome (deviceMap : DeviceMap) (p : PodMap) : WorkerAct ω → Outcome
  | event e env => outcomeOf deviceMap e (p.containerInfo e.cgroupID env).1
  | queueFull => .dropped reasonQueueFull
  | scrape _ => .uncounted

end WorkerAct

variable {ω : Type}

/-- The state after an act. -/
def WorkerState.next (deviceMap : DeviceMap) (s : WorkerState ω) : WorkerAct ω → WorkerState ω
  | .event e env => handleEvent deviceMap s e env
  | .queueFull => { s with collector := s.collector.incEventsDropped reasonQueueFull }
  | .scrape _ => s

theorem WorkerState.next_collector (deviceMap : DeviceMap) (s : WorkerState ω)
    (act : WorkerAct ω) :
    (s.next deviceMap act).collector =
      s.collector.apply (act.outcome deviceMap s.podMap) := by
  cases act with
  | event e env => exact (handleEvent_collector deviceMap s e env).trans (countEvent_eq _ _ _ _)
  | queueFull => rfl
  | scrape w => rfl

/-- A run of the agent, seen from the worker and the collector. -/
abbrev WorkerRun (deviceMap : DeviceMap) (s₀ : WorkerState ω)
    (past : List (Transition (WorkerState ω) (WorkerAct ω))) (s : WorkerState ω) : Prop :=
  Run (fun s act s' => s' = s.next deviceMap act) s₀ past s

/-- The number of events the worker has finished handling. -/
def handled (past : List (Transition (WorkerState ω) (WorkerAct ω))) : ℕ :=
  past.countP fun t => t.label.isEvent

/-- The number of them that were counted nowhere. -/
def uncounted (deviceMap : DeviceMap)
    (past : List (Transition (WorkerState ω) (WorkerAct ω))) : ℕ :=
  past.countP fun t =>
    t.label.isEvent && decide (t.label.outcome deviceMap t.pre.podMap = .uncounted)

/-- Every iteration so far raised exactly one counter by one, and the totals are
the number of handled events. -/
def Accounted (past : List (Transition (WorkerState ω) (WorkerAct ω))) (s : WorkerState ω) :
    Prop :=
  s.collector.workerTotal = handled past ∧
    ∀ t ∈ past, t.label.isEvent = true → Collector.RaisesOne t.pre.collector t.post.collector

/-- The weight of an act: one for an event unless it is uncounted. -/
private theorem weight_outcome (deviceMap : DeviceMap) (p : PodMap) (act : WorkerAct ω) :
    Collector.weight (act.outcome deviceMap p) +
        (if (act.isEvent && decide (act.outcome deviceMap p = .uncounted)) = true then 1 else 0) =
      if act.isEvent = true then 1 else 0 := by
  cases act with
  | queueFull => rfl
  | scrape w => rfl
  | event e env =>
      cases ho : outcomeOf deviceMap e (p.containerInfo e.cgroupID env).1 with
      | ioctl k => simp [WorkerAct.isEvent, WorkerAct.outcome, ho, Collector.weight]
      | dropped reason =>
          simp [WorkerAct.isEvent, WorkerAct.outcome, ho, Collector.weight,
            outcomeOf_dropped_mem ho]
      | uncounted => simp [WorkerAct.isEvent, WorkerAct.outcome, ho, Collector.weight]

/-- **Along a run the totals fall behind by the uncounted events, exactly.** -/
theorem workerTotal_add_uncounted {deviceMap : DeviceMap} {s₀ s : WorkerState ω}
    {past : List (Transition (WorkerState ω) (WorkerAct ω))} (hfresh : s₀.collector.Fresh)
    (run : WorkerRun deviceMap s₀ past s) (hlen : handled past < 2 ^ 64) :
    s.collector.workerTotal + uncounted deviceMap past = handled past := by
  induction run with
  | start => exact Collector.workerTotal_of_fresh hfresh
  | @snoc past s act s' run hstep ih =>
      subst hstep
      have hweight := weight_outcome deviceMap s.podMap act
      simp only [handled, uncounted, List.countP_append, List.countP_singleton] at hlen ih ⊢
      have hprev := ih (by omega)
      rw [WorkerState.next_collector, Collector.workerTotal_apply (by omega)]
      omega

/-- An event that is counted raises one counter; one that is not raises none. -/
theorem raisesOne_iff_counted {deviceMap : DeviceMap} {s : WorkerState ω} (e : Event)
    (env : CallEnv) (h : s.collector.workerTotal + 1 < 2 ^ 64) :
    Collector.RaisesOne s.collector (s.next deviceMap (.event e env)).collector ↔
      Counted deviceMap s.podMap e env := by
  have huncounted := outcomeOf_uncounted_iff deviceMap s.podMap e env
  rw [WorkerState.next_collector]
  show Collector.RaisesOne s.collector (s.collector.apply
    (outcomeOf deviceMap e (s.podMap.containerInfo e.cgroupID env).1)) ↔ _
  cases ho : outcomeOf deviceMap e (s.podMap.containerInfo e.cgroupID env).1 with
  | ioctl k =>
      rw [ho] at huncounted
      have hcounted : Counted deviceMap s.podMap e env :=
        not_not.mp (huncounted.not.mp Outcome.noConfusion)
      exact iff_of_true (Collector.raisesOne_ioctl h) hcounted
  | dropped reason =>
      rw [ho] at huncounted
      have hcounted : Counted deviceMap s.podMap e env :=
        not_not.mp (huncounted.not.mp Outcome.noConfusion)
      exact iff_of_true (Collector.raisesOne_dropped (outcomeOf_dropped_mem ho) h) hcounted
  | uncounted => exact iff_of_false (Collector.not_raisesOne_uncounted _) (huncounted.mp ho)

/-- The same, for an event in the past of a run. -/
private theorem raisesOne_mem_iff {deviceMap : DeviceMap} {s₀ s : WorkerState ω}
    {past : List (Transition (WorkerState ω) (WorkerAct ω))} (hfresh : s₀.collector.Fresh)
    (run : WorkerRun deviceMap s₀ past s) (hlen : handled past < 2 ^ 64)
    {t : Transition (WorkerState ω) (WorkerAct ω)} (ht : t ∈ past) {e : Event} {env : CallEnv}
    (hlabel : t.label = .event e env) :
    Collector.RaisesOne t.pre.collector t.post.collector ↔
      Counted deviceMap t.pre.podMap e env := by
  obtain ⟨before, after, rfl, hbefore, hstep⟩ := run.of_mem ht
  -- the totals had room for one more when the event was handled
  have hcount : handled before + 1 ≤ handled (before ++ t :: after) := by
    have hevent : t.label.isEvent = true := by rw [hlabel]; rfl
    simp only [handled, List.countP_append, List.countP_cons, hevent, if_true]
    omega
  have htotal := workerTotal_add_uncounted hfresh hbefore (by omega)
  rw [hstep, hlabel]
  exact raisesOne_iff_counted e env (by omega)

/-- **The worker accounts for every event exactly when every event is counted.**
In a run of fewer than 2^64 events, every state reached so far has each event in
exactly one counter if and only if each event came from an unknown device or
from an attributable cgroup. -/
theorem accounted_iff_counted {deviceMap : DeviceMap} {s₀ s : WorkerState ω}
    {past : List (Transition (WorkerState ω) (WorkerAct ω))} (hfresh : s₀.collector.Fresh)
    (run : WorkerRun deviceMap s₀ past s) (hlen : handled past < 2 ^ 64) :
    (∀ before s', before <+: past → WorkerRun deviceMap s₀ before s' → Accounted before s') ↔
      ∀ t ∈ past, ∀ e env, t.label = .event e env → Counted deviceMap t.pre.podMap e env := by
  constructor
  · intro hall t ht e env hlabel
    refine (raisesOne_mem_iff hfresh run hlen ht hlabel).mp ?_
    exact (hall past s List.prefix_rfl run).2 t ht (by rw [hlabel]; rfl)
  · intro hcounted before s' hinit hbefore
    have hlen' : handled before < 2 ^ 64 := (hinit.sublist.countP_le).trans_lt hlen
    -- with nothing uncounted the totals cannot fall behind
    have hnone : uncounted deviceMap before = 0 := by
      refine List.countP_eq_zero.mpr ?_
      intro t ht hun
      rw [Bool.and_eq_true, decide_eq_true_eq] at hun
      cases hlabel : t.label with
      | event e env =>
          rw [hlabel, WorkerAct.outcome, outcomeOf_uncounted_iff] at hun
          exact hun.2 (hcounted t (hinit.subset ht) e env hlabel)
      | queueFull => rw [hlabel] at hun; cases hun.1
      | scrape w => rw [hlabel] at hun; cases hun.1
    refine ⟨?_, ?_⟩
    · have htotal := workerTotal_add_uncounted hfresh hbefore hlen'
      omega
    · intro t ht hevent
      cases hlabel : t.label with
      | event e env =>
          refine (raisesOne_mem_iff hfresh hbefore hlen' ht hlabel).mpr ?_
          exact hcounted t (hinit.subset ht) e env hlabel
      | queueFull => rw [hlabel] at hevent; cases hevent
      | scrape w => rw [hlabel] at hevent; cases hevent

/-- One event whose container the runtime does not answer for in time. -/
def timedOut : Transition (WorkerState Unit) (WorkerAct Unit) :=
  let act : WorkerAct Unit :=
    .event podEvent (callAt ⟨0⟩ (.failed .deadlineExceeded "context deadline exceeded"))
  ⟨startState Unit, act, (startState Unit).next gpuMap act⟩

/-- One event of a container that the runtime names. -/
def attributed : Transition (WorkerState Unit) (WorkerAct Unit) :=
  let act : WorkerAct Unit := .event podEvent (callAt ⟨0⟩ (labelled "default" "web" "app"))
  ⟨startState Unit, act, (startState Unit).next gpuMap act⟩

/-- A run in which every event is counted. -/
theorem accounted_attributed :
    (∀ before s', before <+: [attributed] → WorkerRun gpuMap (startState Unit) before s' →
        Accounted before s') ↔
      ∀ t ∈ [attributed], ∀ e env, t.label = .event e env →
        Counted gpuMap t.pre.podMap e env :=
  accounted_iff_counted Collector.fresh_newCollector (.snoc .start rfl) (by decide)

set_option maxRecDepth 4000 in
/-- **A timeout of the runtime loses an event**: right after the start it is
handled, and no total has it. -/
theorem not_accounted_timedOut :
    newPodMap "/cgroup" "/cri.sock" (seconds 5) (seconds 5) (seconds 60)
        ⟨onePodFS, ⟨0⟩, ⟨none, none⟩⟩ = .ok (startState Unit).podMap ∧
      WorkerRun gpuMap (startState Unit) [timedOut] timedOut.post ∧ handled [timedOut] = 1 ∧
      timedOut.post.collector.workerTotal = 0 ∧ ¬ Accounted [timedOut] timedOut.post := by
  have htotal : timedOut.post.collector.workerTotal = 0 := by decide
  refine ⟨newPodMap_onePod, .snoc .start rfl, rfl, htotal, ?_⟩
  intro h
  have hone : timedOut.post.collector.workerTotal = 1 := h.1
  omega

end KubeNpu

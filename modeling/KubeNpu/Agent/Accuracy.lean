import KubeNpu.Agent.Ledger
import KubeNpu.Agent.StableWorld

/-!
# How far a counter can be off

A counter of the agent stands for calls: those of the containers of one name, on one
device, of one kind.  Which calls these are can be said without the agent, as long as
the world does not change.  The vendor tables give a call its origin, and a walk of the
cgroup tree and a question to the runtime give the container of its cgroup.

`dueCalls` counts them.  A counter never has more, and what it misses is accounted for:
the call was lost in the kernel, or its event was turned away at the queue, or is still
on its way.  The agent publishes the numbers of the first two, so a scrape bounds its
own error, series by series.
-/

namespace KubeNpu

open Go Machine

/-! ## What a call is due -/

/-- Each outcome of a series raises that one. -/
theorem outcome_injective : Function.Injective Series.outcome := by
  intro x y h
  cases x <;> cases y <;> cases h <;> rfl

/-- What an event of an origin counts for when the pod map gives an answer. -/
def Origin.outcome (o : Origin) : Except Err ContainerInfo → Outcome
  | .ok cI => .ioctl ⟨cI.ns, cI.podName, cI.containerName, o.device, o.vendor, o.kind⟩
  | .error err => (reasonOf err).elim .uncounted .dropped

/-- What a call of an origin is due in a world with these plain answers. -/
def Origin.due (answer : UInt64 → Except Err ContainerInfo) (o : Origin) : Outcome :=
  o.outcome (answer o.cgroupID)

/-- The worker counts an event by its origin and the answer of the pod map. -/
theorem outcomeOf_of_origin {deviceMap : DeviceMap} {event : Event} {o : Origin}
    (h : event.origin deviceMap = some o) (result : Except Err ContainerInfo) :
    outcomeOf deviceMap event result = o.outcome result ∧ o.cgroupID = event.cgroupID := by
  obtain ⟨device, hdevice, rfl⟩ := Option.map_eq_some_iff.mp h
  refine ⟨?_, rfl⟩
  simp only [outcomeOf, hdevice]
  cases result <;> rfl

namespace PipelineAct

variable {n : ℕ}

/-- The call of an execution of the program. -/
def madeCall : PipelineAct n → Option Bpf.IoctlCall
  | hook _ call _ => some call
  | _ => none

/-- The call of an execution that finds no room. -/
def lostCall : PipelineAct n → Option Bpf.IoctlCall
  | hook _ call .lost => some call
  | _ => none

/-- The step asks the pod map, if at all, in these surroundings. -/
def In (w : Surroundings) : PipelineAct n → Prop
  | handle _ env => env.In w
  | _ => True

end PipelineAct

namespace Pipeline

open PipelineAct

variable {R ω : Type} {n : ℕ}

/-- The calls of a history that belong to a series. -/
def dueCalls (registered : Registry) (devices : List Device)
    (answer : UInt64 → Except Err ContainerInfo)
    (past : List (Transition (Pipeline R ω n) (PipelineAct n))) (x : Series) : ℕ :=
  (collect madeCall past).countP fun call =>
    (call.origin registered devices).map (Origin.due answer) = some x.outcome

/-! ## From the calls to the events -/

section Calls

variable {registered : Registry} {devices : List Device} {setup : Setup ω} {rb : Ringbuf R}
  {s₀ s s' : Pipeline R ω n} {past : List (Transition (Pipeline R ω n) (PipelineAct n))}
  (hnames : (registered.map Vendor.name).Nodup) (hlen : registered.length ≤ 2 ^ 32)
  (hok : setupDevices registered devices (Setup.start ω) = .ok setup)

include hnames hlen hok

/-- A call that the program passes over has no origin. -/
theorem origin_of_passed {call : Bpf.IoctlCall} {reserved : Bool}
    (h : Bpf.kubenpuIoctl setup.maps call reserved = .passed) :
    call.origin registered devices = none := by
  have hkind : Bpf.filterKind setup.maps call = none := by
    unfold Bpf.kubenpuIoctl at h
    cases hkind : Bpf.filterKind setup.maps call with
    | none => rfl
    | some kind =>
        rw [hkind] at h
        cases reserved <;> cases h
  rw [filterKind_of_setup hnames hlen hok] at hkind
  rw [Bpf.IoctlCall.origin]
  cases howner : owner registered devices call.major call.minor with
  | none => rfl
  | some p =>
      rw [howner, Option.bind_some] at hkind
      rw [Option.bind_some, hkind]
      rfl

/-- Along a run, the calls of an origin are lost or submitted. -/
theorem countP_madeCall (run : PipelineRun ⟨rb, setup.maps, setup.deviceMap⟩ s₀ past s)
    {q : Option Origin → Bool} (hq : q none = false) :
    (collect madeCall past).countP (fun call => q (call.origin registered devices)) =
      (collect lostCall past).countP (fun call => q (call.origin registered devices)) +
        (collect submittedCall past).countP
          (fun call => q (call.origin registered devices)) := by
  induction run with
  | start => rfl
  | @snoc past s act s' run hstep ih =>
      simp only [collect_concat, List.countP_append, ih]
      cases hstep with
      | hook running cpu call result ran =>
          cases result with
          | passed =>
              have hnone := origin_of_passed hnames hlen hok ran
              simp [madeCall, lostCall, submittedCall, hnone, hq]
          | lost =>
              simp only [madeCall, lostCall, submittedCall, Option.toList_some,
                Option.toList_none, List.countP_nil]
              omega
          | submitted e =>
              simp only [madeCall, lostCall, submittedCall, Option.toList_some,
                Option.toList_none, List.countP_nil]
              omega
      | _ => rfl

/-- The submitted calls of an origin are the submitted events of it. -/
theorem countP_submittedCall (run : PipelineRun ⟨rb, setup.maps, setup.deviceMap⟩ s₀ past s)
    (q : Option Origin → Bool) :
    (collect submittedCall past).countP (fun call => q (call.origin registered devices)) =
      (collect submitted past).countP (fun event => q (event.origin setup.deviceMap)) := by
  have hsame := congrArg (List.countP q) (origins_submitted hnames hlen hok run).1
  rw [List.countP_map, List.countP_map] at hsame
  exact hsame

end Calls

/-! ## From the events to the counters -/

/-- The events on their way, the next to be handled first. -/
def eventsInFlight (cfg : PipelineConfig R) (s : Pipeline R ω n) : List Event :=
  s.worker.held ++ (s.queue.buf ++
    (s.main.held ++ (cfg.ringbuf.records s.ring).map Loader.eventAt))

theorem length_eventsInFlight (cfg : PipelineConfig R) (s : Pipeline R ω n) :
    (s.eventsInFlight cfg).length = s.inFlight cfg := by
  simp only [eventsInFlight, inFlight, List.length_append, List.length_map]
  omega

section Events

variable {cfg : PipelineConfig R} {s₀ s : Pipeline R ω n} {w : Surroundings}
  {past : List (Transition (Pipeline R ω n) (PipelineAct n))}

/-- The submitted events of a kind were handled or turned away, or are on their way. -/
theorem countP_submitted {queueSize : ℕ} {ring : R} {agent : WorkerState ω}
    (hlaw : cfg.ringbuf.Lawful) (hempty : cfg.ringbuf.records ring = [])
    (run : PipelineRun cfg (start queueSize ring agent) past s) (p : Event → Bool) :
    (collect submitted past).countP p =
      (collect finished past).countP p + (collect turnedAway past).countP p +
        (s.eventsInFlight cfg).countP p := by
  have hline : (collect submitted past).countP p = (collect taken past).countP p +
      (s.queue.buf ++
        (s.main.held ++ (cfg.ringbuf.records s.ring).map Loader.eventAt)).countP p +
      (collect turnedAway past).countP p := (relay_sound hlaw hempty run).countP_eq p
  rw [(custody_of_run hlaw hempty run).taken_eq, List.countP_append] at hline
  rw [eventsInFlight, List.countP_append, hline]
  omega

/-- In a world that does not change, the labels of a run fix what the agent counts. -/
theorem agentOutcomes_eq (hsettled : s₀.agent.podMap.Settled w)
    (run : PipelineRun cfg s₀ past s) (hin : ∀ t ∈ past, t.label.In w) :
    agentOutcomes cfg.deviceMap past = (collect (workerAct ω) past).map
      (WorkerAct.plainOutcome cfg.deviceMap (s₀.agent.podMap.plain w)) := by
  have hworker : ∀ t ∈ project Pipeline.agent (workerAct ω) past, t.label.In w := by
    intro t ht
    obtain ⟨u, hu, hact⟩ := List.mem_filterMap.mp ht
    obtain ⟨act, hlabel, rfl⟩ := Option.map_eq_some_iff.mp hact
    have hnow := hin u hu
    generalize u.label = label at hlabel hnow
    cases label with
    | handle event env =>
        cases hlabel
        exact hnow
    | send event result =>
        cases result with
        | full =>
            cases hlabel
            trivial
        | _ => cases hlabel
    | _ => cases hlabel
  rw [agentOutcomes, outcomes_of_run hsettled (worker_run run) hworker, ← map_label_project,
    List.map_map]
  rfl

/-- The worker counts each event it is finished with once, by its plain answer. -/
theorem count_plainOutcome (deviceMap : DeviceMap) (answer : UInt64 → Except Err ContainerInfo)
    (past : List (Transition (Pipeline R ω n) (PipelineAct n))) {o : Outcome}
    (ho : o ≠ .dropped reasonQueueFull) :
    ((collect (workerAct ω) past).map (WorkerAct.plainOutcome deviceMap answer)).count o =
      (collect finished past).countP fun event =>
        outcomeOf deviceMap event (answer event.cgroupID) = o := by
  induction past using List.reverseRecOn with
  | nil => rfl
  | append_singleton past t ih =>
      obtain ⟨pre, act, post⟩ := t
      rw [collect_concat, collect_concat, List.map_append, List.count_append, List.countP_append,
        ih]
      congr 1
      cases act with
      | handle event env =>
          simp only [workerAct, finished, Option.toList_some, List.map_singleton,
            List.count_singleton, List.countP_singleton, WorkerAct.plainOutcome, beq_iff_eq,
            decide_eq_true_eq]
      | send event result =>
          cases result with
          | full =>
              simp only [workerAct, finished, Option.toList_some, Option.toList_none,
                List.map_singleton, List.count_singleton, List.countP_nil,
                WorkerAct.plainOutcome, beq_iff_eq]
              exact if_neg ho.symm
          | _ => rfl
      | _ => rfl

end Events

/-! ## The error of a series -/

section Accuracy

variable {registered : Registry} {devices : List Device} {w : Surroundings} {rb : Ringbuf R}
  {queueSize : ℕ} {ring : R} {p : PodMap}

/-- **Where the calls of a series are**: counted in it, lost, turned away, or on their
way. -/
theorem dueCalls_eq {setup : Setup ω} {c : Collector ω} {s : Pipeline R ω n}
    {past : List (Transition (Pipeline R ω n) (PipelineAct n))}
    (hnames : (registered.map Vendor.name).Nodup) (hlen : registered.length ≤ 2 ^ 32)
    (hok : setupDevices registered devices (Setup.start ω) = .ok setup) (hlaw : rb.Lawful)
    (hempty : rb.records ring = []) (hsettled : p.Settled w)
    (run : PipelineRun ⟨rb, setup.maps, setup.deviceMap⟩ (start queueSize ring ⟨p, c⟩) past s)
    (hin : ∀ t ∈ past, t.label.In w) {x : Series} (hx : x.outcome ≠ .dropped reasonQueueFull)
    {q : Option Origin → Bool}
    (hq : q = fun o => decide (o.map (Origin.due (p.plain w)) = some x.outcome)) :
    dueCalls registered devices (p.plain w) past x =
      (agentOutcomes setup.deviceMap past).count x.outcome +
        ((collect lostCall past).countP (fun call => q (call.origin registered devices)) +
          (collect turnedAway past).countP (fun event => q (event.origin setup.deviceMap)) +
          (s.eventsInFlight ⟨rb, setup.maps, setup.deviceMap⟩).countP
            fun event => q (event.origin setup.deviceMap)) := by
  have hnone : q none = false := by
    rw [hq]
    exact decide_eq_false (by simp)
  -- a handled event has an origin, and the worker counts it by that
  have hhandled : (agentOutcomes setup.deviceMap past).count x.outcome =
      (collect finished past).countP fun event => q (event.origin setup.deviceMap) := by
    rw [agentOutcomes_eq hsettled run hin, count_plainOutcome _ _ _ hx]
    refine List.countP_congr ?_
    intro event hevent
    have hsome := (origins_submitted hnames hlen hok run).2 event
      ((finished_sublist hlaw hempty run).subset hevent)
    obtain ⟨o, ho⟩ := Option.isSome_iff_exists.mp hsome
    obtain ⟨hout, hid⟩ := outcomeOf_of_origin ho (p.plain w event.cgroupID)
    simp only [start, hout, hq, ho, Option.map_some, Option.some_inj, Origin.due, hid]
  have hcalls : dueCalls registered devices (p.plain w) past x =
      (collect madeCall past).countP (fun call => q (call.origin registered devices)) := by
    rw [hq]
    rfl
  rw [hcalls, countP_madeCall hnames hlen hok run hnone,
    countP_submittedCall hnames hlen hok run, countP_submitted hlaw hempty run, hhandled]
  omega

/-- The lost calls, as numbers. -/
theorem length_lostCall (past : List (Transition (Pipeline R ω n) (PipelineAct n))) :
    (collect lostCall past).length = (collect lossCPU past).length := by
  induction past using List.reverseRecOn with
  | nil => rfl
  | append_singleton past t ih =>
      obtain ⟨pre, act, post⟩ := t
      rw [collect_concat, collect_concat, List.length_append, List.length_append, ih]
      congr 1
      cases act with
      | hook cpu call result => cases result <;> rfl
      | _ => rfl

/-- **A scrape bounds its own error.**  In a world that does not change, after a setup
that ran to its end, in every run of the agent with fewer than 2^64 calls that pass both
lookups, in every state: a series has no more than the calls that are due to it by the
vendor tables, the cgroup tree and the runtime, and misses no more of them than the agent
publishes as lost in the ring buffer and at the queue, and has on their way. -/
theorem counts_accurate {cgroupRoot criSocket : String} {interval criTimeout cacheTTL : Duration}
    {env : StartEnv} {setup : Setup ScrapeView} {s : Pipeline R ScrapeView n}
    {past : List (Transition (Pipeline R ScrapeView n) (PipelineAct n))}
    (hnames : (registered.map Vendor.name).Nodup) (hlen : registered.length ≤ 2 ^ 32)
    (hok : setupDevices registered devices (Setup.start ScrapeView) = .ok setup)
    (hlaw : rb.Lawful) (hempty : rb.records ring = [])
    (hnew : newPodMap cgroupRoot criSocket interval criTimeout cacheTTL env = .ok p)
    (hfs : env.fs = w.fs)
    (run : PipelineRun ⟨rb, setup.maps, setup.deviceMap⟩
      (start queueSize ring ⟨p, agentCollector setup⟩) past s)
    (hin : ∀ t ∈ past, t.label.In w)
    (hcalls : (collect (passedCall setup.maps) past).length < 2 ^ 64) :
    ∃ lost, Loader.droppedEvents (List.ofFn s.dropped) none = .ok lost ∧
      ∀ x : Series, x ≠ .dropped reasonQueueFull →
        s.agent.collector.read x ≤
            dueCalls registered devices (plainInfo cgroupRoot ⟨criTimeout⟩ w) past x ∧
          dueCalls registered devices (plainInfo cgroupRoot ⟨criTimeout⟩ w) past x ≤
            s.agent.collector.read x + (lost.toNat +
              s.agent.collector.read (.dropped reasonQueueFull) +
              s.inFlight ⟨rb, setup.maps, setup.deviceMap⟩) := by
  have hplain : p.plain w = plainInfo cgroupRoot ⟨criTimeout⟩ w := by
    obtain ⟨hindex, hcri, -⟩ := newPodMap_ok hnew
    funext c
    rw [PodMap.plain, hindex, hcri]
  have hfresh : (agentCollector setup).Fresh := fresh_servedCollector hok _ _
  have hbalance := calls_eq hlaw hempty run
  have houtcomes := length_agentOutcomes setup.deviceMap past
  simp only at hbalance
  have hlost : (UInt64.ofNat (collect lossCPU past).length).toNat =
      (collect lossCPU past).length := by
    rw [UInt64.toNat_ofNat']
    exact Nat.mod_eq_of_lt (by omega)
  have hfull : s.agent.collector.read (.dropped reasonQueueFull) =
      (collect turnedAway past).length := by
    rw [(events_conserved hlaw hempty hfresh run).turned_away]
    exact Nat.mod_eq_of_lt (by omega)
  refine ⟨_, droppedEvents_eq (fun _ => rfl) run, ?_⟩
  intro x hx
  have hother : x.outcome ≠ .dropped reasonQueueFull := fun h => hx (outcome_injective h)
  have hread : s.agent.collector.read x =
      (agentOutcomes setup.deviceMap past).count x.outcome := by
    have hle := List.count_le_length (a := x.outcome) (l := agentOutcomes setup.deviceMap past)
    rw [(worker_run run).read_eq hfresh]
    exact Nat.mod_eq_of_lt (lt_of_le_of_lt hle (by omega))
  rw [← hplain, dueCalls_eq hnames hlen hok hlaw hempty
    (PodMap.settled_of_newPodMap hnew hfs) run hin hother rfl, hread, hlost, hfull,
    ← length_lostCall, ← length_eventsInFlight]
  refine ⟨Nat.le_add_right _ _, Nat.add_le_add_left ?_ _⟩
  exact Nat.add_le_add (Nat.add_le_add List.countP_le_length List.countP_le_length)
    List.countP_le_length

set_option maxRecDepth 4000 in
/-- Two submissions of the container to the GPU are due to its series. -/
private theorem dueCalls_gpu {past : List (Transition (Pipeline R ω n) (PipelineAct n))}
    (hmade : collect madeCall past = [gpuCall, gpuCall]) :
    dueCalls agentRegistry [gpu] (plainInfo "/cgroup" ⟨seconds 5⟩ onePodWorld) past
      (.ioctl webTuple) = 2 := by
  rw [dueCalls, hmade]
  decide

/-- Two submissions of the container to the GPU, with room for one record: both are due
to its series, the first is counted, and the second is the published loss. -/
theorem counts_accurate_gpu : ∃ (setup : Setup ScrapeView) (s : Pipeline MemRing ScrapeView 1)
    (past : List (Transition (Pipeline MemRing ScrapeView 1) (PipelineAct 1))),
    PipelineRun ⟨MemRing.ringbuf, setup.maps, setup.deviceMap⟩
        (start 1 ⟨48, [], false⟩ ⟨onePodMap, agentCollector setup⟩) past s ∧
      s.inFlight ⟨MemRing.ringbuf, setup.maps, setup.deviceMap⟩ = 0 ∧
      Loader.droppedEvents (List.ofFn s.dropped) none = .ok 1 ∧
      s.agent.collector.read (.ioctl webTuple) ≤ 2 ∧
      2 ≤ s.agent.collector.read (.ioctl webTuple) +
        (1 + s.agent.collector.read (.dropped reasonQueueFull)) := by
  obtain ⟨setup, hok⟩ : ∃ setup, setupDevices agentRegistry [gpu] (Setup.start ScrapeView) =
      .ok setup := setupDevices_of_fits ⟨by decide, by decide⟩
  have hkind : Bpf.filterKind setup.maps gpuCall = some Kind.kindSubmit := by
    rw [filterKind_of_setup (by decide) (by decide) hok]
    decide
  have hsubmitted : Bpf.kubenpuIoctl setup.maps gpuCall true =
      .submitted (Bpf.pollEvent gpuCall Kind.kindSubmit) := by
    simp only [Bpf.kubenpuIoctl, hkind, if_true]
  have hlost : Bpf.kubenpuIoctl setup.maps gpuCall false = .lost := by
    simp only [Bpf.kubenpuIoctl, hkind, Bool.false_eq_true, if_false]
  have run : PipelineRun ⟨MemRing.ringbuf, setup.maps, setup.deviceMap⟩
    (start 1 ⟨48, [], false⟩ ⟨onePodMap, agentCollector setup⟩ : Pipeline MemRing ScrapeView 1)
    [] _ := .start
  have run := run.snoc (.hook rfl 0 gpuCall _ hsubmitted)
  have run := run.snoc (.hook rfl 0 gpuCall _ hlost)
  have run := run.snoc (.read rfl rfl _ _ (.record _ _))
  have run := run.snoc (.send rfl _ rfl _ rfl)
  have run := run.snoc (.receive rfl rfl _ rfl)
  have run := run.snoc (.handle rfl _ rfl (callAt ⟨0⟩ (labelled "default" "web" "app")))
  obtain ⟨lost, hdropped, hseries⟩ := counts_accurate (w := onePodWorld) (by decide) (by decide) hok
    MemRing.lawful rfl newPodMap_onePod rfl run (by
      intro t ht
      simp only [List.nil_append, List.cons_append, List.mem_cons, List.not_mem_nil,
        or_false] at ht
      rcases ht with rfl | rfl | rfl | rfl | rfl | rfl
      · trivial
      · trivial
      · trivial
      · trivial
      · trivial
      · exact ⟨rfl, rfl⟩)
    (by simp [collect, passedCall, hkind])
  obtain ⟨hle, hge⟩ := hseries (.ioctl webTuple) (by simp)
  rw [dueCalls_gpu rfl] at hle hge
  cases hdropped
  exact ⟨setup, _, _, run, rfl, rfl, hle, hge⟩

end Accuracy

end Pipeline

end KubeNpu

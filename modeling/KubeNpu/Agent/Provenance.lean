import KubeNpu.Agent.Conservation
import KubeNpu.Agent.Counters
import KubeNpu.Agent.Join

/-!
# What a counter goes back to

Between the call that the program sees and the counter that goes up lie two
kernel maps, a record of 32 bytes, a queue and the worker's own map of devices.
Along all of that the call keeps its origin: the cgroup it came from, the device
and the vendor of the node it was made on, and the kind that the table of that
vendor gives its number.

`Origin` is what survives the way.  The origins that were counted are, in order, a
part of the origins that were submitted, so no event is counted twice, for another
device, or under another kind, whatever the parties do in between.
-/

namespace KubeNpu

open Go Machine

/-- Where a call comes from, as far as the label tuple and the pod map see it. -/
structure Origin where
  cgroupID : UInt64
  device : String
  vendor : String
  kind : String
  deriving DecidableEq

/-- The origin of a call, by the devices and the vendor tables: its node has an
owner whose vendor counts the ioctl number. -/
def Bpf.IoctlCall.origin (registered : Registry) (devices : List Device)
    (call : Bpf.IoctlCall) : Option Origin :=
  (owner registered devices call.major call.minor).bind fun p =>
    (p.2.ioctls.lookup call.nr).map fun kind =>
      ⟨call.cgroupId, p.1.pciAddress, p.2.name, Kind.string kind⟩

/-- The origin of an event, as the worker reads it. -/
def Event.origin (deviceMap : DeviceMap) (event : Event) : Option Origin :=
  (deviceMap.lookup event.node).map fun device =>
    ⟨event.cgroupID, device.pciAddress, device.vendor, Kind.string event.kind⟩

/-- The origin that a label tuple of a cgroup stands for. -/
def Origin.ofKey (counted : UInt64 × Key) : Origin :=
  ⟨counted.1, counted.2.device, counted.2.vendor, counted.2.kind⟩

namespace PipelineAct

variable {n : ℕ}

/-- The call of an execution that submits an event. -/
def submittedCall : PipelineAct n → Option Bpf.IoctlCall
  | hook _ call (.submitted _) => some call
  | _ => none

end PipelineAct

namespace Pipeline

open PipelineAct

variable {R ω : Type} {n : ℕ}

/-- The label tuple a step counts, with the cgroup it counts it for. -/
def countedBy (deviceMap : DeviceMap) (t : Transition (Pipeline R ω n) (PipelineAct n)) :
    Option (UInt64 × Key) :=
  match t.label with
  | .handle event env =>
      match outcomeOf deviceMap event
          (t.pre.agent.podMap.containerInfo event.cgroupID env).1 with
      | .ioctl k => some (event.cgroupID, k)
      | .dropped _ => none
      | .uncounted => none
  | _ => none

/-- The label tuples a run counted, in order. -/
def counted (deviceMap : DeviceMap)
    (past : List (Transition (Pipeline R ω n) (PipelineAct n))) : List (UInt64 × Key) :=
  past.filterMap (countedBy deviceMap)

/-! ## From the call to the event -/

section Submitted

variable {registered : Registry} {devices : List Device} {setup : Setup ω} {rb : Ringbuf R}
  {s₀ s s' : Pipeline R ω n} {past : List (Transition (Pipeline R ω n) (PipelineAct n))}

/-- An execution that submits an event found a kind for its call and filled the
event in from both. -/
theorem submitted_of_hook {cfg : PipelineConfig R} {cpu : Fin n} {call : Bpf.IoctlCall}
    {e : Bpf.Event} (hstep : PipelineStep cfg s (.hook cpu call (.submitted e)) s') :
    ∃ kind, Bpf.filterKind cfg.maps call = some kind ∧ e = Bpf.pollEvent call kind := by
  cases hstep with
  | hook running cpu call result ran =>
      unfold Bpf.kubenpuIoctl at ran
      cases hkind : Bpf.filterKind cfg.maps call with
      | none =>
          rw [hkind] at ran
          cases ran
      | some kind =>
          rw [hkind] at ran
          cases hroom : cfg.ringbuf.reserve s.ring Bpf.Event.sizeof with
          | false =>
              rw [hroom] at ran
              cases ran
          | true =>
              rw [hroom] at ran
              exact ⟨kind, rfl, (Bpf.HookResult.submitted.inj ran).symm⟩

/-- **The event has the origin of its call**: the 16 bits of its major number and
the kind the kernel map gave it lead the worker to the same device and vendor. -/
theorem origin_of_submitted (hnames : (registered.map Vendor.name).Nodup)
    (hlen : registered.length ≤ 2 ^ 32)
    (hok : setupDevices registered devices (Setup.start ω) = .ok setup) {call : Bpf.IoctlCall}
    {kind : UInt8} (hkind : Bpf.filterKind setup.maps call = some kind) :
    (Loader.ofBpf (Bpf.pollEvent call kind)).origin setup.deviceMap =
        call.origin registered devices ∧
      (call.origin registered devices).isSome = true := by
  rw [filterKind_of_setup hnames hlen hok] at hkind
  obtain ⟨⟨d, v⟩, howner, hlookup⟩ := Option.bind_eq_some_iff.mp hkind
  have hnode : (Loader.ofBpf (Bpf.pollEvent call kind)).node = ⟨call.major, call.minor⟩ :=
    congrArg (fun major => DeviceNode.mk major call.minor) (Bpf.toUInt32_toUInt16_major call)
  rw [Event.origin, hnode, deviceMap_of_setup hok, Bpf.IoctlCall.origin, howner]
  simp only [Option.map_some, Option.bind_some, hlookup]
  exact ⟨rfl, rfl⟩

variable (hnames : (registered.map Vendor.name).Nodup) (hlen : registered.length ≤ 2 ^ 32)
  (hok : setupDevices registered devices (Setup.start ω) = .ok setup)

include hnames hlen hok

/-- Along a run, the submitted calls and the submitted events have the same
origins, one each. -/
theorem origins_submitted (run : PipelineRun ⟨rb, setup.maps, setup.deviceMap⟩ s₀ past s) :
    (collect submittedCall past).map (fun call => call.origin registered devices) =
        (collect submitted past).map (fun event => event.origin setup.deviceMap) ∧
      ∀ event ∈ collect submitted past, (event.origin setup.deviceMap).isSome = true := by
  induction run with
  | start => exact ⟨rfl, fun event h => by cases h⟩
  | @snoc past s act s' run hstep ih =>
      obtain ⟨hsame, hknown⟩ := ih
      have hnone (hcall : act.submittedCall = none) (hevent : act.submitted = none) :
          (collect submittedCall (past ++ [⟨s, act, s'⟩])).map
                (fun call => call.origin registered devices) =
              (collect submitted (past ++ [⟨s, act, s'⟩])).map
                (fun event => event.origin setup.deviceMap) ∧
            ∀ event ∈ collect submitted (past ++ [⟨s, act, s'⟩]),
              (event.origin setup.deviceMap).isSome = true := by
        simp only [collect_concat, hcall, hevent, Option.toList_none, List.append_nil]
        exact ⟨hsame, hknown⟩
      cases act with
      | hook cpu call result =>
          cases result with
          | passed => exact hnone rfl rfl
          | lost => exact hnone rfl rfl
          | submitted e =>
              obtain ⟨kind, hkind, rfl⟩ := submitted_of_hook hstep
              obtain ⟨horigin, hsome⟩ := origin_of_submitted hnames hlen hok hkind
              simp only [collect_concat, submittedCall, submitted, Option.toList_some,
                List.map_append, List.map_singleton, hsame, horigin, true_and]
              intro event hevent
              rcases List.mem_append.mp hevent with hold | hnew
              · exact hknown event hold
              · rw [List.mem_singleton.mp hnew, horigin]
                exact hsome
      | _ => exact hnone rfl rfl

end Submitted

/-! ## From the event to the counter -/

section Counted

variable {cfg : PipelineConfig R} {s₀ s s' : Pipeline R ω n}
  {past : List (Transition (Pipeline R ω n) (PipelineAct n))}

/-- An event that is counted is counted under its origin. -/
theorem origin_of_counted {deviceMap : DeviceMap} {event : Event}
    {result : Except Err ContainerInfo} {k : Key}
    (h : outcomeOf deviceMap event result = .ioctl k) :
    event.origin deviceMap = some (.ofKey (event.cgroupID, k)) := by
  unfold outcomeOf at h
  rw [Event.origin]
  cases hdevice : deviceMap.lookup event.node with
  | none =>
      rw [hdevice] at h
      cases h
  | some device =>
      rw [hdevice] at h
      cases result with
      | ok cI =>
          cases h
          rfl
      | error err => cases hreason : reasonOf err <;> simp [hreason] at h

/-- One more step adds the tuple it counts, if it counts one. -/
theorem counted_concat (deviceMap : DeviceMap)
    (past : List (Transition (Pipeline R ω n) (PipelineAct n)))
    (t : Transition (Pipeline R ω n) (PipelineAct n)) :
    counted deviceMap (past ++ [t]) =
      counted deviceMap past ++ (countedBy deviceMap t).toList := by
  rw [counted, List.filterMap_append]
  cases hc : countedBy deviceMap t <;> simp [counted, hc]

/-- The counted origins are a part of the handled ones, in order. -/
theorem counted_sublist (deviceMap : DeviceMap)
    (past : List (Transition (Pipeline R ω n) (PipelineAct n))) :
    (counted deviceMap past).map (fun c => some (Origin.ofKey c)) |>.Sublist
      ((collect finished past).map fun event => event.origin deviceMap) := by
  induction past using List.reverseRecOn with
  | nil => exact List.Sublist.refl _
  | append_singleton past t ih =>
      obtain ⟨pre, act, post⟩ := t
      rw [counted_concat, collect_concat, List.map_append, List.map_append]
      refine ih.append ?_
      cases act with
      | handle event env =>
          simp only [countedBy, finished, Option.toList_some, List.map_singleton]
          cases ho : outcomeOf deviceMap event
              (pre.agent.podMap.containerInfo event.cgroupID env).1 with
          | ioctl k =>
              rw [origin_of_counted ho]
              exact List.Sublist.refl _
          | dropped reason => exact List.nil_sublist _
          | uncounted => exact List.nil_sublist _
      | _ => exact List.nil_sublist _

/-- The relay of a run from the start is sound. -/
theorem relay_sound {queueSize : ℕ} {ring : R} {agent : WorkerState ω}
    (hlaw : cfg.ringbuf.Lawful) (hempty : cfg.ringbuf.records ring = [])
    (run : PipelineRun cfg (start queueSize ring agent) past s) : (relay cfg past s).Sound := by
  have hwf : (start queueSize ring agent : Pipeline R ω n).Wf cfg := wf_start cfg _ _ hempty
  have hstart : relay cfg [] (start queueSize ring agent : Pipeline R ω n) = Relay.empty := by
    simp [relay, start, MainPC.held, hempty, Relay.empty]
  refine (relay_simulates hlaw).sound hwf (fun h hstep => h.step hlaw hstep) ?_ run
  rw [hstart]
  exact Relay.sound_empty

/-- The worker handles a part of what the program submits, in order. -/
theorem finished_sublist {queueSize : ℕ} {ring : R} {agent : WorkerState ω}
    (hlaw : cfg.ringbuf.Lawful) (hempty : cfg.ringbuf.records ring = [])
    (run : PipelineRun cfg (start queueSize ring agent) past s) :
    (collect finished past).Sublist (collect submitted past) := by
  have hcustody := (custody_of_run hlaw hempty run).taken_eq
  have htaken : (collect finished past).Sublist (collect taken past) := by
    rw [hcustody]
    exact List.sublist_append_left _ _
  have hordered : (collect taken past).Sublist (collect submitted past) :=
    (List.sublist_append_left _ _).trans (relay_sound hlaw hempty run).ordered
  exact htaken.trans hordered

/-- What the worker and the reader count in a run. -/
def agentOutcomes (deviceMap : DeviceMap)
    (past : List (Transition (Pipeline R ω n) (PipelineAct n))) : List Outcome :=
  workerOutcomes deviceMap (project Pipeline.agent (workerAct ω) past)

/-- One more step adds the outcome of its act on the collector, if it is one. -/
theorem agentOutcomes_concat (deviceMap : DeviceMap)
    (past : List (Transition (Pipeline R ω n) (PipelineAct n))) (s : Pipeline R ω n)
    (act : PipelineAct n) (s' : Pipeline R ω n) :
    agentOutcomes deviceMap (past ++ [⟨s, act, s'⟩]) =
      agentOutcomes deviceMap past ++
        ((act.workerAct ω).map fun a => a.outcome deviceMap s.agent.podMap).toList := by
  unfold agentOutcomes workerOutcomes project
  rw [List.filterMap_append, List.map_append]
  cases hact : act.workerAct ω <;> simp [hact]

/-- The label tuples among the outcomes are those that are counted. -/
theorem ioctlKeys_eq (deviceMap : DeviceMap)
    (past : List (Transition (Pipeline R ω n) (PipelineAct n))) :
    (agentOutcomes deviceMap past).filterMap Outcome.ioctlKey =
      (counted deviceMap past).map Prod.snd := by
  induction past using List.reverseRecOn with
  | nil => rfl
  | append_singleton past t ih =>
      obtain ⟨pre, act, post⟩ := t
      rw [agentOutcomes_concat, counted_concat, List.filterMap_append, List.map_append, ih]
      congr 1
      cases act with
      | handle event env =>
          simp only [workerAct, countedBy, Option.map_some, Option.toList_some, WorkerAct.outcome]
          cases outcomeOf deviceMap event
            (pre.agent.podMap.containerInfo event.cgroupID env).1 <;> rfl
      | send event result => cases result <;> rfl
      | _ => rfl

/-- An outcome is the queue's, or that of an event the worker is finished with. -/
theorem mem_agentOutcomes {deviceMap : DeviceMap}
    {past : List (Transition (Pipeline R ω n) (PipelineAct n))} {o : Outcome}
    (h : o ∈ agentOutcomes deviceMap past) :
    o = .dropped reasonQueueFull ∨
      ∃ event ∈ collect finished past, ∃ result, o = outcomeOf deviceMap event result := by
  induction past using List.reverseRecOn with
  | nil => cases h
  | append_singleton past t ih =>
      obtain ⟨pre, act, post⟩ := t
      rw [agentOutcomes_concat, List.mem_append] at h
      rw [collect_concat]
      rcases h with hold | hnew
      · rcases ih hold with hqueue | ⟨event, hevent, hresult⟩
        · exact Or.inl hqueue
        · exact Or.inr ⟨event, List.mem_append_left _ hevent, hresult⟩
      · cases act with
        | handle event env =>
            have ho := List.mem_singleton.mp hnew
            exact Or.inr ⟨event, List.mem_append_right _ List.mem_cons_self, _, ho⟩
        | send event result =>
            cases result with
            | full => exact Or.inl (List.mem_singleton.mp hnew)
            | panics => cases hnew
            | handed => cases hnew
            | buffered => cases hnew
        | _ => cases hnew

/-- An event with an origin is never one of an unknown device. -/
theorem outcomeOf_ne_deviceUnknown {deviceMap : DeviceMap} {event : Event}
    (h : (event.origin deviceMap).isSome = true) (result : Except Err ContainerInfo) :
    outcomeOf deviceMap event result ≠ .dropped reasonDeviceUnknown := by
  unfold outcomeOf
  rw [Event.origin, Option.isSome_map] at h
  obtain ⟨device, hdevice⟩ := Option.isSome_iff_exists.mp h
  rw [hdevice]
  cases result with
  | ok cI => simp
  | error err =>
      cases hreason : reasonOf err with
      | none => simp [hreason]
      | some reason =>
          have hother : reasonDeviceUnknown ∉
              [reasonNotPod, reasonNotIndexed, reasonContainerNotFound] := by decide
          simp only [hreason, Option.elim_some]
          intro heq
          exact hother (Outcome.dropped.inj heq ▸ reasonOf_mem hreason)

end Counted

/-! ## End to end -/

/-- **Every count goes back to one call.**  After a setup that ran to its end, in
every run of the agent: every submitted call has an origin by the vendor tables;
the origins that the worker counted are a part of those, in order; every ioctl
counter is the number of times its tuple was counted, modulo 2^64; and no event
is ever one of an unknown device. -/
theorem counts_go_back {registered : Registry} {devices : List Device} {setup : Setup ω}
    {rb : Ringbuf R} {queueSize : ℕ} {ring : R} {p : PodMap} {rebuilds : ω → UInt64}
    {lost : ω → Except Err UInt64} {s : Pipeline R ω n}
    {past : List (Transition (Pipeline R ω n) (PipelineAct n))}
    (hnames : (registered.map Vendor.name).Nodup) (hlen : registered.length ≤ 2 ^ 32)
    (hok : setupDevices registered devices (Setup.start ω) = .ok setup) (hlaw : rb.Lawful)
    (hempty : rb.records ring = [])
    (run : PipelineRun ⟨rb, setup.maps, setup.deviceMap⟩
      (start queueSize ring ⟨p, servedCollector setup rebuilds lost⟩) past s) :
    (∀ call ∈ collect submittedCall past, (call.origin registered devices).isSome = true) ∧
    ((counted setup.deviceMap past).map Origin.ofKey).Sublist
      ((collect submittedCall past).filterMap fun call => call.origin registered devices) ∧
    (∀ k, s.agent.collector.read (.ioctl k) =
      ((counted setup.deviceMap past).map Prod.snd).count k % 2 ^ 64) ∧
    s.agent.collector.read (.dropped reasonDeviceUnknown) = 0 := by
  have hfresh := fresh_servedCollector hok rebuilds lost
  obtain ⟨hsame, hknown⟩ := origins_submitted hnames hlen hok run
  have hfinished := finished_sublist hlaw hempty run
  have hread := fun x => (worker_run run).read_eq hfresh x
  refine ⟨?_, ?_, ?_, ?_⟩
  · intro call hcall
    -- the origin of a call is among those of the submitted events
    have hmem : call.origin registered devices ∈
        (collect submitted past).map fun event => event.origin setup.deviceMap := by
      rw [← hsame]
      exact List.mem_map_of_mem hcall
    obtain ⟨event, hevent, heq⟩ := List.mem_map.mp hmem
    rw [← heq]
    exact hknown event hevent
  · have hsub := (counted_sublist setup.deviceMap past).trans (hfinished.map _)
    rw [← hsame] at hsub
    have hids := hsub.filterMap id
    simpa only [List.filterMap_map, Function.comp_def, id_eq, List.filterMap_eq_map'] using hids
  · intro k
    rw [hread, Series.outcome, ← count_ioctlKey]
    exact congrArg (fun keys => List.count k keys % 2 ^ 64) (ioctlKeys_eq setup.deviceMap past)
  · have hzero : (agentOutcomes setup.deviceMap past).count (.dropped reasonDeviceUnknown) = 0 := by
      refine List.count_eq_zero.mpr ?_
      intro hmem
      rcases mem_agentOutcomes hmem with hqueue | ⟨event, hevent, result, ho⟩
      · exact absurd hqueue (by decide)
      · exact outcomeOf_ne_deviceUnknown (hknown event (hfinished.subset hevent)) result ho.symm
    rw [hread]
    exact congrArg (· % 2 ^ 64) hzero

/-- The agent of the machine with one GPU, after its setup. -/
def servedStart (setup : Setup Unit) : Pipeline MemRing Unit 1 :=
  start 1 ⟨96, [], false⟩ ⟨onePodMap, servedCollector setup (fun _ => 0) fun _ => .ok 0⟩

/-- One call of the GPU on its way to the counter. -/
theorem counts_go_back_gpu : ∃ (setup : Setup Unit) (s : Pipeline MemRing Unit 1)
    (past : List (Transition (Pipeline MemRing Unit 1) (PipelineAct 1))),
    PipelineRun ⟨MemRing.ringbuf, setup.maps, setup.deviceMap⟩ (servedStart setup) past s ∧
      collect submittedCall past = [gpuCall] ∧ (collect finished past).length = 1 ∧
      ((counted setup.deviceMap past).map Origin.ofKey).Sublist
        [⟨4, "0000:00:02.0", "i915", "submit"⟩] ∧
      s.agent.collector.read (.dropped reasonDeviceUnknown) = 0 := by
  obtain ⟨setup, hok⟩ := exists_setup_gpu
  have hkind : Bpf.filterKind setup.maps gpuCall = some Kind.kindSubmit := by
    rw [filterKind_of_setup (by decide) (by decide) hok]
    decide
  have hsubmitted : Bpf.kubenpuIoctl setup.maps gpuCall true =
      .submitted (Bpf.pollEvent gpuCall Kind.kindSubmit) := by
    simp only [Bpf.kubenpuIoctl, hkind, if_true]
  have run : PipelineRun ⟨MemRing.ringbuf, setup.maps, setup.deviceMap⟩ (servedStart setup) []
    (servedStart setup) := .start
  have run := run.snoc (.hook rfl 0 gpuCall _ hsubmitted)
  have run := run.snoc (.read rfl rfl _ _ (.record _ _))
  have run := run.snoc (.send rfl _ rfl _ rfl)
  have run := run.snoc (.receive rfl rfl _ rfl)
  have run := run.snoc (.handle rfl _ rfl (callAt ⟨0⟩ (labelled "default" "web" "app")))
  obtain ⟨-, horigins, -, hunknown⟩ :=
    counts_go_back (by decide) (by decide) hok MemRing.lawful rfl run
  exact ⟨setup, _, _, run, rfl, rfl, horigins, hunknown⟩

end Pipeline

end KubeNpu

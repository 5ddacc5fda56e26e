import KubeNpu.Hw
import KubeNpu.Loader
import KubeNpu.Metrics
import KubeNpu.Podmap.PodMap

/-!
# `cmd/agent/main.go`: the worker loop

One iteration of the worker turns an event into one increment: it finds the
device by the node the event came from, asks the pod map for the container, and
counts the outcome.  The reader's drops and the scrapes of the metrics server
work on the same collector, each method atomic under its lock, so what happens
to the collector is a sequence of `Activity`.
-/

namespace KubeNpu

open Go

/-- `deviceNode` of the agent. -/
structure DeviceNode where
  major : UInt32
  minor : UInt32
  deriving DecidableEq, Repr

/-- `deviceMeta` of the agent. -/
structure DeviceMeta where
  pciAddress : String
  vendor : String
  deriving DecidableEq, Repr

/-- The map `deviceMap` of `main`. -/
abbrev DeviceMap := Map DeviceNode DeviceMeta

/-- The key the worker looks an event up by. -/
def Event.node (event : Event) : DeviceNode := ⟨event.major.toUInt32, event.minor⟩

variable {ω : Type}

/-- The worker once the pod map has answered: one reason per sentinel, a log line
for any other error, and the label tuple otherwise. -/
def countResult (c : Collector ω) (device : DeviceMeta) (event : Event)
    (result : Except Err ContainerInfo) : Collector ω :=
  let err := errorOf result
  if errorsIs err .errNotPod then c.incEventsDropped reasonNotPod
  else if errorsIs err .errNotIndexed then c.incEventsDropped reasonNotIndexed
  else if errorsIs err .errContainerNotFound then c.incEventsDropped reasonContainerNotFound
  else
    match result with
    | .error _ => c
    | .ok cI =>
        c.incIoctl cI.ns cI.podName cI.containerName device.pciAddress device.vendor
          (Kind.string event.kind)

/-- The collector after one iteration of the worker in which `ContainerInfo`
would answer `result`. -/
def countEvent (deviceMap : DeviceMap) (c : Collector ω) (event : Event)
    (result : Except Err ContainerInfo) : Collector ω :=
  match deviceMap.lookup event.node with
  | none => c.incEventsDropped reasonDeviceUnknown
  | some device => countResult c device event result

/-- What the worker changes. -/
structure WorkerState (ω : Type) where
  podMap : PodMap
  collector : Collector ω

/-- One iteration of the worker loop. -/
def handleEvent (deviceMap : DeviceMap) (s : WorkerState ω) (event : Event) (env : CallEnv) :
    WorkerState ω :=
  match deviceMap.lookup event.node with
  | none => { s with collector := s.collector.incEventsDropped reasonDeviceUnknown }
  | some device =>
      let r := s.podMap.containerInfo event.cgroupID env
      { podMap := r.2, collector := countResult s.collector device event r.1 }

/-- The collector does not see whether `ContainerInfo` was called for an event of
an unknown device. -/
theorem handleEvent_collector (deviceMap : DeviceMap) (s : WorkerState ω) (event : Event)
    (env : CallEnv) :
    (handleEvent deviceMap s event env).collector =
      countEvent deviceMap s.collector event (s.podMap.containerInfo event.cgroupID env).1 := by
  unfold handleEvent countEvent
  cases deviceMap.lookup event.node <;> rfl

/-! ## How an iteration can end -/

/-- The reason an error is counted under, if it is counted at all. -/
def reasonOf (err : Err) : Option String :=
  if err.is .errNotPod then some reasonNotPod
  else if err.is .errNotIndexed then some reasonNotIndexed
  else if err.is .errContainerNotFound then some reasonContainerNotFound
  else none

/-- The label tuple of an attributed event. -/
def tupleOf (device : DeviceMeta) (event : Event) (cI : ContainerInfo) : Key where
  ns := cI.ns
  pod := cI.podName
  container := cI.containerName
  device := device.pciAddress
  vendor := device.vendor
  kind := Kind.string event.kind

/-- What an iteration counts. -/
inductive Outcome where
  /-- One more in the series of a label tuple. -/
  | ioctl (k : Key)
  /-- One more drop of a reason. -/
  | dropped (reason : String)
  /-- Logged, and counted nowhere. -/
  | uncounted
  deriving DecidableEq

/-- What an iteration counts, for a device lookup and an answer of the pod map. -/
def outcomeOf (deviceMap : DeviceMap) (event : Event) (result : Except Err ContainerInfo) :
    Outcome :=
  match deviceMap.lookup event.node with
  | none => .dropped reasonDeviceUnknown
  | some device =>
      match result with
      | .ok cI => .ioctl (tupleOf device event cI)
      | .error err => (reasonOf err).elim .uncounted .dropped

/-- The collector after an outcome. -/
def Collector.apply (c : Collector ω) : Outcome → Collector ω
  | .ioctl k => c.incIoctl k.ns k.pod k.container k.device k.vendor k.kind
  | .dropped reason => c.incEventsDropped reason
  | .uncounted => c

/-- **An iteration applies its outcome and nothing else.** -/
theorem countEvent_eq (deviceMap : DeviceMap) (c : Collector ω) (event : Event)
    (result : Except Err ContainerInfo) :
    countEvent deviceMap c event result = c.apply (outcomeOf deviceMap event result) := by
  unfold countEvent outcomeOf
  cases deviceMap.lookup event.node with
  | none => rfl
  | some device =>
      cases result with
      | ok cI => rfl
      | error err =>
          simp only [countResult, reasonOf, errorOf_error, errorsIs_some]
          by_cases hpod : err.is .errNotPod = true
          · simp [hpod, Collector.apply]
          · by_cases hidx : err.is .errNotIndexed = true
            · simp [hpod, hidx, Collector.apply]
            · by_cases hfound : err.is .errContainerNotFound = true <;>
                simp [hpod, hidx, hfound, Collector.apply]

/-- The reasons the worker drops under are reasons of the collector, and never
the reader's. -/
theorem reasonOf_mem {err : Err} {reason : String} (h : reasonOf err = some reason) :
    reason ∈ [reasonNotPod, reasonNotIndexed, reasonContainerNotFound] := by
  unfold reasonOf at h
  split at h
  · cases h
    exact List.mem_cons_self
  · split at h
    · cases h
      exact List.mem_cons_of_mem _ List.mem_cons_self
    · split at h
      · cases h
        exact List.mem_cons_of_mem _ (List.mem_cons_of_mem _ List.mem_cons_self)
      · cases h

/-- The reasons the worker drops events under. -/
def workerReasons : List String :=
  [reasonDeviceUnknown, reasonNotPod, reasonNotIndexed, reasonContainerNotFound]

theorem outcomeOf_dropped_mem {deviceMap : DeviceMap} {event : Event}
    {result : Except Err ContainerInfo} {reason : String}
    (h : outcomeOf deviceMap event result = .dropped reason) : reason ∈ workerReasons := by
  unfold outcomeOf at h
  split at h
  · cases h
    exact List.mem_cons_self
  · split at h
    · cases h
    · rename_i err
      cases hreason : reasonOf err with
      | none =>
          rw [hreason] at h
          cases h
      | some r =>
          rw [hreason] at h
          cases h
          exact List.mem_cons_of_mem _ (reasonOf_mem hreason)

/-! ## What happens to the collector -/

/-- An atomic operation on the collector after the setup. -/
inductive Activity (ω : Type) where
  /-- The worker finishes an event for which `ContainerInfo` would answer
  `result`. -/
  | handled (event : Event) (result : Except Err ContainerInfo)
  /-- The reader finds the queue full. -/
  | queueFull
  /-- The metrics server scrapes. -/
  | scrape (w : ω)

/-- What an activity counts. -/
def Activity.outcome (deviceMap : DeviceMap) : Activity ω → Outcome
  | .handled event result => outcomeOf deviceMap event result
  | .queueFull => .dropped reasonQueueFull
  | .scrape _ => .uncounted

/-- The collector after an activity. -/
def Activity.perform (deviceMap : DeviceMap) (c : Collector ω) : Activity ω → Collector ω
  | .handled event result => countEvent deviceMap c event result
  | .queueFull => c.incEventsDropped reasonQueueFull
  | .scrape _ => c

theorem Activity.perform_eq (deviceMap : DeviceMap) (c : Collector ω) (a : Activity ω) :
    a.perform deviceMap c = c.apply (a.outcome deviceMap) := by
  cases a with
  | handled event result => exact countEvent_eq deviceMap c event result
  | queueFull => rfl
  | scrape w => rfl

/-! ## The worker on the node with one container -/

/-- The device map of a machine with one GPU. -/
def gpuMap : DeviceMap := (∅ : DeviceMap).insert ⟨226, 128⟩ ⟨"0000:00:02.0", "i915"⟩

/-- A submission to that GPU from the one container. -/
def podEvent : Event where
  timestamp := 0
  cgroupID := 4
  tgid := 1
  cmd := 0x69
  minor := 128
  major := 226
  kind := Kind.kindSubmit

/-- The worker of that machine before the first event. -/
def startState (ω : Type) : WorkerState ω := ⟨onePodMap, newCollector ω⟩

end KubeNpu

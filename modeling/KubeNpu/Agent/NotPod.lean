import KubeNpu.Agent.Worker
import KubeNpu.Podmap.Calls

/-!
# Which cgroups outside of pods are counted as such

A cgroup whose path names no pod should be counted under `not_pod`.  The parser
rejects such a path with `ErrNotPod` only if the text "kubepods" does not occur
in it; where it does (the "kubepods" and QoS directories, or a service that has
the word in its name), the scan runs to the end and the error it returns carries
no sentinel, so the worker counts the event nowhere.
-/

namespace KubeNpu

open Go Machine

variable {ω : Type}

theorem Collector.incEventsDropped_ne (c : Collector ω) (reason : String) :
    c.incEventsDropped reason ≠ c := fun h =>
  Tally.bump_ne c.eventsDroppedTotal reason (congrArg Collector.eventsDroppedTotal h)

/-- What a path that names no pod is counted under: `not_pod`, or nothing. -/
theorem reasonOf_namesNoPod {path : String} {inner err : Err} (hpath : NamesNoPod path)
    (hparse : parseCgroupPath path = .error inner) (hsame : ∀ s, err.is s = inner.is s) :
    reasonOf err =
      if Strings.contains path "kubepods" = true then none else some reasonNotPod := by
  rw [parseCgroupPath_of_namesNoPod hpath] at hparse
  cases hparse
  unfold reasonOf
  simp only [hsame]
  by_cases hsub : Strings.contains path "kubepods" = true
  · simp only [if_pos hsub]
    rfl
  · simp only [if_neg hsub]
    rfl

/-- What the worker counts for an event of a known device whose cgroup has a path
that names no pod. -/
theorem outcomeOf_namesNoPod {p : PodMap} (hcoherent : p.Coherent) {path : String}
    (hpath : NamesNoPod path) {deviceMap : DeviceMap} {event : Event} {env : CallEnv}
    (hdevice : (deviceMap.lookup event.node).isSome = true)
    (hlookup : (p.consulted event.cgroupID env).index.byInode.lookup event.cgroupID =
      some path) :
    outcomeOf deviceMap event (p.containerInfo event.cgroupID env).1 =
      if event.cgroupID ≠ 0 ∧ Strings.contains path "kubepods" = false then .dropped reasonNotPod
      else .uncounted := by
  obtain ⟨device, hdevice⟩ := Option.isSome_iff_exists.mp hdevice
  unfold outcomeOf
  rw [hdevice]
  have hexit := p.containerInfo_exit event.cgroupID env
  generalize (p.containerInfo event.cgroupID env).1 = result at hexit ⊢
  generalize (p.containerInfo event.cgroupID env).2 = q at hexit
  -- a path that parses names a pod
  have hnot : ∀ {path' : String} {ids : ToIDs},
      (p.consulted event.cgroupID env).index.byInode.lookup event.cgroupID = some path' →
      parseCgroupPath path' ≠ .ok ids := by
    intro path' ids hlookup' hok
    rw [hlookup] at hlookup'
    cases hlookup'
    rw [parseCgroupPath_of_namesNoPod hpath] at hok
    cases hok
  cases hexit with
  | emptyID hzero hnone =>
      rw [if_neg fun h => h.1 hzero]
      simp only [reasonOf, hnone, Bool.false_eq_true, if_false, Option.elim_none]
  | hit hid hfresh =>
      -- a cached ID has a path that parses, and consulting kept that path
      exfalso
      obtain ⟨path', ids, hpath', hok⟩ := hcoherent _ _ (PodMap.freshEntry_eq_some hfresh).1
      rw [PodMap.consulted_of_not_rebuilds (hcoherent.not_rebuilds hfresh)] at hnot
      exact hnot hpath' hok
  | notIndexed _ _ habsent =>
      exact absurd (Map.mem_iff_lookup.mpr ⟨path, hlookup⟩) habsent
  | notParsed hid _ hlookup' hparse hsame =>
      rw [hlookup] at hlookup'
      cases hlookup'
      simp only [reasonOf_namesNoPod hpath hparse hsame]
      by_cases hsub : Strings.contains path "kubepods" = true
      · rw [if_pos hsub, if_neg (by simp [hsub]), Option.elim_none]
      · rw [if_neg hsub, if_pos ⟨hid, by simpa using hsub⟩, Option.elim_some]
  | notNamed _ _ hlookup' hparse => exact absurd hparse (hnot hlookup')
  | named _ _ hlookup' hparse => exact absurd hparse (hnot hlookup')

/-- **A cgroup of no pod is classified as such exactly when its path does not
contain "kubepods".**  For a path that names no pod, the parser answers
`ErrNotPod` if and only if the text does not occur in it; and in every pod map a
run leads to, whether the call rebuilds the index or not, an event of a known
device from a cgroup with that path is counted under `not_pod` if and only if,
besides, its ID is not 0. -/
theorem not_pod_iff (path : String) (hpath : NamesNoPod path) :
    ((∃ err, parseCgroupPath path = .error err ∧ err.is .errNotPod = true) ↔
      Strings.contains path "kubepods" = false) ∧
    ∀ {cgroupRoot criSocket : String} {interval criTimeout cacheTTL : Duration}
      {env₀ : StartEnv} {p₀ : PodMap} {past : List (Transition CallState Call)} {s : CallState},
      newPodMap cgroupRoot criSocket interval criTimeout cacheTTL env₀ = .ok p₀ →
      CallRun ⟨p₀, env₀.builtAt⟩ past s →
      ∀ (deviceMap : DeviceMap) (c : Collector ω) (event : Event) (env : CallEnv),
        (deviceMap.lookup event.node).isSome = true →
        (s.podMap.consulted event.cgroupID env).index.byInode.lookup event.cgroupID = some path →
        ((handleEvent deviceMap ⟨s.podMap, c⟩ event env).collector =
            c.incEventsDropped reasonNotPod ↔
          event.cgroupID ≠ 0 ∧ Strings.contains path "kubepods" = false) := by
  constructor
  · rw [parseCgroupPath_of_namesNoPod hpath]
    by_cases hsub : Strings.contains path "kubepods" = true
    · rw [if_pos hsub]
      refine iff_of_false ?_ (by simp [hsub])
      rintro ⟨err, ⟨⟩, hpod⟩
      cases hpod
    · rw [if_neg hsub]
      exact iff_of_true ⟨_, rfl, rfl⟩ (by simpa using hsub)
  · intro cgroupRoot criSocket interval criTimeout cacheTTL env₀ p₀ past s hnew run deviceMap c
      event env hdevice hlookup
    have hcoherent := (CallRun.coherent (PodMap.coherent_of_newPodMap hnew) run).1
    rw [handleEvent_collector, countEvent_eq, outcomeOf_namesNoPod hcoherent hpath hdevice hlookup]
    by_cases h : event.cgroupID ≠ 0 ∧ Strings.contains path "kubepods" = false
    · rw [if_pos h]
      exact iff_of_true rfl h
    · rw [if_neg h]
      exact iff_of_false (fun heq => c.incEventsDropped_ne reasonNotPod heq.symm) h

/-- The general statement at the "kubepods" directory itself. -/
theorem not_pod_kubepods :
    (∃ err, parseCgroupPath "/cgroup/kubepods" = .error err ∧ err.is .errNotPod = true) ↔
      Strings.contains "/cgroup/kubepods" "kubepods" = false :=
  (not_pod_iff (ω := Unit) "/cgroup/kubepods" (by decide)).1

/-- A submission from a process in the "kubepods" directory, which has inode 2. -/
def kubepodsEvent : Event := { podEvent with cgroupID := 2 }

set_option maxRecDepth 4000 in
/-- **The "kubepods" directory is not classified**: its path names no pod, yet the
parser's error is not `ErrNotPod`, and the worker counts nothing for it. -/
theorem kubepods_not_classified :
    NamesNoPod "/cgroup/kubepods" ∧
      onePodMap.index.byInode.lookup 2 = some "/cgroup/kubepods" ∧
      (¬ ∃ err, parseCgroupPath "/cgroup/kubepods" = .error err ∧ err.is .errNotPod = true) ∧
      (handleEvent gpuMap (startState Unit) kubepodsEvent
          (callAt ⟨0⟩ (labelled "default" "web" "app"))).collector.eventsDroppedTotal.lookup
        reasonNotPod = some 0 := by
  refine ⟨by decide, by decide, ?_, by decide⟩
  rintro ⟨err, herr, hpod⟩
  rw [parseCgroupPath_of_namesNoPod (by decide), if_pos (by decide)] at herr
  cases herr
  cases hpod

end KubeNpu

import KubeNpu.Agent.Counters
import KubeNpu.Podmap.Settled

/-!
# The worker in a world that does not change

What the cache and the index save is invisible in the counters.  In a world that
stays as it is, a settled pod map gives the worker the plain answer every time, so
the counters of a run depend on its events alone: not on the times of the
iterations, not on their order, and not on which of them found a cached answer.

An agent that starts in such a world is settled.  An agent that comes out of a
changing one carries the stale entries of its pod map along until the first
rebuild, and is settled from then on.
-/

namespace KubeNpu

open Go Machine

variable {ω : Type}

/-! ## What the worker can tell from an answer -/

theorem SameAnswer.outcomeOf_eq {deviceMap : DeviceMap} {event : Event}
    {r r' : Except Err ContainerInfo} (h : SameAnswer r r') :
    outcomeOf deviceMap event r = outcomeOf deviceMap event r' := by
  unfold outcomeOf
  cases deviceMap.lookup event.node with
  | none => rfl
  | some device =>
      cases r with
      | ok info =>
          cases r' with
          | ok info' => rw [show info = info' from h]
          | error err' => exact h.elim
      | error err =>
          cases r' with
          | ok info' => exact h.elim
          | error err' => simp only [reasonOf_congr h]

namespace WorkerAct

/-- The act asks the pod map, if at all, in these surroundings. -/
def In (w : Surroundings) : WorkerAct ω → Prop
  | event _ env => env.In w
  | queueFull => True
  | scrape _ => True

/-- What the act counts if the pod map gives plain answers. -/
def plainOutcome (deviceMap : DeviceMap) (answer : UInt64 → Except Err ContainerInfo) :
    WorkerAct ω → Outcome
  | event e _ => outcomeOf deviceMap e (answer e.cgroupID)
  | queueFull => .dropped reasonQueueFull
  | scrape _ => .uncounted

end WorkerAct

/-! ## Runs of a settled worker -/

section

variable {deviceMap : DeviceMap} {w : Surroundings} {s₀ s s' : WorkerState ω}
  {act : WorkerAct ω} {past : List (Transition (WorkerState ω) (WorkerAct ω))}

/-- An act asks the pod map once, in an iteration, or not at all. -/
theorem next_podMap (deviceMap : DeviceMap) (s : WorkerState ω) (act : WorkerAct ω) :
    (s.next deviceMap act).podMap = s.podMap ∨
      ∃ e env, act = .event e env ∧
        (s.next deviceMap act).podMap = (s.podMap.containerInfo e.cgroupID env).2 := by
  cases act with
  | event e env =>
      simp only [WorkerState.next, handleEvent]
      cases deviceMap.lookup e.node with
      | none => exact Or.inl rfl
      | some device => exact Or.inr ⟨e, env, rfl, rfl⟩
  | queueFull => exact Or.inl rfl
  | scrape v => exact Or.inl rfl

/-- An act leaves the settings of the pod map alone. -/
theorem sameSettings_next (deviceMap : DeviceMap) (s : WorkerState ω) (act : WorkerAct ω) :
    s.podMap.SameSettings (s.next deviceMap act).podMap := by
  rcases next_podMap deviceMap s act with hsame | ⟨e, env, -, hasked⟩
  · rw [hsame]
    exact .refl _
  · rw [hasked]
    exact s.podMap.sameSettings_call e.cgroupID env

/-- So a run asks for the same plain answers from its start to its end. -/
theorem plain_of_run (run : WorkerRun deviceMap s₀ past s) (w : Surroundings) :
    s.podMap.plain w = s₀.podMap.plain w := by
  have hsame : s₀.podMap.SameSettings s.podMap := by
    refine run.invariant (I := fun s => s₀.podMap.SameSettings s.podMap) (.refl _) ?_
    rintro s act s' h rfl
    exact h.trans (sameSettings_next deviceMap s act)
  exact hsame.plain_eq w

/-- **Every act in these surroundings keeps a settled pod map settled.** -/
theorem settled_next (h : s.podMap.Settled w) (hin : act.In w) :
    (s.next deviceMap act).podMap.Settled w := by
  rcases next_podMap deviceMap s act with hsame | ⟨e, env, rfl, hasked⟩
  · rw [hsame]
    exact h
  · rw [hasked]
    exact (h.containerInfo hin e.cgroupID).2

/-- It stays settled along a run in these surroundings. -/
theorem settled_of_run (h : s₀.podMap.Settled w) (run : WorkerRun deviceMap s₀ past s)
    (hin : ∀ t ∈ past, t.label.In w) : s.podMap.Settled w := by
  induction run with
  | start => exact h
  | @snoc past s act s' run hstep ih =>
      subst hstep
      have hprev := ih fun t ht => hin t (List.mem_append_left _ ht)
      exact settled_next hprev (hin ⟨s, act, _⟩ (List.mem_append_right _ List.mem_cons_self))

/-- And every answer on the way is the plain one. -/
theorem answers_of_run (h : s₀.podMap.Settled w) (run : WorkerRun deviceMap s₀ past s)
    (hin : ∀ t ∈ past, t.label.In w) {t : Transition (WorkerState ω) (WorkerAct ω)}
    (ht : t ∈ past) {e : Event} {env : CallEnv} (hlabel : t.label = .event e env) :
    SameAnswer (t.pre.podMap.containerInfo e.cgroupID env).1
      (s₀.podMap.plain w e.cgroupID) := by
  obtain ⟨before, after, rfl, hbefore, -⟩ := run.of_mem ht
  have hpre : t.pre.podMap.Settled w :=
    settled_of_run h hbefore fun u hu => hin u (List.mem_append_left _ hu)
  have hnow : env.In w := by
    have h := hin t ht
    rwa [hlabel] at h
  rw [← plain_of_run hbefore w]
  exact (hpre.containerInfo hnow e.cgroupID).1

/-- What a run counts are the plain outcomes of its acts. -/
theorem outcomes_of_run (h : s₀.podMap.Settled w) (run : WorkerRun deviceMap s₀ past s)
    (hin : ∀ t ∈ past, t.label.In w) :
    workerOutcomes deviceMap past =
      past.map fun t => t.label.plainOutcome deviceMap (s₀.podMap.plain w) := by
  refine List.map_congr_left ?_
  intro t ht
  cases hlabel : t.label with
  | event e env => exact (answers_of_run h run hin ht hlabel).outcomeOf_eq
  | queueFull => rfl
  | scrape v => rfl

/-- **The cache and the index are invisible.**  In a run that starts in a world
and never sees another, whatever the clock says, every answer is the plain one,
and every counter is the number of its plain outcomes, modulo 2^64. -/
theorem worker_in_stable_world {cgroupRoot criSocket : String}
    {interval criTimeout cacheTTL : Duration} {start : StartEnv} {p : PodMap}
    (hnew : newPodMap cgroupRoot criSocket interval criTimeout cacheTTL start = .ok p)
    (hfs : start.fs = w.fs) (run : WorkerRun deviceMap ⟨p, newCollector ω⟩ past s)
    (hin : ∀ t ∈ past, t.label.In w) :
    (∀ t ∈ past, ∀ e env, t.label = .event e env →
      SameAnswer (t.pre.podMap.containerInfo e.cgroupID env).1
        (plainInfo cgroupRoot ⟨criTimeout⟩ w e.cgroupID)) ∧
    ∀ x : Series, s.collector.read x =
      (past.map fun t =>
        t.label.plainOutcome deviceMap (plainInfo cgroupRoot ⟨criTimeout⟩ w)).count x.outcome %
        2 ^ 64 := by
  have hplain : p.plain w = plainInfo cgroupRoot ⟨criTimeout⟩ w := by
    obtain ⟨hindex, hcri, -⟩ := newPodMap_ok hnew
    funext c
    rw [PodMap.plain, hindex, hcri]
  have hsettled : p.Settled w := PodMap.settled_of_newPodMap hnew hfs
  refine ⟨?_, ?_⟩
  · intro t ht e env hlabel
    rw [← hplain]
    exact answers_of_run hsettled run hin ht hlabel
  · intro x
    rw [run.read_eq Collector.fresh_newCollector, outcomes_of_run hsettled run hin, ← hplain]

/-- The world of the node with one container. -/
def onePodWorld : Surroundings := ⟨onePodFS, fun _ _ => labelled "default" "web" "app"⟩

/-- An event of that container at a time. -/
def webEvent (now : Time) : WorkerAct Unit :=
  .event podEvent (callAt now (labelled "default" "web" "app"))

set_option maxRecDepth 4000 in
/-- Two events of the container, the second of them answered by the cache. -/
theorem worker_in_stable_world_twice :
    ∃ past s, WorkerRun gpuMap (startState Unit) past s ∧
      s.collector.read (.ioctl webTuple) = 2 := by
  have run : WorkerRun gpuMap (startState Unit) [] (startState Unit) := .start
  have run := run.snoc (l := webEvent ⟨0⟩) rfl
  have run := run.snoc (l := webEvent ⟨1⟩) rfl
  refine ⟨_, _, run, ?_⟩
  obtain ⟨-, hread⟩ := worker_in_stable_world (w := onePodWorld) newPodMap_onePod rfl run
    (by
      intro t ht
      rcases List.mem_append.mp ht with h | h
      · obtain rfl := List.mem_singleton.mp h
        exact ⟨rfl, rfl⟩
      · obtain rfl := List.mem_singleton.mp h
        exact ⟨rfl, rfl⟩)
  rw [hread]
  decide

/-- **A rebuild brings the pod map up to date for good.**  Whatever the index and
the cache remembered, from the first event on that finds its cgroup missing from
an index old enough, every answer is the plain one for as long as the world stays
as that event saw it. -/
theorem worker_settles {before after : List (Transition (WorkerState ω) (WorkerAct ω))}
    {t : Transition (WorkerState ω) (WorkerAct ω)} {e : Event} {env : CallEnv}
    (run : WorkerRun deviceMap s₀ (before ++ t :: after) s) (hlabel : t.label = .event e env)
    (hknown : deviceMap.lookup e.node ≠ none)
    (hrebuilds : t.pre.podMap.RebuildHappens e.cgroupID env)
    (hin : env.In w) (hsame : ∀ u ∈ after, u.label.In w) :
    ∀ u ∈ after, ∀ e' env', u.label = .event e' env' →
      SameAnswer (u.pre.podMap.containerInfo e'.cgroupID env').1
        (s₀.podMap.plain w e'.cgroupID) := by
  obtain ⟨hbefore, hstep, hafter⟩ := run.through
  -- the event that rebuilds leaves a settled pod map, whatever it found
  have hsettled : t.post.podMap.Settled w := by
    have hasked : t.post.podMap = (t.pre.podMap.containerInfo e.cgroupID env).2 := by
      rw [hstep, hlabel]
      obtain ⟨device, hdevice⟩ := Option.ne_none_iff_exists'.mp hknown
      simp only [WorkerState.next, handleEvent, hdevice]
    rw [hasked]
    exact PodMap.settled_of_rebuildHappens hrebuilds hin
  intro u hu e' env' hlabel'
  rw [← plain_of_run (hbefore.snoc hstep) w]
  exact answers_of_run hsettled hafter hsame hu hlabel'

/-- An event of a cgroup that the tree does not have. -/
def strayEvent (now : Time) : WorkerAct Unit :=
  .event { podEvent with cgroupID := 9 } (callAt now (labelled "default" "web" "app"))

/-- The agent of that node after such an event, five seconds after the start. -/
def afterStray : WorkerState Unit := (startState Unit).next gpuMap (strayEvent ⟨5000000000⟩)

set_option maxRecDepth 4000 in
/-- From then on the container gets its plain answer. -/
theorem worker_settles_stray :
    SameAnswer (afterStray.podMap.containerInfo 4
        (callAt ⟨6⟩ (labelled "default" "web" "app"))).1
      ((startState Unit).podMap.plain onePodWorld 4) := by
  have run : WorkerRun gpuMap (startState Unit) [] (startState Unit) := .start
  have run : WorkerRun gpuMap (startState Unit) _ afterStray :=
    run.snoc (l := strayEvent ⟨5000000000⟩) rfl
  have run : WorkerRun gpuMap (startState Unit)
      ([] ++ ⟨startState Unit, strayEvent ⟨5000000000⟩, afterStray⟩ ::
        [⟨afterStray, webEvent ⟨6⟩, afterStray.next gpuMap (webEvent ⟨6⟩)⟩]) _ :=
    run.snoc rfl
  have hrebuilds : (startState Unit).podMap.RebuildHappens 9
      (callAt ⟨5000000000⟩ (labelled "default" "web" "app")) :=
    (PodMap.rebuildHappens_iff (by decide) rfl).mpr (by decide)
  have hsame : ∀ u ∈ [(⟨afterStray, webEvent ⟨6⟩, afterStray.next gpuMap (webEvent ⟨6⟩)⟩ :
      Transition (WorkerState Unit) (WorkerAct Unit))], u.label.In onePodWorld := by
    intro u hu
    obtain rfl := List.mem_singleton.mp hu
    exact ⟨rfl, rfl⟩
  exact worker_settles run rfl (by decide) hrebuilds ⟨rfl, rfl⟩ hsame
    _ List.mem_cons_self podEvent _ rfl

end

end KubeNpu

import KubeNpu.Agent.Readiness

/-!
# The way out

A signal starts a chain of eleven steps, taken by three goroutines: the one that
waited for the signal withdraws readiness, shuts the server down and closes the
reader; `main` closes the queue, waits for the worker and makes the deferred calls;
the worker drains what is queued in between.  `teardown` is the chain.  What a run
has done of it is always a first part of it, so no step overtakes another, whatever
else happens, and `progress` reads off a state how much it is.

The chain ends.  The goroutine for signals is never stuck, and from the closed reader
on `main` and the worker have only so many steps left, and are never stuck either.
-/

namespace KubeNpu

open Go Machine

/-- A step of the way out. -/
inductive Milestone where
  | takeSignal
  | storeUnready
  | shutdown
  | shutdownReturns
  | watcherClosesReader
  | closeQueue
  | wait
  | unwind
  | closePodMap
  | closeReader
  | closeHook
  deriving DecidableEq, Repr

/-- The way out, in order. -/
def teardown : List Milestone :=
  [.takeSignal, .storeUnready, .shutdown, .shutdownReturns, .watcherClosesReader, .closeQueue,
    .wait, .unwind, .closePodMap, .closeReader, .closeHook]

/-- The step of the way out that an act is, if it is one. -/
def ProcessAct.milestone {n : ℕ} : ProcessAct n → Option Milestone
  | takeSignal => some .takeSignal
  | storeUnready => some .storeUnready
  | shutdown => some .shutdown
  | shutdownReturns _ => some .shutdownReturns
  | watcherClosesReader => some .watcherClosesReader
  | pipeline .closeQueue => some .closeQueue
  | pipeline .wait => some .wait
  | unwind => some .unwind
  | closePodMap => some .closePodMap
  | closeReader => some .closeReader
  | closeHook => some .closeHook
  | _ => none

/-- How far the goroutine for signals is on the way out. -/
def WatcherPC.progress : WatcherPC → ℕ
  | off => 0
  | waiting => 0
  | storeUnready => 1
  | shutdown => 2
  | draining => 3
  | closeReader => 4
  | done => 5

/-- How far the loop of `main` is. -/
def MainPC.progress : MainPC → ℕ
  | reading => 0
  | sending _ => 0
  | closing => 0
  | waiting => 1
  | returned => 2

/-- How far the deferred calls are. -/
def Stage.progress : Stage → ℕ
  | closePodMap => 1
  | closeReader => 2
  | closeHook => 3
  | _ => 0

namespace Process

open ProcessAct

variable {R : Type} {n : ℕ} {cfg : ProcessConfig R} {s₀ s s' : Process R n}
  {act : ProcessAct n} {past : List (Transition (Process R n) (ProcessAct n))}

/-- How much of the way out lies behind. -/
def progress (s : Process R n) : ℕ :=
  s.watcher.progress + s.pipeline.main.progress + s.stage.progress +
    if s.exit = some .returned then 1 else 0

/-- A step of the pipeline is on the way out if it closes the queue or waits for the
worker. -/
private theorem main_progress (h : s.pipeline.Wf cfg.toPipelineConfig) {act : PipelineAct n}
    {next : Pipeline R ScrapeView n}
    (step : PipelineStep cfg.toPipelineConfig s.pipeline act next) :
    match (ProcessAct.pipeline act : ProcessAct n).milestone with
    | some .closeQueue => s.pipeline.main.progress = 0 ∧ s.pipeline.main.left = true ∧
        next.main.progress = 1
    | some .wait => s.pipeline.main.progress = 1 ∧ s.pipeline.main.left = true ∧
        next.main.progress = 2
    | some _ => False
    | none => next.main.progress = s.pipeline.main.progress := by
  cases step with
  | hook running cpu call result ran => cases result <;> rfl
  | read running at_read answer ring returned =>
      have hzero : ∀ r, (MainPC.afterRead r).progress = 0 := by
        intro r
        unfold MainPC.afterRead
        split
        · rfl
        · split <;> rfl
      show (MainPC.afterRead _).progress = _
      rw [hzero, at_read]
      rfl
  | send running event at_select result tried =>
      cases result with
      | panics => rfl
      | handed =>
          show _ = s.pipeline.main.progress
          rw [at_select]
          rfl
      | buffered =>
          show _ = s.pipeline.main.progress
          rw [at_select]
          rfl
      | full =>
          show _ = s.pipeline.main.progress
          rw [at_select]
          rfl
  | closeQueue running at_close =>
      obtain ⟨queue, hclose⟩ := h.close_ne_none at_close
      simp only [milestone, Pipeline.afterCloseQueue, hclose, at_close]
      exact ⟨rfl, rfl, rfl⟩
  | wait running at_wait finished =>
      simp only [milestone, at_wait]
      exact ⟨rfl, rfl, rfl⟩
  | receive => rfl
  | wake => rfl
  | handle => rfl
  | closeReader running =>
      show (Pipeline.afterCloseReader _ _).main.progress = _
      unfold Pipeline.afterCloseReader
      split <;> rfl

/-- Until the goroutine for signals is done, `main` has nothing of the way out behind
it. -/
theorem progress_of_watcher (h : s.Ordered cfg) (hwatcher : s.watcher ≠ .done) :
    s.pipeline.main.progress = 0 ∧ s.stage.progress = 0 := by
  have hloop : s.stage.pos ≤ Stage.loop.pos :=
    not_lt.mp fun hlate => hwatcher (h.past_loop hlate).2
  refine ⟨?_, ?_⟩
  · have hin : s.pipeline.main.left = false := by
      refine Bool.eq_false_iff.mpr fun hleft => ?_
      rcases h.closedOnce_iff.mp (h.closes.left hleft) with hdone | hhook
      · exact hwatcher hdone
      · rw [hhook] at hloop
        exact absurd hloop (by decide)
    cases hmain : s.pipeline.main <;> simp_all [MainPC.left, MainPC.progress]
  · cases hstage : s.stage <;> simp_all [Stage.pos, Stage.progress]

/-- Neither is it on the way out where `main` goes on to the loop, or dies before. -/
private theorem goesOn_progress {ε : Type} (alive : s.exit = none) (hbefore : s.stage.progress = 0)
    (err : Option ε) {stage : Stage} (hafter : stage.progress = 0) :
    (s.goesOn err stage).progress = s.progress := by
  cases err with
  | none =>
      show s.watcher.progress + s.pipeline.main.progress + stage.progress + _ = _
      rw [hafter, progress, hbefore]
      rfl
  | some text => simp [progress, goesOn, Process.exits, alive]

private theorem afterSignal_progress (alive : s.exit = none) :
    s.afterSignal.progress = s.progress := by
  unfold afterSignal
  split
  · simp [progress, Process.exits, alive]
  · rfl

/-- **Every step is the next one of the way out, or none of it.** -/
theorem progress_step (h : s.Ordered cfg) (hstep : ProcessStep cfg s act s') :
    match act.milestone with
    | some m => teardown[s.progress]? = some m ∧ s'.progress = s.progress + 1
    | none => s'.progress = s.progress := by
  have hearly := progress_of_watcher h
  have hlate := h.past_loop
  cases hstep with
  -- the goroutine for signals: `main` has done nothing of it yet
  | takeSignal alive at_pc sent | storeUnready alive at_pc | shutdown alive at_pc
  | shutdownReturns alive at_pc timeout drained =>
      obtain ⟨hmain, hstage⟩ := hearly (by simp [at_pc])
      simp [milestone, progress, hmain, hstage, at_pc, alive, WatcherPC.progress, teardown]
  | watcherClosesReader alive at_pc next step =>
      obtain ⟨hmain, hstage⟩ := hearly (by simp [at_pc])
      have hnext : next.main.progress = s.pipeline.main.progress :=
        congrArg MainPC.progress (Pipeline.main_step step trivial)
      simp [milestone, progress, hmain, hnext, hstage, at_pc, alive, WatcherPC.progress, teardown]
  -- the deferred calls: everything before them is done
  | unwind alive at_stage returned =>
      have hdone := h.watcher_done at_stage (by rw [returned]; rfl)
      simp [milestone, progress, hdone, at_stage, returned, alive, WatcherPC.progress,
        MainPC.progress, Stage.progress, teardown]
  | closePodMap alive at_stage | closeHook alive at_stage =>
      obtain ⟨hmain, hdone⟩ := hlate (by rw [at_stage]; decide)
      simp [milestone, progress, hdone, at_stage, hmain, alive, WatcherPC.progress,
        MainPC.progress, Stage.progress, teardown, Process.exits]
  | closeReader alive at_stage next step =>
      obtain ⟨hmain, hdone⟩ := hlate (by rw [at_stage]; decide)
      have hnext : next.main = s.pipeline.main := Pipeline.main_step step trivial
      simp [milestone, progress, hdone, at_stage, hmain, hnext, alive, WatcherPC.progress,
        MainPC.progress, Stage.progress, teardown]
  | pipeline alive act may next step =>
      have hmain := main_progress h.wf step
      cases act with
      | closeQueue =>
          obtain ⟨hbefore, hleft, hafter⟩ := hmain
          have hstage : s.stage = .loop := may
          have hdone := h.watcher_done hstage hleft
          simp [milestone, progress, hdone, hstage, hbefore, hafter, alive, WatcherPC.progress,
            Stage.progress, teardown]
      | wait =>
          obtain ⟨hbefore, hleft, hafter⟩ := hmain
          have hstage : s.stage = .loop := may
          have hdone := h.watcher_done hstage hleft
          simp [milestone, progress, hdone, hstage, hbefore, hafter, alive, WatcherPC.progress,
            Stage.progress, teardown]
      | _ => exact congrArg (fun k => s.watcher.progress + k + s.stage.progress +
          if s.exit = some .returned then 1 else 0) hmain
  -- the rest is none of it
  | attach alive at_stage err =>
      exact goesOn_progress (s := { s with attached := err.isNone }) alive (by simp [at_stage,
        Stage.progress]) err rfl
  | newPodMap alive at_stage start made =>
      exact goesOn_progress alive (by rw [at_stage]; rfl) _ rfl
  | createReader alive at_stage err =>
      exact goesOn_progress alive (by rw [at_stage]; rfl) err rfl
  | signal alive => exact afterSignal_progress alive
  | watch alive at_stage =>
      have hoff := h.watcher_off (by rw [at_stage])
      simp [milestone, progress, at_stage, hoff, Stage.progress, WatcherPC.progress]
  | serve alive at_stage | storeReady alive at_stage | notify alive at_stage
  | launch alive at_stage => simp [milestone, progress, at_stage, Stage.progress]
  | _ => rfl

/-- **What a run has done of the way out is a first part of it.** -/
theorem milestones_eq (hlaw : cfg.ringbuf.Lawful) (honly : cfg.ringbuf.ClosedOnly)
    (h₀ : s₀.Ordered cfg) (hzero : s₀.progress = 0) (run : ProcessRun cfg s₀ past s) :
    collect milestone past = teardown.take s.progress := by
  induction run with
  | start => rw [hzero]; rfl
  | @snoc past s act s' run hstep ih =>
      have hnext := progress_step (ordered_of_run hlaw honly h₀ run) hstep
      rw [collect_concat, ih]
      cases hm : act.milestone with
      | none =>
          rw [hm] at hnext
          rw [hnext, Option.toList_none, List.append_nil]
      | some m =>
          rw [hm] at hnext
          obtain ⟨hat, hplus⟩ := hnext
          rw [hplus, List.take_add_one, hat]

/-- The worker asks the pod map only while it is open. -/
theorem podMap_open_of_handle (h : s.Ordered cfg) {event : Event} {env : CallEnv}
    (hstep : ProcessStep cfg s (.pipeline (.handle event env)) s') : s.podMapClosed = false := by
  refine Bool.eq_false_iff.mpr fun hclosed => ?_
  have hlate := h.podMap_iff.mp hclosed
  -- past the loop `main` has waited for the worker
  have hreturned := (h.past_loop (lt_trans (by decide) hlate)).1
  cases hstep with
  | pipeline alive act may next step =>
      cases step with
      | handle running event in_body env =>
          have hdone := h.wf.returned hreturned
          rw [in_body] at hdone
          cases hdone

/-- The deferred `CloseReader` finds the reader closed. -/
theorem closeReader_idle (h : s.Ordered cfg) (hstep : ProcessStep cfg s .closeReader s') :
    s'.pipeline = s.pipeline := by
  cases hstep with
  | closeReader alive at_stage next step =>
      obtain ⟨-, hdone⟩ := h.past_loop (by rw [at_stage]; decide)
      have honce : s.pipeline.closedOnce = true := h.closedOnce_iff.mpr (Or.inl hdone)
      cases step with
      | closeReader running =>
          show Pipeline.afterCloseReader _ _ = _
          rw [Pipeline.afterCloseReader, if_pos honce]

/-- **The way out has one order.**  In every run of the process, whatever its parties
do: what was done of the way out is a first part of it, so each step of it happens
at most once and only after those before it; the worker asks the pod map only while
it is open; the deferred `CloseReader` changes nothing; and a process that returned
has gone all the way, with an empty queue and every queued event handled. -/
theorem teardown_in_order {settings : Config} {ring : R} {agent : WorkerState ScrapeView}
    (hlaw : cfg.ringbuf.Lawful) (honly : cfg.ringbuf.ClosedOnly)
    (hempty : cfg.ringbuf.records ring = []) (hopen : cfg.ringbuf.closed ring = false)
    (run : ProcessRun cfg (start settings ring agent : Process R n) past s) :
    collect milestone past = teardown.take s.progress ∧
    (∀ t ∈ past,
      (∀ event env, t.label = .pipeline (.handle event env) → t.pre.podMapClosed = false) ∧
      (t.label = .closeReader → t.post.pipeline = t.pre.pipeline)) ∧
    (s.exit = some .returned → collect milestone past = teardown ∧ s.pipeline.queue.buf = [] ∧
      collect PipelineAct.finished (project Process.pipeline pipelineAct past) =
        collect PipelineAct.enqueued (project Process.pipeline pipelineAct past)) := by
  have h₀ : (start settings ring agent : Process R n).Ordered cfg := ordered_start hempty hopen
  have horder := milestones_eq hlaw honly h₀ rfl run
  have h := ordered_of_run hlaw honly h₀ run
  refine ⟨horder, ?_, ?_⟩
  · intro t ht
    obtain ⟨before, after, -, hbefore, hstep⟩ := run.of_mem ht
    have hpre := ordered_of_run hlaw honly h₀ hbefore
    refine ⟨?_, ?_⟩
    · intro event env hlabel
      rw [hlabel] at hstep
      exact podMap_open_of_handle hpre hstep
    · intro hlabel
      rw [hlabel] at hstep
      exact closeReader_idle hpre hstep
  · intro hreturned
    have hstage := h.returned hreturned
    obtain ⟨hmain, hdone⟩ := h.past_loop (by rw [hstage]; decide)
    have hall : s.progress = 11 := by
      rw [progress, hdone, hmain, hstage, if_pos hreturned]
      rfl
    have hworker := h.wf.returned hmain
    have hbuf := (h.wf.done hworker).1
    have hcustody := Pipeline.custody_of_run hlaw hempty (pipeline_run run)
    refine ⟨?_, hbuf, ?_⟩
    · rw [horder, hall]
      rfl
    · rw [hcustody.enqueued_eq, hcustody.taken_eq, hbuf, hworker]
      simp [WorkerPC.held]

/-! ## The way out ends -/

end Process

/-- The act is one of the goroutine for signals. -/
def ProcessAct.ofWatcher {n : ℕ} : ProcessAct n → Bool
  | takeSignal => true
  | storeUnready => true
  | shutdown => true
  | shutdownReturns _ => true
  | watcherClosesReader => true
  | _ => false

/-- The act is one of `main` or of the worker. -/
def ProcessAct.ofMain {n : ℕ} : ProcessAct n → Bool
  | pipeline act => act.ofAgent
  | takeSignal => false
  | storeUnready => false
  | shutdown => false
  | shutdownReturns _ => false
  | watcherClosesReader => false
  | signal => false
  | listen _ => false
  | serverFails => false
  | accept => false
  | respond _ _ _ => false
  | _ => true

theorem WatcherPC.pos_le (pc : WatcherPC) : pc.pos ≤ WatcherPC.done.pos := by
  cases pc <;> decide

namespace Process

open ProcessAct

variable {R : Type} {n : ℕ} {cfg : ProcessConfig R} {s₀ s s' : Process R n}
  {act : ProcessAct n} {past after : List (Transition (Process R n) (ProcessAct n))}

/-- The steps that the goroutine for signals has left, its start among them. -/
def watcherRemaining (s : Process R n) : ℕ := WatcherPC.done.pos - s.watcher.pos

/-- The goroutine for signals goes forward with its own steps, and `main` starts it. -/
theorem watcherRemaining_step (h : s.Ordered cfg) (hstep : ProcessStep cfg s act s') :
    s'.watcherRemaining + (if act.ofWatcher = true then 1 else 0) ≤ s.watcherRemaining := by
  unfold watcherRemaining
  cases hstep with
  | attach alive at_stage err => cases err <;> simp [goesOn, Process.exits, ofWatcher]
  | newPodMap alive at_stage start made =>
      unfold goesOn
      split <;> simp [Process.exits, ofWatcher]
  | createReader alive at_stage err => cases err <;> simp [goesOn, Process.exits, ofWatcher]
  | signal alive =>
      unfold afterSignal
      split <;> simp [Process.exits, ofWatcher]
  | watch alive at_stage =>
      simp [h.watcher_off (by rw [at_stage]), ofWatcher, WatcherPC.pos]
  | takeSignal alive at_pc sent | storeUnready alive at_pc | shutdown alive at_pc
  | shutdownReturns alive at_pc timeout drained | watcherClosesReader alive at_pc next step =>
      simp [at_pc, ofWatcher, WatcherPC.pos]
  | _ => exact le_rfl

/-- Once it has a signal, it is never stuck: `Shutdown` has a deadline. -/
theorem exists_watcher_step (h : s.Ordered cfg) (alive : s.exit = none)
    (htaken : WatcherPC.storeUnready.pos ≤ s.watcher.pos) (hdone : s.watcher ≠ .done) :
    ∃ act s', act.ofWatcher = true ∧ ProcessStep cfg s act s' := by
  cases hpc : s.watcher with
  | off =>
      rw [hpc] at htaken
      exact absurd htaken (by decide)
  | waiting =>
      rw [hpc] at htaken
      exact absurd htaken (by decide)
  | storeUnready => exact ⟨_, _, rfl, .storeUnready alive hpc⟩
  | shutdown => exact ⟨_, _, rfl, .shutdown alive hpc⟩
  | draining => exact ⟨.shutdownReturns true, _, rfl, .shutdownReturns alive hpc true nofun⟩
  | closeReader => exact ⟨_, _, rfl, .watcherClosesReader alive hpc _ (.closeReader h.wf.running)⟩
  | done => exact absurd hpc hdone

/-- The stages that `main` has left. -/
def stagesRemaining (s : Process R n) : ℕ :=
  if s.exit = none then Stage.closeHook.pos + 1 - s.stage.pos else 0

/-- The steps that `main` and the worker have left once the reader is closed. -/
def remaining (s : Process R n) : ℕ := s.pipeline.remaining + s.stagesRemaining

/-- The reader is closed. -/
structure Stopping (cfg : ProcessConfig R) (s : Process R n) : Prop where
  ordered : s.Ordered cfg
  closed : cfg.ringbuf.closed s.pipeline.ring = true

/-- By then the goroutine for signals was started, so `main` is at its last line
before the loop, or past it. -/
theorem Stopping.launched (h : s.Stopping cfg) : Stage.watch.pos < s.stage.pos := by
  have honce : s.pipeline.closedOnce = true := h.ordered.closes.closed_eq.symm.trans h.closed
  rcases h.ordered.closedOnce_iff.mp honce with hdone | hhook
  · refine h.ordered.watcher_iff.mp ?_
    rw [hdone]
    decide
  · rw [hhook]
    decide

theorem Stopping.pipeline (h : s.Stopping cfg) :
    Pipeline.Stopping cfg.toPipelineConfig s.pipeline := ⟨h.ordered.wf, h.closed⟩

/-- The reader stays closed. -/
theorem Stopping.step (hlaw : cfg.ringbuf.Lawful) (honly : cfg.ringbuf.ClosedOnly)
    (h : s.Stopping cfg) (hstep : ProcessStep cfg s act s') : s'.Stopping cfg := by
  refine ⟨h.ordered.step hlaw honly hstep, ?_⟩
  have hpipeline := pipeline_step hstep
  cases hact : act.pipelineAct with
  | none =>
      rw [hact] at hpipeline
      rw [hpipeline]
      exact h.closed
  | some pact =>
      rw [hact] at hpipeline
      exact (h.pipeline.step hlaw hpipeline).closed

/-- **Every step of `main` or of the worker brings the exit closer**, and no other
step sets it back. -/
theorem remaining_step (hlaw : cfg.ringbuf.Lawful) (h : s.Stopping cfg)
    (hstep : ProcessStep cfg s act s') :
    s'.remaining + (if act.ofMain = true then 1 else 0) ≤ s.remaining := by
  have hlaunched := h.launched
  -- a step of the pipeline costs the process what it costs the pipeline
  have hpart {pact : PipelineAct n} {next : Pipeline R ScrapeView n}
      (step : PipelineStep cfg.toPipelineConfig s.pipeline pact next) :
      next.remaining + (if pact.ofAgent = true then 1 else 0) ≤ s.pipeline.remaining :=
    Pipeline.remaining_step hlaw h.pipeline step
  cases hstep with
  | attach alive at_stage | newPodMap alive at_stage | serve alive at_stage
  | createReader alive at_stage | storeReady alive at_stage | notify alive at_stage
  | watch alive at_stage =>
      rw [at_stage] at hlaunched
      exact absurd hlaunched (by decide)
  | launch alive at_stage | unwind alive at_stage returned | closePodMap alive at_stage =>
      simp [remaining, stagesRemaining, at_stage, alive, Stage.pos, ofMain]
  | closeReader alive at_stage next step =>
      have hnext : next.remaining + 0 ≤ s.pipeline.remaining := hpart step
      simp [remaining, stagesRemaining, at_stage, alive, Stage.pos, ofMain]
      omega
  | closeHook alive at_stage =>
      simp [remaining, stagesRemaining, at_stage, alive, Process.exits, ofMain]
  | pipeline alive act may next step =>
      have hnext := hpart step
      show next.remaining + s.stagesRemaining + (if act.ofAgent = true then 1 else 0) ≤
        s.pipeline.remaining + s.stagesRemaining
      omega
  | watcherClosesReader alive at_pc next step =>
      have hnext : next.remaining + 0 ≤ s.pipeline.remaining := hpart step
      show next.remaining + s.stagesRemaining + 0 ≤ s.pipeline.remaining + s.stagesRemaining
      omega
  | signal alive =>
      unfold afterSignal
      split
      · simp [remaining, stagesRemaining, Process.exits, ofMain]
      · exact le_rfl
  | _ => exact le_rfl

/-- In the loop `main` and the worker may take any step of theirs. -/
theorem mayTake_of_loop (hstage : s.stage = .loop) {act : PipelineAct n}
    (hact : act.ofAgent = true) : s.MayTake act := by
  cases act with
  | hook => cases hact
  | closeReader => cases hact
  | receive => exact (congrArg Stage.pos hstage).ge
  | wake => exact (congrArg Stage.pos hstage).ge
  | handle => exact (congrArg Stage.pos hstage).ge
  | _ => exact hstage

/-- **No deadlock**: until the process has ended, `main` or the worker can take a
step. -/
theorem exists_main_step (hlaw : cfg.ringbuf.Lawful) (h : s.Stopping cfg)
    (alive : s.exit = none) (env : CallEnv) :
    ∃ act s', act.ofMain = true ∧ ProcessStep cfg s act s' := by
  have hlaunched := h.launched
  cases hstage : s.stage with
  | launch => exact ⟨_, _, rfl, .launch alive hstage⟩
  | loop =>
      by_cases hmain : s.pipeline.main = .returned
      · exact ⟨_, _, rfl, .unwind alive hstage hmain⟩
      · obtain ⟨act, next, hact, step⟩ := Pipeline.exists_step hlaw h.pipeline env hmain
        exact ⟨.pipeline act, _, hact, .pipeline alive act (mayTake_of_loop hstage hact) next step⟩
  | closePodMap => exact ⟨_, _, rfl, .closePodMap alive hstage⟩
  | closeReader =>
      have running := h.ordered.wf.running
      exact ⟨_, _, rfl, .closeReader alive hstage _ (.closeReader running)⟩
  | closeHook => exact ⟨_, _, rfl, .closeHook alive hstage⟩
  | _ =>
      rw [hstage] at hlaunched
      exact absurd hlaunched (by decide)

/-- The process of the machine with one GPU once the goroutine for signals is done, with
nothing ever queued; the pipeline stands where `main`, the queue and the worker are. -/
def gpuStopped (p : PodMap) (stage : Stage) (podMapClosed : Bool) (main : MainPC)
    (queueClosed : Bool) (worker : WorkerPC) : Process MemRing 1 :=
  { gpuState p stage false .closed 0 false .done with
    podMapClosed
    pipeline :=
      { Pipeline.start 4096 ⟨96, [], true⟩ ⟨p, newCollector ScrapeView⟩ with
        closedOnce := true
        main
        queue := ⟨4096, [], queueClosed, Nat.zero_le _⟩
        worker } }

/-- A signal comes before the loop is entered; the goroutine that takes it closes the
reader. -/
theorem exists_stopped_run : ∃ (p : PodMap)
    (past : List (Transition (Process MemRing 1) (ProcessAct 1))),
    ProcessRun gpuProcess
      (start gpuProcess.settings ⟨96, [], false⟩ ⟨p, newCollector ScrapeView⟩) past
      (gpuStopped p .loop false .reading false .receiving) := by
  obtain ⟨p, past, run, -⟩ := exists_listening_run
  have run : ProcessRun gpuProcess _ _ (gpuState p .storeReady false .listening 0 false .off) :=
    run.snoc (.createReader rfl rfl none)
  have run : ProcessRun gpuProcess _ _ (gpuState p .notify true .listening 0 false .off) :=
    run.snoc (.storeReady rfl rfl)
  have run : ProcessRun gpuProcess _ _ (gpuState p .watch true .listening 0 false .off) :=
    run.snoc (.notify rfl rfl)
  have run : ProcessRun gpuProcess _ _ (gpuState p .launch true .listening 0 false .waiting) :=
    run.snoc (.watch rfl rfl)
  have run : ProcessRun gpuProcess _ _ (gpuState p .launch true .listening 0 true .waiting) :=
    run.snoc (.signal rfl)
  have run : ProcessRun gpuProcess _ _
    (gpuState p .launch true .listening 0 false .storeUnready) := run.snoc (.takeSignal rfl rfl rfl)
  have run : ProcessRun gpuProcess _ _ (gpuState p .launch false .listening 0 false .shutdown) :=
    run.snoc (.storeUnready rfl rfl)
  have run : ProcessRun gpuProcess _ _ (gpuState p .launch false .closed 0 false .draining) :=
    run.snoc (.shutdown rfl rfl)
  have run : ProcessRun gpuProcess _ _ (gpuState p .launch false .closed 0 false .closeReader) :=
    run.snoc (.shutdownReturns rfl rfl false fun _ => rfl)
  have run : ProcessRun gpuProcess _ _ (gpuStopped p .launch false .reading false .receiving) :=
    run.snoc (.watcherClosesReader rfl rfl _ (.closeReader rfl))
  have run : ProcessRun gpuProcess _ _ (gpuStopped p .loop false .reading false .receiving) :=
    run.snoc (.launch rfl rfl)
  exact ⟨p, _, run⟩

/-- From there the process returns. -/
theorem exists_returned_run (p : PodMap) :
    ∃ (after : List (Transition (Process MemRing 1) (ProcessAct 1))) (s : Process MemRing 1),
    ProcessRun gpuProcess (gpuStopped p .loop false .reading false .receiving) after s ∧
      s.exit = some .returned := by
  have run : ProcessRun gpuProcess (gpuStopped p .loop false .reading false .receiving) [] _ :=
    .start
  have run := run.snoc (.pipeline rfl _ (mayTake_of_loop rfl rfl) _
    (.read rfl rfl _ _ MemRing.Read.closed))
  have run : ProcessRun gpuProcess _ _ (gpuStopped p .loop false .closing false .receiving) := run
  have run := run.snoc (.pipeline rfl _ (mayTake_of_loop rfl rfl) _ (.closeQueue rfl rfl))
  have run : ProcessRun gpuProcess _ _ (gpuStopped p .loop false .waiting true .receiving) := run
  have run := run.snoc (.pipeline rfl _ (mayTake_of_loop rfl rfl) _ (.receive rfl rfl _ rfl))
  have run : ProcessRun gpuProcess _ _ (gpuStopped p .loop false .waiting true .done) := run
  have run := run.snoc (.pipeline rfl _ (mayTake_of_loop rfl rfl) _ (.wait rfl rfl rfl))
  have run : ProcessRun gpuProcess _ _ (gpuStopped p .loop false .returned true .done) := run
  have run : ProcessRun gpuProcess _ _ (gpuStopped p .closePodMap false .returned true .done) :=
    run.snoc (.unwind rfl rfl rfl)
  have run : ProcessRun gpuProcess _ _ (gpuStopped p .closeReader true .returned true .done) :=
    run.snoc (.closePodMap rfl rfl)
  have run : ProcessRun gpuProcess _ _ (gpuStopped p .closeHook true .returned true .done) :=
    run.snoc (.closeReader rfl rfl _ (.closeReader rfl))
  have run := run.snoc (.closeHook rfl rfl)
  exact ⟨_, _, run, rfl⟩

/-- That run goes all the way out. -/
theorem teardown_in_order_gpu : ∃ (past : List (Transition (Process MemRing 1) (ProcessAct 1)))
    (s : Process MemRing 1), s.exit = some .returned ∧ collect milestone past = teardown := by
  obtain ⟨p, past, run⟩ := exists_stopped_run
  obtain ⟨after, s, more, hreturned⟩ := exists_returned_run p
  obtain ⟨-, -, hall⟩ :=
    teardown_in_order MemRing.lawful MemRing.closedOnly rfl rfl (run.append more)
  exact ⟨_, s, hreturned, (hall hreturned).1⟩

end Process

end KubeNpu

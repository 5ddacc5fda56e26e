import KubeNpu.Agent.Durations
import KubeNpu.Agent.Ledger
import KubeNpu.Server

/-!
# `cmd/agent/main.go`: the process around the pipeline

From the end of the setup loop to the exit, `main` goes through a dozen stages,
each a line of its body: it attaches the program, builds the pod map, starts the
server, creates the reader, says it is ready, and so on down to the deferred calls.
Beside it run the kernel program, the worker, the goroutine that waits for a signal,
and the server with its handlers.

`ProcessStep` has one constructor for every atomic thing one of them does.  What
the pipeline does is a `PipelineStep`, taken when the process lets that party run;
so every run of the process has a run of the pipeline in it (`pipeline_run`).

`log.Fatal` ends the process without the deferred calls, and so does a signal that
nobody catches; the kernel then releases what the process had open.
-/

namespace KubeNpu

open Go Machine

/-! ## The parties -/

/-- Where the goroutine of `main` is, each stage named after the call it is at. -/
inductive Stage where
  /-- `l.Attach()`. -/
  | attach
  /-- `podmap.NewPodMap(...)`. -/
  | newPodMap
  /-- `go func() { srv.Run() }()`. -/
  | serve
  /-- `l.CreateReader()`. -/
  | createReader
  /-- `ready.Store(true)`. -/
  | storeReady
  /-- `signal.Notify(sigs, ...)`. -/
  | notify
  /-- `go func() { <-sigs ... }()`. -/
  | watch
  /-- The queue is made and the worker started. -/
  | launch
  /-- The loop, `close(queue)` and `workers.Wait()`. -/
  | loop
  /-- The deferred `podMap.Close()`. -/
  | closePodMap
  /-- `l.CloseReader()`, in the deferred `loader.Close()`. -/
  | closeReader
  /-- `l.hook.Close()` and `l.bpfObjects.Close()`, there too. -/
  | closeHook
  deriving DecidableEq, Repr

/-- The position of a stage in the body of `main`. -/
def Stage.pos : Stage → ℕ
  | attach => 0
  | newPodMap => 1
  | serve => 2
  | createReader => 3
  | storeReady => 4
  | notify => 5
  | watch => 6
  | launch => 7
  | loop => 8
  | closePodMap => 9
  | closeReader => 10
  | closeHook => 11

/-- Where the goroutine that waits for a signal is. -/
inductive WatcherPC where
  /-- Not started. -/
  | off
  /-- `<-sigs`. -/
  | waiting
  /-- `ready.Store(false)`. -/
  | storeUnready
  /-- `srv.Shutdown(ctx)`, before the listener is closed. -/
  | shutdown
  /-- In `srv.Shutdown(ctx)`, waiting for the handlers. -/
  | draining
  /-- `l.CloseReader()`. -/
  | closeReader
  | done
  deriving DecidableEq, Repr

/-- The position of the goroutine in its body. -/
def WatcherPC.pos : WatcherPC → ℕ
  | off => 0
  | waiting => 1
  | storeUnready => 2
  | shutdown => 3
  | draining => 4
  | closeReader => 5
  | done => 6

/-- How the process ended. -/
inductive Exit where
  /-- `main` returned. -/
  | returned
  /-- `log.Fatal`. -/
  | fatal
  /-- A signal that was not caught. -/
  | killed
  deriving DecidableEq, Repr

/-- The state of the process on a machine with `n` CPUs. -/
structure Process (R : Type) (n : ℕ) where
  stage : Stage
  exit : Option Exit
  /-- `l.hook` is attached. -/
  attached : Bool
  ready : Bool
  server : ServerState
  /-- The requests whose handlers have not answered. -/
  requests : ℕ
  /-- A signal is in the buffer of `sigs`. -/
  pending : Bool
  watcher : WatcherPC
  podMapClosed : Bool
  pipeline : Pipeline R ScrapeView n

/-- What happens in the process. -/
inductive ProcessAct (n : ℕ) where
  | attach (err : Option String)
  | newPodMap (start : StartEnv)
  | serve
  | createReader (err : Option String)
  | storeReady
  | notify
  | watch
  | launch
  /-- A step of the pipeline, other than `CloseReader`. -/
  | pipeline (act : PipelineAct n)
  /-- `workers.Wait()` has returned, and the deferred calls begin. -/
  | unwind
  | closePodMap
  /-- `CloseReader` by `loader.Close`. -/
  | closeReader
  | closeHook
  /-- SIGINT or SIGTERM. -/
  | signal
  | takeSignal
  | storeUnready
  | shutdown
  /-- `srv.Shutdown` returns: every handler has answered, or the time is up. -/
  | shutdownReturns (timeout : Bool)
  /-- `CloseReader` by the goroutine that waited for the signal. -/
  | watcherClosesReader
  /-- `ListenAndServe` listens, or fails. -/
  | listen (err : Option String)
  | serverFails
  | accept
  /-- A handler answers; the scrape of `/metrics` reads the per-CPU counters, or
  fails to with this error. -/
  | respond (path : String) (lookupErr : Option String) (response : Response)

/-- What does not change: the settings, and the pipeline's part. -/
structure ProcessConfig (R : Type) extends PipelineConfig R where
  settings : Config

namespace Process

variable {R : Type} {n : ℕ}

/-- The process after the setup loop.  `agent` has the pod map that `NewPodMap` is
going to return, which nothing looks at before, and the collector with its sources. -/
def start (settings : Config) (ring : R) (agent : WorkerState ScrapeView) : Process R n where
  stage := .attach
  exit := none
  attached := false
  ready := false
  server := .idle
  requests := 0
  pending := false
  watcher := .off
  podMapClosed := false
  pipeline := .start settings.queueSize.toInt.toNat ring agent

/-- The process ends, and the kernel detaches the program. -/
def exits (s : Process R n) (how : Exit) : Process R n :=
  { s with exit := some how, attached := false }

/-- `main` goes on to a stage, or ends in `log.Fatal`. -/
def goesOn {ε : Type} (s : Process R n) (err : Option ε) (stage : Stage) : Process R n :=
  match err with
  | none => { s with stage }
  | some _ => s.exits .fatal

/-- A caught signal goes into the buffer of `sigs`; one that comes before
`signal.Notify` ends the process. -/
def afterSignal (s : Process R n) : Process R n :=
  if s.stage.pos ≤ Stage.notify.pos then s.exits .killed else { s with pending := true }

/-- The party that takes a step of the pipeline runs: the program while it is
attached, `main` in its loop, the worker from its start on.  `CloseReader` has steps
of its own. -/
def MayTake (s : Process R n) : PipelineAct n → Prop
  | .hook _ _ _ => s.attached = true
  | .read _ => s.stage = .loop
  | .send _ _ => s.stage = .loop
  | .closeQueue => s.stage = .loop
  | .wait => s.stage = .loop
  | .receive _ => Stage.loop.pos ≤ s.stage.pos
  | .wake => Stage.loop.pos ≤ s.stage.pos
  | .handle _ _ => Stage.loop.pos ≤ s.stage.pos
  | .closeReader => False

/-- What a handler answers in a state. -/
def answer (s : Process R n) (path : String) (lookupErr : Option String) : Response :=
  serveHTTP (some s.ready) (s.pipeline.scrape lookupErr) path

end Process

/-- **One step of one party.**  Nothing happens after the exit. -/
inductive ProcessStep {R : Type} {n : ℕ} (cfg : ProcessConfig R) :
    Process R n → ProcessAct n → Process R n → Prop where
  | attach {s : Process R n} (alive : s.exit = none) (at_stage : s.stage = .attach)
      (err : Option String) :
      ProcessStep cfg s (.attach err)
        ({ s with attached := err.isNone }.goesOn err .newPodMap)
  | newPodMap {s : Process R n} (alive : s.exit = none) (at_stage : s.stage = .newPodMap)
      (start : StartEnv)
      (made : ∀ p, newPodMapOf cfg.settings start = .ok p → p = s.pipeline.agent.podMap) :
      ProcessStep cfg s (.newPodMap start)
        (s.goesOn (errorOf (newPodMapOf cfg.settings start)) .serve)
  | serve {s : Process R n} (alive : s.exit = none) (at_stage : s.stage = .serve) :
      ProcessStep cfg s .serve { s with stage := .createReader, server := .starting }
  | createReader {s : Process R n} (alive : s.exit = none) (at_stage : s.stage = .createReader)
      (err : Option String) :
      ProcessStep cfg s (.createReader err) (s.goesOn err .storeReady)
  | storeReady {s : Process R n} (alive : s.exit = none) (at_stage : s.stage = .storeReady) :
      ProcessStep cfg s .storeReady { s with stage := .notify, ready := true }
  | notify {s : Process R n} (alive : s.exit = none) (at_stage : s.stage = .notify) :
      ProcessStep cfg s .notify { s with stage := .watch }
  | watch {s : Process R n} (alive : s.exit = none) (at_stage : s.stage = .watch) :
      ProcessStep cfg s .watch { s with stage := .launch, watcher := .waiting }
  | launch {s : Process R n} (alive : s.exit = none) (at_stage : s.stage = .launch) :
      ProcessStep cfg s .launch { s with stage := .loop }
  | pipeline {s : Process R n} (alive : s.exit = none) (act : PipelineAct n)
      (may : s.MayTake act) (next : Pipeline R ScrapeView n)
      (step : PipelineStep cfg.toPipelineConfig s.pipeline act next) :
      ProcessStep cfg s (.pipeline act) { s with pipeline := next }
  | unwind {s : Process R n} (alive : s.exit = none) (at_stage : s.stage = .loop)
      (returned : s.pipeline.main = .returned) :
      ProcessStep cfg s .unwind { s with stage := .closePodMap }
  | closePodMap {s : Process R n} (alive : s.exit = none) (at_stage : s.stage = .closePodMap) :
      ProcessStep cfg s .closePodMap { s with stage := .closeReader, podMapClosed := true }
  | closeReader {s : Process R n} (alive : s.exit = none) (at_stage : s.stage = .closeReader)
      (next : Pipeline R ScrapeView n)
      (step : PipelineStep cfg.toPipelineConfig s.pipeline .closeReader next) :
      ProcessStep cfg s .closeReader { s with stage := .closeHook, pipeline := next }
  | closeHook {s : Process R n} (alive : s.exit = none) (at_stage : s.stage = .closeHook) :
      ProcessStep cfg s .closeHook (s.exits .returned)
  | signal {s : Process R n} (alive : s.exit = none) : ProcessStep cfg s .signal s.afterSignal
  | takeSignal {s : Process R n} (alive : s.exit = none) (at_pc : s.watcher = .waiting)
      (sent : s.pending = true) :
      ProcessStep cfg s .takeSignal { s with pending := false, watcher := .storeUnready }
  | storeUnready {s : Process R n} (alive : s.exit = none) (at_pc : s.watcher = .storeUnready) :
      ProcessStep cfg s .storeUnready { s with ready := false, watcher := .shutdown }
  | shutdown {s : Process R n} (alive : s.exit = none) (at_pc : s.watcher = .shutdown) :
      ProcessStep cfg s .shutdown { s with server := .closed, watcher := .draining }
  | shutdownReturns {s : Process R n} (alive : s.exit = none) (at_pc : s.watcher = .draining)
      (timeout : Bool) (drained : timeout = false → s.requests = 0) :
      ProcessStep cfg s (.shutdownReturns timeout) { s with watcher := .closeReader }
  | watcherClosesReader {s : Process R n} (alive : s.exit = none)
      (at_pc : s.watcher = .closeReader) (next : Pipeline R ScrapeView n)
      (step : PipelineStep cfg.toPipelineConfig s.pipeline .closeReader next) :
      ProcessStep cfg s .watcherClosesReader { s with watcher := .done, pipeline := next }
  | listen {s : Process R n} (alive : s.exit = none) (starting : s.server = .starting)
      (err : Option String) :
      ProcessStep cfg s (.listen err)
        { s with server := if err.isNone then .listening else .failed }
  | serverFails {s : Process R n} (alive : s.exit = none) (listening : s.server = .listening) :
      ProcessStep cfg s .serverFails { s with server := .failed }
  | accept {s : Process R n} (alive : s.exit = none) (listening : s.server = .listening) :
      ProcessStep cfg s .accept { s with requests := s.requests + 1 }
  | respond {s : Process R n} (alive : s.exit = none) (waiting : 0 < s.requests)
      (path : String) (lookupErr : Option String) (response : Response)
      (answered : s.answer path lookupErr = response) :
      ProcessStep cfg s (.respond path lookupErr response)
        { s with requests := s.requests - 1 }

/-- A run of the process: any interleaving of the parties. -/
abbrev ProcessRun {R : Type} {n : ℕ} (cfg : ProcessConfig R) (s₀ : Process R n)
    (past : List (Transition (Process R n) (ProcessAct n))) (s : Process R n) : Prop :=
  Run (ProcessStep cfg) s₀ past s

/-! ## The pipeline in the process -/

/-- The step of the pipeline that an act is, if it is one. -/
def ProcessAct.pipelineAct {n : ℕ} : ProcessAct n → Option (PipelineAct n)
  | pipeline act => some act
  | closeReader => some .closeReader
  | watcherClosesReader => some .closeReader
  | _ => none

namespace Process

variable {R : Type} {n : ℕ} {cfg : ProcessConfig R} {s₀ s s' : Process R n}
  {act : ProcessAct n} {past : List (Transition (Process R n) (ProcessAct n))}

@[simp] theorem exits_pipeline (s : Process R n) (how : Exit) :
    (s.exits how).pipeline = s.pipeline := rfl

@[simp] theorem goesOn_pipeline {ε : Type} (s : Process R n) (err : Option ε) (stage : Stage) :
    (s.goesOn err stage).pipeline = s.pipeline := by
  unfold goesOn
  split <;> rfl

@[simp] theorem afterSignal_pipeline (s : Process R n) : s.afterSignal.pipeline = s.pipeline := by
  unfold afterSignal
  split <;> rfl

/-- What an act does to the pipeline. -/
theorem pipeline_step (hstep : ProcessStep cfg s act s') :
    match act.pipelineAct with
    | some pact => PipelineStep cfg.toPipelineConfig s.pipeline pact s'.pipeline
    | none => s'.pipeline = s.pipeline := by
  cases hstep with
  | attach alive at_stage err => exact goesOn_pipeline _ _ _
  | newPodMap alive at_stage start made => exact goesOn_pipeline _ _ _
  | createReader alive at_stage err => exact goesOn_pipeline _ _ _
  | pipeline alive act may next step => exact step
  | closeReader alive at_stage next step => exact step
  | watcherClosesReader alive at_pc next step => exact step
  | signal alive => exact afterSignal_pipeline s
  | _ => rfl

/-- **Every run of the process has a run of the pipeline in it**, so what holds of
all runs of the pipeline holds of the agent as a whole. -/
theorem pipeline_run (run : ProcessRun cfg s₀ past s) :
    Pipeline.PipelineRun cfg.toPipelineConfig s₀.pipeline
      (project Process.pipeline ProcessAct.pipelineAct past) s.pipeline := by
  refine Run.project ?_ ?_ run
  · intro s act s' hstep hnone
    have h := pipeline_step hstep
    rw [hnone] at h
    exact h
  · intro s act s' pact hstep hsome
    have h := pipeline_step hstep
    rw [hsome] at h
    exact h

end Process

end KubeNpu

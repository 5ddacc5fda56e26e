import KubeNpu.Agent.Accounting
import KubeNpu.Go.Chan
import KubeNpu.Ringbuf

/-!
# `cmd/agent/main.go`: from the hook to the worker

An event passes five places: the program reserves a record or counts a loss, the
ring buffer holds the record, the loop of `main` reads it and offers it to the
queue, the queue holds it, and the worker handles it.  Meanwhile a signal may
close the reader at any moment, after which `main` closes the queue and waits for
the worker to drain it.

`PipelineStep` has one constructor for every atomic thing one of the parties
does, so a `Run` of it is any interleaving.  The label of a step keeps how it
ended; everything that is counted about a run is read off its labels.
-/

namespace KubeNpu

open Go Machine

/-! ## The parties -/

/-- Where the goroutine of `main` is. -/
inductive MainPC where
  /-- In, or before, `ReadEvent`. -/
  | reading
  /-- At the `select` with an event in hand. -/
  | sending (event : Event)
  /-- At `close(queue)`. -/
  | closing
  /-- In `workers.Wait`. -/
  | waiting
  /-- After `workers.Wait`. -/
  | returned
  deriving DecidableEq

/-- Where the worker is. -/
inductive WorkerPC where
  /-- At the top of `for event := range queue`. -/
  | receiving
  /-- Blocked there, with the queue empty. -/
  | parked
  /-- In the body of the loop. -/
  | handling (event : Event)
  /-- After the loop, with `workers.Done` called. -/
  | done
  deriving DecidableEq

/-- What does not change once the agent is set up. -/
structure PipelineConfig (R : Type) where
  ringbuf : Ringbuf R
  maps : Bpf.Filter
  deviceMap : DeviceMap

/-- The state of the agent on a machine with `n` CPUs. -/
structure Pipeline (R ω : Type) (n : ℕ) where
  /-- The per-CPU array `dropped`. -/
  dropped : Fin n → UInt64
  /-- The map `events` and its reader. -/
  ring : R
  /-- `closeReaderOnce` is spent. -/
  closedOnce : Bool
  main : MainPC
  queue : Chan Event
  worker : WorkerPC
  agent : WorkerState ω
  /-- A goroutine panicked. -/
  panicked : Bool

/-- What happens in the pipeline. -/
inductive PipelineAct (n : ℕ) where
  /-- The program runs on a CPU. -/
  | hook (cpu : Fin n) (call : Bpf.IoctlCall) (result : Bpf.HookResult)
  /-- `Reader.Read` returns to `ReadEvent`. -/
  | read (answer : Loader.ReadResult)
  /-- The `select` of the loop. -/
  | send (event : Event) (result : SendResult)
  /-- `close(queue)`. -/
  | closeQueue
  /-- `workers.Wait` returns. -/
  | wait
  /-- The worker receives from the queue. -/
  | receive (result : RecvResult Event)
  /-- The parked worker learns that the queue is closed. -/
  | wake
  /-- The worker runs the body of its loop. -/
  | handle (event : Event) (env : CallEnv)
  /-- `CloseReader`, by the signal goroutine or by `Close`. -/
  | closeReader

/-! ## What each act does -/

/-- Where the loop goes after `ReadEvent`. -/
def MainPC.afterRead (result : Except Err Event) : MainPC :=
  if errorsIs (errorOf result) .errClosed then .closing
  else
    match result with
    | .error _ => .reading
    | .ok event => .sending event

/-- Where the worker goes after a receive. -/
def WorkerPC.afterRecv : RecvResult Event → WorkerPC
  | .item event => .handling event
  | .closed => .done
  | .parks => .parked

namespace Pipeline

variable {R ω : Type} {n : ℕ}

/-- The agent before the program is attached: `queueSize` is the capacity of the
queue, `ring` the loaded buffer, `agent` what the setup leaves. -/
def start (queueSize : ℕ) (ring : R) (agent : WorkerState ω) : Pipeline R ω n where
  dropped := fun _ => 0
  ring := ring
  closedOnce := false
  main := .reading
  queue := .make queueSize
  worker := .receiving
  agent := agent
  panicked := false

/-- After an execution of the program.  The lookup of the counter cannot miss:
the array has the one entry 0. -/
def afterHook (cfg : PipelineConfig R) (s : Pipeline R ω n) (cpu : Fin n) :
    Bpf.HookResult → Pipeline R ω n
  | .passed => s
  | .lost => { s with dropped := Function.update s.dropped cpu (s.dropped cpu + 1) }
  | .submitted e => { s with ring := cfg.ringbuf.submit s.ring e.bytes }

/-- After the `select`: the value goes to a parked worker, into the queue, or is
counted as dropped. -/
def afterSend (s : Pipeline R ω n) (event : Event) : SendResult → Pipeline R ω n
  | .panics => { s with panicked := true }
  | .handed => { s with main := .reading, worker := .handling event }
  | .buffered =>
      { s with main := .reading, queue := (s.queue.trySend (s.worker = .parked) event).2 }
  | .full =>
      { s with
        main := .reading
        agent := { s.agent with
          collector := s.agent.collector.incEventsDropped reasonQueueFull } }

/-- After `close(queue)`. -/
def afterCloseQueue (s : Pipeline R ω n) : Pipeline R ω n :=
  match s.queue.close with
  | none => { s with panicked := true }
  | some queue => { s with main := .waiting, queue }

/-- After a receive. -/
def afterReceive (s : Pipeline R ω n) : Pipeline R ω n :=
  { s with worker := .afterRecv s.queue.recv.1, queue := s.queue.recv.2 }

/-- After `CloseReader`: only the first call closes. -/
def afterCloseReader (cfg : PipelineConfig R) (s : Pipeline R ω n) : Pipeline R ω n :=
  if s.closedOnce then s
  else { s with ring := cfg.ringbuf.close s.ring, closedOnce := true }

end Pipeline

/-- **One step of one party.**  A panic ends the process, so nothing follows it. -/
inductive PipelineStep {R ω : Type} {n : ℕ} (cfg : PipelineConfig R) :
    Pipeline R ω n → PipelineAct n → Pipeline R ω n → Prop where
  | hook {s : Pipeline R ω n} (running : s.panicked = false) (cpu : Fin n)
      (call : Bpf.IoctlCall) (result : Bpf.HookResult)
      (ran : Bpf.kubenpuIoctl cfg.maps call (cfg.ringbuf.reserve s.ring Bpf.Event.sizeof) =
        result) :
      PipelineStep cfg s (.hook cpu call result) (s.afterHook cfg cpu result)
  | read {s : Pipeline R ω n} (running : s.panicked = false) (at_read : s.main = .reading)
      (answer : Loader.ReadResult) (ring : R) (returned : cfg.ringbuf.Read s.ring answer ring) :
      PipelineStep cfg s (.read answer)
        { s with ring, main := .afterRead (Loader.readEvent answer) }
  | send {s : Pipeline R ω n} (running : s.panicked = false) (event : Event)
      (at_select : s.main = .sending event) (result : SendResult)
      (tried : (s.queue.trySend (s.worker = .parked) event).1 = result) :
      PipelineStep cfg s (.send event result) (s.afterSend event result)
  | closeQueue {s : Pipeline R ω n} (running : s.panicked = false)
      (at_close : s.main = .closing) : PipelineStep cfg s .closeQueue s.afterCloseQueue
  | wait {s : Pipeline R ω n} (running : s.panicked = false) (at_wait : s.main = .waiting)
      (finished : s.worker = .done) : PipelineStep cfg s .wait { s with main := .returned }
  | receive {s : Pipeline R ω n} (running : s.panicked = false)
      (at_receive : s.worker = .receiving) (result : RecvResult Event)
      (received : s.queue.recv.1 = result) :
      PipelineStep cfg s (.receive result) s.afterReceive
  | wake {s : Pipeline R ω n} (running : s.panicked = false) (parked : s.worker = .parked)
      (closed : s.queue.closed = true) : PipelineStep cfg s .wake { s with worker := .done }
  | handle {s : Pipeline R ω n} (running : s.panicked = false) (event : Event)
      (in_body : s.worker = .handling event) (env : CallEnv) :
      PipelineStep cfg s (.handle event env)
        { s with worker := .receiving, agent := handleEvent cfg.deviceMap s.agent event env }
  | closeReader {s : Pipeline R ω n} (running : s.panicked = false) :
      PipelineStep cfg s .closeReader (s.afterCloseReader cfg)

namespace Pipeline

variable {R ω : Type} {n : ℕ}

/-! ## The invariant -/

/-- What holds in every state the agent reaches. -/
structure Wf (cfg : PipelineConfig R) (s : Pipeline R ω n) : Prop where
  /-- Only the program fills records in. -/
  records : ∀ sample ∈ cfg.ringbuf.records s.ring, ∃ e : Bpf.Event, sample = e.bytes
  /-- `close(queue)` is what `main` does between its loop and `workers.Wait`. -/
  closed_iff : s.queue.closed = true ↔ s.main = .waiting ∨ s.main = .returned
  /-- The worker parks on an empty queue only. -/
  parked : s.worker = .parked → s.queue.buf = []
  /-- The worker leaves its loop when the queue is drained for good. -/
  done : s.worker = .done → s.queue.buf = [] ∧ s.queue.closed = true
  /-- `main` gets past `workers.Wait` only then. -/
  returned : s.main = .returned → s.worker = .done
  running : s.panicked = false

theorem wf_start (cfg : PipelineConfig R) (queueSize : ℕ) {ring : R} (agent : WorkerState ω)
    (hempty : cfg.ringbuf.records ring = []) :
    (start queueSize ring agent : Pipeline R ω n).Wf cfg where
  records sample h := by
    rw [start, hempty] at h
    cases h
  closed_iff := by
    constructor
    · intro h
      cases h
    · rintro (h | h) <;> cases h
  parked h := by cases h
  done h := by cases h
  returned h := by cases h
  running := rfl

namespace Wf

variable {cfg : PipelineConfig R} {s : Pipeline R ω n}

/-- While `main` is in its loop the queue is open. -/
theorem open_of_main (h : s.Wf cfg) (hwaiting : s.main ≠ .waiting)
    (hreturned : s.main ≠ .returned) : s.queue.closed = false :=
  Bool.eq_false_iff.mpr fun hclosed => (h.closed_iff.mp hclosed).elim hwaiting hreturned

/-- A `select` finds the queue open. -/
theorem open_of_send (h : s.Wf cfg) {event : Event} {result : SendResult}
    {s' : Pipeline R ω n} (hstep : PipelineStep cfg s (.send event result) s') :
    s.queue.closed = false := by
  cases hstep with
  | send running event at_select result tried =>
      exact h.open_of_main (by rw [at_select]; simp) (by rw [at_select]; simp)

/-- **No send on a closed queue**: the result of a `select` is no panic. -/
theorem trySend_ne_panics (h : s.Wf cfg) {event : Event} (hmain : s.main = .sending event) :
    (s.queue.trySend (s.worker = .parked) event).1 ≠ .panics := by
  intro hpanics
  have hspec := (s.queue.trySend_spec (s.worker = .parked) event).2
  rw [hpanics] at hspec
  have hopen := h.open_of_main (by rw [hmain]; simp) (by rw [hmain]; simp)
  rw [hopen] at hspec
  cases hspec.1

/-- **The queue is closed once**: `close` does not panic. -/
theorem close_ne_none (h : s.Wf cfg) (hmain : s.main = .closing) :
    ∃ queue, s.queue.close = some queue := by
  have hopen := h.open_of_main (by rw [hmain]; decide) (by rw [hmain]; decide)
  unfold Chan.close
  rw [hopen]
  exact ⟨_, rfl⟩

/-- A record is read whole, so `ReadEvent` gives back the event of the program. -/
theorem readEvent_record (hlaw : cfg.ringbuf.Lawful) (h : s.Wf cfg) {sample : List UInt8}
    {ring : R} (hread : cfg.ringbuf.Read s.ring (.ok sample) ring) :
    Loader.readEvent (.ok sample) = .ok (Loader.eventAt sample) := by
  have hmem : sample ∈ cfg.ringbuf.records s.ring := by
    rw [hlaw.records_read_ok hread]
    exact List.mem_cons_self
  obtain ⟨e, rfl⟩ := h.records sample hmem
  have hbytes := Loader.readEvent_bytes e []
  have hevent := Loader.eventAt_bytes e []
  rw [List.append_nil] at hbytes hevent
  rw [hbytes, hevent]

/-- An execution of the program only ever appends a record of its own. -/
private theorem afterHook (hlaw : cfg.ringbuf.Lawful) (h : s.Wf cfg) (cpu : Fin n)
    (result : Bpf.HookResult) : (s.afterHook cfg cpu result).Wf cfg := by
  cases result with
  | passed => exact h
  | lost => exact ⟨h.records, h.closed_iff, h.parked, h.done, h.returned, h.running⟩
  | submitted e =>
      refine ⟨?_, h.closed_iff, h.parked, h.done, h.returned, h.running⟩
      intro sample hmem
      rw [Pipeline.afterHook, hlaw.records_submit, List.mem_append, List.mem_singleton] at hmem
      rcases hmem with hold | rfl
      · exact h.records sample hold
      · exact ⟨e, rfl⟩

/-- A read leaves a part of the records, and never sends `main` past its loop. -/
private theorem afterRead (hlaw : cfg.ringbuf.Lawful) (h : s.Wf cfg) (hmain : s.main = .reading)
    {answer : Loader.ReadResult} {ring : R} (hread : cfg.ringbuf.Read s.ring answer ring) :
    ({ s with ring, main := .afterRead (Loader.readEvent answer) } : Pipeline R ω n).Wf cfg := by
  -- whatever `Read` returns, the next stop is in the loop or at its exit
  have hin : MainPC.afterRead (Loader.readEvent answer) ≠ .waiting ∧
      MainPC.afterRead (Loader.readEvent answer) ≠ .returned := by
    unfold MainPC.afterRead
    split
    · exact ⟨by simp, by simp⟩
    · split <;> exact ⟨by simp, by simp⟩
  have hopen := h.open_of_main (by rw [hmain]; simp) (by rw [hmain]; simp)
  refine ⟨?_, ?_, h.parked, h.done, fun hret => absurd hret hin.2, h.running⟩
  · intro sample hmem
    refine h.records sample ?_
    cases answer with
    | ok first =>
        rw [hlaw.records_read_ok hread]
        exact List.mem_cons_of_mem first hmem
    | error err =>
        rw [← hlaw.records_read_error hread]
        exact hmem
  · constructor
    · intro hclosed
      exact absurd (hopen.symm.trans hclosed) (by decide)
    · rintro (hwait | hret)
      · exact absurd hwait hin.1
      · exact absurd hret hin.2

private theorem afterSend (h : s.Wf cfg) {event : Event} (hmain : s.main = .sending event)
    {result : SendResult}
    (htried : (s.queue.trySend (s.worker = .parked) event).1 = result) :
    (s.afterSend event result).Wf cfg := by
  have hopen := h.open_of_main (by rw [hmain]; simp) (by rw [hmain]; simp)
  obtain ⟨hclosed, hspec⟩ := s.queue.trySend_spec (s.worker = .parked) event
  rw [htried] at hspec
  cases result with
  | panics => exact absurd htried (h.trySend_ne_panics hmain)
  | handed =>
      refine ⟨h.records, ?_, ?_, ?_, ?_, h.running⟩
      · show s.queue.closed = true ↔ _
        rw [hopen]
        simp [Pipeline.afterSend]
      · simp [Pipeline.afterSend]
      · simp [Pipeline.afterSend]
      · simp [Pipeline.afterSend]
  | buffered =>
      have hparked := of_decide_eq_false hspec.1
      refine ⟨h.records, ?_, ?_, ?_, ?_, h.running⟩
      · show (s.queue.trySend (s.worker = .parked) event).2.closed = true ↔ _
        rw [hclosed, hopen]
        simp [Pipeline.afterSend]
      · exact fun hpark => absurd hpark hparked
      · intro hdone
        exact absurd (hopen.symm.trans (h.done hdone).2) (by decide)
      · simp [Pipeline.afterSend]
  | full =>
      refine ⟨h.records, ?_, h.parked, h.done, ?_, h.running⟩
      · show s.queue.closed = true ↔ _
        rw [hopen]
        simp [Pipeline.afterSend]
      · simp [Pipeline.afterSend]

private theorem afterCloseQueue (h : s.Wf cfg) (hmain : s.main = .closing) :
    s.afterCloseQueue.Wf cfg := by
  obtain ⟨queue, hclose⟩ := h.close_ne_none hmain
  obtain ⟨-, hclosed, hbuf⟩ := Chan.close_spec hclose
  rw [Pipeline.afterCloseQueue, hclose]
  refine ⟨h.records, ?_, ?_, ?_, ?_, h.running⟩
  · show queue.closed = true ↔ _
    rw [hclosed]
    simp
  · intro hpark
    exact hbuf.trans (h.parked hpark)
  · intro hdone
    exact ⟨hbuf.trans (h.done hdone).1, hclosed⟩
  · intro hret
    cases hret

private theorem afterReceive (h : s.Wf cfg) (hworker : s.worker = .receiving) :
    s.afterReceive.Wf cfg := by
  obtain ⟨hclosed, hspec⟩ := s.queue.recv_spec
  -- `main` cannot have returned with the worker still in its loop
  have hreturned : s.main ≠ .returned := by
    intro hret
    have hdone := h.returned hret
    rw [hworker] at hdone
    cases hdone
  refine ⟨h.records, ?_, ?_, ?_, fun hret => absurd hret hreturned, h.running⟩
  · show s.queue.recv.2.closed = true ↔ _
    rw [hclosed]
    exact h.closed_iff
  · intro hpark
    cases hrecv : s.queue.recv.1 with
    | parks =>
        rw [hrecv] at hspec
        exact hspec.2.2
    | item event => simp [Pipeline.afterReceive, hrecv, WorkerPC.afterRecv] at hpark
    | closed => simp [Pipeline.afterReceive, hrecv, WorkerPC.afterRecv] at hpark
  · intro hdone
    cases hrecv : s.queue.recv.1 with
    | closed =>
        rw [hrecv] at hspec
        exact ⟨hspec.2.2, hclosed.trans hspec.1⟩
    | item event => simp [Pipeline.afterReceive, hrecv, WorkerPC.afterRecv] at hdone
    | parks => simp [Pipeline.afterReceive, hrecv, WorkerPC.afterRecv] at hdone

/-- **Every step of every party keeps the invariant.** -/
theorem step (hlaw : cfg.ringbuf.Lawful) {act : PipelineAct n} {s' : Pipeline R ω n}
    (h : s.Wf cfg) (hstep : PipelineStep cfg s act s') : s'.Wf cfg := by
  cases hstep with
  | hook running cpu call result ran => exact h.afterHook hlaw cpu result
  | read running at_read answer ring returned => exact h.afterRead hlaw at_read returned
  | send running event at_select result tried => exact h.afterSend at_select tried
  | closeQueue running at_close => exact h.afterCloseQueue at_close
  | wait running at_wait finished =>
      refine ⟨h.records, ?_, h.parked, h.done, fun _ => finished, h.running⟩
      exact ⟨fun _ => Or.inr rfl, fun _ => h.closed_iff.mpr (Or.inl at_wait)⟩
  | receive running at_receive result received => exact h.afterReceive at_receive
  | wake running parked closed =>
      refine ⟨h.records, h.closed_iff, ?_, fun _ => ⟨h.parked parked, closed⟩, fun _ => rfl,
        h.running⟩
      intro hpark
      cases hpark
  | handle running event in_body env =>
      refine ⟨h.records, h.closed_iff, ?_, ?_, ?_, h.running⟩
      · intro hpark
        cases hpark
      · intro hdone
        cases hdone
      · intro hret
        have hdone := h.returned hret
        rw [in_body] at hdone
        cases hdone
  | closeReader running =>
      unfold Pipeline.afterCloseReader
      split
      · exact h
      · refine ⟨?_, h.closed_iff, h.parked, h.done, h.returned, h.running⟩
        rw [hlaw.records_close]
        exact h.records

end Wf

/-- A run of the agent: any interleaving of the parties. -/
abbrev PipelineRun (cfg : PipelineConfig R) (s₀ : Pipeline R ω n)
    (past : List (Transition (Pipeline R ω n) (PipelineAct n))) (s : Pipeline R ω n) : Prop :=
  Run (PipelineStep cfg) s₀ past s

/-- **Every state of every run satisfies the invariant.** -/
theorem wf_of_run {cfg : PipelineConfig R} {s₀ s : Pipeline R ω n}
    {past : List (Transition (Pipeline R ω n) (PipelineAct n))} (hlaw : cfg.ringbuf.Lawful)
    (h₀ : s₀.Wf cfg) (run : PipelineRun cfg s₀ past s) : s.Wf cfg :=
  run.invariant (I := Wf cfg) h₀ fun h hstep => h.step hlaw hstep

end Pipeline

end KubeNpu

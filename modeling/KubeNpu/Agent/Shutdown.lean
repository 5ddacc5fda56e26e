import KubeNpu.Agent.Pipeline

/-!
# The shutdown comes to an end

Once the reader is closed, `main` leaves its loop with the next `Read`, closes
the queue and waits for the worker, which drains what is left.  `remaining` is a
rank for that: every step of `main` or of the worker lowers it, no step of
another party raises it (the program cannot reach the queue any more), and as
long as `main` has not returned one of the two can take a step.  So the number of
steps is bounded by where the two stand and by what is queued, whatever the order
of the steps and whatever the pod map does with the events.
-/

namespace KubeNpu

open Go Machine

/-- How many own steps `main` is from the end, counting for the `select` also
what a handover costs the worker. -/
def MainPC.rank : MainPC → ℕ
  | sending _ => 6
  | reading => 3
  | closing => 2
  | waiting => 1
  | returned => 0

/-- How many own steps the worker is from the end of its loop, when the queue is
drained. -/
def WorkerPC.rank : WorkerPC → ℕ
  | handling _ => 3
  | receiving => 2
  | parked => 1
  | done => 0

/-- The step is one of `main` or of the worker. -/
def PipelineAct.ofAgent {n : ℕ} : PipelineAct n → Bool
  | hook _ _ _ => false
  | closeReader => false
  | _ => true

namespace Pipeline

variable {R ω : Type} {n : ℕ} {cfg : PipelineConfig R} {s s' : Pipeline R ω n}

/-- A bound on the steps that `main` and the worker have left. -/
def remaining (s : Pipeline R ω n) : ℕ :=
  s.main.rank + 2 * s.queue.buf.length + s.worker.rank

/-- The reader is closed. -/
structure Stopping (cfg : PipelineConfig R) (s : Pipeline R ω n) : Prop where
  wf : s.Wf cfg
  closed : cfg.ringbuf.closed s.ring = true

/-- The reader stays closed. -/
theorem Stopping.step (hlaw : cfg.ringbuf.Lawful) (h : Stopping cfg s) {act : PipelineAct n}
    (hstep : PipelineStep cfg s act s') : Stopping cfg s' := by
  refine ⟨h.wf.step hlaw hstep, ?_⟩
  cases hstep with
  | hook running cpu call result ran =>
      cases result with
      | submitted e =>
          show cfg.ringbuf.closed (cfg.ringbuf.submit s.ring e.bytes) = true
          rw [hlaw.closed_submit]
          exact h.closed
      | passed => exact h.closed
      | lost => exact h.closed
  | read running at_read answer ring returned =>
      show cfg.ringbuf.closed ring = true
      rw [hlaw.closed_read returned]
      exact h.closed
  | send running event at_select result tried => cases result <;> exact h.closed
  | closeQueue =>
      unfold afterCloseQueue
      split <;> exact h.closed
  | closeReader =>
      unfold afterCloseReader
      split
      · exact h.closed
      · exact hlaw.closed_close s.ring
  | _ => exact h.closed

/-- A read of a closed reader ends the loop of `main`. -/
theorem afterRead_of_closed (hlaw : cfg.ringbuf.Lawful) {r ring : R} {answer : Loader.ReadResult}
    (hclosed : cfg.ringbuf.closed r = true) (hread : cfg.ringbuf.Read r answer ring) :
    MainPC.afterRead (Loader.readEvent answer) = .closing := by
  obtain ⟨err, rfl, hsentinel⟩ := hlaw.read_closed hclosed hread
  simp [MainPC.afterRead, Loader.readEvent, hsentinel]

/-- The `select` leaves fewer steps, also where it hands the worker an event. -/
private theorem remaining_afterSend (h : s.Wf cfg) {event : Event}
    (hmain : s.main = .sending event) {result : SendResult}
    (htried : (s.queue.trySend (s.worker = .parked) event).1 = result) :
    (s.afterSend event result).remaining + 1 ≤ s.remaining := by
  have hspec := (s.queue.trySend_spec (s.worker = .parked) event).2
  rw [htried] at hspec
  cases result with
  | panics => exact absurd htried (h.trySend_ne_panics hmain)
  | handed =>
      -- a handover wakes the worker, which costs it two more steps
      have hparked : s.worker = .parked := of_decide_eq_true hspec.1
      simp only [remaining, afterSend, hmain, hparked, MainPC.rank, WorkerPC.rank]
      omega
  | buffered =>
      have hlength : (s.queue.trySend (s.worker = .parked) event).2.buf.length =
          s.queue.buf.length + 1 := by
        rw [hspec.2, List.length_append, List.length_singleton]
      simp only [remaining, afterSend, hmain, MainPC.rank, hlength]
      omega
  | full =>
      simp only [remaining, afterSend, hmain, MainPC.rank]
      omega

/-- A receive leaves fewer steps: the event it takes weighed as much as two. -/
private theorem remaining_afterReceive (hworker : s.worker = .receiving) :
    s.afterReceive.remaining + 1 ≤ s.remaining := by
  have hspec := s.queue.recv_spec.2
  cases hrecv : s.queue.recv.1 with
  | item event =>
      rw [hrecv] at hspec
      have hlength : s.queue.buf.length = s.queue.recv.2.buf.length + 1 := by
        rw [hspec, List.length_cons]
      simp only [remaining, afterReceive, hrecv, hworker, WorkerPC.afterRecv, WorkerPC.rank,
        hlength]
      omega
  | closed =>
      rw [hrecv] at hspec
      simp only [remaining, afterReceive, hrecv, hworker, WorkerPC.afterRecv, WorkerPC.rank,
        hspec.2.1, hspec.2.2]
      omega
  | parks =>
      rw [hrecv] at hspec
      simp only [remaining, afterReceive, hrecv, hworker, WorkerPC.afterRecv, WorkerPC.rank,
        hspec.2.1, hspec.2.2]
      omega

/-- **Every step of `main` or of the worker brings the shutdown closer**, and no
other step sets it back. -/
theorem remaining_step (hlaw : cfg.ringbuf.Lawful) (h : Stopping cfg s) {act : PipelineAct n}
    (hstep : PipelineStep cfg s act s') :
    s'.remaining + (if act.ofAgent = true then 1 else 0) ≤ s.remaining := by
  cases hstep with
  | hook running cpu call result ran => cases result <;> exact le_rfl
  | read running at_read answer ring returned =>
      have hnext := afterRead_of_closed hlaw h.closed returned
      simp only [remaining, hnext, at_read, MainPC.rank, PipelineAct.ofAgent, if_true]
      omega
  | send running event at_select result tried => exact remaining_afterSend h.wf at_select tried
  | closeQueue running at_close =>
      obtain ⟨queue, hclose⟩ := h.wf.close_ne_none at_close
      have hbuf := (Chan.close_spec hclose).2.2
      simp only [remaining, afterCloseQueue, hclose, hbuf, at_close, MainPC.rank,
        PipelineAct.ofAgent, if_true]
      omega
  | wait running at_wait finished =>
      simp only [remaining, at_wait, MainPC.rank, PipelineAct.ofAgent, if_true]
      omega
  | receive running at_receive result received => exact remaining_afterReceive at_receive
  | wake running parked closed =>
      simp only [remaining, parked, WorkerPC.rank, PipelineAct.ofAgent, if_true]
      omega
  | handle running event in_body env =>
      simp only [remaining, in_body, WorkerPC.rank, PipelineAct.ofAgent, if_true]
      omega
  | closeReader running =>
      unfold afterCloseReader
      split <;> exact le_rfl

/-- **No deadlock**: until `main` has returned, it or the worker can take a step,
whatever the world around the worker answers. -/
theorem exists_step (hlaw : cfg.ringbuf.Lawful) (h : Stopping cfg s) (env : CallEnv)
    (hmain : s.main ≠ .returned) :
    ∃ act s', act.ofAgent = true ∧ PipelineStep cfg s act s' := by
  have hrunning := h.wf.running
  cases hpc : s.main with
  | reading =>
      obtain ⟨answer, ring, hread⟩ := hlaw.read_returns h.closed
      exact ⟨_, _, rfl, .read hrunning hpc answer ring hread⟩
  | sending event => exact ⟨_, _, rfl, .send hrunning event hpc _ rfl⟩
  | closing => exact ⟨_, _, rfl, .closeQueue hrunning hpc⟩
  | waiting =>
      -- `main` waits for the worker, which the closed queue never blocks
      have hclosed : s.queue.closed = true := h.wf.closed_iff.mpr (Or.inl hpc)
      cases hworker : s.worker with
      | receiving => exact ⟨_, _, rfl, .receive hrunning hworker _ rfl⟩
      | parked => exact ⟨_, _, rfl, .wake hrunning hworker hclosed⟩
      | handling event => exact ⟨_, _, rfl, .handle hrunning event hworker env⟩
      | done => exact ⟨_, _, rfl, .wait hrunning hpc hworker⟩
  | returned => exact absurd hpc hmain

/-- The rank of any state is small: what the two have in hand, and the queue. -/
theorem remaining_le (s : Pipeline R ω n) : s.remaining ≤ 9 + 2 * s.queue.buf.length := by
  have hmain : s.main.rank ≤ 6 := by cases s.main <;> simp [MainPC.rank]
  have hworker : s.worker.rank ≤ 3 := by cases s.worker <;> simp [WorkerPC.rank]
  unfold remaining
  omega

/-- **The shutdown ends.**  From any state the agent reaches with a closed reader,
`main` and the worker take at most `9 + 2 * k` more steps, where `k` is the number
of queued events, in any run; and where a run stops before `main` has returned,
one of the two can go on. -/
theorem shutdown_ends {queueSize : ℕ} {ring : R} {agent : WorkerState ω}
    {past after : List (Transition (Pipeline R ω n) (PipelineAct n))}
    (hlaw : cfg.ringbuf.Lawful) (hempty : cfg.ringbuf.records ring = [])
    (run : PipelineRun cfg (start queueSize ring agent) past s)
    (hclosed : cfg.ringbuf.closed s.ring = true) (more : PipelineRun cfg s after s')
    (env : CallEnv) :
    (after.countP fun t => t.label.ofAgent) ≤ 9 + 2 * s.queue.buf.length ∧
      (s'.main ≠ .returned → ∃ act s'', act.ofAgent = true ∧ PipelineStep cfg s' act s'') := by
  have hstart : Stopping cfg s := ⟨wf_of_run hlaw (wf_start cfg _ _ hempty) run, hclosed⟩
  refine ⟨?_, ?_⟩
  · have hcount : (after.countP fun t => t.label.ofAgent) + s'.remaining ≤ s.remaining := by
      refine more.countP_add_rank_le (I := Stopping cfg) hstart ?_ ?_
      · intro s act s' h hstep
        exact h.step hlaw hstep
      · intro s act s' h hstep
        exact remaining_step hlaw h hstep
    have hle := s.remaining_le
    omega
  · intro hmain
    have hstop : Stopping cfg s' := by
      refine more.invariant hstart ?_
      intro s act s' h hstep
      exact h.step hlaw hstep
    exact exists_step hlaw hstop env hmain

end Pipeline

end KubeNpu

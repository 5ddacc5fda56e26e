import KubeNpu.Agent.Filter
import KubeNpu.Agent.Pipeline
import KubeNpu.Machine.Relay

/-!
# No event is lost or doubled between the hook and the worker

Read as one line, the queue, the event in the hand of `main` and the ring buffer
are a relay: the program lets events in, the worker takes them out, and a full
queue discards the one in hand.  `relay_simulates` checks that every step of
every party is a move of that relay, and the laws of relays then hold of every
run.  What remains is arithmetic about the two counters: a wrapped counter is the
number of losses modulo 2^64.
-/

namespace KubeNpu

open Go Machine

/-! ## What a run did -/

namespace PipelineAct

variable {n : ℕ}

/-- The call of an execution that passes both lookups. -/
def passedCall (maps : Bpf.Filter) : PipelineAct n → Option Bpf.IoctlCall
  | hook _ call _ => if (Bpf.filterKind maps call).isSome then some call else none
  | _ => none

/-- The CPU of an execution that finds no room. -/
def lossCPU : PipelineAct n → Option (Fin n)
  | hook cpu _ .lost => some cpu
  | _ => none

/-- The event of an execution that submits one. -/
def submitted : PipelineAct n → Option Event
  | hook _ _ (.submitted e) => some (Loader.ofBpf e)
  | _ => none

/-- The event that a full queue turns away. -/
def turnedAway : PipelineAct n → Option Event
  | send event .full => some event
  | _ => none

/-- The event that a `select` hands over, through the buffer or directly. -/
def enqueued : PipelineAct n → Option Event
  | send event .handed => some event
  | send event .buffered => some event
  | _ => none

/-- The event that the worker comes to hold. -/
def taken : PipelineAct n → Option Event
  | send event .handed => some event
  | receive (.item event) => some event
  | _ => none

/-- The event that the worker is finished with. -/
def finished : PipelineAct n → Option Event
  | handle event _ => some event
  | _ => none

end PipelineAct

/-- The event `main` holds. -/
def MainPC.held : MainPC → List Event
  | sending event => [event]
  | _ => []

/-- The event the worker works on. -/
def WorkerPC.held : WorkerPC → List Event
  | handling event => [event]
  | _ => []

namespace Pipeline

open PipelineAct

variable {R ω : Type} {n : ℕ} {cfg : PipelineConfig R} {s₀ s s' : Pipeline R ω n}
  {past : List (Transition (Pipeline R ω n) (PipelineAct n))}

/-! ## The relay -/

/-- The pipeline as one line, from the worker back to the program. -/
def relay (cfg : PipelineConfig R) (past : List (Transition (Pipeline R ω n) (PipelineAct n)))
    (s : Pipeline R ω n) : Relay Event where
  entered := collect submitted past
  left := collect taken past
  waiting := s.queue.buf ++ (s.main.held ++ (cfg.ringbuf.records s.ring).map Loader.eventAt)
  discarded := collect turnedAway past

/-- The relay one step later. -/
theorem relay_concat (cfg : PipelineConfig R)
    (past : List (Transition (Pipeline R ω n) (PipelineAct n))) (s : Pipeline R ω n)
    (act : PipelineAct n) (s' : Pipeline R ω n) :
    relay cfg (past ++ [⟨s, act, s'⟩]) s' =
      ⟨collect submitted past ++ act.submitted.toList, collect taken past ++ act.taken.toList,
        s'.queue.buf ++ (s'.main.held ++ (cfg.ringbuf.records s'.ring).map Loader.eventAt),
        collect turnedAway past ++ act.turnedAway.toList⟩ := by
  simp only [relay, collect_concat]

/-- A step that nothing enters or leaves by, and that moves nothing out of line. -/
private theorem relay_same {act : PipelineAct n} (hsubmitted : act.submitted = none)
    (htaken : act.taken = none) (hturned : act.turnedAway = none)
    (hwaiting : s'.queue.buf ++
        (s'.main.held ++ (cfg.ringbuf.records s'.ring).map Loader.eventAt) =
      s.queue.buf ++ (s.main.held ++ (cfg.ringbuf.records s.ring).map Loader.eventAt)) :
    relay cfg (past ++ [⟨s, act, s'⟩]) s' = relay cfg past s := by
  rw [relay_concat, hsubmitted, htaken, hturned, hwaiting]
  simp only [Option.toList_none, List.append_nil, relay]

/-- After a read that fails, `main` holds nothing. -/
theorem held_afterRead_error (err : Err) :
    (MainPC.afterRead (Loader.readEvent (.error err))).held = [] := by
  by_cases hclosed : err.is .errClosed = true
  · simp [MainPC.afterRead, Loader.readEvent, hclosed, MainPC.held]
  · simp [MainPC.afterRead, Loader.readEvent, hclosed, MainPC.held]

/-- The program lets an event in, or nothing happens to the line. -/
private theorem relay_hook (hlaw : cfg.ringbuf.Lawful) (cpu : Fin n) (call : Bpf.IoctlCall)
    (result : Bpf.HookResult) :
    relay cfg (past ++ [⟨s, .hook cpu call result, s.afterHook cfg cpu result⟩])
        (s.afterHook cfg cpu result) = relay cfg past s ∨
      Relay.Move (relay cfg past s)
        (relay cfg (past ++ [⟨s, .hook cpu call result, s.afterHook cfg cpu result⟩])
          (s.afterHook cfg cpu result)) := by
  cases result with
  | passed => exact Or.inl (relay_same rfl rfl rfl rfl)
  | lost => exact Or.inl (relay_same rfl rfl rfl rfl)
  | submitted e =>
      have hevent : Loader.eventAt e.bytes = Loader.ofBpf e := by
        have h := Loader.eventAt_bytes e []
        rwa [List.append_nil] at h
      have hline : s.queue.buf ++ (s.main.held ++
          (cfg.ringbuf.records (cfg.ringbuf.submit s.ring e.bytes)).map Loader.eventAt) =
            (relay cfg past s).waiting ++ [Loader.ofBpf e] := by
        rw [hlaw.records_submit, List.map_append, List.map_singleton, hevent,
          ← List.append_assoc s.main.held, ← List.append_assoc]
        rfl
      refine Or.inr ?_
      rw [relay_concat]
      simp only [afterHook, taken, turnedAway, Option.toList_none, List.append_nil, hline]
      exact .enter (Loader.ofBpf e)

/-- A read moves the oldest record into the hand of `main`. -/
private theorem relay_read (hlaw : cfg.ringbuf.Lawful) (h : s.Wf cfg) (hmain : s.main = .reading)
    {answer : Loader.ReadResult} {ring : R} (hread : cfg.ringbuf.Read s.ring answer ring) :
    s.queue.buf ++ ((MainPC.afterRead (Loader.readEvent answer)).held ++
        (cfg.ringbuf.records ring).map Loader.eventAt) =
      s.queue.buf ++ (s.main.held ++ (cfg.ringbuf.records s.ring).map Loader.eventAt) := by
  rw [hmain]
  cases answer with
  | ok sample =>
      rw [h.readEvent_record hlaw hread, hlaw.records_read_ok hread]
      rfl
  | error err =>
      rw [held_afterRead_error, hlaw.records_read_error hread]
      rfl

/-- The `select` passes the event in hand on, or discards it. -/
private theorem relay_send (h : s.Wf cfg) {event : Event} (hmain : s.main = .sending event)
    {result : SendResult}
    (htried : (s.queue.trySend (s.worker = .parked) event).1 = result) :
    relay cfg (past ++ [⟨s, .send event result, s.afterSend event result⟩])
        (s.afterSend event result) = relay cfg past s ∨
      Relay.Move (relay cfg past s)
        (relay cfg (past ++ [⟨s, .send event result, s.afterSend event result⟩])
          (s.afterSend event result)) := by
  have hspec := (s.queue.trySend_spec (s.worker = .parked) event).2
  rw [htried] at hspec
  have hrelay : relay cfg past s = ⟨collect submitted past, collect taken past,
      s.queue.buf ++ event :: (cfg.ringbuf.records s.ring).map Loader.eventAt,
      collect turnedAway past⟩ := by
    rw [relay, hmain]
    rfl
  cases result with
  | panics => exact absurd htried (h.trySend_ne_panics hmain)
  | handed =>
      refine Or.inr ?_
      -- the worker parks on an empty queue, so the event in hand is the next to leave
      have hbuf := h.parked (of_decide_eq_true hspec.1)
      rw [relay_concat, hrelay]
      simp only [afterSend, submitted, taken, turnedAway, Option.toList_none, List.append_nil,
        hbuf, List.nil_append]
      exact .leave event
  | buffered =>
      refine Or.inl (relay_same rfl rfl rfl ?_)
      show (s.queue.trySend (s.worker = .parked) event).2.buf ++ _ = _
      rw [hspec.2, hmain, List.append_assoc]
      rfl
  | full =>
      refine Or.inr ?_
      rw [relay_concat, hrelay]
      simp only [afterSend, submitted, taken, Option.toList_none, List.append_nil]
      exact .discard event

/-- A receive takes the oldest event out. -/
private theorem relay_receive {result : RecvResult Event} (hrecv : s.queue.recv.1 = result) :
    relay cfg (past ++ [⟨s, .receive result, s.afterReceive⟩]) s.afterReceive =
        relay cfg past s ∨
      Relay.Move (relay cfg past s)
        (relay cfg (past ++ [⟨s, .receive result, s.afterReceive⟩]) s.afterReceive) := by
  have hspec := s.queue.recv_spec.2
  rw [hrecv] at hspec
  cases result with
  | item event =>
      refine Or.inr ?_
      have hbuf : s.queue.buf = event :: s.afterReceive.queue.buf := hspec
      rw [relay_concat, relay, hbuf]
      simp only [submitted, turnedAway, Option.toList_none, List.append_nil]
      exact .leave event
  | closed =>
      refine Or.inl (relay_same rfl rfl rfl ?_)
      show s.queue.recv.2.buf ++ _ = _
      rw [hspec.2.2, hspec.2.1]
      rfl
  | parks =>
      refine Or.inl (relay_same rfl rfl rfl ?_)
      show s.queue.recv.2.buf ++ _ = _
      rw [hspec.2.2, hspec.2.1]
      rfl

/-- **The pipeline is a relay**: every step of every party is one of its moves, or
leaves the line as it is. -/
theorem relay_simulates (hlaw : cfg.ringbuf.Lawful) :
    Relay.Simulates (PipelineStep (ω := ω) (n := n) cfg) (Wf cfg) (relay cfg) := by
  intro past s act s' h hstep
  cases hstep with
  | hook running cpu call result ran => exact relay_hook hlaw cpu call result
  | read running at_read answer ring returned =>
      exact Or.inl (relay_same rfl rfl rfl (relay_read hlaw h at_read returned))
  | send running event at_select result tried => exact relay_send h at_select tried
  | closeQueue running at_close =>
      obtain ⟨queue, hclose⟩ := h.close_ne_none at_close
      refine Or.inl (relay_same rfl rfl rfl ?_)
      rw [afterCloseQueue, hclose, at_close]
      show queue.buf ++ _ = _
      rw [(Chan.close_spec hclose).2.2]
      rfl
  | wait running at_wait finished =>
      refine Or.inl (relay_same rfl rfl rfl ?_)
      rw [at_wait]
      rfl
  | receive running at_receive result received => exact relay_receive received
  | wake running parked closed => exact Or.inl (relay_same rfl rfl rfl rfl)
  | handle running event in_body env => exact Or.inl (relay_same rfl rfl rfl rfl)
  | closeReader running =>
      refine Or.inl (relay_same rfl rfl rfl ?_)
      unfold afterCloseReader
      split
      · rfl
      · show s.queue.buf ++ (s.main.held ++ _) = _
        rw [hlaw.records_close]

/-! ## What the worker gets -/

/-- Everything that was enqueued is in the queue or was taken, and everything that
was taken is in the worker's hand or was handled, in the same order. -/
structure Custody (past : List (Transition (Pipeline R ω n) (PipelineAct n)))
    (s : Pipeline R ω n) : Prop where
  enqueued_eq : collect enqueued past = collect taken past ++ s.queue.buf
  taken_eq : collect taken past = collect finished past ++ s.worker.held

/-- A step that neither moves an event into the queue nor out of it. -/
private theorem Custody.same {act : PipelineAct n} (h : Custody past s)
    (henqueued : act.enqueued = none) (htaken : act.taken = none)
    (hfinished : act.finished = none) (hbuf : s'.queue.buf = s.queue.buf)
    (hheld : s'.worker.held = s.worker.held) : Custody (past ++ [⟨s, act, s'⟩]) s' := by
  refine ⟨?_, ?_⟩
  · rw [collect_concat, collect_concat, henqueued, htaken, hbuf]
    simp only [Option.toList_none, List.append_nil]
    exact h.enqueued_eq
  · rw [collect_concat, collect_concat, htaken, hfinished, hheld]
    simp only [Option.toList_none, List.append_nil]
    exact h.taken_eq

private theorem Custody.afterSend (hwf : s.Wf cfg) (h : Custody past s) {event : Event}
    {result : SendResult}
    (htried : (s.queue.trySend (s.worker = .parked) event).1 = result) :
    Custody (past ++ [⟨s, .send event result, s.afterSend event result⟩])
      (s.afterSend event result) := by
  have hspec := (s.queue.trySend_spec (s.worker = .parked) event).2
  rw [htried] at hspec
  cases result with
  | panics => exact h.same rfl rfl rfl rfl rfl
  | full => exact h.same rfl rfl rfl rfl rfl
  | handed =>
      have hparked : s.worker = .parked := of_decide_eq_true hspec.1
      have hbuf := hwf.parked hparked
      have hidle : s.worker.held = [] := by
        rw [hparked]
        rfl
      have henqueued := h.enqueued_eq
      have htaken := h.taken_eq
      rw [hbuf, List.append_nil] at henqueued
      rw [hidle, List.append_nil] at htaken
      refine ⟨?_, ?_⟩
      · rw [collect_concat, collect_concat, henqueued]
        show _ = _ ++ s.queue.buf
        rw [hbuf, List.append_nil]
        rfl
      · rw [collect_concat, collect_concat, htaken]
        simp only [finished, Option.toList_none, List.append_nil]
        rfl
  | buffered =>
      refine ⟨?_, ?_⟩
      · rw [collect_concat, collect_concat, h.enqueued_eq]
        show _ = _ ++ (s.queue.trySend (s.worker = .parked) event).2.buf
        rw [hspec.2]
        simp only [enqueued, taken, Option.toList_none, Option.toList_some, List.append_nil,
          List.append_assoc]
      · rw [collect_concat, collect_concat, h.taken_eq]
        simp only [taken, finished, Option.toList_none, List.append_nil]
        rfl

private theorem Custody.afterReceive (h : Custody past s) (hworker : s.worker = .receiving)
    {result : RecvResult Event} (hrecv : s.queue.recv.1 = result) :
    Custody (past ++ [⟨s, .receive result, s.afterReceive⟩]) s.afterReceive := by
  have hspec := s.queue.recv_spec.2
  rw [hrecv] at hspec
  have hidle : s.worker.held = [] := by
    rw [hworker]
    rfl
  have hnext : s.afterReceive.worker = .afterRecv result := by rw [← hrecv, Pipeline.afterReceive]
  cases result with
  | item event =>
      refine ⟨?_, ?_⟩
      · have hbuf : s.queue.buf = event :: s.afterReceive.queue.buf := hspec
        rw [collect_concat, collect_concat, h.enqueued_eq, hbuf]
        simp only [enqueued, taken, Option.toList_none, Option.toList_some, List.append_nil,
          List.append_assoc, List.singleton_append]
      · rw [collect_concat, collect_concat, h.taken_eq, hidle, hnext]
        simp only [finished, taken, Option.toList_none, Option.toList_some, List.append_nil]
        rfl
  | closed =>
      refine h.same rfl rfl rfl (hspec.2.2.trans hspec.2.1.symm) ?_
      rw [hnext, hidle]
      rfl
  | parks =>
      refine h.same rfl rfl rfl (hspec.2.2.trans hspec.2.1.symm) ?_
      rw [hnext, hidle]
      rfl

/-- **Every step keeps custody.** -/
theorem Custody.step (hwf : s.Wf cfg) (h : Custody past s) {act : PipelineAct n}
    (hstep : PipelineStep cfg s act s') : Custody (past ++ [⟨s, act, s'⟩]) s' := by
  cases hstep with
  | hook running cpu call result ran =>
      cases result <;> exact h.same rfl rfl rfl rfl rfl
  | read running at_read answer ring returned => exact h.same rfl rfl rfl rfl rfl
  | send running event at_select result tried => exact h.afterSend hwf tried
  | closeQueue running at_close =>
      obtain ⟨queue, hclose⟩ := hwf.close_ne_none at_close
      rw [afterCloseQueue, hclose]
      exact h.same rfl rfl rfl (Chan.close_spec hclose).2.2 rfl
  | wait running at_wait finished => exact h.same rfl rfl rfl rfl rfl
  | receive running at_receive result received => exact h.afterReceive at_receive received
  | wake running parked closed =>
      refine h.same rfl rfl rfl rfl ?_
      rw [parked]
      rfl
  | handle running event in_body env =>
      refine ⟨?_, ?_⟩
      · rw [collect_concat, collect_concat, h.enqueued_eq]
        simp only [enqueued, taken, Option.toList_none, List.append_nil]
      · rw [collect_concat, collect_concat, h.taken_eq, in_body]
        simp only [taken, finished, WorkerPC.held, Option.toList_none, Option.toList_some,
          List.append_nil]
  | closeReader running =>
      unfold afterCloseReader
      split <;> exact h.same rfl rfl rfl rfl rfl

/-- Custody holds in every run from the start. -/
theorem custody_of_run {queueSize : ℕ} {ring : R} {agent : WorkerState ω}
    (hlaw : cfg.ringbuf.Lawful) (hempty : cfg.ringbuf.records ring = [])
    (run : PipelineRun cfg (start queueSize ring agent) past s) : Custody past s := by
  induction run with
  | start => exact ⟨rfl, rfl⟩
  | snoc run hstep ih => exact ih.step (wf_of_run hlaw (wf_start cfg _ _ hempty) run) hstep

/-! ## The counters -/

/-- A call that passes both lookups is lost or submitted, and no other call is. -/
theorem passedCall_length {act : PipelineAct n} (hstep : PipelineStep cfg s act s') :
    (act.passedCall cfg.maps).toList.length =
      act.lossCPU.toList.length + act.submitted.toList.length := by
  cases hstep with
  | hook running cpu call result ran =>
      subst ran
      unfold Bpf.kubenpuIoctl
      cases hkind : Bpf.filterKind cfg.maps call with
      | none => simp [passedCall, lossCPU, submitted, hkind]
      | some kind =>
          by_cases hroom : cfg.ringbuf.reserve s.ring Bpf.Event.sizeof = true
          · simp [passedCall, lossCPU, submitted, hkind, hroom]
          · simp [passedCall, lossCPU, submitted, hkind, hroom]
  | _ => rfl

/-- Along a run, the calls that passed the lookups are the losses and the
submissions. -/
theorem passed_eq (run : PipelineRun cfg s₀ past s) :
    (collect (passedCall cfg.maps) past).length =
      (collect lossCPU past).length + (collect submitted past).length := by
  induction run with
  | start => rfl
  | snoc run hstep ih =>
      have hone := passedCall_length hstep
      simp only [collect_concat, List.length_append]
      omega

/-- **A per-CPU counter is the number of losses on its CPU**, modulo 2^64. -/
theorem dropped_eq (hzero : ∀ cpu, s₀.dropped cpu = 0) (run : PipelineRun cfg s₀ past s)
    (cpu : Fin n) : s.dropped cpu = UInt64.ofNat ((collect lossCPU past).count cpu) := by
  induction run with
  | start => exact hzero cpu
  | @snoc past s act s' run hstep ih =>
      have hother (hsame : s'.dropped = s.dropped) (hloss : act.lossCPU = none) :
          s'.dropped cpu =
            UInt64.ofNat ((collect lossCPU (past ++ [⟨s, act, s'⟩])).count cpu) := by
        rw [collect_concat, hloss, Option.toList_none, List.append_nil, hsame, ih]
      cases hstep with
      | hook running at_cpu call result ran =>
          cases result with
          | passed => exact hother rfl rfl
          | submitted e => exact hother rfl rfl
          | lost =>
              rw [collect_concat, List.count_append]
              show Function.update s.dropped at_cpu (s.dropped at_cpu + 1) cpu = _
              rcases eq_or_ne cpu at_cpu with rfl | hne
              · rw [Function.update_self, ih, lossCPU, Option.toList_some,
                  List.count_singleton_self, UInt64.ofNat_add]
                rfl
              · rw [Function.update_of_ne hne, ih, lossCPU, Option.toList_some,
                  List.count_singleton, if_neg (by simpa using Ne.symm hne), Nat.add_zero]
      | read => exact hother rfl rfl
      | send running event at_select result tried => cases result <;> exact hother rfl rfl
      | closeQueue =>
          refine hother ?_ rfl
          unfold afterCloseQueue
          split <;> rfl
      | wait => exact hother rfl rfl
      | receive => exact hother rfl rfl
      | wake => exact hother rfl rfl
      | handle => exact hother rfl rfl
      | closeReader =>
          refine hother ?_ rfl
          unfold afterCloseReader
          split <;> rfl

/-- The counters of all CPUs count every loss once. -/
theorem sum_count_losses (past : List (Transition (Pipeline R ω n) (PipelineAct n))) :
    ∑ cpu, (collect lossCPU past).count cpu = (collect lossCPU past).length := by
  have h := Multiset.sum_count_eq_card (s := Finset.univ)
    (m := (collect lossCPU past : Multiset (Fin n))) fun a _ => Finset.mem_univ a
  simpa using h

end Pipeline

/-- The act of the worker or of the reader on the collector, if the step is one. -/
def PipelineAct.workerAct {n : ℕ} (ω : Type) : PipelineAct n → Option (WorkerAct ω)
  | handle event env => some (.event event env)
  | send _ .full => some .queueFull
  | _ => none

/-- The counter of the reader's drops after an outcome. -/
theorem Collector.read_queueFull_apply {ω : Type} (c : Collector ω) (o : Outcome) :
    (c.apply o).read (.dropped reasonQueueFull) =
      (c.read (.dropped reasonQueueFull) + if o = .dropped reasonQueueFull then 1 else 0) %
        2 ^ 64 := by
  have hsmall : c.read (.dropped reasonQueueFull) % 2 ^ 64 = c.read (.dropped reasonQueueFull) :=
    Nat.mod_eq_of_lt (UInt64.toNat_lt _)
  cases o with
  | ioctl k =>
      rw [if_neg (by simp), Nat.add_zero, hsmall]
      rfl
  | uncounted =>
      rw [if_neg (by simp), Nat.add_zero, hsmall]
      rfl
  | dropped reason =>
      rcases eq_or_ne reason reasonQueueFull with rfl | hne
      · rw [if_pos rfl]
        exact Tally.value_bump_self_mod _ _
      · rw [if_neg (by simpa using hne), Nat.add_zero, hsmall]
        exact Tally.value_bump_ne _ (Ne.symm hne)

namespace Pipeline

open PipelineAct

variable {R ω : Type} {n : ℕ} {cfg : PipelineConfig R} {s₀ s s' : Pipeline R ω n}
  {past : List (Transition (Pipeline R ω n) (PipelineAct n))}

/-- The pod map and the collector change in the acts of the worker and in the
reader's drops, and in no other step. -/
theorem agent_step {act : PipelineAct n} (hstep : PipelineStep cfg s act s') :
    s'.agent = (act.workerAct ω).elim s.agent (s.agent.next cfg.deviceMap) := by
  cases hstep with
  | hook running cpu call result ran => cases result <;> rfl
  | send running event at_select result tried => cases result <;> rfl
  | closeQueue =>
      unfold afterCloseQueue
      split <;> rfl
  | closeReader =>
      unfold afterCloseReader
      split <;> rfl
  | _ => rfl

/-- **Seen from the worker and the collector, a run of the pipeline is a run of
the worker.** -/
theorem worker_run (run : PipelineRun cfg s₀ past s) :
    WorkerRun cfg.deviceMap s₀.agent (project Pipeline.agent (workerAct ω) past) s.agent := by
  refine Run.project ?_ ?_ run
  · intro s act s' hstep hidle
    rw [agent_step hstep, hidle, Option.elim_none]
  · intro s act s' workerAct hstep hact
    rw [agent_step hstep, hact, Option.elim_some]

/-- **The counter of the reader's drops is their number**, modulo 2^64. -/
theorem queueFull_eq (hzero : s₀.agent.collector.read (.dropped reasonQueueFull) = 0)
    (run : PipelineRun cfg s₀ past s) :
    s.agent.collector.read (.dropped reasonQueueFull) =
      (collect turnedAway past).length % 2 ^ 64 := by
  induction run with
  | start => exact hzero
  | @snoc past s act s' run hstep ih =>
      have hsame (hidle : act.workerAct ω = none) (hturned : act.turnedAway = none) :
          s'.agent.collector.read (.dropped reasonQueueFull) =
            (collect turnedAway (past ++ [⟨s, act, s'⟩])).length % 2 ^ 64 := by
        rw [collect_concat, hturned, Option.toList_none, List.append_nil, agent_step hstep, hidle]
        exact ih
      cases hstep with
      | send running event at_select result tried =>
          cases result with
          | full =>
              have hnext : (s.afterSend event .full).agent =
                  s.agent.next cfg.deviceMap .queueFull := rfl
              rw [hnext, WorkerState.next_collector, Collector.read_queueFull_apply, ih,
                collect_concat, List.length_append]
              exact Nat.mod_add_mod _ _ _
          | panics => exact hsame rfl rfl
          | handed => exact hsame rfl rfl
          | buffered => exact hsame rfl rfl
      | handle running event in_body env =>
          -- the worker has reasons of its own, and `queue_full` is none of them
          have hother : (WorkerAct.event event env : WorkerAct ω).outcome cfg.deviceMap
              s.agent.podMap ≠ .dropped reasonQueueFull := by
            intro hdropped
            exact absurd (outcomeOf_dropped_mem hdropped) (by decide)
          have hnext : handleEvent cfg.deviceMap s.agent event env =
              s.agent.next cfg.deviceMap (.event event env) := rfl
          rw [hnext, WorkerState.next_collector, Collector.read_queueFull_apply, if_neg hother, ih,
            collect_concat]
          simp only [turnedAway, Option.toList_none, List.append_nil, Nat.add_zero, Nat.mod_mod]
      | hook => exact hsame rfl rfl
      | read => exact hsame rfl rfl
      | closeQueue => exact hsame rfl rfl
      | wait => exact hsame rfl rfl
      | receive => exact hsame rfl rfl
      | wake => exact hsame rfl rfl
      | closeReader => exact hsame rfl rfl

/-! ## Conservation -/

/-- What the pipeline guarantees of a state reached by `past`. -/
structure Conserved (cfg : PipelineConfig R)
    (past : List (Transition (Pipeline R ω n) (PipelineAct n))) (s : Pipeline R ω n) : Prop where
  /-- Each call that passed both lookups was lost on its CPU, or its event is in
  one of the places after the hook. -/
  calls : (collect (passedCall cfg.maps) past).length =
    ∑ cpu, (collect lossCPU past).count cpu + (cfg.ringbuf.records s.ring).length +
      s.main.held.length + (collect turnedAway past).length + s.queue.buf.length +
      (collect taken past).length
  /-- A per-CPU counter is the number of losses on its CPU, as 64 bits hold it. -/
  lost : ∀ cpu, (s.dropped cpu).toNat = (collect lossCPU past).count cpu % 2 ^ 64
  /-- So is the counter of the drops at the queue. -/
  turned_away : s.agent.collector.read (.dropped reasonQueueFull) =
    (collect turnedAway past).length % 2 ^ 64
  /-- Until a counter can wrap, the same balance holds of the counters. -/
  counters : (collect (passedCall cfg.maps) past).length < 2 ^ 64 →
    (collect (passedCall cfg.maps) past).length =
      ∑ cpu, (s.dropped cpu).toNat + (cfg.ringbuf.records s.ring).length + s.main.held.length +
        s.agent.collector.read (.dropped reasonQueueFull) + s.queue.buf.length +
        (collect taken past).length
  /-- `DroppedEvents` reads all losses. -/
  dropped_events : Loader.droppedEvents (List.ofFn s.dropped) none =
    .ok (UInt64.ofNat (collect lossCPU past).length)
  /-- The worker and the queue have a part of the submitted events, in order. -/
  ordered : (collect taken past ++ s.queue.buf).Sublist (collect submitted past)
  running : s.panicked = false
  /-- The queue was open at every send. -/
  sends_open : ∀ t ∈ past, ∀ event result, t.label = .send event result →
    t.pre.queue.closed = false
  /-- `main` returns from `workers.Wait` with all events handled. -/
  drained : s.main = .returned →
    s.queue.buf = [] ∧ collect finished past = collect enqueued past

/-- The 64-bit sum of counters, each the number of its losses. -/
private theorem foldl_ofNat (counts : List ℕ) (acc : ℕ) :
    (counts.map UInt64.ofNat).foldl (· + ·) (UInt64.ofNat acc) =
      UInt64.ofNat (acc + counts.sum) := by
  induction counts generalizing acc with
  | nil => rfl
  | cons count counts ih =>
      rw [List.map_cons, List.foldl_cons, ← UInt64.ofNat_add, ih, List.sum_cons, Nat.add_assoc]

/-- The userspace sum over all CPUs is the number of losses. -/
theorem droppedEvents_eq (hzero : ∀ cpu, s₀.dropped cpu = 0) (run : PipelineRun cfg s₀ past s) :
    Loader.droppedEvents (List.ofFn s.dropped) none =
      .ok (UInt64.ofNat (collect lossCPU past).length) := by
  have hcounts : List.ofFn s.dropped =
      (List.ofFn fun cpu => (collect lossCPU past).count cpu).map UInt64.ofNat := by
    rw [List.map_ofFn]
    exact congrArg List.ofFn (funext fun cpu => dropped_eq hzero run cpu)
  have hsum := foldl_ofNat (List.ofFn fun cpu => (collect lossCPU past).count cpu) 0
  rw [Nat.zero_add, List.sum_ofFn, sum_count_losses] at hsum
  rw [Loader.droppedEvents, hcounts]
  exact congrArg Except.ok hsum

/-- **No event is lost or doubled**: whatever the capacities of the ring buffer
and of the queue, whatever the number of CPUs and the order of the steps, every
state the agent reaches accounts for every call that passed the filter. -/
theorem events_conserved {queueSize : ℕ} {ring : R} {agent : WorkerState ω}
    (hlaw : cfg.ringbuf.Lawful) (hempty : cfg.ringbuf.records ring = [])
    (hfresh : agent.collector.Fresh)
    (run : PipelineRun cfg (start queueSize ring agent) past s) : Conserved cfg past s := by
  have hwf₀ : (start queueSize ring agent : Pipeline R ω n).Wf cfg := wf_start cfg _ _ hempty
  have hwf : s.Wf cfg := wf_of_run hlaw hwf₀ run
  have hstart : relay cfg [] (start queueSize ring agent : Pipeline R ω n) = Relay.empty := by
    simp [relay, start, MainPC.held, hempty, Relay.empty]
  have hsound : (relay cfg past s).Sound :=
    (relay_simulates hlaw).sound hwf₀ (fun h hstep => h.step hlaw hstep)
      (by rw [hstart]; exact Relay.sound_empty) run
  have hcustody := custody_of_run hlaw hempty run
  have hzero : ∀ cpu, (start queueSize ring agent : Pipeline R ω n).dropped cpu = 0 := fun _ => rfl
  have hlost : ∀ cpu, (s.dropped cpu).toNat = (collect lossCPU past).count cpu % 2 ^ 64 := by
    intro cpu
    rw [dropped_eq hzero run cpu, UInt64.toNat_ofNat']
  have hfull : s.agent.collector.read (.dropped reasonQueueFull) =
      (collect turnedAway past).length % 2 ^ 64 := by
    refine queueFull_eq ?_ run
    show Tally.value agent.collector.eventsDroppedTotal reasonQueueFull = 0
    rw [hfresh.2]
    rfl
  -- the submissions are what the relay took in
  have hcalls : (collect (passedCall cfg.maps) past).length =
      (collect lossCPU past).length + (cfg.ringbuf.records s.ring).length +
        s.main.held.length + (collect turnedAway past).length + s.queue.buf.length +
        (collect taken past).length := by
    have hsubmitted : (collect submitted past).length = (collect taken past).length +
        (s.queue.buf ++
          (s.main.held ++ (cfg.ringbuf.records s.ring).map Loader.eventAt)).length +
          (collect turnedAway past).length := hsound.length_eq
    rw [List.length_append, List.length_append, List.length_map] at hsubmitted
    have hpassed := passed_eq run
    omega
  refine ⟨?_, hlost, hfull, ?_, droppedEvents_eq hzero run, ?_, hwf.running, ?_, ?_⟩
  · rw [sum_count_losses]
    exact hcalls
  · intro hsmall
    -- fewer calls than a counter can hold: no counter has wrapped
    have hnowrap : ∑ cpu, (s.dropped cpu).toNat = (collect lossCPU past).length := by
      rw [← sum_count_losses]
      refine Finset.sum_congr rfl ?_
      intro cpu _
      have hle := List.count_le_length (a := cpu) (l := collect lossCPU past)
      rw [hlost cpu, Nat.mod_eq_of_lt (by omega)]
    rw [hnowrap, hfull, Nat.mod_eq_of_lt (by omega)]
    exact hcalls
  · have hordered : (collect taken past ++ (s.queue.buf ++
        (s.main.held ++ (cfg.ringbuf.records s.ring).map Loader.eventAt))).Sublist
          (collect submitted past) := hsound.ordered
    rw [← List.append_assoc] at hordered
    exact (List.sublist_append_left _ _).trans hordered
  · intro t ht event result hlabel
    obtain ⟨before, after, -, hbefore, hstep⟩ := run.of_mem ht
    rw [hlabel] at hstep
    exact (wf_of_run hlaw hwf₀ hbefore).open_of_send hstep
  · intro hreturned
    have hdone := hwf.returned hreturned
    have hbuf := (hwf.done hdone).1
    have hidle : s.worker.held = [] := by
      rw [hdone]
      rfl
    refine ⟨hbuf, ?_⟩
    rw [hcustody.enqueued_eq, hcustody.taken_eq, hbuf, hidle, List.append_nil, List.append_nil]

/-! ## One event, from the hook to the end -/

/-- The maps of a machine with one GPU and one counted ioctl. -/
def gpuMaps : Bpf.Filter where
  devices := ⟨(∅ : Map Bpf.DeviceKey UInt32).insert ⟨226, 128⟩ 1, by decide⟩
  ioctls := ⟨(∅ : Map Bpf.IoctlKey UInt8).insert ⟨1, 0x69⟩ Kind.kindSubmit, by decide⟩

/-- That machine with a ring buffer in memory. -/
def gpuConfig : PipelineConfig MemRing := ⟨MemRing.ringbuf, gpuMaps, gpuMap⟩

/-- Its agent before the first call: one CPU, a ring buffer for two records, and a
queue for one event. -/
def gpuStart : Pipeline MemRing Unit 1 := start 1 ⟨96, [], false⟩ (startState Unit)

/-- Two calls find room and the third does not; a signal closes the reader while
the second is unread; the first goes through, and `main` returns. -/
theorem exists_served_run : ∃ past s, PipelineRun gpuConfig gpuStart past s ∧
    s.main = .returned ∧ s.dropped 0 = 1 ∧ (collect finished past).length = 1 ∧
      (gpuConfig.ringbuf.records s.ring).length = 1 := by
  have run : PipelineRun gpuConfig gpuStart [] gpuStart := .start
  have run := run.snoc (.hook rfl 0 gpuCall _ rfl)
  have run := run.snoc (.hook rfl 0 gpuCall _ rfl)
  have run := run.snoc (.hook rfl 0 gpuCall _ rfl)
  have run := run.snoc (.read rfl rfl _ _ (.record _ _))
  have run := run.snoc (.send rfl _ rfl _ rfl)
  have run := run.snoc (.receive rfl rfl _ rfl)
  have run := run.snoc (.closeReader rfl)
  have run := run.snoc (.handle rfl _ rfl (callAt ⟨0⟩ (labelled "default" "web" "app")))
  have run := run.snoc (.receive rfl rfl _ rfl)
  have run := run.snoc (.read rfl rfl _ _ .closed)
  have run := run.snoc (.closeQueue rfl rfl)
  have run := run.snoc (.wake rfl rfl rfl)
  have run := run.snoc (.wait rfl rfl rfl)
  exact ⟨_, _, run, rfl, rfl, rfl, rfl⟩

/-- All of it is accounted for. -/
theorem events_conserved_served : ∃ past s, PipelineRun gpuConfig gpuStart past s ∧
    s.main = .returned ∧ Conserved gpuConfig past s := by
  obtain ⟨past, s, run, hreturned, -⟩ := exists_served_run
  exact ⟨past, s, run, hreturned, events_conserved MemRing.lawful rfl ⟨rfl, rfl⟩ run⟩

end Pipeline

end KubeNpu

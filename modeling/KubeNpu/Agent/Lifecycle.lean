import KubeNpu.Agent.Process
import KubeNpu.Agent.Shutdown

/-!
# From the start of the process to its exit

Two flags and one order make up the life of the process.  It says it is ready from
the line that says so on, until a signal is taken, and never again after that.  The
shutdown runs in the order that keeps the last scrape honest: first readiness, then
the listener, then the reader, then the queue, then the worker, then the pod map,
and the program is detached last.

`Ordered` is the invariant that says so about a state.  It needs one promise more
of the ring buffer's library than the pipeline does: a `Read` that fails with
`ErrClosed` fails because the reader was closed.
-/

namespace KubeNpu

open Go Machine

/-- `ErrClosed` is returned for a closed reader only. -/
def Ringbuf.ClosedOnly {R : Type} (rb : Ringbuf R) : Prop :=
  ∀ {r err r'}, rb.Read r (.error err) r' → err.is .errClosed = true → rb.closed r = true

theorem MemRing.closedOnly : MemRing.ringbuf.ClosedOnly := by
  intro r err r' hread herr
  cases hread with
  | deadline => cases herr
  | closed => rfl

/-- `main` has left its loop. -/
def MainPC.left : MainPC → Bool
  | reading => false
  | sending _ => false
  | closing => true
  | waiting => true
  | returned => true

namespace Pipeline

variable {R ω : Type} {n : ℕ} {cfg : PipelineConfig R} {s s' : Pipeline R ω n}

/-- The reader is closed when `closeReaderOnce` is spent, and `main` leaves its loop
only then. -/
structure Closes (cfg : PipelineConfig R) (s : Pipeline R ω n) : Prop where
  closed_eq : cfg.ringbuf.closed s.ring = s.closedOnce
  left : s.main.left = true → s.closedOnce = true

/-- `CloseReader` spends `closeReaderOnce`, and nothing else does. -/
theorem closedOnce_step {act : PipelineAct n} (hstep : PipelineStep cfg s act s') :
    (act = .closeReader → s'.closedOnce = true) ∧
      (act ≠ .closeReader → s'.closedOnce = s.closedOnce) := by
  cases hstep with
  | hook running cpu call result ran => cases result <;> exact ⟨nofun, fun _ => rfl⟩
  | send running event at_select result tried => cases result <;> exact ⟨nofun, fun _ => rfl⟩
  | closeQueue running at_close =>
      refine ⟨nofun, fun _ => ?_⟩
      unfold afterCloseQueue
      split <;> rfl
  | closeReader running =>
      refine ⟨fun _ => ?_, fun hne => absurd rfl hne⟩
      unfold afterCloseReader
      split
      · assumption
      · rfl
  | _ => exact ⟨nofun, fun _ => rfl⟩

/-- A read sends `main` out of its loop when the reader is closed, and only then. -/
theorem left_afterRead (honly : cfg.ringbuf.ClosedOnly) {r r' : R} {answer : Loader.ReadResult}
    (hread : cfg.ringbuf.Read r answer r')
    (hleft : (MainPC.afterRead (Loader.readEvent answer)).left = true) :
    cfg.ringbuf.closed r = true := by
  cases answer with
  | ok sample =>
      unfold MainPC.afterRead Loader.readEvent at hleft
      by_cases hshort : sample.length < Loader.sizeofBpfEvent
      · simp [hshort, MainPC.left] at hleft
      · simp [hshort, MainPC.left] at hleft
  | error err =>
      refine honly hread ?_
      by_contra hopen
      simp [MainPC.afterRead, Loader.readEvent, hopen, MainPC.left] at hleft

/-- **Every step keeps that.** -/
theorem Closes.step (hlaw : cfg.ringbuf.Lawful) (honly : cfg.ringbuf.ClosedOnly)
    (h : s.Closes cfg) {act : PipelineAct n} (hstep : PipelineStep cfg s act s') :
    s'.Closes cfg := by
  cases hstep with
  | hook running cpu call result ran =>
      cases result with
      | submitted e => exact ⟨(hlaw.closed_submit _ _).trans h.closed_eq, h.left⟩
      | passed => exact h
      | lost => exact ⟨h.closed_eq, h.left⟩
  | read running at_read answer ring returned =>
      refine ⟨(hlaw.closed_read returned).trans h.closed_eq, ?_⟩
      intro hleft
      exact h.closed_eq.symm.trans (left_afterRead honly returned hleft)
  | send running event at_select result tried =>
      cases result with
      | panics => exact ⟨h.closed_eq, h.left⟩
      | handed => exact ⟨h.closed_eq, nofun⟩
      | buffered => exact ⟨h.closed_eq, nofun⟩
      | full => exact ⟨h.closed_eq, nofun⟩
  | closeQueue running at_close =>
      have hclosed : s.closedOnce = true := h.left (by rw [at_close]; rfl)
      unfold afterCloseQueue
      split
      · exact ⟨h.closed_eq, h.left⟩
      · exact ⟨h.closed_eq, fun _ => hclosed⟩
  | wait running at_wait finished =>
      exact ⟨h.closed_eq, fun _ => h.left (by rw [at_wait]; rfl)⟩
  | receive running at_receive result received => exact ⟨h.closed_eq, h.left⟩
  | wake running parked closed => exact ⟨h.closed_eq, h.left⟩
  | handle running event in_body env => exact ⟨h.closed_eq, h.left⟩
  | closeReader running =>
      unfold afterCloseReader
      split
      · exact h
      · exact ⟨hlaw.closed_close s.ring, fun _ => rfl⟩

/-- Steps of other parties leave `main` where it is. -/
theorem main_step {act : PipelineAct n} (hstep : PipelineStep cfg s act s')
    (hother : match act with
      | .read _ | .send _ _ | .closeQueue | .wait => False
      | _ => True) : s'.main = s.main := by
  cases hstep with
  | hook running cpu call result ran => cases result <;> rfl
  | closeReader running =>
      unfold afterCloseReader
      split <;> rfl
  | read => exact hother.elim
  | send => exact hother.elim
  | closeQueue => exact hother.elim
  | wait => exact hother.elim
  | receive => rfl
  | wake => rfl
  | handle => rfl

end Pipeline

/-! ## The invariant -/

namespace Process

variable {R : Type} {n : ℕ} {cfg : ProcessConfig R} {s s' : Process R n}

/-- What holds in every state the process reaches. -/
structure Ordered (cfg : ProcessConfig R) (s : Process R n) : Prop where
  wf : s.pipeline.Wf cfg.toPipelineConfig
  closes : s.pipeline.Closes cfg.toPipelineConfig
  /-- The program is attached from `Attach` to the exit. -/
  attached_iff : s.attached = true ↔ s.exit = none ∧ Stage.attach.pos < s.stage.pos
  /-- The process is ready from `ready.Store(true)` to `ready.Store(false)`. -/
  ready_iff : s.ready = true ↔ Stage.storeReady.pos < s.stage.pos ∧
    s.watcher.pos ≤ WatcherPC.storeUnready.pos
  /-- The goroutine for signals starts where `main` starts it. -/
  watcher_iff : 0 < s.watcher.pos ↔ Stage.watch.pos < s.stage.pos
  /-- `Shutdown` closes the listener, and nothing else does. -/
  closed_iff : s.server = .closed ↔ WatcherPC.shutdown.pos < s.watcher.pos
  /-- The reader is closed after `Shutdown`, or at the very end. -/
  closedOnce_iff : s.pipeline.closedOnce = true ↔ s.watcher = .done ∨ s.stage = .closeHook
  /-- Before the loop `main` has read nothing. -/
  before_loop : s.stage.pos < Stage.loop.pos → s.pipeline.main = .reading
  /-- Past the loop the queue is drained, and the signal was seen to its end. -/
  past_loop : Stage.loop.pos < s.stage.pos → s.pipeline.main = .returned ∧ s.watcher = .done
  podMap_iff : s.podMapClosed = true ↔ Stage.closePodMap.pos < s.stage.pos
  /-- `main` returns from its last stage. -/
  returned : s.exit = some .returned → s.stage = .closeHook

theorem ordered_start {settings : Config} {ring : R} {agent : WorkerState ScrapeView}
    (hempty : cfg.ringbuf.records ring = []) (hopen : cfg.ringbuf.closed ring = false) :
    (start settings ring agent : Process R n).Ordered cfg where
  wf := Pipeline.wf_start _ _ _ hempty
  closes := ⟨hopen, nofun⟩
  attached_iff := by simp [start]
  ready_iff := by simp [start, Stage.pos]
  watcher_iff := by simp [start, Stage.pos, WatcherPC.pos]
  closed_iff := by simp [start, WatcherPC.pos]
  closedOnce_iff := by simp [start, Pipeline.start]
  before_loop _ := rfl
  past_loop h := by simp [start, Stage.pos] at h
  podMap_iff := by simp [start, Stage.pos]
  returned h := by cases h

/-- An exit other than by returning. -/
private theorem Ordered.exits (h : s.Ordered cfg) {how : Exit} (hhow : how ≠ .returned) :
    (s.exits how).Ordered cfg :=
  { h with
    attached_iff := by simp [Process.exits]
    returned := fun heq => absurd (Option.some_inj.mp heq) hhow }

/-- A step of the pipeline by a party that may take it. -/
private theorem Ordered.pipeline (hlaw : cfg.ringbuf.Lawful) (honly : cfg.ringbuf.ClosedOnly)
    (h : s.Ordered cfg) {act : PipelineAct n} (may : s.MayTake act)
    {next : Pipeline R ScrapeView n}
    (step : PipelineStep cfg.toPipelineConfig s.pipeline act next) :
    ({ s with pipeline := next } : Process R n).Ordered cfg := by
  have honce : next.closedOnce = s.pipeline.closedOnce := by
    refine (Pipeline.closedOnce_step step).2 ?_
    rintro rfl
    exact may
  -- outside the loop no party moves `main`
  have hmain : s.stage ≠ .loop → next.main = s.pipeline.main := by
    intro hstage
    refine Pipeline.main_step step ?_
    cases act with
    | read => exact hstage may
    | send => exact hstage may
    | closeQueue => exact hstage may
    | wait => exact hstage may
    | _ => trivial
  exact
    { h with
      wf := h.wf.step hlaw step
      closes := h.closes.step hlaw honly step
      closedOnce_iff := by
        show next.closedOnce = true ↔ _
        rw [honce]
        exact h.closedOnce_iff
      before_loop := fun hearly => by
        refine (hmain ?_).trans (h.before_loop hearly)
        rintro heq
        exact absurd hearly (by simp [heq])
      past_loop := fun hlate => by
        refine ⟨(hmain ?_).trans (h.past_loop hlate).1, (h.past_loop hlate).2⟩
        rintro heq
        exact absurd hlate (by simp [heq]) }

/-- A call of `CloseReader`, by whoever gets there: the reader is closed after it. -/
private theorem closes_closeReader (hlaw : cfg.ringbuf.Lawful) (honly : cfg.ringbuf.ClosedOnly)
    (h : s.Ordered cfg) {next : Pipeline R ScrapeView n}
    (step : PipelineStep cfg.toPipelineConfig s.pipeline .closeReader next) :
    next.Wf cfg.toPipelineConfig ∧ next.Closes cfg.toPipelineConfig ∧
      next.closedOnce = true ∧ next.main = s.pipeline.main :=
  ⟨h.wf.step hlaw step, h.closes.step hlaw honly step, (Pipeline.closedOnce_step step).1 rfl,
    Pipeline.main_step step trivial⟩

/-- `main` returns from its loop after the goroutine has closed the reader: nobody
else does before the loop is left. -/
theorem Ordered.watcher_done (h : s.Ordered cfg) (at_stage : s.stage = .loop)
    (hleft : s.pipeline.main.left = true) : s.watcher = .done := by
  rcases h.closedOnce_iff.mp (h.closes.left hleft) with hdone | hhook
  · exact hdone
  · rw [at_stage] at hhook
    cases hhook

/-- Until `main` starts it, there is no goroutine for signals. -/
theorem Ordered.watcher_off (h : s.Ordered cfg) (hstage : s.stage.pos ≤ Stage.watch.pos) :
    s.watcher = .off := by
  have hzero : ¬ 0 < s.watcher.pos := h.watcher_iff.not.mpr (Nat.not_lt.mpr hstage)
  cases hw : s.watcher <;> simp_all [WatcherPC.pos]

/-- The last stage is the one past `closeReader`. -/
private theorem eq_closeHook_iff (stage : Stage) :
    stage = .closeHook ↔ Stage.closeReader.pos < stage.pos := by
  cases stage <;> decide

/-- And the goroutine is done past its last step. -/
private theorem eq_done_iff (pc : WatcherPC) :
    pc = .done ↔ WatcherPC.closeReader.pos < pc.pos := by
  cases pc <;> decide

/-- `main` goes on, and stays on its side of every line that the order draws. -/
private theorem Ordered.goesOn (h : s.Ordered cfg) {next : Stage} (hle : s.stage.pos ≤ next.pos)
    (hside : ∀ line ∈ [Stage.attach, .storeReady, .watch, .loop, .closePodMap, .closeReader],
      (line.pos < next.pos ↔ line.pos < s.stage.pos)) :
    ({ s with stage := next } : Process R n).Ordered cfg :=
  { h with
    attached_iff := by rw [hside .attach (by decide), h.attached_iff]
    ready_iff := by rw [hside .storeReady (by decide), h.ready_iff]
    watcher_iff := by rw [hside .watch (by decide), h.watcher_iff]
    closedOnce_iff := by
      rw [eq_closeHook_iff, hside .closeReader (by decide), ← eq_closeHook_iff, h.closedOnce_iff]
    before_loop := fun hearly => h.before_loop (lt_of_le_of_lt hle hearly)
    past_loop := fun hlate => h.past_loop ((hside .loop (by decide)).mp hlate)
    podMap_iff := by rw [hside .closePodMap (by decide), h.podMap_iff]
    returned := fun heq => by
      have hhook := h.returned heq
      rw [eq_closeHook_iff] at hhook ⊢
      exact (hside .closeReader (by decide)).mpr hhook }

/-- The goroutine for signals goes on, and stays on its side of every line. -/
private theorem Ordered.watches (h : s.Ordered cfg) {next : WatcherPC} {pending : Bool}
    (hside : ∀ line ∈ [WatcherPC.off, .storeUnready, .shutdown, .closeReader],
      (line.pos < next.pos ↔ line.pos < s.watcher.pos)) :
    ({ s with pending, watcher := next } : Process R n).Ordered cfg := by
  have hdone : next = .done ↔ s.watcher = .done := by
    rw [eq_done_iff, eq_done_iff, hside .closeReader (by decide)]
  exact
    { h with
      ready_iff := by
        rw [← not_lt, hside .storeUnready (by decide), not_lt, h.ready_iff]
      watcher_iff := (hside .off (by decide)).trans h.watcher_iff
      closed_iff := by rw [hside .shutdown (by decide), h.closed_iff]
      closedOnce_iff := by rw [hdone, h.closedOnce_iff]
      past_loop := fun hlate => by rw [hdone]; exact h.past_loop hlate }

/-- **Every step of every party keeps the order.** -/
theorem Ordered.step (hlaw : cfg.ringbuf.Lawful) (honly : cfg.ringbuf.ClosedOnly)
    (h : s.Ordered cfg) {act : ProcessAct n} (hstep : ProcessStep cfg s act s') :
    s'.Ordered cfg := by
  have hlate := h.watcher_done
  obtain ⟨wf, closes, attached_iff, ready_iff, watcher_iff, closed_iff, closedOnce_iff,
    before_loop, past_loop, podMap_iff, returned⟩ := id h
  cases hstep with
  -- the stages of `main`
  | attach alive at_stage err =>
      unfold Process.goesOn
      cases err
      · constructor <;> simp_all [Stage.pos]
      · constructor <;> simp_all [Stage.pos, Process.exits]
  | newPodMap alive at_stage start made =>
      unfold Process.goesOn
      split
      · exact h.goesOn (by rw [at_stage]; decide) (by rw [at_stage]; decide)
      · exact h.exits Exit.noConfusion
  | serve alive at_stage => constructor <;> simp_all [Stage.pos, WatcherPC.pos]
  | createReader alive at_stage err =>
      unfold Process.goesOn
      split
      · exact h.goesOn (by rw [at_stage]; decide) (by rw [at_stage]; decide)
      · exact h.exits Exit.noConfusion
  | storeReady alive at_stage => constructor <;> simp_all [Stage.pos, WatcherPC.pos]
  | notify alive at_stage =>
      exact h.goesOn (by rw [at_stage]; decide) (by rw [at_stage]; decide)
  | watch alive at_stage =>
      have hoff := h.watcher_off (by rw [at_stage])
      constructor <;> simp_all [Stage.pos, WatcherPC.pos]
  | launch alive at_stage =>
      exact h.goesOn (by rw [at_stage]; decide) (by rw [at_stage]; decide)
  | unwind alive at_stage hreturned =>
      have hdone := hlate at_stage (by rw [hreturned]; rfl)
      constructor <;> simp_all [Stage.pos]
  | closePodMap alive at_stage => constructor <;> simp_all [Stage.pos]
  | closeReader alive at_stage next step =>
      obtain ⟨hwf, hcloses, honce, hmain⟩ := closes_closeReader hlaw honly h step
      constructor <;> simp_all [Stage.pos]
  | closeHook alive at_stage => constructor <;> simp_all [Stage.pos, Process.exits]
  -- the goroutine for signals
  | signal alive =>
      unfold afterSignal
      split
      · exact h.exits Exit.noConfusion
      · exact { h with }
  | takeSignal alive at_pc sent => exact h.watches (by rw [at_pc]; decide)
  | storeUnready alive at_pc => constructor <;> simp_all [WatcherPC.pos]
  | shutdown alive at_pc => constructor <;> simp_all [WatcherPC.pos]
  | shutdownReturns alive at_pc timeout drained => exact h.watches (by rw [at_pc]; decide)
  | watcherClosesReader alive at_pc next step =>
      obtain ⟨hwf, hcloses, honce, hmain⟩ := closes_closeReader hlaw honly h step
      constructor <;> simp_all [WatcherPC.pos]
  -- the server and the pipeline
  | listen alive starting err =>
      refine { h with closed_iff := ?_ }
      rw [← closed_iff, starting]
      cases err <;> simp
  | serverFails alive listening =>
      refine { h with closed_iff := ?_ }
      rw [← closed_iff, listening]
      simp
  | accept alive listening => exact { h with }
  | respond alive waiting path lookupErr response answered => exact { h with }
  | pipeline alive act may next step => exact h.pipeline hlaw honly may step

/-- **Every state of every run is in order.** -/
theorem ordered_of_run {s₀ : Process R n} {past : List (Transition (Process R n) (ProcessAct n))}
    (hlaw : cfg.ringbuf.Lawful) (honly : cfg.ringbuf.ClosedOnly) (h₀ : s₀.Ordered cfg)
    (run : ProcessRun cfg s₀ past s) : s.Ordered cfg :=
  run.invariant (I := Ordered cfg) h₀ fun h hstep => h.step hlaw honly hstep

end Process

end KubeNpu

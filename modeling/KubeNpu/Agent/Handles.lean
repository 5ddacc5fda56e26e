import KubeNpu.Loader.Handles
import KubeNpu.Agent.Teardown

/-!
# The loader in the process

`main` and the goroutine for signals call the methods of one loader.  Which calls a
run of the process makes, and in what order, is in its history; what the loader asks
of the kernel then follows, up to the errors of the requests to close.  In a process
that returned it is always the same: each thing is made once and closed once, in the
opposite order.
-/

namespace KubeNpu

open Go Machine

/-- A call of a method of the loader, less the errors of its requests to close. -/
inductive LoaderCall where
  | attach (err : Option String)
  | createReader (err : Option String)
  | closeReader
  | close
  deriving DecidableEq, Repr

/-- The call that an act of the loader is. -/
def Loader.LoaderAct.call : Loader.LoaderAct → LoaderCall
  | attach _ attachErr => .attach attachErr
  | createReader err => .createReader err
  | closeReader _ => .closeReader
  | close _ _ _ => .close

/-- The call that an act of the process is, if it is one.  The deferred `Close` is the
call at its last stage; its `CloseReader` has the stage before and finds its `sync.Once`
spent. -/
def ProcessAct.loaderCall {n : ℕ} : ProcessAct n → Option LoaderCall
  | attach err => some (.attach err)
  | createReader err => some (.createReader err)
  | watcherClosesReader => some .closeReader
  | closeHook => some .close
  | _ => none

/-- The requests of a process that returned, by the errors of those to close. -/
def lifetime (readerErr hookErr objectsErr : Option String) : List Loader.Request :=
  [.opened .objects, .opened (.hook 0), .opened (.reader 1), .closed (.reader 1) readerErr,
    .closed (.hook 0) hookErr, .closed .objects objectsErr]

namespace Process

open Loader

variable {R : Type} {n : ℕ} {cfg : ProcessConfig R} {s s' : Process R n} {act : ProcessAct n}
  {l : LoaderState} {log : List Request}

/-- Where the loader is, by where the process is. -/
structure Lockstep (s : Process R n) (l : LoaderState) (log : List Request) : Prop where
  unattached : s.exit = none → s.stage = .attach → l = .start ∧ log = [.opened .objects]
  unread : s.exit = none → s.stage ≠ .attach → s.stage.pos ≤ Stage.createReader.pos →
    l = ⟨⟨some 0, none, false, false⟩, 1⟩ ∧ log = [.opened .objects, .opened (.hook 0)]
  reading : s.exit = none → Stage.createReader.pos < s.stage.pos →
    s.pipeline.closedOnce = false → l.handles = ⟨some 0, some 1, false, false⟩ ∧
      log = [.opened .objects, .opened (.hook 0), .opened (.reader 1)]
  closing : s.exit = none → Stage.createReader.pos < s.stage.pos →
    s.pipeline.closedOnce = true → l.handles = ⟨some 0, some 1, false, true⟩ ∧
      ∃ readerErr, log = [.opened .objects, .opened (.hook 0), .opened (.reader 1),
        .closed (.reader 1) readerErr]
  ended : s.exit ≠ none → ∃ e₁ e₂ e₃, log <+: lifetime e₁ e₂ e₃ ∧
    (s.exit = some .returned → log = lifetime e₁ e₂ e₃)

namespace Lockstep

/-- Until the exit, a first part of the requests was made. -/
theorem isFirstPart (h : s.Lockstep l log) (alive : s.exit = none) :
    ∃ e₁ e₂ e₃, log <+: lifetime e₁ e₂ e₃ := by
  by_cases hstage : s.stage = .attach
  · obtain ⟨-, rfl⟩ := h.unattached alive hstage
    exact ⟨none, none, none, by decide⟩
  rcases Nat.lt_or_ge Stage.createReader.pos s.stage.pos with hlate | hearly
  · cases honce : s.pipeline.closedOnce with
    | false =>
        obtain ⟨-, rfl⟩ := h.reading alive hlate honce
        exact ⟨none, none, none, by decide⟩
    | true =>
        obtain ⟨-, readerErr, rfl⟩ := h.closing alive hlate honce
        exact ⟨readerErr, none, none, _, rfl⟩
  · obtain ⟨-, rfl⟩ := h.unread alive hstage hearly
    exact ⟨none, none, none, by decide⟩

/-- An exit other than by returning. -/
theorem exits (h : s.Lockstep l log) (alive : s.exit = none) {how : Exit}
    (hhow : how ≠ .returned) : (s.exits how).Lockstep l log := by
  obtain ⟨e₁, e₂, e₃, hpart⟩ := h.isFirstPart alive
  refine ⟨nofun, nofun, nofun, nofun, fun _ => ⟨e₁, e₂, e₃, hpart, ?_⟩⟩
  intro heq
  exact absurd (Option.some_inj.mp heq) hhow

/-- A step between stages that are alike for the loader. -/
theorem stays (h : s.Lockstep l log) (hexit : s'.exit = s.exit)
    (hattach : s'.stage = .attach ↔ s.stage = .attach)
    (hreader : s'.stage.pos ≤ Stage.createReader.pos ↔ s.stage.pos ≤ Stage.createReader.pos)
    (honce : s'.pipeline.closedOnce = s.pipeline.closedOnce) : s'.Lockstep l log := by
  have hlate : Stage.createReader.pos < s'.stage.pos ↔ Stage.createReader.pos < s.stage.pos := by
    rw [← Nat.not_le, ← Nat.not_le, hreader]
  refine ⟨?_, ?_, ?_, ?_, ?_⟩
  · rw [hexit, hattach]
    exact h.unattached
  · rw [hexit, hreader, Ne, hattach]
    exact h.unread
  · rw [hexit, hlate, honce]
    exact h.reading
  · rw [hexit, hlate, honce]
    exact h.closing
  · rw [hexit]
    exact h.ended

/-- A step without a call leaves the loader where it is. -/
theorem idle (hordered : s.Ordered cfg) (h : s.Lockstep l log) (hstep : ProcessStep cfg s act s')
    (hnone : act.loaderCall = none) : s'.Lockstep l log := by
  cases hstep with
  | attach | createReader | watcherClosesReader | closeHook => cases hnone
  | newPodMap alive at_stage start made =>
      unfold goesOn
      split
      · exact h.stays rfl (by simp [at_stage]) (by simp [at_stage, Stage.pos]) rfl
      · exact h.exits alive Exit.noConfusion
  | serve alive at_stage | storeReady alive at_stage | notify alive at_stage
  | watch alive at_stage | launch alive at_stage | unwind alive at_stage
  | closePodMap alive at_stage =>
      exact h.stays rfl (by simp [at_stage]) (by simp [at_stage, Stage.pos]) rfl
  | pipeline alive act may next step =>
      refine h.stays rfl Iff.rfl Iff.rfl ((Pipeline.closedOnce_step step).2 ?_)
      rintro rfl
      exact may
  | closeReader alive at_stage next step =>
      -- the goroutine for signals has spent the `sync.Once`
      have hdone := (hordered.past_loop (by rw [at_stage]; decide)).2
      have honce := hordered.closedOnce_iff.mpr (Or.inl hdone)
      have honce' := (Pipeline.closedOnce_step step).1 rfl
      exact h.stays rfl (by simp [at_stage]) (by simp [at_stage, Stage.pos])
        (honce'.trans honce.symm)
  | signal alive =>
      unfold afterSignal
      split
      · exact h.exits alive Exit.noConfusion
      · exact h.stays rfl Iff.rfl Iff.rfl rfl
  | _ => exact h.stays rfl Iff.rfl Iff.rfl rfl

/-- `Attach` at its stage. -/
private theorem attach (h : s.Lockstep l log) (alive : s.exit = none)
    (at_stage : s.stage = .attach) (closeErr err : Option String) :
    ({ s with attached := err.isNone }.goesOn err .newPodMap).Lockstep
      ⟨(Loader.attach l.handles l.calls closeErr err).handles, l.calls + 1⟩
      (log ++ (Loader.attach l.handles l.calls closeErr err).log) := by
  obtain ⟨rfl, rfl⟩ := h.unattached alive at_stage
  cases err with
  | none =>
      have hearly : ¬ Stage.createReader.pos < Stage.newPodMap.pos := by decide
      exact ⟨nofun, fun _ _ _ => ⟨rfl, rfl⟩, fun _ hlate => absurd hlate hearly,
        fun _ hlate => absurd hlate hearly, fun hexit => absurd alive hexit⟩
  | some text =>
      exact ⟨nofun, nofun, nofun, nofun, fun _ => ⟨none, none, none, ⟨_, rfl⟩, nofun⟩⟩

/-- `CreateReader` at its stage. -/
private theorem createReader (hordered : s.Ordered cfg) (h : s.Lockstep l log)
    (alive : s.exit = none) (at_stage : s.stage = .createReader) (err : Option String) :
    (s.goesOn err .storeReady).Lockstep
      ⟨(Loader.createReader l.handles l.calls err).handles, l.calls + 1⟩
      (log ++ (Loader.createReader l.handles l.calls err).log) := by
  obtain ⟨rfl, rfl⟩ := h.unread alive (by simp [at_stage]) (by rw [at_stage])
  cases err with
  | none =>
      have hopen : s.pipeline.closedOnce ≠ true := by
        rw [Ne, hordered.closedOnce_iff, hordered.watcher_off (by rw [at_stage]; decide), at_stage]
        decide
      have hlate : ¬ Stage.storeReady.pos ≤ Stage.createReader.pos := by decide
      exact ⟨nofun, fun _ _ hearly => absurd hearly hlate, fun _ _ _ => ⟨rfl, rfl⟩,
        fun _ _ honce => absurd honce hopen, fun hexit => absurd alive hexit⟩
  | some text =>
      exact ⟨nofun, nofun, nofun, nofun, fun _ => ⟨none, none, none, ⟨_, rfl⟩, nofun⟩⟩

/-- `CloseReader` by the goroutine for signals: the first one. -/
private theorem watcherClosesReader (hordered : s.Ordered cfg) (h : s.Lockstep l log)
    (alive : s.exit = none) (at_pc : s.watcher = .closeReader) {next : Pipeline R ScrapeView n}
    (step : PipelineStep cfg.toPipelineConfig s.pipeline .closeReader next)
    (closeErr : Option String) :
    ({ s with watcher := .done, pipeline := next } : Process R n).Lockstep
      ⟨(Loader.closeReader l.handles closeErr).handles, l.calls + 1⟩
      (log ++ (Loader.closeReader l.handles closeErr).log) := by
  have hstage : Stage.watch.pos < s.stage.pos :=
    hordered.watcher_iff.mp (by rw [at_pc]; decide)
  have hlate : Stage.createReader.pos < s.stage.pos := lt_trans (by decide) hstage
  have hpast : ¬ Stage.loop.pos < s.stage.pos := by
    intro hpast
    have hdone := (hordered.past_loop hpast).2
    rw [at_pc] at hdone
    cases hdone
  have hopen : s.pipeline.closedOnce = false := by
    rw [← Bool.not_eq_true, hordered.closedOnce_iff, at_pc]
    rintro (hdone | hlast)
    · cases hdone
    · exact hpast (by rw [hlast]; decide)
  obtain ⟨hhandles, rfl⟩ := h.reading alive hlate hopen
  have honce := (Pipeline.closedOnce_step step).1 rfl
  have hne : s.stage ≠ .attach := by
    intro heq
    rw [heq] at hstage
    cases hstage
  rw [hhandles]
  exact ⟨fun _ heq => absurd heq hne, fun _ _ hearly => absurd hearly (Nat.not_le.mpr hlate),
    fun _ _ hunspent => absurd (honce.symm.trans hunspent) nofun,
    fun _ _ _ => ⟨rfl, closeErr, rfl⟩, fun hexit => absurd alive hexit⟩

/-- `Close` at the last stage. -/
private theorem closeHook (hordered : s.Ordered cfg) (h : s.Lockstep l log)
    (alive : s.exit = none) (at_stage : s.stage = .closeHook)
    (readerErr hookErr objectsErr : Option String) :
    (s.exits .returned).Lockstep
      ⟨(Loader.close l.handles readerErr hookErr objectsErr).handles, l.calls + 1⟩
      (log ++ (Loader.close l.handles readerErr hookErr objectsErr).log) := by
  have honce := hordered.closedOnce_iff.mpr (Or.inr at_stage)
  obtain ⟨hhandles, closeErr, rfl⟩ := h.closing alive (by rw [at_stage]; decide) honce
  rw [hhandles]
  exact ⟨nofun, nofun, nofun, nofun,
    fun _ => ⟨closeErr, hookErr, objectsErr, ⟨[], rfl⟩, fun _ => rfl⟩⟩

/-- **A step with a call leaves the loader where that call does**, whatever errors its
requests to close have. -/
theorem moves (hordered : s.Ordered cfg) (h : s.Lockstep l log) (hstep : ProcessStep cfg s act s')
    {lact : LoaderAct} (hcall : act.loaderCall = some lact.call) :
    s'.Lockstep ⟨(lact.perform l).handles, l.calls + 1⟩ (log ++ (lact.perform l).log) := by
  cases hstep with
  | attach alive at_stage err =>
      cases lact with
      | attach closeErr attachErr =>
          cases hcall
          exact h.attach alive at_stage closeErr err
      | createReader | closeReader | close => cases hcall
  | createReader alive at_stage err =>
      cases lact with
      | createReader err' =>
          cases hcall
          exact h.createReader hordered alive at_stage err
      | attach | closeReader | close => cases hcall
  | watcherClosesReader alive at_pc next step =>
      cases lact with
      | closeReader closeErr => exact h.watcherClosesReader hordered alive at_pc step closeErr
      | attach | createReader | close => cases hcall
  | closeHook alive at_stage =>
      cases lact with
      | close readerErr hookErr objectsErr =>
          exact h.closeHook hordered alive at_stage readerErr hookErr objectsErr
      | attach | createReader | closeReader => cases hcall
  | _ => cases hcall

end Lockstep

/-- Any calls can be made, with any errors of the requests to close. -/
theorem exists_loader_run (calls : List LoaderCall) :
    ∃ lpast l, LoaderRun lpast l ∧ (lpast.map fun t => t.label.call) = calls := by
  induction calls using List.reverseRecOn with
  | nil => exact ⟨[], .start, .start, rfl⟩
  | append_singleton calls call ih =>
      obtain ⟨lpast, l, lrun, rfl⟩ := ih
      obtain ⟨lact, rfl⟩ : ∃ lact : LoaderAct, lact.call = call := by
        cases call with
        | attach err => exact ⟨.attach none err, rfl⟩
        | createReader err => exact ⟨.createReader err, rfl⟩
        | closeReader => exact ⟨.closeReader none, rfl⟩
        | close => exact ⟨.close none none none, rfl⟩
      exact ⟨_, _, lrun.snoc (.call l lact), by rw [List.map_append, List.map_singleton]⟩

section

variable {settings : Config} {ring : R} {agent : WorkerState ScrapeView}
  {past : List (Transition (Process R n) (ProcessAct n))}

/-- **Every run keeps the loader in step**, for any loader that made its calls. -/
theorem lockstep_of_run (hlaw : cfg.ringbuf.Lawful) (honly : cfg.ringbuf.ClosedOnly)
    (hempty : cfg.ringbuf.records ring = []) (hopen : cfg.ringbuf.closed ring = false)
    (run : ProcessRun cfg (start settings ring agent : Process R n) past s)
    {lpast : List (Transition LoaderState LoaderAct)} (lrun : LoaderRun lpast l)
    (hcalls : (lpast.map fun t => t.label.call) = collect ProcessAct.loaderCall past) :
    s.Lockstep l (kernelLog lpast) := by
  induction run generalizing lpast l with
  | start =>
      obtain rfl := List.map_eq_nil_iff.mp hcalls
      obtain rfl := lrun.nil_inv
      have hearly : ¬ Stage.createReader.pos < Stage.attach.pos := by decide
      exact ⟨fun _ _ => ⟨rfl, rfl⟩, fun _ hne => absurd rfl hne,
        fun _ hlate => absurd hlate hearly, fun _ hlate => absurd hlate hearly,
        fun hexit => absurd rfl hexit⟩
  | @snoc past s act s' run hstep ih =>
      have hordered := ordered_of_run hlaw honly (ordered_start hempty hopen) run
      rw [collect_concat] at hcalls
      cases hcall : act.loaderCall with
      | none =>
          rw [hcall, Option.toList_none, List.append_nil] at hcalls
          exact (ih lrun hcalls).idle hordered hstep hcall
      | some call =>
          rw [hcall, Option.toList_some] at hcalls
          obtain ⟨before, last, rfl, hbefore, hlast⟩ := List.map_eq_append_iff.mp hcalls
          obtain ⟨⟨pre, lact, post⟩, rfl, rfl⟩ := List.map_eq_singleton_iff.mp hlast
          obtain ⟨lrun', lstep, rfl⟩ := lrun.concat_inv
          change LoaderStep pre lact _ at lstep
          rw [kernelLog_concat]
          cases lstep with
          | call => exact (ih lrun' hbefore).moves hordered hstep hcall

/-- **A process that returned has released everything, once.**  In every run of the
process, whatever its parties do and whatever the loader's requests to close come to:
what the loader asked of the kernel is a first part of a lifetime, in which the objects,
the attachment and the reader are made once each and closed once each; and the whole of
it if the process returned. -/
theorem loader_in_process (hlaw : cfg.ringbuf.Lawful) (honly : cfg.ringbuf.ClosedOnly)
    (hempty : cfg.ringbuf.records ring = []) (hopen : cfg.ringbuf.closed ring = false)
    (run : ProcessRun cfg (start settings ring agent : Process R n) past s) :
    (∃ lpast l, LoaderRun lpast l ∧
      (lpast.map fun t => t.label.call) = collect ProcessAct.loaderCall past) ∧
    ∀ lpast l, LoaderRun lpast l →
      (lpast.map fun t => t.label.call) = collect ProcessAct.loaderCall past →
        ∃ readerErr hookErr objectsErr,
          kernelLog lpast <+: lifetime readerErr hookErr objectsErr ∧
          (s.exit = some .returned →
            kernelLog lpast = lifetime readerErr hookErr objectsErr) := by
  refine ⟨exists_loader_run _, ?_⟩
  intro lpast l lrun hcalls
  have h := lockstep_of_run hlaw honly hempty hopen run lrun hcalls
  by_cases alive : s.exit = none
  · obtain ⟨e₁, e₂, e₃, hpart⟩ := h.isFirstPart alive
    refine ⟨e₁, e₂, e₃, hpart, fun hreturned => ?_⟩
    rw [alive] at hreturned
    cases hreturned
  · exact h.ended alive

end

/-- The process that goes all the way out. -/
theorem loader_in_process_gpu : ∃ (lpast : List (Transition LoaderState LoaderAct))
    (l : LoaderState), LoaderRun lpast l ∧ ∃ readerErr hookErr objectsErr,
      kernelLog lpast = lifetime readerErr hookErr objectsErr := by
  obtain ⟨p, past, run⟩ := exists_stopped_run
  obtain ⟨after, s, more, hreturned⟩ := exists_returned_run p
  obtain ⟨⟨lpast, l, lrun, hcalls⟩, hall⟩ :=
    loader_in_process MemRing.lawful MemRing.closedOnly rfl rfl (run.append more)
  obtain ⟨readerErr, hookErr, objectsErr, -, hlog⟩ := hall lpast l lrun hcalls
  exact ⟨lpast, l, lrun, readerErr, hookErr, objectsErr, hlog hreturned⟩

end Process

end KubeNpu

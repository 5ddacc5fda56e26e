import KubeNpu.Agent.Lifecycle

/-!
# What `/readyz` says

A cluster sends traffic to an agent, or waits for it in a rollout, by the answers of
`/readyz`.  Two things make them worth something.  An agent that says it is ready
is: the program is attached, the reader is open, `main` is in its loop or about to
enter it, the pod map is there.  And readiness comes once and goes once: whatever
the order of the requests, the answers of a run are refusals, then assents, then
refusals.
-/

namespace KubeNpu

open Go Machine

/-- The status of an answer of `/readyz`. -/
def ProcessAct.readyzStatus {n : ℕ} : ProcessAct n → Option ℕ
  | respond path _ (.text status _) => if path = "/readyz" then some status else none
  | _ => none

namespace Process

open ProcessAct

variable {R : Type} {n : ℕ} {cfg : ProcessConfig R} {s₀ s s' : Process R n}
  {act : ProcessAct n} {past : List (Transition (Process R n) (ProcessAct n))}

/-- The answer of `/readyz` is what the flag says at that moment. -/
theorem answer_readyz (s : Process R n) (lookupErr : Option String) :
    s.answer "/readyz" lookupErr =
      if s.ready = true then .text statusOK "ok"
      else .text statusServiceUnavailable "not ready\n" := by
  unfold answer serveHTTP
  rw [if_neg (by decide), if_pos rfl]
  simp only [Option.some_inj]

/-- An answer of `/readyz` has the status of the flag, and changes nothing that
readiness depends on. -/
theorem readyz_step (hstep : ProcessStep cfg s act s') {status : ℕ}
    (hstatus : act.readyzStatus = some status) :
    s.exit = none ∧ s'.ready = s.ready ∧ s'.stage = s.stage ∧
      status = if s.ready = true then statusOK else statusServiceUnavailable := by
  cases hstep with
  | respond alive waiting path lookupErr response answered =>
      subst answered
      unfold readyzStatus at hstatus
      split at hstatus
      · rename_i heq
        obtain ⟨rfl, -, hresponse⟩ := ProcessAct.respond.inj heq
        split at hstatus
        · rename_i hpath
          rw [hpath, answer_readyz] at hresponse
          refine ⟨alive, rfl, rfl, ?_⟩
          cases hready : s.ready with
          | true =>
              rw [if_pos hready] at hresponse
              cases hresponse
              simpa using hstatus.symm
          | false =>
              rw [if_neg (by simp [hready])] at hresponse
              cases hresponse
              simpa using hstatus.symm
        · cases hstatus
      · cases hstatus
  | _ => cases hstatus

/-- The stages of `main` come in order, and the flag is raised in one of them. -/
theorem stage_step (hstep : ProcessStep cfg s act s') :
    s.stage.pos ≤ s'.stage.pos ∧
      (s'.ready = true → s.ready = true ∨ s.stage.pos ≤ Stage.storeReady.pos) := by
  cases hstep with
  | attach alive at_stage err => cases err <;> simp_all [goesOn, Process.exits, Stage.pos]
  | newPodMap alive at_stage start made =>
      unfold goesOn
      split <;> simp_all [Process.exits, Stage.pos]
  | createReader alive at_stage err => cases err <;> simp_all [goesOn, Process.exits, Stage.pos]
  | signal alive =>
      unfold afterSignal
      split <;> simp_all [Process.exits]
  | serve | storeReady | notify | watch | launch | unwind | closePodMap | closeReader =>
      simp_all [Stage.pos]
  | storeUnready => exact ⟨le_rfl, fun hready => absurd hready Bool.false_ne_true⟩
  | _ => exact ⟨le_rfl, Or.inl⟩

/-- The answers so far: refusals until the flag is raised, assents while it is. -/
structure Answered (past : List (Transition (Process R n) (ProcessAct n))) (s : Process R n) :
    Prop where
  early : s.stage.pos ≤ Stage.storeReady.pos →
    ∃ i, collect readyzStatus past = List.replicate i statusServiceUnavailable
  ready : s.ready = true → ∃ i j, collect readyzStatus past =
    List.replicate i statusServiceUnavailable ++ List.replicate j statusOK
  all : ∃ i j k, collect readyzStatus past =
    List.replicate i statusServiceUnavailable ++
      (List.replicate j statusOK ++ List.replicate k statusServiceUnavailable)

/-- **One step keeps the answers in that order.** -/
theorem Answered.step (ho : s.Ordered cfg) (h : Answered past s)
    (hstep : ProcessStep cfg s act s') :
    Answered (past ++ [⟨s, act, s'⟩]) s' := by
  obtain ⟨hstage, hraised⟩ := stage_step hstep
  cases hstatus : act.readyzStatus with
  | none =>
      have hsame : collect readyzStatus (past ++ [⟨s, act, s'⟩]) = collect readyzStatus past := by
        rw [collect_concat, hstatus, Option.toList_none, List.append_nil]
      refine ⟨?_, ?_, ?_⟩
      · intro hearly
        rw [hsame]
        exact h.early (hstage.trans hearly)
      · intro hready
        rw [hsame]
        rcases hraised hready with hbefore | hearly
        · exact h.ready hbefore
        · obtain ⟨i, hi⟩ := h.early hearly
          exact ⟨i, 0, by simp [hi]⟩
      · rw [hsame]
        exact h.all
  | some status =>
      obtain ⟨-, hready, hsame, rfl⟩ := readyz_step hstep hstatus
      have hmore : collect readyzStatus (past ++ [⟨s, act, s'⟩]) =
          collect readyzStatus past ++
            [if s.ready = true then statusOK else statusServiceUnavailable] := by
        rw [collect_concat, hstatus, Option.toList_some]
      by_cases hflag : s.ready = true
      · -- an assent goes behind the assents, and it is not early any more
        obtain ⟨i, j, hij⟩ := h.ready hflag
        have hnow : collect readyzStatus (past ++ [⟨s, act, s'⟩]) =
            List.replicate i statusServiceUnavailable ++ List.replicate (j + 1) statusOK := by
          rw [hmore, hij, if_pos hflag, List.append_assoc, ← List.replicate_succ']
        refine ⟨?_, fun _ => ⟨i, j + 1, hnow⟩, ⟨i, j + 1, 0, by simp [hnow]⟩⟩
        intro hearly
        rw [hsame] at hearly
        exact absurd (ho.ready_iff.mp hflag).1 (Nat.not_lt.mpr hearly)
      · -- a refusal goes behind everything
        rw [if_neg hflag] at hmore
        refine ⟨?_, ?_, ?_⟩
        · intro hearly
          rw [hsame] at hearly
          obtain ⟨i, hi⟩ := h.early hearly
          exact ⟨i + 1, by rw [hmore, hi, List.replicate_succ']⟩
        · intro hraised'
          rw [hready] at hraised'
          exact absurd hraised' hflag
        · obtain ⟨i, j, k, hijk⟩ := h.all
          refine ⟨i, j, k + 1, ?_⟩
          rw [hmore, hijk, List.append_assoc, List.append_assoc, List.replicate_succ']

/-- What is there while the process is ready. -/
structure InService (cfg : ProcessConfig R) (s : Process R n) : Prop where
  attached : s.attached = true
  reader : cfg.ringbuf.closed s.pipeline.ring = false
  main : s.pipeline.main.left = false
  listener : s.server ≠ .closed
  podMap : s.podMapClosed = false

/-- **The flag tells the truth.** -/
theorem inService_of_ready (h : s.Ordered cfg) (alive : s.exit = none) (hready : s.ready = true) :
    s.InService cfg := by
  obtain ⟨hstage, hwatcher⟩ := h.ready_iff.mp hready
  have hnotdone : s.watcher ≠ .done := by
    intro hdone
    rw [hdone] at hwatcher
    exact absurd hwatcher (by decide)
  -- past the loop the goroutine for signals would be done
  have hloop : s.stage.pos ≤ Stage.loop.pos :=
    not_lt.mp fun hlate => hnotdone (h.past_loop hlate).2
  have hopen : s.pipeline.closedOnce = false := by
    refine Bool.eq_false_iff.mpr fun honce => ?_
    rcases h.closedOnce_iff.mp honce with hdone | hhook
    · exact hnotdone hdone
    · rw [hhook] at hloop
      exact absurd hloop (by decide)
  refine ⟨?_, ?_, ?_, ?_, ?_⟩
  · exact h.attached_iff.mpr ⟨alive, lt_of_le_of_lt (by decide) hstage⟩
  · rw [h.closes.closed_eq, hopen]
  · refine Bool.eq_false_iff.mpr fun hleft => ?_
    rw [h.closes.left hleft] at hopen
    cases hopen
  · intro hclosed
    exact absurd (h.closed_iff.mp hclosed) (Nat.not_lt.mpr (hwatcher.trans (by decide)))
  · refine Bool.eq_false_iff.mpr fun hclosed => ?_
    exact absurd (h.podMap_iff.mp hclosed) (Nat.not_lt.mpr (hloop.trans (by decide)))

/-- The machine with one GPU, under the default settings. -/
def gpuProcess : ProcessConfig MemRing := { Pipeline.gpuConfig with settings := load fun _ => none }

/-- That process in a state of `main`, its flag and the server; the pipeline rests. -/
def gpuState (p : PodMap) (stage : Stage) (ready : Bool) (server : ServerState) (requests : ℕ)
    (pending : Bool) (watcher : WatcherPC) : Process MemRing 1 where
  stage := stage
  exit := none
  attached := true
  ready := ready
  server := server
  requests := requests
  pending := pending
  watcher := watcher
  podMapClosed := false
  pipeline := .start 4096 ⟨96, [], false⟩ ⟨p, newCollector ScrapeView⟩

set_option maxRecDepth 8000 in
/-- The default settings are good for a pod map on the node with one container. -/
theorem exists_newPodMap_default : ∃ p, newPodMapOf gpuProcess.settings quietStart = .ok p :=
  ⟨_, rfl⟩

/-- The process starts, and its server listens before there is a reader. -/
theorem exists_listening_run : ∃ (p : PodMap)
    (past : List (Transition (Process MemRing 1) (ProcessAct 1))),
    ProcessRun gpuProcess
        (start gpuProcess.settings ⟨96, [], false⟩ ⟨p, newCollector ScrapeView⟩) past
        (gpuState p .createReader false .listening 0 false .off) ∧
      collect readyzStatus past = [] := by
  obtain ⟨p, hnew⟩ := exists_newPodMap_default
  have hmade : ∀ q, newPodMapOf gpuProcess.settings quietStart = .ok q → q = p := by
    intro q hq
    rw [hnew] at hq
    exact (Except.ok.inj hq).symm
  have run : ProcessRun gpuProcess (start gpuProcess.settings ⟨96, [], false⟩
    ⟨p, newCollector ScrapeView⟩ : Process MemRing 1) [] _ := .start
  have run : ProcessRun gpuProcess _ _ (gpuState p .newPodMap false .idle 0 false .off) :=
    run.snoc (.attach rfl rfl none)
  have run := run.snoc (.newPodMap rfl rfl quietStart hmade)
  rw [hnew] at run
  have run : ProcessRun gpuProcess _ _ (gpuState p .serve false .idle 0 false .off) := run
  have run : ProcessRun gpuProcess _ _ (gpuState p .createReader false .starting 0 false .off) :=
    run.snoc (.serve rfl rfl)
  have run : ProcessRun gpuProcess _ _ (gpuState p .createReader false .listening 0 false .off) :=
    run.snoc (.listen rfl rfl none)
  exact ⟨p, _, run, rfl⟩

end Process

end KubeNpu

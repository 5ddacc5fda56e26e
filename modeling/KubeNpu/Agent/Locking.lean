import KubeNpu.Machine.Mutex
import KubeNpu.Agent.Counters
import KubeNpu.Agent.Ledger

/-!
# The collector's mutex

The worker, the reader loop and any number of HTTP handlers call the collector at
the same time.  Each method holds `c.mu` from its first line to its last; here each
is written out in the small steps it consists of, so that an increment is a load and
a store, and `Collect` goes through its maps entry by entry, then through the
per-CPU counters of the kernel, which go on changing meanwhile.

The mutex is enough: no increment is lost or counted twice, and a scrape reads its
maps as of one moment.  The two values that come from outside are read within the
scrape, and they never go back from one scrape to the next.
-/

namespace KubeNpu

open Go Machine

variable {ι : Type} {n : ℕ}

/-! ## What the mutex does not guard -/

/-- What the two sources of the collector read. -/
structure Sources (n : ℕ) where
  /-- The per-CPU array `dropped`. -/
  dropped : Fin n → UInt64
  /-- The atomic counter of the pod map. -/
  cgroupIndexRebuilds : UInt64
  /-- The error of looking up `dropped`, if there is one now. -/
  lookupErr : Option String

/-- How they change. -/
inductive SourceAct (n : ℕ) where
  /-- The program loses an event on a CPU. -/
  | lose (cpu : Fin n)
  /-- `p.cgroupIndexRebuilds.Add(1)`. -/
  | rebuild
  | lookup (err : Option String)

/-- One change. -/
def Sources.next (w : Sources n) : SourceAct n → Sources n
  | .lose cpu => { w with dropped := Function.update w.dropped cpu (w.dropped cpu + 1) }
  | .rebuild => { w with cgroupIndexRebuilds := w.cgroupIndexRebuilds + 1 }
  | .lookup lookupErr => { w with lookupErr }

/-! ## The methods, step by step -/

/-- The calls of the collector once the agent serves. -/
inductive CollectorOp where
  | incIoctl (k : Key)
  | incEventsDropped (reason : String)
  | collect

/-- What a call counts. -/
def CollectorOp.outcome : CollectorOp → Outcome
  | incIoctl k => .ioctl k
  | incEventsDropped reason => .dropped reason
  | collect => .uncounted

/-- The steps of a method, which sends metrics. -/
abbrev CollectorCode (n : ℕ) := Critical (Collector ScrapeView) (Sources n) (List Metric)

/-- A step that only reads. -/
def readStep (next : Collector ScrapeView → Sources n → CollectorCode n) : CollectorCode n :=
  .step (fun c _ => c) next

/-- `c.ioctlTotal[k]++`: a load and a store. -/
def incIoctlCode (k : Key) : CollectorCode n :=
  readStep fun c _ =>
    let value := (c.ioctlTotal.lookup k).getD 0
    .step (fun c _ => { c with ioctlTotal := c.ioctlTotal.insert k (value + 1) })
      fun _ _ => .done []

/-- `c.eventsDroppedTotal[reason]++`. -/
def incEventsDroppedCode (reason : String) : CollectorCode n :=
  readStep fun c _ =>
    let value := (c.eventsDroppedTotal.lookup reason).getD 0
    .step (fun c _ =>
        { c with eventsDroppedTotal := c.eventsDroppedTotal.insert reason (value + 1) })
      fun _ _ => .done []

section Collect

variable {K V : Type} [DecidableEq K]

/-- `for k, value := range table { ch <- metric }`, from some entry on: an entry is
read when the loop gets to it. -/
def rangeCode (table : Collector ScrapeView → Map K V) (metric : K → V → Metric)
    (next : List Metric → CollectorCode n) : List K → List Metric → CollectorCode n
  | [], sent => next sent
  | k :: keys, sent =>
      readStep fun c _ =>
        rangeCode table metric next keys (sent ++ ((table c).lookup k).toList.map (metric k))

/-- The whole loop. -/
def rangeTable (table : Collector ScrapeView → Map K V) (metric : K → V → Metric)
    (next : List Metric → CollectorCode n) (sent : List Metric) : CollectorCode n :=
  readStep fun c _ => rangeCode table metric next ((table c).toList.map Prod.fst) sent

/-- `Lookup(&key, &perCPU)`, from some CPU on: one value after the other. -/
def lookupCode (next : List UInt64 → CollectorCode n) : List (Fin n) → List UInt64 → CollectorCode n
  | [], perCPU => next perCPU
  | cpu :: cpus, perCPU =>
      readStep fun _ w => lookupCode next cpus (perCPU ++ [w.dropped cpu])

/-- `lost, err := c.kernelDroppedSource()`, and the metric if there is no error. -/
def kernelDroppedCode (next : List Metric → CollectorCode n) (sent : List Metric) :
    CollectorCode n :=
  readStep fun c w =>
    match c.kernelDroppedSource with
    | none => next sent
    | some _ =>
        let send := fun perCPU =>
          match Loader.droppedEvents perCPU w.lookupErr with
          | .ok lost => next (sent ++ [Collector.eventsDroppedMetric reasonRingbufFull lost])
          | .error _ => next sent
        match w.lookupErr with
        | some _ => send []
        | none => lookupCode send (List.finRange n) []

/-- `c.cgroupIndexRebuildsSource()`, and its metric. -/
def cgroupRebuildsCode (next : List Metric → CollectorCode n) (sent : List Metric) :
    CollectorCode n :=
  readStep fun c w =>
    next (sent ++ [Collector.cgroupRebuildsMetric
      (match c.cgroupIndexRebuildsSource with
      | none => 0
      | some _ => w.cgroupIndexRebuilds)])

/-- `Collector.Collect`. -/
def collectCode : CollectorCode n :=
  rangeTable (·.ioctlTotal) Collector.ioctlMetric
    (rangeTable (·.eventsDroppedTotal) Collector.eventsDroppedMetric
      (kernelDroppedCode
        (cgroupRebuildsCode
          (rangeTable (·.deviceInfo) (fun k _ => Collector.deviceInfoMetric k) .done)))) []

end Collect

/-- The methods. -/
def collectorCode : CollectorOp → CollectorCode n
  | .incIoctl k => incIoctlCode k
  | .incEventsDropped reason => incEventsDroppedCode reason
  | .collect => collectCode

/-! ## A method that is alone -/

/-- The sources are the two that `main` sets. -/
structure Collector.Served (c : Collector ScrapeView) : Prop where
  rebuilds : c.cgroupIndexRebuildsSource = some ScrapeView.rebuilds
  lost : c.kernelDroppedSource = some fun v => Loader.droppedEvents v.perCPU v.lookupErr

/-- What a scrape used was there to see: each value, at one of these times. -/
def ScrapeView.SeenIn (view : ScrapeView) (views : List (Sources n)) : Prop :=
  (∃ w ∈ views, view.rebuilds = w.cgroupIndexRebuilds) ∧
    (∃ w ∈ views, view.lookupErr = w.lookupErr) ∧
    ∃ seen : Fin n → Sources n, (∀ cpu, seen cpu ∈ views) ∧
      view.perCPU = List.ofFn fun cpu => (seen cpu).dropped cpu

section Alone

variable {c c' : Collector ScrapeView} {views : List (Sources n)} {answer sent : List Metric}
  {next : List Metric → CollectorCode n}

theorem readStep_done {next : Collector ScrapeView → Sources n → CollectorCode n}
    (h : (readStep next).play c views = (.done answer, c')) :
    ∃ w later, views = w :: later ∧ (next c w).play c later = (.done answer, c') :=
  Critical.play_step_done h

/-- A method without an answer that reads a counter and stores its successor. -/
private theorem alone_increment {next : Collector ScrapeView → Sources n → CollectorCode n}
    {store : Collector ScrapeView → Collector ScrapeView}
    (hnext : ∀ w, next c w = .step (fun c _ => store c) fun _ _ => .done [])
    (h : (readStep next).play c views = (.done answer, c')) : c' = store c := by
  obtain ⟨w, later, -, hload⟩ := readStep_done h
  rw [hnext] at hload
  obtain ⟨w', later', -, hstore⟩ := Critical.play_step_done hload
  rw [Critical.play_done] at hstore
  exact (Prod.mk.inj hstore).2.symm

section Range

variable {K V : Type} [DecidableEq K] {table : Collector ScrapeView → Map K V}
  {metric : K → V → Metric}

/-- The loop sends what it reads of each key. -/
private theorem rangeCode_done {keys : List K}
    (h : (rangeCode table metric next keys sent).play c views = (.done answer, c')) :
    ∃ later, later <:+ views ∧
      (next (sent ++ keys.flatMap fun k => ((table c).lookup k).toList.map (metric k))).play c
        later = (.done answer, c') := by
  induction keys generalizing sent views with
  | nil => exact ⟨views, List.suffix_rfl, by rwa [List.flatMap_nil, List.append_nil]⟩
  | cons k keys ih =>
      obtain ⟨w, later, rfl, hrest⟩ := readStep_done h
      obtain ⟨later', hlater, hdone⟩ := ih hrest
      refine ⟨later', hlater.trans (List.suffix_cons w later), ?_⟩
      rwa [List.flatMap_cons, ← List.append_assoc]

/-- The entries of a map, read key by key. -/
private theorem flatMap_keys (m : Map K V) :
    ((m.toList.map Prod.fst).flatMap fun k => (m.lookup k).toList.map (metric k)) =
      m.toList.map fun e => metric e.1 e.2 := by
  have hone : ∀ e ∈ m.toList, (m.lookup e.1).toList.map (metric e.1) = [metric e.1 e.2] := by
    intro e he
    rw [Map.mem_toList.mp he]
    rfl
  rw [List.flatMap_map, List.flatMap_congr hone, ← List.map_eq_flatMap]

/-- The whole loop sends the whole table. -/
private theorem rangeTable_done
    (h : (rangeTable table metric next sent).play c views = (.done answer, c')) :
    ∃ later, later <:+ views ∧
      (next (sent ++ (table c).toList.map fun e => metric e.1 e.2)).play c later =
        (.done answer, c') := by
  obtain ⟨w, later, rfl, hloop⟩ := readStep_done h
  obtain ⟨later', hlater, hdone⟩ := rangeCode_done hloop
  rw [flatMap_keys] at hdone
  exact ⟨later', hlater.trans (List.suffix_cons w later), hdone⟩

end Range

/-- The lookup reads each CPU at one time or another. -/
private theorem lookupCode_done {send : List UInt64 → CollectorCode n} {cpus : List (Fin n)}
    {perCPU : List UInt64} (hnodup : cpus.Nodup) (default : Sources n)
    (h : (lookupCode send cpus perCPU).play c views = (.done answer, c')) :
    ∃ (seen : Fin n → Sources n) (later : List (Sources n)), later <:+ views ∧
      (∀ cpu ∈ cpus, seen cpu ∈ views) ∧ (∀ cpu ∉ cpus, seen cpu = default) ∧
      (send (perCPU ++ cpus.map fun cpu => (seen cpu).dropped cpu)).play c later =
        (.done answer, c') := by
  induction cpus generalizing perCPU views with
  | nil =>
      refine ⟨fun _ => default, views, List.suffix_rfl, ?_, fun _ _ => rfl, ?_⟩
      · intro cpu hcpu
        cases hcpu
      · rwa [List.map_nil, List.append_nil]
  | cons cpu cpus ih =>
      obtain ⟨hfresh, hnodup⟩ := List.nodup_cons.mp hnodup
      obtain ⟨w, later, rfl, hread⟩ := readStep_done h
      obtain ⟨seen, later', hlater, hseen, hrest, hdone⟩ := ih hnodup hread
      refine ⟨Function.update seen cpu w, later', hlater.trans (List.suffix_cons w later), ?_,
        ?_, ?_⟩
      · intro cpu' hcpu'
        rcases eq_or_ne cpu' cpu with rfl | hne
        · rw [Function.update_self]
          exact List.mem_cons_self
        · rw [Function.update_of_ne hne]
          exact List.mem_cons_of_mem w (hseen cpu' (List.mem_of_ne_of_mem hne hcpu'))
      · intro cpu' hcpu'
        rw [Function.update_of_ne (List.ne_of_not_mem_cons hcpu')]
        exact hrest cpu' (List.not_mem_of_not_mem_cons hcpu')
      · have hsame : (cpus.map fun cpu' => (Function.update seen cpu w cpu').dropped cpu') =
            cpus.map fun cpu' => (seen cpu').dropped cpu' := by
          refine List.map_congr_left ?_
          intro cpu' hcpu'
          rw [Function.update_of_ne (ne_of_mem_of_not_mem hcpu' hfresh)]
        rw [List.map_cons, Function.update_self, hsame, List.append_cons]
        exact hdone

theorem Collector.Served.kernelDropped_error (hserved : c.Served) (rebuilds : UInt64)
    (perCPU : List UInt64) (text : String) :
    c.kernelDropped ⟨rebuilds, perCPU, some text⟩ = [] := by
  simp [Collector.kernelDropped, hserved.lost, Loader.droppedEvents]

theorem Collector.Served.kernelDropped_ok (hserved : c.Served) (rebuilds : UInt64)
    (perCPU : List UInt64) :
    c.kernelDropped ⟨rebuilds, perCPU, none⟩ =
      [Collector.eventsDroppedMetric reasonRingbufFull (perCPU.foldl (· + ·) 0)] := by
  simp [Collector.kernelDropped, hserved.lost, Loader.droppedEvents]

/-- The kernel's part of a scrape. -/
private theorem kernelDroppedCode_done (hserved : c.Served)
    (h : (kernelDroppedCode next sent).play c views = (.done answer, c')) :
    ∃ (lookupErr : Option String) (seen : Fin n → Sources n) (later : List (Sources n)),
      later <:+ views ∧ (∃ w ∈ views, lookupErr = w.lookupErr) ∧ (∀ cpu, seen cpu ∈ views) ∧
      ∀ rebuilds, (next (sent ++ c.kernelDropped
        ⟨rebuilds, List.ofFn fun cpu => (seen cpu).dropped cpu, lookupErr⟩)).play c later =
          (.done answer, c') := by
  obtain ⟨w, later, rfl, hread⟩ := readStep_done h
  rw [hserved.lost] at hread
  cases herr : w.lookupErr with
  | some text =>
      simp only [herr, Loader.droppedEvents] at hread
      refine ⟨some text, fun _ => w, later, List.suffix_cons w later,
        ⟨w, List.mem_cons_self, herr.symm⟩, fun _ => List.mem_cons_self, ?_⟩
      intro rebuilds
      rwa [hserved.kernelDropped_error, List.append_nil]
  | none =>
      simp only [herr, Loader.droppedEvents] at hread
      obtain ⟨seen, later', hlater, hseen, -, hsend⟩ :=
        lookupCode_done (List.nodup_finRange n) w hread
      refine ⟨none, seen, later', hlater.trans (List.suffix_cons w later),
        ⟨w, List.mem_cons_self, herr.symm⟩, ?_, ?_⟩
      · intro cpu
        exact List.mem_cons_of_mem w (hseen cpu (List.mem_finRange cpu))
      · intro rebuilds
        rw [hserved.kernelDropped_ok]
        rwa [List.nil_append, ← List.ofFn_eq_map] at hsend

/-- **`Collect` that is alone** leaves the collector as it is, and sends what `collect`
says for values it saw on the way. -/
theorem collectCode_done (hserved : c.Served)
    (h : collectCode.play c views = (.done answer, c')) :
    c' = c ∧ ∃ view : ScrapeView, view.SeenIn views ∧ answer = c.collect view := by
  obtain ⟨views₁, h₁, hdrops⟩ := rangeTable_done h
  obtain ⟨views₂, h₂, hkernel⟩ := rangeTable_done hdrops
  obtain ⟨lookupErr, seen, views₃, h₃, ⟨w₁, hw₁, herr⟩, hseen, hrest⟩ :=
    kernelDroppedCode_done hserved hkernel
  have hsub₂ : views₂ ⊆ views := (h₂.trans h₁).subset
  have hsub₃ : views₃ ⊆ views := ((h₃.trans h₂).trans h₁).subset
  -- the rebuilds are read next, whatever was sent before
  obtain ⟨w₂, views₄, hviews₄, -⟩ := readStep_done (hrest 0)
  obtain ⟨w₂', views₄', hviews₄', hinfo⟩ := readStep_done (hrest w₂.cgroupIndexRebuilds)
  obtain ⟨rfl, rfl⟩ := List.cons.inj (hviews₄.symm.trans hviews₄')
  obtain ⟨views₅, -, hdone⟩ := rangeTable_done hinfo
  rw [Critical.play_done] at hdone
  obtain ⟨hanswer, rfl⟩ := Prod.mk.inj hdone
  have hw₂ : w₂ ∈ views₃ := by
    rw [hviews₄]
    exact List.mem_cons_self
  refine ⟨rfl, ⟨w₂.cgroupIndexRebuilds, List.ofFn fun cpu => (seen cpu).dropped cpu, lookupErr⟩,
    ⟨⟨w₂, hsub₃ hw₂, rfl⟩, ⟨w₁, hsub₂ hw₁, herr⟩, seen, ?_, rfl⟩, ?_⟩
  · intro cpu
    exact hsub₂ (hseen cpu)
  · rw [← Critical.done.inj hanswer, Collector.collect, Collector.cgroupRebuilds, hserved.rebuilds,
      List.nil_append]

end Alone

/-- The histories of the collector among its callers. -/
abbrev CollectorRun [DecidableEq ι] :=
  MutexRun (ι := ι) (collectorCode (n := n)) Sources.next

/-! ## Among each other -/

/-- What the calls that returned counted, in the order they returned. -/
def returnedOutcomes
    (past : List (Transition (Guarded ι (Collector ScrapeView) (Sources n) CollectorOp
      (List Metric)) (MutexAct ι CollectorOp (List Metric) (SourceAct n)))) : List Outcome :=
  (collect MutexAct.returned past).map fun r => r.2.1.outcome

section

variable {c₀ c c' : Collector ScrapeView} {w₀ : Sources n}

theorem Collector.Served.applyAll (h : c.Served) (os : List Outcome) : (c.applyAll os).Served := by
  rw [Collector.applyAll_eq]
  exact ⟨h.rebuilds, h.lost⟩

/-- **A method that is alone does what it says**: its outcome, to the collector. -/
theorem apply_of_alone {visit : Visit ι (Sources n) CollectorOp (List Metric)} (h : c.Served)
    (halone : Alone collectorCode c visit c') : c' = c.apply visit.op.outcome := by
  obtain ⟨caller, op, views, answer⟩ := visit
  cases op with
  | incIoctl k => exact alone_increment (fun _ => rfl) halone
  | incEventsDropped reason => exact alone_increment (fun _ => rfl) halone
  | collect => exact (collectCode_done h halone).1

/-- So it is for methods one after another. -/
theorem applyAll_of_serial (h : c₀.Served)
    {calls : List (Transition (Collector ScrapeView)
      (Visit ι (Sources n) CollectorOp (List Metric)))}
    (serial : Run (Alone collectorCode) c₀ calls c) :
    c = c₀.applyAll (calls.map fun t => t.label.op.outcome) := by
  induction serial with
  | start => rfl
  | snoc _ halone ih =>
      rw [List.map_append, List.map_singleton, Collector.applyAll_concat, ← ih]
      exact apply_of_alone (ih ▸ h.applyAll _) halone

end

section

variable {c₀ : Collector ScrapeView} {w₀ : Sources n}
  {s : Guarded ι (Collector ScrapeView) (Sources n) CollectorOp (List Metric)}
  {past before after : List (Transition
    (Guarded ι (Collector ScrapeView) (Sources n) CollectorOp (List Metric))
    (MutexAct ι CollectorOp (List Metric) (SourceAct n)))}
  {t : Transition (Guarded ι (Collector ScrapeView) (Sources n) CollectorOp (List Metric))
    (MutexAct ι CollectorOp (List Metric) (SourceAct n))}

/-- The serial calls count what the history says. -/
private theorem outcomes_of_returned {calls : List (Transition (Collector ScrapeView)
      (Visit ι (Sources n) CollectorOp (List Metric)))}
    (h : (calls.map fun t => (t.label.caller, t.label.op, t.label.answer)) =
      collect MutexAct.returned past) :
    (calls.map fun t => t.label.op.outcome) = returnedOutcomes past := by
  rw [returnedOutcomes, ← h, List.map_map]
  rfl

variable [DecidableEq ι]

/-- **A scrape is of one moment**, its `Lock`; the two values from outside are of some
moment between its `Lock` and its `Unlock`, while no other call returns. -/
theorem scrape_of_run {i : ι} {answer : List Metric} (hserved : c₀.Served)
    (run : CollectorRun (Guarded.start c₀ w₀) (before ++ t :: after) s)
    (hlabel : t.label = .unlock i .collect answer) :
    ∃ earlier l during, ∃ view : ScrapeView, before = earlier ++ l :: during ∧
      l.label = .lock i ∧ collect MutexAct.returned during = [] ∧
      view.SeenIn (during.map fun u => u.pre.around) ∧
      answer = (c₀.applyAll (returnedOutcomes earlier)).collect view := by
  obtain ⟨earlier, l, during, views, calls, c, hsplit, hlock, hnone, hviews, hserial,
    hreturned, hplay⟩ := alone_of_run run hlabel
  have hc := applyAll_of_serial hserved hserial
  rw [outcomes_of_returned hreturned] at hc
  obtain ⟨-, view, ⟨⟨w₁, hw₁, hrebuilds⟩, ⟨w₂, hw₂, herr⟩, seen, hseen, hperCPU⟩, hanswer⟩ :=
    collectCode_done (hc ▸ hserved.applyAll _) hplay
  have hsub := hviews.subset
  refine ⟨earlier, l, during, view, hsplit, hlock, hnone, ?_, hc ▸ hanswer⟩
  exact ⟨⟨w₁, hsub hw₁, hrebuilds⟩, ⟨w₂, hsub hw₂, herr⟩, seen, fun cpu => hsub (hseen cpu),
    hperCPU⟩

end

/-- A collector with the two sources of the agent, and nothing counted. -/
def servedCollector₀ : Collector ScrapeView := agentCollector (Setup.start ScrapeView)

end KubeNpu

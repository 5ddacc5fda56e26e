import KubeNpu.Agent.Locking

/-!
# Scrapes never go back

A counter that a scrape publishes must not be smaller than in the scrape before it,
or whoever reads the two takes the agent for restarted.  For the two tallies that is
a matter of their order, which the mutex settles.  The two values from outside are
read while others change them, and the kernel's one is a sum over counters that are
read one after the other; but all that a scrape reads it reads within its own turn,
and turns do not overlap.
-/

namespace KubeNpu

open Go Machine

variable {n : ℕ}

/-! ## The sources grow -/

namespace Sources

/-- All they count. -/
def total (w : Sources n) : ℕ :=
  (∑ cpu, (w.dropped cpu).toNat) + w.cgroupIndexRebuilds.toNat

/-- Every counter is at least what it was. -/
structure Le (w w' : Sources n) : Prop where
  dropped : ∀ cpu, (w.dropped cpu).toNat ≤ (w'.dropped cpu).toNat
  rebuilds : w.cgroupIndexRebuilds.toNat ≤ w'.cgroupIndexRebuilds.toNat

variable {w w' : Sources n}

theorem Le.refl (w : Sources n) : w.Le w := ⟨fun _ => le_rfl, le_rfl⟩

theorem Le.trans {w'' : Sources n} (h : w.Le w') (h' : w'.Le w'') : w.Le w'' :=
  ⟨fun cpu => (h.dropped cpu).trans (h'.dropped cpu), h.rebuilds.trans h'.rebuilds⟩

theorem dropped_le_total (w : Sources n) (cpu : Fin n) : (w.dropped cpu).toNat ≤ w.total :=
  (Finset.single_le_sum (f := fun cpu => (w.dropped cpu).toNat) (fun _ _ => Nat.zero_le _)
    (Finset.mem_univ cpu)).trans (Nat.le_add_right _ _)

/-- A counter below the limit goes up by one. -/
private theorem toNat_succ {x : UInt64} {k : ℕ} (hx : x.toNat ≤ k) (hk : k + 1 < 2 ^ 64) :
    (x + 1).toNat = x.toNat + 1 := by
  rw [UInt64.toNat_add]
  exact Nat.mod_eq_of_lt (by simpa using (Nat.succ_le_succ hx).trans_lt hk)

/-- **One change raises one counter**, if none is at its limit. -/
theorem next_le (hroom : w.total + 1 < 2 ^ 64) (what : SourceAct n) :
    w.Le (w.next what) ∧ (w.next what).total ≤ w.total + 1 := by
  cases what with
  | lose cpu =>
      have hone := toNat_succ (w.dropped_le_total cpu) hroom
      have hcpu : ∀ cpu', (Function.update w.dropped cpu (w.dropped cpu + 1) cpu').toNat =
          (w.dropped cpu').toNat + if cpu' = cpu then 1 else 0 := by
        intro cpu'
        rcases eq_or_ne cpu' cpu with rfl | hne
        · rw [Function.update_self, hone, if_pos rfl]
        · rw [Function.update_of_ne hne, if_neg hne, Nat.add_zero]
      refine ⟨⟨?_, le_rfl⟩, ?_⟩
      · intro cpu'
        show _ ≤ (Function.update w.dropped cpu (w.dropped cpu + 1) cpu').toNat
        rw [hcpu]
        exact Nat.le_add_right _ _
      · show (∑ cpu', (Function.update w.dropped cpu (w.dropped cpu + 1) cpu').toNat) +
          w.cgroupIndexRebuilds.toNat ≤ _
        simp only [hcpu, Finset.sum_add_distrib, Finset.sum_ite_eq', Finset.mem_univ, if_true]
        unfold total
        omega
  | rebuild =>
      have hone := toNat_succ (Nat.le_add_left w.cgroupIndexRebuilds.toNat
        (∑ cpu, (w.dropped cpu).toNat)) hroom
      refine ⟨⟨fun _ => le_rfl, ?_⟩, ?_⟩
      · show _ ≤ (w.cgroupIndexRebuilds + 1).toNat
        omega
      · show (∑ cpu, (w.dropped cpu).toNat) + (w.cgroupIndexRebuilds + 1).toNat ≤ _
        unfold total
        omega
  | lookup err => exact ⟨⟨fun _ => le_rfl, le_rfl⟩, Nat.le_succ _⟩

/-- So it is for any number of changes that fit. -/
theorem foldl_next_le {acts : List (SourceAct n)} (hroom : w.total + acts.length < 2 ^ 64) :
    w.Le (acts.foldl next w) ∧ (acts.foldl next w).total ≤ w.total + acts.length := by
  induction acts using List.reverseRecOn with
  | nil => exact ⟨Le.refl w, le_rfl⟩
  | append_singleton acts what ih =>
      rw [List.length_append, List.length_singleton] at hroom ⊢
      obtain ⟨hle, htotal⟩ := ih (by omega)
      rw [List.foldl_append, List.foldl_cons, List.foldl_nil]
      obtain ⟨hle', htotal'⟩ := next_le (by omega : (acts.foldl next w).total + 1 < 2 ^ 64) what
      exact ⟨hle.trans hle', by omega⟩

end Sources

/-! ## The kernel's value -/

private theorem toNat_foldl_add (xs : List UInt64) (acc : UInt64)
    (hroom : acc.toNat + (xs.map UInt64.toNat).sum < 2 ^ 64) :
    (xs.foldl (· + ·) acc).toNat = acc.toNat + (xs.map UInt64.toNat).sum := by
  induction xs generalizing acc with
  | nil => rfl
  | cons x xs ih =>
      rw [List.map_cons, List.sum_cons] at hroom ⊢
      have hstep : (acc + x).toNat = acc.toNat + x.toNat := by
        rw [UInt64.toNat_add]
        exact Nat.mod_eq_of_lt (by simpa using lt_of_le_of_lt (by omega) hroom)
      rw [List.foldl_cons, ih _ (by rw [hstep]; omega), hstep]
      omega

/-- What `droppedEvents` returns is the sum of the counters, if it fits. -/
private theorem droppedEvents_ok {d : Fin n → UInt64} {err : Option String} {lost : UInt64}
    (h : Loader.droppedEvents (List.ofFn d) err = .ok lost)
    (hroom : (∑ cpu, (d cpu).toNat) < 2 ^ 64) : lost.toNat = ∑ cpu, (d cpu).toNat := by
  have hsum : ((List.ofFn d).map UInt64.toNat).sum = ∑ cpu, (d cpu).toNat := by
    rw [List.map_ofFn, List.sum_ofFn]
    rfl
  cases err with
  | some text => cases h
  | none =>
      cases h
      rw [toNat_foldl_add _ _ (by rw [hsum]; simpa using hroom), hsum]
      exact Nat.zero_add _

section Views

variable {view view' : ScrapeView} {views views' : List (Sources n)}

theorem rebuilds_le (hview : view.SeenIn views) (hview' : view'.SeenIn views')
    (hle : ∀ w ∈ views, ∀ w' ∈ views', w.Le w') :
    view.rebuilds.toNat ≤ view'.rebuilds.toNat := by
  obtain ⟨⟨w, hw, hrebuilds⟩, -, -⟩ := hview
  obtain ⟨⟨w', hw', hrebuilds'⟩, -, -⟩ := hview'
  rw [hrebuilds, hrebuilds']
  exact (hle w hw w' hw').rebuilds

/-- **The kernel's value does not go back**: the counters were not read at one time,
but each was read later by the later scrape. -/
theorem lost_le {last : Sources n} {lost lost' : UInt64} (hview : view.SeenIn views)
    (hview' : view'.SeenIn views') (hle : ∀ w ∈ views, ∀ w' ∈ views', w.Le w')
    (hlast : ∀ w ∈ views', w.Le last) (hroom : last.total < 2 ^ 64)
    (hlost : Loader.droppedEvents view.perCPU view.lookupErr = .ok lost)
    (hlost' : Loader.droppedEvents view'.perCPU view'.lookupErr = .ok lost') :
    lost.toNat ≤ lost'.toNat := by
  obtain ⟨-, -, seen, hseen, hperCPU⟩ := hview
  obtain ⟨-, -, seen', hseen', hperCPU'⟩ := hview'
  rw [hperCPU] at hlost
  rw [hperCPU'] at hlost'
  have hsum : (∑ cpu, ((seen cpu).dropped cpu).toNat) ≤
      ∑ cpu, ((seen' cpu).dropped cpu).toNat :=
    Finset.sum_le_sum fun cpu _ => (hle _ (hseen cpu) _ (hseen' cpu)).dropped cpu
  have hfits : (∑ cpu, ((seen' cpu).dropped cpu).toNat) < 2 ^ 64 := by
    refine lt_of_le_of_lt ?_ hroom
    refine (Finset.sum_le_sum fun cpu _ => (hlast _ (hseen' cpu)).dropped cpu).trans ?_
    exact Nat.le_add_right _ _
  rw [droppedEvents_ok hlost (lt_of_le_of_lt hsum hfits), droppedEvents_ok hlost' hfits]
  exact hsum

end Views

/-! ## The tallies -/

section Tallies

variable {c₀ : Collector ScrapeView} {os os' : List Outcome}

/-- The counter of a tally after fewer outcomes than it has room for. -/
private theorem count_le_extended (h : os <+: os')
    (hlen : os'.countP Outcome.isCounted < 2 ^ 64) {x : Series} (hfresh : c₀.Fresh) :
    (c₀.applyAll os).read x ≤ (c₀.applyAll os').read x := by
  have hcounted : x.outcome.isCounted = true := by cases x <;> rfl
  have hle := h.sublist.count_le x.outcome
  have hlt : os'.count x.outcome < 2 ^ 64 := (count_le_counted hcounted).trans_lt hlen
  rw [Collector.read_applyAll hfresh, Collector.read_applyAll hfresh, Nat.mod_eq_of_lt hlt,
    Nat.mod_eq_of_lt (hle.trans_lt hlt)]
  exact hle

/-- A series of one of the two tallies is still there after more outcomes, and no
smaller. -/
private theorem tally_le {K : Type} [DecidableEq K] {m m' : Map K UInt64} {ks ks' : List K}
    {table : Map K UInt64} (hm : m = Tally.bumps table ks) (hm' : m' = Tally.bumps table ks')
    (h : ks <+: ks') {k : K} {value : UInt64} (hk : m.lookup k = some value)
    (hle : Tally.value m k ≤ Tally.value m' k) :
    ∃ value', m'.lookup k = some value' ∧ value.toNat ≤ value'.toNat := by
  have hmem : k ∈ m := Map.mem_iff_lookup.mpr ⟨value, hk⟩
  have hmem' : k ∈ m' := by
    rw [hm, Tally.mem_bumps] at hmem
    rw [hm', Tally.mem_bumps]
    exact hmem.imp_right fun hks => h.subset hks
  obtain ⟨value', hk'⟩ := Map.mem_iff_lookup.mp hmem'
  refine ⟨value', hk', ?_⟩
  rwa [Tally.value_of_lookup hk, Tally.value_of_lookup hk'] at hle

/-- **Every series but the kernel's stays**, and no counter of it goes back. -/
theorem series_kept {view view' : ScrapeView} (hfresh : c₀.Fresh) (hserved : c₀.Served)
    (h : os <+: os') (hlen : os'.countP Outcome.isCounted < 2 ^ 64)
    (hrebuilds : view.rebuilds.toNat ≤ view'.rebuilds.toNat) {m : Metric}
    (hm : m ∈ (c₀.applyAll os).collect view) (hkernel : m.labelValues ≠ [reasonRingbufFull]) :
    ∃ m' ∈ (c₀.applyAll os').collect view', m'.series = m.series ∧
      m.value.toNat ≤ m'.value.toNat := by
  have hos := c₀.applyAll_eq os
  have hos' := c₀.applyAll_eq os'
  rcases Collector.mem_collect.mp hm with ⟨k, value, hk, rfl⟩ | ⟨reason, value, hreason, rfl⟩ |
    ⟨source, lost, -, -, rfl⟩ | rfl | ⟨k, hk, rfl⟩
  · obtain ⟨value', hk', hle⟩ := tally_le (congrArg Collector.ioctlTotal hos)
      (congrArg Collector.ioctlTotal hos') (h.filterMap _) hk
      (count_le_extended h hlen (x := .ioctl k) hfresh)
    exact ⟨_, Collector.mem_collect.mpr (Or.inl ⟨k, value', hk', rfl⟩), rfl, hle⟩
  · obtain ⟨value', hreason', hle⟩ := tally_le (congrArg Collector.eventsDroppedTotal hos)
      (congrArg Collector.eventsDroppedTotal hos') (h.filterMap _) hreason
      (count_le_extended h hlen (x := .dropped reason) hfresh)
    exact ⟨_, Collector.mem_collect.mpr (Or.inr (Or.inl ⟨reason, value', hreason', rfl⟩)), rfl,
      hle⟩
  · exact absurd rfl hkernel
  · refine ⟨_, Collector.mem_collect.mpr (Or.inr (Or.inr (Or.inr (Or.inl rfl)))), rfl, ?_⟩
    show ((c₀.applyAll os).cgroupRebuilds view).toNat ≤
      ((c₀.applyAll os').cgroupRebuilds view').toNat
    rw [Collector.cgroupRebuilds, Collector.cgroupRebuilds, (hserved.applyAll os).rebuilds,
      (hserved.applyAll os').rebuilds]
    exact hrebuilds
  · rw [hos] at hk
    refine ⟨_, Collector.mem_collect.mpr (Or.inr (Or.inr (Or.inr (Or.inr ⟨k, ?_, rfl⟩)))), rfl,
      le_rfl⟩
    rw [hos']
    exact hk

/-- The kernel's reason is not counted in userspace, unless a caller passes it. -/
private theorem ringbufFull_not_mem (hfresh : c₀.Fresh)
    (hreasons : ∀ reason, .dropped reason ∈ os → reason ∈ dropReasons) :
    reasonRingbufFull ∉ (c₀.applyAll os).eventsDroppedTotal := by
  rw [Collector.applyAll_eq]
  show reasonRingbufFull ∉ Tally.bumps c₀.eventsDroppedTotal (os.filterMap Outcome.dropReason)
  rw [Tally.mem_bumps]
  rintro (hmem | hmem)
  · obtain ⟨value, hvalue⟩ := Map.mem_iff_lookup.mp hmem
    rw [Collector.lookup_fresh_dropped hfresh, if_neg (by decide)] at hvalue
    cases hvalue
  · obtain ⟨o, ho, hreason⟩ := List.mem_filterMap.mp hmem
    cases o with
    | dropped reason =>
        cases hreason
        exact absurd (hreasons _ ho) (by decide)
    | ioctl k => cases hreason
    | uncounted => cases hreason

/-- The kernel's series is the kernel's value. -/
private theorem kernel_series {c : Collector ScrapeView} {view : ScrapeView} (hserved : c.Served)
    (hkernel : reasonRingbufFull ∉ c.eventsDroppedTotal) {m : Metric} (hm : m ∈ c.collect view)
    (hlabel : m.labelValues = [reasonRingbufFull]) :
    Loader.droppedEvents view.perCPU view.lookupErr = .ok m.value := by
  rcases Collector.mem_collect.mp hm with ⟨k, value, -, rfl⟩ | ⟨reason, value, hreason, rfl⟩ |
    ⟨source, lost, hsource, hlost, rfl⟩ | rfl | ⟨k, -, rfl⟩
  · exact absurd (congrArg List.length hlabel) (by decide : (6 : ℕ) ≠ 1)
  · obtain rfl := List.singleton_inj.mp hlabel
    exact absurd (Map.mem_iff_lookup.mpr ⟨value, hreason⟩) hkernel
  · rw [hserved.lost] at hsource
    cases hsource
    exact hlost
  · cases hlabel
  · exact absurd (congrArg List.length hlabel) (by decide : (5 : ℕ) ≠ 1)

/-- **A later scrape of later sources** has every series of the earlier one, except
perhaps the kernel's, and no value that is smaller. -/
private theorem collect_ascends {view view' : ScrapeView} {views views' : List (Sources n)}
    {last : Sources n} (hfresh : c₀.Fresh) (hserved : c₀.Served) (h : os <+: os')
    (hlen : os'.countP Outcome.isCounted < 2 ^ 64)
    (hreasons : ∀ reason, .dropped reason ∈ os' → reason ∈ dropReasons)
    (hview : view.SeenIn views) (hview' : view'.SeenIn views')
    (hle : ∀ w ∈ views, ∀ w' ∈ views', w.Le w') (hlast : ∀ w ∈ views', w.Le last)
    (hroom : last.total < 2 ^ 64) {m : Metric} (hm : m ∈ (c₀.applyAll os).collect view) :
    (m.labelValues ≠ [reasonRingbufFull] →
      ∃ m' ∈ (c₀.applyAll os').collect view', m'.series = m.series) ∧
    ∀ m' ∈ (c₀.applyAll os').collect view', m'.series = m.series →
      m.value.toNat ≤ m'.value.toNat := by
  have hnone := ringbufFull_not_mem hfresh fun reason hr => hreasons reason (h.subset hr)
  have hnone' := ringbufFull_not_mem hfresh hreasons
  have hkept (hkernel : m.labelValues ≠ [reasonRingbufFull]) :
      ∃ m' ∈ (c₀.applyAll os').collect view', m'.series = m.series ∧
        m.value.toNat ≤ m'.value.toNat :=
    series_kept hfresh hserved h hlen (rebuilds_le hview hview' hle) hm hkernel
  refine ⟨?_, ?_⟩
  · intro hkernel
    obtain ⟨m', hm', hsame, -⟩ := hkept hkernel
    exact ⟨m', hm', hsame⟩
  · intro m' hm' hsame
    by_cases hkernel : m.labelValues = [reasonRingbufFull]
    · have hlost := kernel_series (hserved.applyAll _) hnone hm hkernel
      have hlost' := kernel_series (hserved.applyAll _) hnone' hm'
        ((congrArg Prod.snd hsame).trans hkernel)
      exact lost_le hview hview' hle hlast hroom hlost hlost'
    · -- a series occurs once, so the later value is the one that was kept
      obtain ⟨m'', hm'', hsame', hvalue⟩ := hkept hkernel
      have hnodup := Collector.nodup_series _ view' hnone'
      rw [List.inj_on_of_nodup_map hnodup hm' hm'' (hsame.trans hsame'.symm)]
      exact hvalue

end Tallies

/-! ## Two scrapes -/

section

variable {ι : Type} [DecidableEq ι] {c₀ : Collector ScrapeView} {w₀ : Sources n}
  {s s₀ s₁ s₂ : Guarded ι (Collector ScrapeView) (Sources n) CollectorOp (List Metric)}
  {past first more before between after : List (Transition
    (Guarded ι (Collector ScrapeView) (Sources n) CollectorOp (List Metric))
    (MutexAct ι CollectorOp (List Metric) (SourceAct n)))}
  {t u : Transition (Guarded ι (Collector ScrapeView) (Sources n) CollectorOp (List Metric))
    (MutexAct ι CollectorOp (List Metric) (SourceAct n))}

/-- The sources later in a history. -/
private theorem around_le (run : CollectorRun s₀ first s₁)
    (run' : CollectorRun s₀ (first ++ more) s₂)
    (hroom : s₀.around.total + (collect MutexAct.change (first ++ more)).length < 2 ^ 64) :
    s₁.around.Le s₂.around ∧ s₂.around.total < 2 ^ 64 := by
  have hchanges : collect MutexAct.change (first ++ more) =
      collect MutexAct.change first ++ collect MutexAct.change more := List.filterMap_append
  rw [around_of_run run, around_of_run run']
  rw [hchanges, List.length_append] at hroom
  have hfirst := (Sources.foldl_next_le (w := s₀.around)
    (by omega : s₀.around.total + (collect MutexAct.change first).length < 2 ^ 64)).2
  rw [hchanges, List.foldl_append]
  have hmore := Sources.foldl_next_le
    (by omega : ((collect MutexAct.change first).foldl Sources.next s₀.around).total +
      (collect MutexAct.change more).length < 2 ^ 64)
  exact ⟨hmore.1, by have := hmore.2; omega⟩

/-- The sources at two times of a history. -/
private theorem around_le_of_mem (run : CollectorRun s₀ (first ++ more) s)
    (hroom : s₀.around.total + (collect MutexAct.change (first ++ more)).length < 2 ^ 64)
    (ht : t ∈ first) (hu : u ∈ more) : t.pre.around.Le u.pre.around := by
  obtain ⟨b₁, a₁, rfl⟩ := List.append_of_mem ht
  obtain ⟨b₂, a₂, rfl⟩ := List.append_of_mem hu
  have hsplit : (b₁ ++ t :: a₁) ++ (b₂ ++ u :: a₂) = (b₁ ++ (t :: a₁ ++ b₂)) ++ u :: a₂ := by
    simp only [List.append_assoc, List.cons_append]
  have run₁ : CollectorRun s₀ b₁ t.pre := by
    rw [List.append_assoc, List.cons_append] at run
    exact run.through.1
  rw [hsplit] at run hroom
  refine (around_le run₁ run.through.1 (lt_of_le_of_lt (Nat.add_le_add_left ?_ _) hroom)).1
  exact ((List.sublist_append_left _ _).filterMap _).length_le

/-- And at the end of it. -/
private theorem around_le_last (run : CollectorRun s₀ past s)
    (hroom : s₀.around.total + (collect MutexAct.change past).length < 2 ^ 64) (ht : t ∈ past) :
    t.pre.around.Le s.around := by
  obtain ⟨b, a, rfl⟩ := List.append_of_mem ht
  exact (around_le run.through.1 run hroom).1

/-- **A scrape never goes back.**  In every history of any number of goroutines that call
the collector, with fewer than 2^64 counted calls and changes of the sources, a scrape
has every series of an earlier one, except perhaps the kernel's, whose lookup can fail;
and every value it has is at least what the earlier scrape had for the series. -/
theorem scrapes_ascend {i j : ι} {answer answer' : List Metric} (hfresh : c₀.Fresh)
    (hserved : c₀.Served)
    (run : CollectorRun (Guarded.start c₀ w₀) (before ++ t :: (between ++ u :: after)) s)
    (ht : t.label = .unlock i .collect answer) (hu : u.label = .unlock j .collect answer')
    (hlen : (returnedOutcomes (before ++ t :: (between ++ u :: after))).countP
      Outcome.isCounted < 2 ^ 64)
    (hroom : w₀.total +
      (collect MutexAct.change (before ++ t :: (between ++ u :: after))).length < 2 ^ 64)
    (hreasons : ∀ reason, .dropped reason ∈
      returnedOutcomes (before ++ t :: (between ++ u :: after)) → reason ∈ dropReasons) :
    ∀ m ∈ answer,
      (m.labelValues ≠ [reasonRingbufFull] → ∃ m' ∈ answer', m'.series = m.series) ∧
      ∀ m' ∈ answer', m'.series = m.series → m.value.toNat ≤ m'.value.toNat := by
  obtain ⟨earlier, l, during, view, hbefore, hlock, -, hview, rfl⟩ := scrape_of_run hserved run ht
  have hsplit : before ++ t :: (between ++ u :: after) =
      (before ++ t :: between) ++ u :: after := by
    simp only [List.append_assoc, List.cons_append]
  have run' := run
  rw [hsplit] at run'
  obtain ⟨earlier', l', during', view', hbefore', hlock', hnone, hview', rfl⟩ :=
    scrape_of_run hserved run' hu
  -- the second scrape got the mutex after the first one returned
  obtain ⟨middle, rfl, rfl⟩ := lock_after_return hbefore' ht hlock' hnone
  set past := before ++ t :: (middle ++ l' :: during' ++ u :: after) with hpast
  have hroom' : (Guarded.start c₀ w₀ : Guarded ι _ _ CollectorOp (List Metric)).around.total +
      (collect MutexAct.change past).length < 2 ^ 64 := hroom
  -- what had returned before the first scrape, before the second, and by the end
  have hos : returnedOutcomes earlier <+: returnedOutcomes (before ++ t :: middle) := by
    refine List.IsPrefix.map _ (List.IsPrefix.filterMap _ ?_)
    exact ⟨l :: during ++ t :: middle, by rw [hbefore]; simp⟩
  have hos' : returnedOutcomes (before ++ t :: middle) <+: returnedOutcomes past := by
    refine List.IsPrefix.map _ (List.IsPrefix.filterMap _ ?_)
    exact ⟨l' :: during' ++ u :: after, by rw [hpast]; simp⟩
  have hle : ∀ w ∈ during.map (fun x => x.pre.around),
      ∀ w' ∈ during'.map (fun x => x.pre.around), w.Le w' := by
    intro w hw w' hw'
    obtain ⟨x, hx, rfl⟩ := List.mem_map.mp hw
    obtain ⟨y, hy, rfl⟩ := List.mem_map.mp hw'
    refine around_le_of_mem run hroom' (hbefore ▸ ?_) ?_
    · exact List.mem_append_right _ (List.mem_cons_of_mem _ hx)
    · simp [hy]
  have hlast : ∀ w ∈ during'.map (fun x => x.pre.around), w.Le s.around := by
    intro w hw
    obtain ⟨y, hy, rfl⟩ := List.mem_map.mp hw
    exact around_le_last run hroom' (by simp [hpast, hy])
  intro m hm
  exact collect_ascends hfresh hserved hos
    ((hos'.sublist.countP_le (p := Outcome.isCounted)).trans_lt hlen)
    (fun reason h => hreasons reason (hos'.subset h)) hview hview' hle hlast
    (around_le .start run hroom').2 hm

end

/-- The sources of one CPU that has lost some events. -/
def lostSources (lost : UInt64) : Sources 1 := ⟨fun _ => lost, 0, none⟩

/-- The scrape of a handler that is alone. -/
private theorem exists_scrape (lost : UInt64) :
    ∃ past t, CollectorRun (ι := Unit) (Guarded.start servedCollector₀ (lostSources lost))
        (past ++ [t]) (Guarded.start servedCollector₀ (lostSources lost)) ∧
      t.label = .unlock () .collect (servedCollector₀.collect ⟨0, [lost], none⟩) ∧
      collect MutexAct.returned past = [] ∧ collect MutexAct.change past = [] := by
  have hplay : collectCode.play servedCollector₀ (List.replicate 12 (lostSources lost)) =
      (.done (servedCollector₀.collect ⟨0, [lost], none⟩), servedCollector₀) := rfl
  exact exists_visit rfl rfl hplay

/-- Two scrapes of a handler, and one event that the program loses between them: the
second scrape has the kernel's series too, with no smaller value. -/
theorem scrapes_ascend_loss :
    ∃ m ∈ servedCollector₀.collect ⟨0, [0], none⟩,
      ∃ m' ∈ servedCollector₀.collect ⟨0, [1], none⟩,
        m = Collector.eventsDroppedMetric reasonRingbufFull 0 ∧ m'.series = m.series ∧
          m.value.toNat ≤ m'.value.toNat := by
  obtain ⟨past, t, run, ht, hreturned, hchange⟩ := exists_scrape 0
  obtain ⟨past', t', run', ht', hreturned', hchange'⟩ := exists_scrape 1
  have hone : (lostSources 0).next (.lose 0) = lostSources 1 := by
    refine congrArg (fun dropped => (⟨dropped, 0, none⟩ : Sources 1)) ?_
    funext cpu
    rw [Subsingleton.elim cpu 0, Function.update_self]
    rfl
  let lose : Transition (Guarded Unit (Collector ScrapeView) (Sources 1) CollectorOp (List Metric))
      (MutexAct Unit CollectorOp (List Metric) (SourceAct 1)) :=
    ⟨Guarded.start servedCollector₀ (lostSources 0), .elsewhere (.lose 0),
      Guarded.start servedCollector₀ (lostSources 1)⟩
  have hlose : MutexStep collectorCode Sources.next lose.pre lose.label lose.post := by
    have hstep : MutexStep collectorCode Sources.next lose.pre lose.label
        { lose.pre with around := (lostSources 0).next (.lose 0) } :=
      .elsewhere (SourceAct.lose 0)
    rwa [hone] at hstep
  have whole : CollectorRun (Guarded.start servedCollector₀ (lostSources 0))
      (past ++ t :: ((lose :: past') ++ t' :: []))
      (Guarded.start servedCollector₀ (lostSources 1)) := by
    have hall := (run.snoc hlose).append run'
    rwa [List.append_assoc, List.append_assoc] at hall
  have hcalls : collect MutexAct.returned (past ++ t :: ((lose :: past') ++ [t'])) =
      [((), .collect, servedCollector₀.collect ⟨0, [0], none⟩),
        ((), .collect, servedCollector₀.collect ⟨0, [1], none⟩)] := by
    simp only [collect, List.filterMap_append, List.filterMap_cons, ht, ht', List.filterMap_nil]
      at hreturned hreturned' ⊢
    rw [hreturned, hreturned']
    rfl
  have hchanges : collect MutexAct.change (past ++ t :: ((lose :: past') ++ [t'])) =
      [.lose 0] := by
    simp only [collect, List.filterMap_append, List.filterMap_cons, ht, ht', List.filterMap_nil]
      at hchange hchange' ⊢
    rw [hchange, hchange']
    rfl
  have hfresh : servedCollector₀.Fresh := ⟨rfl, rfl⟩
  have hserved : servedCollector₀.Served := ⟨rfl, rfl⟩
  have hlost : ∀ lost, Collector.eventsDroppedMetric reasonRingbufFull lost ∈
      servedCollector₀.collect ⟨0, [lost], none⟩ := by
    intro lost
    have hsum : [lost].foldl (· + ·) 0 = lost := by simp
    refine Collector.mem_collect.mpr (Or.inr (Or.inr (Or.inl ⟨_, lost, hserved.lost, ?_, rfl⟩)))
    rw [Loader.droppedEvents, hsum]
  refine ⟨_, hlost 0, _, hlost 1, rfl, rfl, ?_⟩
  refine (scrapes_ascend hfresh hserved whole ht ht' ?_ ?_ ?_ _ (hlost 0)).2 _ (hlost 1) rfl
  · rw [returnedOutcomes, hcalls]
    decide
  · rw [hchanges]
    decide
  · intro reason hreason
    rw [returnedOutcomes, hcalls] at hreason
    simp [CollectorOp.outcome] at hreason

end KubeNpu

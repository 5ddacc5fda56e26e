import KubeNpu.Agent.Accounting

/-!
# What a scrape says

A scrape publishes, for every label tuple and every reason, the number of
activities so far that counted towards it, and no series twice.  The collector
after a list of activities is two tallies of their outcomes (`applyAll_eq`), so
the counts come from the laws of tallies, and the shape of a scrape from
`collect` alone.
-/

namespace KubeNpu

open Go Machine

variable {ω : Type}

/-! ## The collector after any activities -/

/-- The label tuple an outcome counts for. -/
def Outcome.ioctlKey : Outcome → Option Key
  | .ioctl k => some k
  | .dropped _ => none
  | .uncounted => none

/-- The reason an outcome counts for. -/
def Outcome.dropReason : Outcome → Option String
  | .ioctl _ => none
  | .dropped reason => some reason
  | .uncounted => none

/-- The outcome counts for something. -/
def Outcome.isCounted : Outcome → Bool
  | .ioctl _ => true
  | .dropped _ => true
  | .uncounted => false

theorem count_ioctlKey (os : List Outcome) (k : Key) :
    (os.filterMap Outcome.ioctlKey).count k = os.count (.ioctl k) := by
  induction os with
  | nil => rfl
  | cons o os ih =>
      cases o <;>
        simp [List.filterMap_cons, Outcome.ioctlKey, List.count_cons, ih]

theorem count_dropReason (os : List Outcome) (reason : String) :
    (os.filterMap Outcome.dropReason).count reason = os.count (.dropped reason) := by
  induction os with
  | nil => rfl
  | cons o os ih =>
      cases o <;>
        simp [List.filterMap_cons, Outcome.dropReason, List.count_cons, ih]

theorem count_le_counted {os : List Outcome} {o : Outcome} (h : o.isCounted = true) :
    os.count o ≤ os.countP Outcome.isCounted := by
  refine List.countP_mono_left ?_
  intro o' _ heq
  rw [beq_iff_eq] at heq
  rw [heq, h]

/-- The collector after a list of outcomes. -/
def Collector.applyAll (c : Collector ω) (os : List Outcome) : Collector ω :=
  os.foldl Collector.apply c

/-- **The counters of the collector are the tallies of the outcomes**, and nothing
else in it changes. -/
theorem Collector.applyAll_eq (c : Collector ω) (os : List Outcome) :
    c.applyAll os =
      { c with
        ioctlTotal := Tally.bumps c.ioctlTotal (os.filterMap Outcome.ioctlKey)
        eventsDroppedTotal :=
          Tally.bumps c.eventsDroppedTotal (os.filterMap Outcome.dropReason) } := by
  induction os using List.reverseRecOn with
  | nil => rfl
  | append_singleton os o ih =>
      rw [applyAll, List.foldl_append, List.foldl_cons, List.foldl_nil, ← applyAll, ih,
        List.filterMap_append, List.filterMap_append]
      cases o with
      | ioctl k =>
          show _ = { c with
            ioctlTotal := Tally.bumps c.ioctlTotal (os.filterMap Outcome.ioctlKey ++ [k])
            eventsDroppedTotal :=
              Tally.bumps c.eventsDroppedTotal (os.filterMap Outcome.dropReason ++ []) }
          rw [Tally.bumps_concat, List.append_nil]
          rfl
      | dropped reason =>
          show _ = { c with
            ioctlTotal := Tally.bumps c.ioctlTotal (os.filterMap Outcome.ioctlKey ++ [])
            eventsDroppedTotal :=
              Tally.bumps c.eventsDroppedTotal (os.filterMap Outcome.dropReason ++ [reason]) }
          rw [Tally.bumps_concat, List.append_nil]
          rfl
      | uncounted =>
          show _ = { c with
            ioctlTotal := Tally.bumps c.ioctlTotal (os.filterMap Outcome.ioctlKey ++ [])
            eventsDroppedTotal :=
              Tally.bumps c.eventsDroppedTotal (os.filterMap Outcome.dropReason ++ []) }
          rw [List.append_nil, List.append_nil]
          rfl

/-- The collector after a list of activities. -/
def Collector.after (deviceMap : DeviceMap) (c : Collector ω) (acts : List (Activity ω)) :
    Collector ω :=
  acts.foldl (fun c a => a.perform deviceMap c) c

theorem Collector.after_eq (deviceMap : DeviceMap) (c : Collector ω)
    (acts : List (Activity ω)) :
    c.after deviceMap acts = c.applyAll (acts.map fun a => a.outcome deviceMap) := by
  unfold after applyAll
  rw [List.foldl_map]
  congr 1
  funext c a
  exact a.perform_eq deviceMap c

/-- A reason the agent drops under is one that the collector starts with. -/
theorem Activity.outcome_dropped_mem {deviceMap : DeviceMap} {a : Activity ω} {reason : String}
    (h : a.outcome deviceMap = .dropped reason) : reason ∈ dropReasons := by
  cases a with
  | handled event result =>
      have hworker : workerReasons ⊆ dropReasons := by decide
      exact hworker (outcomeOf_dropped_mem h)
  | queueFull =>
      cases h
      decide
  | scrape w => cases h

/-! ## The shape of a scrape -/

namespace Collector

variable {c : Collector ω} {w : ω} {m : Metric}

/-- The metrics of a scrape, one group for each thing the collector keeps. -/
theorem mem_collect :
    m ∈ c.collect w ↔
      (∃ k value, c.ioctlTotal.lookup k = some value ∧ m = ioctlMetric k value) ∨
      (∃ reason value, c.eventsDroppedTotal.lookup reason = some value ∧
        m = eventsDroppedMetric reason value) ∨
      (∃ source lost, c.kernelDroppedSource = some source ∧ source w = .ok lost ∧
        m = eventsDroppedMetric reasonRingbufFull lost) ∨
      m = cgroupRebuildsMetric (c.cgroupRebuilds w) ∨
      ∃ k, k ∈ c.deviceInfo ∧ m = deviceInfoMetric k := by
  have hkernel : m ∈ c.kernelDropped w ↔ ∃ source lost, c.kernelDroppedSource = some source ∧
      source w = .ok lost ∧ m = eventsDroppedMetric reasonRingbufFull lost := by
    unfold kernelDropped
    cases c.kernelDroppedSource with
    | none => simp
    | some source => cases hlost : source w <;> simp [hlost]
  simp only [collect, List.mem_append, List.mem_map, List.mem_singleton, Prod.exists,
    Map.mem_toList, Map.mem_iff_lookup, hkernel, or_assoc, exists_and_right, eq_comm]

/-- The `kubenpu_ioctl_total` series of a scrape. -/
theorem mem_collect_ioctl :
    m ∈ c.collect w ∧ m.desc = ioctlDesc ↔
      ∃ k value, c.ioctlTotal.lookup k = some value ∧ m = ioctlMetric k value := by
  rw [mem_collect]
  constructor
  · rintro ⟨h | ⟨_, _, _, rfl⟩ | ⟨_, _, _, _, rfl⟩ | rfl | ⟨_, _, rfl⟩, hdesc⟩
    · exact h
    · exact absurd hdesc (by decide : eventsDroppedDesc ≠ ioctlDesc)
    · exact absurd hdesc (by decide : eventsDroppedDesc ≠ ioctlDesc)
    · exact absurd hdesc (by decide : cgroupRebuildsDesc ≠ ioctlDesc)
    · exact absurd hdesc (by decide : deviceInfoDesc ≠ ioctlDesc)
  · rintro ⟨k, value, hk, rfl⟩
    exact ⟨Or.inl ⟨k, value, hk, rfl⟩, rfl⟩

/-- The `kubenpu_events_dropped_total` series of a scrape. -/
theorem mem_collect_dropped :
    m ∈ c.collect w ∧ m.desc = eventsDroppedDesc ↔
      (∃ reason value, c.eventsDroppedTotal.lookup reason = some value ∧
          m = eventsDroppedMetric reason value) ∨
        ∃ source lost, c.kernelDroppedSource = some source ∧ source w = .ok lost ∧
          m = eventsDroppedMetric reasonRingbufFull lost := by
  rw [mem_collect]
  constructor
  · rintro ⟨⟨_, _, _, rfl⟩ | h | h | rfl | ⟨_, _, rfl⟩, hdesc⟩
    · exact absurd hdesc (by decide : ioctlDesc ≠ eventsDroppedDesc)
    · exact Or.inl h
    · exact Or.inr h
    · exact absurd hdesc (by decide : cgroupRebuildsDesc ≠ eventsDroppedDesc)
    · exact absurd hdesc (by decide : deviceInfoDesc ≠ eventsDroppedDesc)
  · rintro (⟨reason, value, hreason, rfl⟩ | ⟨source, lost, hsource, hlost, rfl⟩)
    · exact ⟨Or.inr (Or.inl ⟨reason, value, hreason, rfl⟩), rfl⟩
    · exact ⟨Or.inr (Or.inr (Or.inl ⟨source, lost, hsource, hlost, rfl⟩)), rfl⟩

/-- The rows of a scrape about devices. -/
theorem mem_collect_deviceInfo :
    m ∈ c.collect w ∧ m.desc = deviceInfoDesc ↔
      ∃ k, k ∈ c.deviceInfo ∧ m = deviceInfoMetric k := by
  rw [mem_collect]
  constructor
  · rintro ⟨⟨_, _, _, rfl⟩ | ⟨_, _, _, rfl⟩ | ⟨_, _, _, _, rfl⟩ | rfl | h, hdesc⟩
    · exact absurd hdesc (by decide : ioctlDesc ≠ deviceInfoDesc)
    · exact absurd hdesc (by decide : eventsDroppedDesc ≠ deviceInfoDesc)
    · exact absurd hdesc (by decide : eventsDroppedDesc ≠ deviceInfoDesc)
    · exact absurd hdesc (by decide : cgroupRebuildsDesc ≠ deviceInfoDesc)
    · exact h
  · rintro ⟨k, hk, rfl⟩
    exact ⟨Or.inr (Or.inr (Or.inr (Or.inr ⟨k, hk, rfl⟩))), rfl⟩

/-- The series of a map's entries differ if a key can be read off its series. -/
private theorem nodup_series_map {K V : Type} [DecidableEq K] (table : Map K V)
    (metric : K × V → Metric) (key : Desc × List String → K)
    (hkey : ∀ e, key (metric e).series = e.1) :
    ((table.toList.map metric).map Metric.series).Nodup := by
  refine List.Nodup.of_map key ?_
  rw [List.map_map, List.map_map]
  have hfst : (key ∘ Metric.series) ∘ metric = Prod.fst := funext hkey
  rw [hfst]
  exact table.nodup_keys_toList

/-- Two groups under different descriptors share no series. -/
private theorem nodup_series_append {l₁ l₂ : List Metric} (h₁ : (l₁.map Metric.series).Nodup)
    (h₂ : (l₂.map Metric.series).Nodup) (hne : ∀ a ∈ l₁, ∀ b ∈ l₂, a.desc ≠ b.desc) :
    ((l₁ ++ l₂).map Metric.series).Nodup := by
  rw [List.map_append]
  refine List.Nodup.append h₁ h₂ ?_
  intro x hx₁ hx₂
  obtain ⟨a, ha, rfl⟩ := List.mem_map.mp hx₁
  obtain ⟨b, hb, heq⟩ := List.mem_map.mp hx₂
  exact hne a ha b hb (congrArg Prod.fst heq).symm

/-- The kernel adds at most its own reason. -/
theorem kernelDropped_cases (c : Collector ω) (w : ω) :
    c.kernelDropped w = [] ∨
      ∃ lost, c.kernelDropped w = [eventsDroppedMetric reasonRingbufFull lost] := by
  unfold kernelDropped
  split
  · exact Or.inl rfl
  · split
    · exact Or.inr ⟨_, rfl⟩
    · exact Or.inl rfl

/-- The drops of a scrape are different series if the kernel's reason is not
counted in userspace as well. -/
private theorem nodup_series_drops (c : Collector ω) (w : ω)
    (hkernel : reasonRingbufFull ∉ c.eventsDroppedTotal) :
    ((c.eventsDroppedTotal.toList.map (fun e => eventsDroppedMetric e.1 e.2) ++
      c.kernelDropped w).map Metric.series).Nodup := by
  have htable := nodup_series_map c.eventsDroppedTotal
    (fun e => eventsDroppedMetric e.1 e.2) (fun x => x.2.headD "") fun e => rfl
  rcases c.kernelDropped_cases w with hnone | ⟨lost, hlost⟩
  · rwa [hnone, List.append_nil]
  · rw [hlost, List.map_append]
    refine List.Nodup.append htable (List.nodup_singleton _) ?_
    intro x hx hx'
    obtain ⟨a, ha, rfl⟩ := List.mem_map.mp hx
    obtain ⟨e, he, rfl⟩ := List.mem_map.mp ha
    have hreason : [e.1] = [reasonRingbufFull] :=
      congrArg Prod.snd (List.mem_singleton.mp hx')
    rw [List.singleton_inj] at hreason
    refine hkernel (Map.mem_iff_lookup.mpr ⟨e.2, ?_⟩)
    rw [← hreason]
    exact Map.mem_toList.mp he

/-- **No series occurs twice in a scrape**, with the same proviso. -/
theorem nodup_series (c : Collector ω) (w : ω)
    (hkernel : reasonRingbufFull ∉ c.eventsDroppedTotal) :
    ((c.collect w).map Metric.series).Nodup := by
  -- four groups, one for each descriptor; only the drops come from two places
  have hgroups : c.collect w = (c.ioctlTotal.toList.map fun e => ioctlMetric e.1 e.2) ++
      ((c.eventsDroppedTotal.toList.map (fun e => eventsDroppedMetric e.1 e.2) ++
          c.kernelDropped w) ++
        ([cgroupRebuildsMetric (c.cgroupRebuilds w)] ++
          c.deviceInfo.toList.map fun e => deviceInfoMetric e.1)) := by
    simp only [collect, List.append_assoc]
  have hdrops : ∀ a ∈ c.eventsDroppedTotal.toList.map (fun e => eventsDroppedMetric e.1 e.2) ++
      c.kernelDropped w, a.desc = eventsDroppedDesc := by
    intro a ha
    rcases List.mem_append.mp ha with htable | hlost
    · obtain ⟨e, -, rfl⟩ := List.mem_map.mp htable
      rfl
    · rcases c.kernelDropped_cases w with hnone | ⟨lost, hsome⟩
      · rw [hnone] at hlost
        cases hlost
      · rw [hsome] at hlost
        rw [List.mem_singleton.mp hlost]
        rfl
  have hinfo : ∀ a ∈ c.deviceInfo.toList.map fun e => deviceInfoMetric e.1,
      a.desc = deviceInfoDesc := by
    intro a ha
    obtain ⟨e, -, rfl⟩ := List.mem_map.mp ha
    rfl
  rw [hgroups]
  refine nodup_series_append ?_ (nodup_series_append (nodup_series_drops c w hkernel)
    (nodup_series_append (List.nodup_singleton _) ?_ ?_) ?_) ?_
  · exact nodup_series_map c.ioctlTotal _
      (fun x => ⟨x.2.getD 0 "", x.2.getD 1 "", x.2.getD 2 "", x.2.getD 3 "", x.2.getD 4 "",
        x.2.getD 5 ""⟩) fun e => rfl
  · exact nodup_series_map c.deviceInfo _
      (fun x => ⟨x.2.getD 0 "", x.2.getD 1 "", x.2.getD 2 "", x.2.getD 3 "", x.2.getD 4 ""⟩)
      fun e => rfl
  · intro a ha b hb
    rw [List.mem_singleton.mp ha, hinfo b hb]
    exact (by decide : cgroupRebuildsDesc ≠ deviceInfoDesc)
  · intro a ha b hb
    rw [hdrops a ha]
    rcases List.mem_append.mp hb with hrebuilds | hinfos
    · rw [List.mem_singleton.mp hrebuilds]
      exact (by decide : eventsDroppedDesc ≠ cgroupRebuildsDesc)
    · rw [hinfo b hinfos]
      decide
  · intro a ha b hb
    obtain ⟨e, -, rfl⟩ := List.mem_map.mp ha
    rcases List.mem_append.mp hb with hdropped | hrest
    · rw [hdrops b hdropped]
      exact (by decide : ioctlDesc ≠ eventsDroppedDesc)
    · rcases List.mem_append.mp hrest with hrebuilds | hinfos
      · rw [List.mem_singleton.mp hrebuilds]
        exact (by decide : ioctlDesc ≠ cgroupRebuildsDesc)
      · rw [hinfo b hinfos]
        exact (by decide : ioctlDesc ≠ deviceInfoDesc)

end Collector

/-! ## Exactness -/

/-- A scrape has the series of these labels with the value `n`. -/
def Publishes (scrape : List Metric) (desc : Desc) (labels : List (String × String)) (n : ℕ) :
    Prop :=
  ∃ m ∈ scrape, m.desc = desc ∧ m.labels = labels ∧ m.value.toNat = n

/-- The label pairs of a tuple. -/
def Key.labels (k : Key) : List (String × String) :=
  [("namespace", k.ns), ("pod", k.pod), ("container", k.container), ("device", k.device),
    ("vendor", k.vendor), ("kind", k.kind)]

/-- The scrape after a list of activities. -/
def scrapeAfter (deviceMap : DeviceMap) (c : Collector ω) (acts : List (Activity ω)) (w : ω) :
    List Metric :=
  (c.after deviceMap acts).collect w

/-- What a list of activities counts. -/
def outcomes (deviceMap : DeviceMap) (acts : List (Activity ω)) : List Outcome :=
  acts.map fun a => a.outcome deviceMap

namespace Collector

variable {deviceMap : DeviceMap} {c₀ : Collector ω} {acts : List (Activity ω)} {w : ω}

theorem lookup_fresh_dropped (hfresh : c₀.Fresh) (reason : String) :
    c₀.eventsDroppedTotal.lookup reason = if reason ∈ dropReasons then some 0 else none := by
  rw [hfresh.2, newCollector, Map.lookup_putAll, Map.lastWrite_const]
  simp

/-- The two tallies after some activities, and everything else as before. -/
theorem after_eq_tallies (deviceMap : DeviceMap) (c₀ : Collector ω) (acts : List (Activity ω)) :
    c₀.after deviceMap acts =
      { c₀ with
        ioctlTotal :=
          Tally.bumps c₀.ioctlTotal ((outcomes deviceMap acts).filterMap Outcome.ioctlKey)
        eventsDroppedTotal :=
          Tally.bumps c₀.eventsDroppedTotal
            ((outcomes deviceMap acts).filterMap Outcome.dropReason) } :=
  (after_eq deviceMap c₀ acts).trans (applyAll_eq c₀ _)

/-- **The counter of a label tuple** is the number of events that resolved to it. -/
theorem value_after_ioctl (hfresh : c₀.Fresh)
    (hlen : (outcomes deviceMap acts).countP Outcome.isCounted < 2 ^ 64) (k : Key) :
    Tally.value (c₀.after deviceMap acts).ioctlTotal k =
      (outcomes deviceMap acts).count (.ioctl k) := by
  have hle : (outcomes deviceMap acts).count (.ioctl k) ≤ _ := count_le_counted rfl
  rw [after_eq_tallies, hfresh.1, Tally.value_bumps, Tally.value_empty, count_ioctlKey,
    Nat.zero_add]
  rw [Tally.value_empty, count_ioctlKey]
  omega

/-- A label tuple has a counter once an event resolved to it. -/
theorem mem_after_ioctl (hfresh : c₀.Fresh) (deviceMap : DeviceMap) (acts : List (Activity ω))
    (k : Key) :
    k ∈ (c₀.after deviceMap acts).ioctlTotal ↔ 0 < (outcomes deviceMap acts).count (.ioctl k) := by
  rw [after_eq_tallies, hfresh.1, Tally.mem_bumps, ← count_ioctlKey, List.count_pos_iff]
  exact or_iff_right (AList.notMem_empty k)

/-- **The counter of a reason** is the number of drops for it. -/
theorem value_after_dropped (hfresh : c₀.Fresh)
    (hlen : (outcomes deviceMap acts).countP Outcome.isCounted < 2 ^ 64) (reason : String) :
    Tally.value (c₀.after deviceMap acts).eventsDroppedTotal reason =
      (outcomes deviceMap acts).count (.dropped reason) := by
  have hle : (outcomes deviceMap acts).count (.dropped reason) ≤ _ := count_le_counted rfl
  have hzero : Tally.value c₀.eventsDroppedTotal reason = 0 := by
    rw [Tally.value, lookup_fresh_dropped hfresh]
    split <;> rfl
  rw [after_eq_tallies, Tally.value_bumps, hzero, count_dropReason, Nat.zero_add]
  rw [hzero, count_dropReason]
  omega

/-- The reasons that have a counter are those of the start. -/
theorem mem_after_dropped (hfresh : c₀.Fresh) (deviceMap : DeviceMap)
    (acts : List (Activity ω)) (reason : String) :
    reason ∈ (c₀.after deviceMap acts).eventsDroppedTotal ↔ reason ∈ dropReasons := by
  rw [after_eq_tallies, Tally.mem_bumps, Map.mem_iff_lookup, lookup_fresh_dropped hfresh]
  constructor
  · rintro (⟨v, hv⟩ | hmem)
    · by_contra hnot
      rw [if_neg hnot] at hv
      cases hv
    · obtain ⟨o, ho, hreason⟩ := List.mem_filterMap.mp hmem
      obtain ⟨a, -, rfl⟩ := List.mem_map.mp ho
      cases hout : a.outcome deviceMap with
      | dropped r =>
          rw [hout] at hreason
          cases hreason
          exact Activity.outcome_dropped_mem hout
      | ioctl k =>
          rw [hout] at hreason
          cases hreason
      | uncounted =>
          rw [hout] at hreason
          cases hreason
  · exact fun hmem => Or.inl ⟨0, if_pos hmem⟩

end Collector

section Exact

variable {deviceMap : DeviceMap} {c₀ : Collector ω} {acts : List (Activity ω)}

/-- What a scrape says about label tuples. -/
private theorem scrape_ioctl (hfresh : c₀.Fresh)
    (hlen : (outcomes deviceMap acts).countP Outcome.isCounted < 2 ^ 64) (w : ω) :
    (∀ k, 0 < (outcomes deviceMap acts).count (.ioctl k) →
      Publishes (scrapeAfter deviceMap c₀ acts w) ioctlDesc k.labels
        ((outcomes deviceMap acts).count (.ioctl k))) ∧
    ∀ m ∈ scrapeAfter deviceMap c₀ acts w, m.desc = ioctlDesc → ∃ k, m.labels = k.labels ∧
      m.value.toNat = (outcomes deviceMap acts).count (.ioctl k) ∧
      0 < (outcomes deviceMap acts).count (.ioctl k) := by
  constructor
  · intro k hpos
    obtain ⟨value, hk⟩ := Map.mem_iff_lookup.mp
      ((Collector.mem_after_ioctl hfresh deviceMap acts k).mpr hpos)
    obtain ⟨hm, hdesc⟩ := Collector.mem_collect_ioctl.mpr ⟨k, value, hk, rfl⟩
    refine ⟨_, hm, hdesc, rfl, ?_⟩
    exact (Tally.value_of_lookup hk).symm.trans (Collector.value_after_ioctl hfresh hlen k)
  · intro m hm hdesc
    obtain ⟨k, value, hk, rfl⟩ := Collector.mem_collect_ioctl.mp ⟨hm, hdesc⟩
    refine ⟨k, rfl, ?_, ?_⟩
    · exact (Tally.value_of_lookup hk).symm.trans (Collector.value_after_ioctl hfresh hlen k)
    · exact (Collector.mem_after_ioctl hfresh _ _ k).mp (Map.mem_iff_lookup.mpr ⟨value, hk⟩)

/-- What a scrape says about reasons. -/
private theorem scrape_dropped (hfresh : c₀.Fresh)
    (hlen : (outcomes deviceMap acts).countP Outcome.isCounted < 2 ^ 64) (w : ω) :
    (∀ reason ∈ dropReasons,
      Publishes (scrapeAfter deviceMap c₀ acts w) eventsDroppedDesc [("reason", reason)]
        ((outcomes deviceMap acts).count (.dropped reason))) ∧
    ∀ m ∈ scrapeAfter deviceMap c₀ acts w, m.desc = eventsDroppedDesc →
      (∃ reason ∈ dropReasons, m.labels = [("reason", reason)] ∧
        m.value.toNat = (outcomes deviceMap acts).count (.dropped reason)) ∨
      m.labels = [("reason", reasonRingbufFull)] ∧
        ∃ source, c₀.kernelDroppedSource = some source ∧ source w = .ok m.value := by
  have hvalue : ∀ {reason : String} {value : UInt64},
      (c₀.after deviceMap acts).eventsDroppedTotal.lookup reason = some value →
      value.toNat = (outcomes deviceMap acts).count (.dropped reason) := fun hreason =>
    (Tally.value_of_lookup hreason).symm.trans (Collector.value_after_dropped hfresh hlen _)
  constructor
  · intro reason hmem
    obtain ⟨value, hreason⟩ := Map.mem_iff_lookup.mp
      ((Collector.mem_after_dropped hfresh deviceMap acts reason).mpr hmem)
    obtain ⟨hm, hdesc⟩ := Collector.mem_collect_dropped.mpr (Or.inl ⟨reason, value, hreason, rfl⟩)
    exact ⟨_, hm, hdesc, rfl, hvalue hreason⟩
  · intro m hm hdesc
    rcases Collector.mem_collect_dropped.mp ⟨hm, hdesc⟩ with
      ⟨reason, value, hreason, rfl⟩ | ⟨source, lost, hsource, hlost, rfl⟩
    · refine Or.inl ⟨reason, ?_, rfl, hvalue hreason⟩
      exact (Collector.mem_after_dropped hfresh _ _ reason).mp
        (Map.mem_iff_lookup.mpr ⟨value, hreason⟩)
    · refine Or.inr ⟨rfl, source, ?_, hlost⟩
      rw [Collector.after_eq_tallies] at hsource
      exact hsource

/-- The counts of an earlier moment are not above those of a later one. -/
private theorem counts_le_of_prefix (deviceMap : DeviceMap) {earlier : List (Activity ω)}
    (h : earlier <+: acts) :
    (∀ o, (outcomes deviceMap earlier).count o ≤ (outcomes deviceMap acts).count o) ∧
      (outcomes deviceMap earlier).countP Outcome.isCounted ≤
        (outcomes deviceMap acts).countP Outcome.isCounted := by
  have hsub : (outcomes deviceMap earlier).Sublist (outcomes deviceMap acts) :=
    h.sublist.map _
  exact ⟨fun o => hsub.count_le o, hsub.countP_le⟩

/-- Between two scrapes no userspace series disappears or decreases. -/
private theorem scrape_monotone (hfresh : c₀.Fresh)
    (hlen : (outcomes deviceMap acts).countP Outcome.isCounted < 2 ^ 64)
    {earlier : List (Activity ω)} (h : earlier <+: acts) (v w : ω) {m : Metric}
    (hm : m ∈ scrapeAfter deviceMap c₀ earlier v)
    (hdesc : m.desc = ioctlDesc ∨
      m.desc = eventsDroppedDesc ∧ m.labelValues ≠ [reasonRingbufFull]) :
    ∃ m' ∈ scrapeAfter deviceMap c₀ acts w, m'.series = m.series ∧
      m.value.toNat ≤ m'.value.toNat := by
  obtain ⟨hcount, htotal⟩ := counts_le_of_prefix deviceMap h
  have hlen' := htotal.trans_lt hlen
  rcases hdesc with hdesc | ⟨hdesc, huser⟩
  · obtain ⟨k, value, hk, rfl⟩ := Collector.mem_collect_ioctl.mp ⟨hm, hdesc⟩
    have hvalue := Collector.value_after_ioctl hfresh hlen' k
    have hpos := (Collector.mem_after_ioctl hfresh _ _ k).mp (Map.mem_iff_lookup.mpr ⟨value, hk⟩)
    -- counted once means counted ever after, so the series is still there
    obtain ⟨value', hk'⟩ := Map.mem_iff_lookup.mp
      ((Collector.mem_after_ioctl hfresh deviceMap acts k).mpr (hpos.trans_le (hcount _)))
    refine ⟨_, (Collector.mem_collect_ioctl.mpr ⟨k, value', hk', rfl⟩).1, rfl, ?_⟩
    have hvalue' := Collector.value_after_ioctl hfresh hlen k
    rw [Tally.value_of_lookup hk] at hvalue
    rw [Tally.value_of_lookup hk'] at hvalue'
    show value.toNat ≤ value'.toNat
    rw [hvalue, hvalue']
    exact hcount _
  · rcases Collector.mem_collect_dropped.mp ⟨hm, hdesc⟩ with
      ⟨reason, value, hreason, rfl⟩ | ⟨source, lost, -, -, rfl⟩
    · have hvalue := Collector.value_after_dropped hfresh hlen' reason
      have hmem := (Collector.mem_after_dropped hfresh _ _ reason).mp
        (Map.mem_iff_lookup.mpr ⟨value, hreason⟩)
      obtain ⟨value', hreason'⟩ := Map.mem_iff_lookup.mp
        ((Collector.mem_after_dropped hfresh deviceMap acts reason).mpr hmem)
      refine ⟨_, (Collector.mem_collect_dropped.mpr
        (Or.inl ⟨reason, value', hreason', rfl⟩)).1, rfl, ?_⟩
      have hvalue' := Collector.value_after_dropped hfresh hlen reason
      rw [Tally.value_of_lookup hreason] at hvalue
      rw [Tally.value_of_lookup hreason'] at hvalue'
      show value.toNat ≤ value'.toNat
      rw [hvalue, hvalue']
      exact hcount _
    · exact absurd rfl huser

/-- **Every scrape is exact and well formed.**  After any activities with fewer
than 2^64 increments, a scrape has for every label tuple that an event resolved
to, and for every reason, the number of those events under the right label
names, and no other ioctl series; besides the reasons of the collector there is
at most the kernel's own value; no series occurs twice; and the userspace series
of every earlier scrape are still there, and no smaller. -/
theorem scrape_exact (hfresh : c₀.Fresh)
    (hlen : (outcomes deviceMap acts).countP Outcome.isCounted < 2 ^ 64) (w : ω) :
    ((∀ k, 0 < (outcomes deviceMap acts).count (.ioctl k) →
        Publishes (scrapeAfter deviceMap c₀ acts w) ioctlDesc k.labels
          ((outcomes deviceMap acts).count (.ioctl k))) ∧
      ∀ m ∈ scrapeAfter deviceMap c₀ acts w, m.desc = ioctlDesc → ∃ k, m.labels = k.labels ∧
        m.value.toNat = (outcomes deviceMap acts).count (.ioctl k) ∧
        0 < (outcomes deviceMap acts).count (.ioctl k)) ∧
    ((∀ reason ∈ dropReasons,
        Publishes (scrapeAfter deviceMap c₀ acts w) eventsDroppedDesc [("reason", reason)]
          ((outcomes deviceMap acts).count (.dropped reason))) ∧
      ∀ m ∈ scrapeAfter deviceMap c₀ acts w, m.desc = eventsDroppedDesc →
        (∃ reason ∈ dropReasons, m.labels = [("reason", reason)] ∧
          m.value.toNat = (outcomes deviceMap acts).count (.dropped reason)) ∨
        m.labels = [("reason", reasonRingbufFull)] ∧
          ∃ source, c₀.kernelDroppedSource = some source ∧ source w = .ok m.value) ∧
    ((scrapeAfter deviceMap c₀ acts w).map Metric.series).Nodup ∧
    ∀ earlier, earlier <+: acts → ∀ v, ∀ m ∈ scrapeAfter deviceMap c₀ earlier v,
      (m.desc = ioctlDesc ∨ m.desc = eventsDroppedDesc ∧ m.labelValues ≠ [reasonRingbufFull]) →
      ∃ m' ∈ scrapeAfter deviceMap c₀ acts w, m'.series = m.series ∧
        m.value.toNat ≤ m'.value.toNat := by
  refine ⟨scrape_ioctl hfresh hlen w, scrape_dropped hfresh hlen w, ?_, ?_⟩
  · refine Collector.nodup_series _ w ?_
    intro hmem
    -- the kernel's reason is not one that userspace counts under
    have hkernel := (Collector.mem_after_dropped hfresh _ _ reasonRingbufFull).mp hmem
    exact absurd hkernel (by decide)
  · intro earlier hinit v m hm hdesc
    exact scrape_monotone hfresh hlen hinit v w hm hdesc

end Exact

/-- One attributed event, a full queue, and a scrape. -/
def busyActs : List (Activity Unit) :=
  [.handled podEvent (.ok ⟨"default", "web", "app"⟩), .queueFull, .scrape ()]

/-- The tuple of that event. -/
def webTuple : Key := tupleOf ⟨"0000:00:02.0", "i915"⟩ podEvent ⟨"default", "web", "app"⟩

/-- The general statement on them: one event for the tuple, one drop for the
queue, and no series twice. -/
theorem scrape_exact_busy :
    Publishes (scrapeAfter gpuMap (newCollector Unit) busyActs ()) ioctlDesc webTuple.labels 1 ∧
      Publishes (scrapeAfter gpuMap (newCollector Unit) busyActs ()) eventsDroppedDesc
        [("reason", "queue_full")] 1 ∧
      ((scrapeAfter gpuMap (newCollector Unit) busyActs ()).map Metric.series).Nodup := by
  have hlen : (outcomes gpuMap busyActs).countP Outcome.isCounted < 2 ^ 64 := by decide
  obtain ⟨⟨hioctl, -⟩, ⟨hdropped, -⟩, hnodup, -⟩ :=
    scrape_exact (Collector.fresh_newCollector (ω := Unit)) hlen ()
  exact ⟨hioctl webTuple (by decide), hdropped "queue_full" (by decide), hnodup⟩

end KubeNpu

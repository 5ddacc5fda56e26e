import KubeNpu.Podmap.RebuildLimit

/-!
# What one call of `ContainerInfo` does to the pod map

A call may fail after it has changed the pod map: the index is rebuilt, the
counter raised and the cache emptied before the path is parsed and the runtime is
asked.  `Effect` says for every way out what changed and what did not, split by
whether the call rebuilt the index (`RebuildHappens`, in the words of the code).

The cache has no eviction of its own.  It stays bounded because its IDs are
always among those of the index, so it is never larger than the last walk.
-/

namespace KubeNpu

open Go Machine

namespace PodMap

variable {p : PodMap} {cgroupID : UInt64} {env : CallEnv}

/-- The call gets as far as `RebuildCgroupIndex`, which reports a rebuild. -/
def RebuildHappens (p : PodMap) (cgroupID : UInt64) (env : CallEnv) : Prop :=
  cgroupID ≠ 0 ∧ p.freshEntry cgroupID env.cacheCheck = none ∧
    (∃ err, p.index.parseCgroupToIDs cgroupID = .error err ∧ err.is .errNotIndexed = true) ∧
    (p.index.rebuildCgroupIndex env.rebuildCheck env.fs env.builtAt).1 = .ok true

theorem rebuildCgroupIndex_reports_iff {idx : Index} {check : Time} {fs : CgroupFS} {now : Time} :
    (idx.rebuildCgroupIndex check fs now).1 = .ok true ↔
      ¬ check.sub idx.lastUpdated < idx.interval := by
  unfold Index.rebuildCgroupIndex
  by_cases hyoung : check.sub idx.lastUpdated < idx.interval
  · simp [hyoung]
  · simp [hyoung, buildCgroupInodeMap_eq]

theorem parseCgroupToIDs_misses_iff {idx : Index} :
    (∃ err, idx.parseCgroupToIDs cgroupID = .error err ∧ err.is .errNotIndexed = true) ↔
      cgroupID ∉ idx.byInode := by
  constructor
  · rintro ⟨err, hparse, hidx⟩
    exact (parseCgroupToIDs_is_errNotIndexed hparse).mp hidx
  · exact fun habsent => ⟨_, parseCgroupToIDs_of_not_mem habsent, by simp⟩

/-- A call without a young entry rebuilds in the code's words exactly when the ID
is missing from an index that is old enough. -/
theorem rebuildHappens_iff (hid : cgroupID ≠ 0)
    (hfresh : p.freshEntry cgroupID env.cacheCheck = none) :
    p.RebuildHappens cgroupID env ↔ p.Rebuilds cgroupID env := by
  unfold RebuildHappens Rebuilds
  rw [rebuildCgroupIndex_reports_iff, parseCgroupToIDs_misses_iff]
  simp [hid, hfresh]

/-- What a call that answers `result` does to the pod map `p`, leaving `q`. -/
structure Effect (p : PodMap) (cgroupID : UInt64) (env : CallEnv)
    (result : Except Err ContainerInfo) (q : PodMap) : Prop where
  /-- The ID 0 is an error that changes nothing. -/
  emptyID : cgroupID = 0 → (∃ err, result = .error err) ∧ q = p
  /-- A young entry answers and changes nothing. -/
  hit : ∀ entry, cgroupID ≠ 0 → p.freshEntry cgroupID env.cacheCheck = some entry →
    result = .ok entry.info ∧ q = p
  /-- Without a rebuild, an error changes nothing. -/
  error_kept : ¬ p.RebuildHappens cgroupID env → ∀ err, result = .error err → q = p
  /-- Without a rebuild, a success that is no hit stores its own entry, and nothing
  else changes. -/
  ok_kept : ¬ p.RebuildHappens cgroupID env → p.freshEntry cgroupID env.cacheCheck = none →
    ∀ info, result = .ok info → q = p.store cgroupID info env.storedAt
  /-- A rebuild replaces the map and its time together and counts itself. -/
  index_rebuilt : p.RebuildHappens cgroupID env →
    q.index = { p.index with
      byInode := snapshot p.index.root env.fs
      lastUpdated := env.builtAt } ∧
    q.cgroupIndexRebuilds = p.cgroupIndexRebuilds + 1
  /-- After a rebuild, an error leaves an empty cache. -/
  error_rebuilt : p.RebuildHappens cgroupID env → ∀ err, result = .error err → q.cache = ∅
  /-- After a rebuild, a success leaves its own entry alone in the cache. -/
  ok_rebuilt : p.RebuildHappens cgroupID env → ∀ info, result = .ok info →
    q.cache = (∅ : Map UInt64 CacheEntry).insert cgroupID ⟨info, env.storedAt⟩

/-- The calls that do not get past the ID or the cache. -/
private theorem effect_of_unchanged {result : Except Err ContainerInfo}
    (hno : ¬ p.RebuildHappens cgroupID env)
    (hzero : cgroupID = 0 → ∃ err, result = .error err)
    (hhit : ∀ entry, cgroupID ≠ 0 → p.freshEntry cgroupID env.cacheCheck = some entry →
      result = .ok entry.info)
    (hmiss : p.freshEntry cgroupID env.cacheCheck = none → ∃ err, result = .error err) :
    p.Effect cgroupID env result p where
  emptyID hid := ⟨hzero hid, rfl⟩
  hit entry hid hfresh := ⟨hhit entry hid hfresh, rfl⟩
  error_kept _ _ _ := rfl
  ok_kept _ hfresh info hok := by
    obtain ⟨err, herr⟩ := hmiss hfresh
    rw [herr] at hok
    cases hok
  index_rebuilt hre := absurd hre hno
  error_rebuilt hre := absurd hre hno
  ok_rebuilt hre := absurd hre hno

/-- The calls that fail on the consulted index. -/
private theorem effect_of_error {err : Err} (hid : cgroupID ≠ 0)
    (hfresh : p.freshEntry cgroupID env.cacheCheck = none) :
    p.Effect cgroupID env (.error err) (p.consulted cgroupID env) where
  emptyID hzero := absurd hzero hid
  hit entry _ hsome := by
    rw [hfresh] at hsome
    cases hsome
  error_kept hno _ _ :=
    consulted_of_not_rebuilds fun hre => hno ((rebuildHappens_iff hid hfresh).mpr hre)
  ok_kept _ _ _ hok := by cases hok
  index_rebuilt hre := by
    rw [consulted_of_rebuilds ((rebuildHappens_iff hid hfresh).mp hre)]
    exact ⟨rfl, rfl⟩
  error_rebuilt hre _ _ := by
    rw [consulted_of_rebuilds ((rebuildHappens_iff hid hfresh).mp hre)]
    rfl
  ok_rebuilt _ _ hok := by cases hok

/-- The calls that store an answer. -/
private theorem effect_of_named {info : ContainerInfo} (hid : cgroupID ≠ 0)
    (hfresh : p.freshEntry cgroupID env.cacheCheck = none) :
    p.Effect cgroupID env (.ok info)
      ((p.consulted cgroupID env).store cgroupID info env.storedAt) where
  emptyID hzero := absurd hzero hid
  hit entry _ hsome := by
    rw [hfresh] at hsome
    cases hsome
  error_kept _ _ herr := by cases herr
  ok_kept hno _ _ hok := by
    cases hok
    rw [consulted_of_not_rebuilds fun hre => hno ((rebuildHappens_iff hid hfresh).mpr hre)]
  index_rebuilt hre := by
    rw [consulted_of_rebuilds ((rebuildHappens_iff hid hfresh).mp hre)]
    exact ⟨rfl, rfl⟩
  error_rebuilt _ _ herr := by cases herr
  ok_rebuilt hre _ hok := by
    cases hok
    rw [consulted_of_rebuilds ((rebuildHappens_iff hid hfresh).mp hre)]
    rfl

/-- **Every call has the effect**, in any pod map. -/
theorem effect_containerInfo (p : PodMap) (cgroupID : UInt64) (env : CallEnv) :
    p.Effect cgroupID env (p.containerInfo cgroupID env).1 (p.containerInfo cgroupID env).2 := by
  have hexit := p.containerInfo_exit cgroupID env
  generalize (p.containerInfo cgroupID env).1 = result at hexit
  generalize (p.containerInfo cgroupID env).2 = q at hexit
  cases hexit with
  | emptyID hzero =>
      exact effect_of_unchanged (fun hre => hre.1 hzero) (fun _ => ⟨_, rfl⟩)
        (fun _ hid => absurd hzero hid) (fun _ => ⟨_, rfl⟩)
  | hit hid hfresh =>
      refine effect_of_unchanged ?_ (fun hzero => absurd hzero hid) ?_ ?_
      · intro hre
        rw [hre.2.1] at hfresh
        cases hfresh
      · intro other _ hother
        rw [hfresh] at hother
        cases hother
        rfl
      · intro hnone
        rw [hnone] at hfresh
        cases hfresh
  | notIndexed hid hfresh => exact effect_of_error hid hfresh
  | notParsed hid hfresh => exact effect_of_error hid hfresh
  | notNamed hid hfresh => exact effect_of_error hid hfresh
  | named hid hfresh => exact effect_of_named hid hfresh

theorem Coherent.mem_index (h : p.Coherent) {c : UInt64} (hc : c ∈ p.cache) :
    c ∈ p.index.byInode := by
  obtain ⟨entry, hentry⟩ := Map.mem_iff_lookup.mp hc
  obtain ⟨path, -, hpath, -⟩ := h c entry hentry
  exact Map.mem_iff_lookup.mpr ⟨path, hpath⟩

/-- **The cache never outgrows the index.** -/
theorem Coherent.size_cache_le (h : p.Coherent) : p.cache.size ≤ p.index.byInode.size :=
  Map.size_le_of_subset fun _ hc => h.mem_index hc

end PodMap

/-- Along a run with the clock in order, the counter does not wrap. -/
theorem CallRun.toNat_rebuilds {s₀ s : CallState} {past : List (Transition CallState Call)}
    {t₀ : Time} (hcoherent : s₀.podMap.Coherent) (h : Limited t₀ [] s₀) (run : CallRun s₀ past s)
    {cgroupID : UInt64} {env : CallEnv} (horder : env.InOrder s.now)
    (hre : s.podMap.RebuildHappens cgroupID env) :
    (s.podMap.containerInfo cgroupID env).2.rebuilds.toNat = s.podMap.rebuilds.toNat + 1 := by
  have hstep : CallStep s ⟨cgroupID, env⟩
      ⟨(s.podMap.containerInfo cgroupID env).2, env.storedAt⟩ := ⟨horder, rfl⟩
  have hreplaced := (replaced_iff (CallRun.coherent hcoherent run).1 hstep).1.mpr
    ⟨hre.1, (PodMap.rebuildHappens_iff hre.1 hre.2.1).mp hre⟩
  have hbefore := (CallRun.limited hcoherent h run).counted
  have hafter := (CallRun.limited hcoherent h (run.snoc hstep)).counted
  rw [rebuildTimes_concat, if_pos hreplaced, List.length_append, List.length_singleton,
    ← hbefore] at hafter
  exact hafter

/-- **The exact effect of a call, and why the cache stays bounded.**  In every pod
map that calls lead to from the start, every call has the effect above, whatever
the tree and the runtime answer; a rebuild raises the counter by one without
wrapping as long as the clock does not go back; and the cached IDs are IDs of the
index whose paths parse, so the cache is no larger than the index. -/
theorem containerInfo_effect {cgroupRoot criSocket : String}
    {interval criTimeout cacheTTL : Duration} {env₀ : StartEnv} {p₀ : PodMap}
    (hnew : newPodMap cgroupRoot criSocket interval criTimeout cacheTTL env₀ = .ok p₀)
    {past : List (Transition CallState Call)} {s : CallState}
    (run : CallRun ⟨p₀, env₀.builtAt⟩ past s) :
    (∀ cgroupID env,
      s.podMap.Effect cgroupID env (s.podMap.containerInfo cgroupID env).1
        (s.podMap.containerInfo cgroupID env).2 ∧
      (env.InOrder s.now → s.podMap.RebuildHappens cgroupID env →
        (s.podMap.containerInfo cgroupID env).2.rebuilds.toNat = s.podMap.rebuilds.toNat + 1)) ∧
    (∀ c ∈ s.podMap.cache, c ∈ s.podMap.index.byInode ∧
      ∃ path ids, s.podMap.index.byInode.lookup c = some path ∧ parseCgroupPath path = .ok ids) ∧
    s.podMap.cache.size ≤ s.podMap.index.byInode.size := by
  have hcoherent₀ := PodMap.coherent_of_newPodMap hnew
  have hcoherent := (CallRun.coherent hcoherent₀ run).1
  refine ⟨?_, ?_, hcoherent.size_cache_le⟩
  · intro cgroupID env
    exact ⟨s.podMap.effect_containerInfo cgroupID env,
      CallRun.toNat_rebuilds hcoherent₀ (limited_of_newPodMap hnew) run⟩
  · intro c hc
    obtain ⟨entry, hentry⟩ := Map.mem_iff_lookup.mp hc
    exact ⟨hcoherent.mem_index hc, hcoherent c entry hentry⟩

/-- The statement for the node with one container, after the call that is too
early for a rebuild. -/
theorem containerInfo_effect_early :
    (∀ cgroupID env,
      afterEarly.podMap.Effect cgroupID env (afterEarly.podMap.containerInfo cgroupID env).1
        (afterEarly.podMap.containerInfo cgroupID env).2 ∧
      (env.InOrder afterEarly.now → afterEarly.podMap.RebuildHappens cgroupID env →
        (afterEarly.podMap.containerInfo cgroupID env).2.rebuilds.toNat =
          afterEarly.podMap.rebuilds.toNat + 1)) ∧
    (∀ c ∈ afterEarly.podMap.cache, c ∈ afterEarly.podMap.index.byInode ∧
      ∃ path ids, afterEarly.podMap.index.byInode.lookup c = some path ∧
        parseCgroupPath path = .ok ids) ∧
    afterEarly.podMap.cache.size ≤ afterEarly.podMap.index.byInode.size :=
  containerInfo_effect newPodMap_onePod
    (.snoc .start (l := earlyCall) ⟨inOrder_callAt (by decide) _, rfl⟩)

end KubeNpu

import KubeNpu.Podmap.Calls

/-!
# Where the names of an answer come from

Whatever `ContainerInfo` returns for a cgroup ID was said by the runtime about
the container of that ID: in this call, or in an earlier call for the same ID
whose answer is still young and was stored under the index that is in use.

The invariant `Traced` says so about every cache entry.  It survives a call
because an entry is written only where an answer was obtained, and because the
index and the cache change together.
-/

namespace KubeNpu

open Go Machine

/-- The call asks the runtime about the container `containerID`, which is the one
its cgroup path names, and the labels of the reply read as `info`. -/
def Call.Obtains (call : Call) (p : PodMap) (containerID : String) (info : ContainerInfo) :
    Prop :=
  call.cgroupID ≠ 0 ∧ p.freshEntry call.cgroupID call.env.cacheCheck = none ∧
    (∃ path ids, (p.consulted call.cgroupID call.env).index.byInode.lookup call.cgroupID =
        some path ∧ parseCgroupPath path = .ok ids ∧ ids.containerID = containerID) ∧
    ∃ status, call.env.containerStatus p.cri.criTimeout (CRIClient.statusRequest containerID) =
        .reply (some ⟨some status⟩) ∧ info = CRIClient.infoOfLabels status.labels

/-- An earlier successful call for `cgroupID` obtained the entry for the container
`containerID`, stored it no earlier than the index `index` was built, and no call
since has touched that index. -/
def StoredBy (past : List (Transition CallState Call)) (index : Index) (cgroupID : UInt64)
    (containerID : String) (entry : CacheEntry) : Prop :=
  ∃ before t after, past = before ++ t :: after ∧ t.label.cgroupID = cgroupID ∧
    t.label.result t.pre.podMap = .ok entry.info ∧
    t.label.Obtains t.pre.podMap containerID entry.info ∧
    t.label.env.storedAt = entry.storedAt ∧
    index.lastUpdated ≤ entry.storedAt ∧
    t.post.podMap.index = index ∧ ∀ u ∈ after, u.post.podMap.index = u.pre.podMap.index

/-- Every cache entry has its origin in the past. -/
structure Traced (past : List (Transition CallState Call)) (s : CallState) : Prop where
  updated : s.podMap.index.lastUpdated ≤ s.now
  cached : ∀ c entry, s.podMap.cache.lookup c = some entry → entry.storedAt ≤ s.now ∧
    ∃ path ids, s.podMap.index.byInode.lookup c = some path ∧ parseCgroupPath path = .ok ids ∧
      StoredBy past s.podMap.index c ids.containerID entry

theorem StoredBy.extend {past : List (Transition CallState Call)} {index : Index} {c : UInt64}
    {containerID : String} {entry : CacheEntry} (h : StoredBy past index c containerID entry)
    {t : Transition CallState Call} (ht : t.post.podMap.index = t.pre.podMap.index) :
    StoredBy (past ++ [t]) index c containerID entry := by
  obtain ⟨before, u, after, rfl, hc, hresult, hobtains, hstored, hupdated, hindex, hsame⟩ := h
  refine ⟨before, u, after ++ [t], by simp, hc, hresult, hobtains, hstored, hupdated, hindex, ?_⟩
  intro v hv
  rcases List.mem_append.mp hv with hold | hnew
  · exact hsame v hold
  · rw [List.mem_singleton.mp hnew]
    exact ht

namespace PodMap

variable {p : PodMap} {cgroupID : UInt64} {env : CallEnv}

/-- Entries that survive consulting belong to an index that stays. -/
theorem lookup_consulted_cache {c : UInt64} {entry : CacheEntry}
    (h : (p.consulted cgroupID env).cache.lookup c = some entry) :
    p.cache.lookup c = some entry ∧ (p.consulted cgroupID env).index = p.index := by
  by_cases hre : p.Rebuilds cgroupID env
  · rw [consulted_of_rebuilds hre] at h
    cases h
  · rw [consulted_of_not_rebuilds hre] at h ⊢
    exact ⟨h, rfl⟩

/-- The consulted index is not younger than the end of its build. -/
theorem lastUpdated_consulted (h : p.index.lastUpdated ≤ env.builtAt) :
    (p.consulted cgroupID env).index.lastUpdated ≤ env.builtAt := by
  by_cases hre : p.Rebuilds cgroupID env
  · rw [consulted_of_rebuilds hre]
    exact le_rfl
  · rwa [consulted_of_not_rebuilds hre]

end PodMap

/-- Entries of an old cache stay traced while the index does. -/
private theorem Traced.cached_extend {past : List (Transition CallState Call)}
    {s : CallState} (h : Traced past s) (call : Call) (s' : CallState) (hnow : s.now ≤ s'.now)
    (hindex : s'.podMap.index = s.podMap.index) {c : UInt64} {entry : CacheEntry}
    (hentry : s.podMap.cache.lookup c = some entry) :
    entry.storedAt ≤ s'.now ∧
      ∃ path ids, s'.podMap.index.byInode.lookup c = some path ∧
        parseCgroupPath path = .ok ids ∧
        StoredBy (past ++ [⟨s, call, s'⟩]) s'.podMap.index c ids.containerID entry := by
  obtain ⟨hstoredAt, path, ids, hpath, hparse, hstored⟩ := h.cached c entry hentry
  rw [hindex]
  exact ⟨hstoredAt.trans hnow, path, ids, hpath, hparse, hstored.extend hindex⟩

/-- A named container is one that the call obtained an answer for. -/
theorem Call.obtains_of_named {call : Call} {p : PodMap} {path : String} {ids : ToIDs}
    {info : ContainerInfo} (hid : call.cgroupID ≠ 0)
    (hmiss : p.freshEntry call.cgroupID call.env.cacheCheck = none)
    (hpath : (p.consulted call.cgroupID call.env).index.byInode.lookup call.cgroupID = some path)
    (hparse : parseCgroupPath path = .ok ids)
    (hnames : p.cri.containerNames ids.containerID call.env.containerStatus = .ok info) :
    call.Obtains p ids.containerID info :=
  ⟨hid, hmiss, ⟨path, ids, hpath, hparse, rfl⟩, CRIClient.containerNames_ok_reply hnames⟩

/-- A call that succeeds without the cache has no empty name in its answer. -/
theorem Call.names_of_miss {call : Call} {p : PodMap} {info : ContainerInfo}
    (hok : call.result p = .ok info)
    (hmiss : p.freshEntry call.cgroupID call.env.cacheCheck = none) :
    info.ns ≠ "" ∧ info.podName ≠ "" ∧ info.containerName ≠ "" := by
  have hexit := p.containerInfo_exit call.cgroupID call.env
  rw [show (p.containerInfo call.cgroupID call.env).1 = .ok info from hok] at hexit
  generalize (p.containerInfo call.cgroupID call.env).2 = q at hexit
  cases hexit with
  | hit _ hfresh =>
      rw [hmiss] at hfresh
      cases hfresh
  | named _ _ _ _ hnames => exact CRIClient.containerNames_ok hnames

/-- **One call keeps the cache traced.** -/
theorem Traced.step {past : List (Transition CallState Call)} {s : CallState}
    (h : Traced past s) {call : Call} {s' : CallState} (hstep : CallStep s call s') :
    Traced (past ++ [⟨s, call, s'⟩]) s' := by
  obtain ⟨horder, rfl⟩ := hstep
  have hbuilt : s.podMap.index.lastUpdated ≤ call.env.builtAt :=
    h.updated.trans horder.start_le_builtAt
  have hnow : s.now ≤ call.env.storedAt := horder.start_le_builtAt.trans horder.storedAt
  have hconsulted : (s.podMap.consulted call.cgroupID call.env).index.lastUpdated ≤
      call.env.builtAt :=
    PodMap.lastUpdated_consulted hbuilt
  have hexit := s.podMap.containerInfo_exit call.cgroupID call.env
  have hresult : call.result s.podMap =
      (s.podMap.containerInfo call.cgroupID call.env).1 := rfl
  generalize (s.podMap.containerInfo call.cgroupID call.env).1 = result at hexit hresult
  generalize (s.podMap.containerInfo call.cgroupID call.env).2 = q at hexit ⊢
  cases hexit with
  | emptyID | hit =>
      refine ⟨hbuilt.trans horder.storedAt, ?_⟩
      intro c entry hentry
      exact h.cached_extend call ⟨s.podMap, call.env.storedAt⟩ hnow rfl hentry
  | notIndexed | notParsed | notNamed =>
      refine ⟨hconsulted.trans horder.storedAt, ?_⟩
      intro c entry hentry
      -- an entry that outlives the call shows that the index stayed
      obtain ⟨hold, hindex⟩ := PodMap.lookup_consulted_cache hentry
      exact h.cached_extend call
        ⟨s.podMap.consulted call.cgroupID call.env, call.env.storedAt⟩ hnow hindex hold
  | @named path ids info hid hmiss hpath hparse hnames =>
      refine ⟨hconsulted.trans horder.storedAt, ?_⟩
      intro c entry hentry
      rcases eq_or_ne c call.cgroupID with rfl | hne
      · -- the entry this call wrote
        simp only [PodMap.store, AList.lookup_insert, Option.some_inj] at hentry
        subst hentry
        refine ⟨le_rfl, path, ids, hpath, hparse, past, _, [], rfl, rfl, hresult, ?_, rfl, ?_,
          rfl, ?_⟩
        · exact Call.obtains_of_named hid hmiss hpath hparse hnames
        · exact hconsulted.trans horder.storedAt
        · intro u hu
          cases hu
      · simp only [PodMap.store, AList.lookup_insert_ne hne] at hentry
        obtain ⟨hold, hindex⟩ := PodMap.lookup_consulted_cache hentry
        exact h.cached_extend call
          ⟨(s.podMap.consulted call.cgroupID call.env).store call.cgroupID info
            call.env.storedAt, call.env.storedAt⟩ hnow hindex hold

/-- **Along a run the cache stays traced.** -/
theorem CallRun.traced {s₀ s : CallState} {past : List (Transition CallState Call)}
    (h : Traced [] s₀) (run : CallRun s₀ past s) : Traced past s := by
  induction run with
  | start => exact h
  | snoc _ hstep ih => exact ih.step hstep

theorem traced_of_newPodMap {cgroupRoot criSocket : String}
    {interval criTimeout cacheTTL : Duration} {env : StartEnv} {p : PodMap}
    (h : newPodMap cgroupRoot criSocket interval criTimeout cacheTTL env = .ok p) :
    Traced [] ⟨p, env.builtAt⟩ := by
  obtain ⟨hindex, -, hcache, -⟩ := newPodMap_ok h
  refine ⟨?_, ?_⟩
  · rw [hindex]
  · intro c entry hentry
    rw [hcache] at hentry
    cases hentry

/-- **Attribution is sound.**  When a call succeeds, the index holds a path for
its ID that parses to a container, and the names are what the runtime said about
that container: to this call, or to an earlier call for the same ID that
succeeded with them less than the TTL ago and under the same index.  No name is
empty. -/
theorem containerInfo_sound {cgroupRoot criSocket : String}
    {interval criTimeout cacheTTL : Duration} {env : StartEnv} {p₀ : PodMap}
    (hnew : newPodMap cgroupRoot criSocket interval criTimeout cacheTTL env = .ok p₀)
    {past : List (Transition CallState Call)} {s s' : CallState}
    (run : CallRun ⟨p₀, env.builtAt⟩ past s) {call : Call} (hstep : CallStep s call s')
    {info : ContainerInfo} (hok : call.result s.podMap = .ok info) :
    ∃ path ids, s'.podMap.index.byInode.lookup call.cgroupID = some path ∧
      parseCgroupPath path = .ok ids ∧
      (info.ns ≠ "" ∧ info.podName ≠ "" ∧ info.containerName ≠ "") ∧
      (call.Obtains s.podMap ids.containerID info ∨
        s'.podMap.index = s.podMap.index ∧
          ∃ storedAt, StoredBy past s'.podMap.index call.cgroupID ids.containerID
              ⟨info, storedAt⟩ ∧
            storedAt ≤ call.env.cacheCheck ∧
            call.env.cacheCheck.nanos - storedAt.nanos < cacheTTL.toInt) := by
  have htraced := run.traced (traced_of_newPodMap hnew)
  have hsettings := (run.coherent (PodMap.coherent_of_newPodMap hnew)).2
  obtain ⟨horder, rfl⟩ := hstep
  have hexit := s.podMap.containerInfo_exit call.cgroupID call.env
  have hresult : (s.podMap.containerInfo call.cgroupID call.env).1 = .ok info := hok
  rw [hresult] at hexit
  generalize (s.podMap.containerInfo call.cgroupID call.env).2 = q at hexit ⊢
  cases hexit with
  | @hit entry hid hfresh =>
      obtain ⟨hentry, hyoung⟩ := PodMap.freshEntry_eq_some hfresh
      obtain ⟨hstoredAt, path, ids, hpath, hparse, hstored⟩ :=
        htraced.cached call.cgroupID entry hentry
      -- the call that stored the entry missed the cache, so its names were checked
      have hnames : entry.info.ns ≠ "" ∧ entry.info.podName ≠ "" ∧
          entry.info.containerName ≠ "" := by
        obtain ⟨-, t, -, -, -, hok', ⟨-, hmiss, -⟩, -⟩ := hstored
        exact Call.names_of_miss hok' hmiss
      refine ⟨path, ids, hpath, hparse, hnames, Or.inr ⟨rfl, entry.storedAt, hstored, ?_, ?_⟩⟩
      · exact hstoredAt.trans horder.cacheCheck
      · have hcacheTTL : s.podMap.cacheTTL = cacheTTL :=
          hsettings.cacheTTL.trans (newPodMap_ok hnew).2.2.2.1
        rw [Time.sub_lt_iff _ _ s.podMap.cacheTTL_pos, hcacheTTL] at hyoung
        exact hyoung
  | named hid hmiss hpath hparse hnames =>
      refine ⟨_, _, hpath, hparse, CRIClient.containerNames_ok hnames, Or.inl ?_⟩
      exact Call.obtains_of_named hid hmiss hpath hparse hnames

/-- A call that the runtime names the container to. -/
def namedCall : Call := ⟨4, callAt ⟨1⟩ (labelled "default" "web" "app")⟩

/-- A call for the same container, while the runtime is away. -/
def cachedCall : Call := ⟨4, callAt ⟨2⟩ (.failed .unavailable "connection refused")⟩

/-- The state after the first of the two. -/
def afterNamed : CallState := ⟨(onePodMap.containerInfo 4 namedCall.env).2, ⟨1⟩⟩

set_option maxRecDepth 4000 in
/-- The second call is answered from the cache, with the names of the first. -/
theorem containerInfo_sound_cached :
    ∃ path ids, afterNamed.podMap.index.byInode.lookup 4 = some path ∧
      parseCgroupPath path = .ok ids ∧
      (("default" : String) ≠ "" ∧ ("web" : String) ≠ "" ∧ ("app" : String) ≠ "") ∧
      (cachedCall.Obtains afterNamed.podMap ids.containerID ⟨"default", "web", "app"⟩ ∨
        afterNamed.podMap.index = afterNamed.podMap.index ∧
          ∃ storedAt, StoredBy [⟨⟨onePodMap, ⟨0⟩⟩, namedCall, afterNamed⟩]
              afterNamed.podMap.index 4 ids.containerID ⟨⟨"default", "web", "app"⟩, storedAt⟩ ∧
            storedAt ≤ (⟨2⟩ : Time) ∧
            (⟨2⟩ : Time).nanos - storedAt.nanos < (seconds 60).toInt) := by
  have run : CallRun ⟨onePodMap, ⟨0⟩⟩ [⟨⟨onePodMap, ⟨0⟩⟩, namedCall, afterNamed⟩] afterNamed :=
    .snoc .start ⟨inOrder_callAt (by decide) _, rfl⟩
  have hstep : CallStep afterNamed cachedCall
      ⟨(afterNamed.podMap.containerInfo 4 cachedCall.env).2, ⟨2⟩⟩ :=
    ⟨inOrder_callAt (by decide) _, rfl⟩
  have hok : cachedCall.result afterNamed.podMap = .ok ⟨"default", "web", "app"⟩ := by decide
  exact containerInfo_sound newPodMap_onePod run hstep hok

end KubeNpu

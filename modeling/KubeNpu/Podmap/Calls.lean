import KubeNpu.Machine.Run
import KubeNpu.Podmap.PodMap

/-!
# Runs of `ContainerInfo` calls

The single worker calls `ContainerInfo` once at a time.  Between two calls the
cgroup tree changes freely and the runtime answers as it likes; the clock does
not go back.  `CallRun` is such a run.

`Coherent` is the invariant that the cache needs: a cached ID is in the index,
under a path that parses.  It holds because a rebuild of the index empties the
cache, and it makes a cache hit harmless: `containerInfo_state` says that a call
moves the index and the rebuild counter as if the cache were not there.
-/

namespace KubeNpu

open Go Machine

/-- One call of `ContainerInfo`. -/
structure Call where
  cgroupID : UInt64
  env : CallEnv

/-- The pod map between two calls, and the last reading of the clock. -/
structure CallState where
  podMap : PodMap
  now : Time

/-- The readings of a call that begins at `start`, in program order. -/
structure CallEnv.InOrder (env : CallEnv) (start : Time) : Prop where
  cacheCheck : start ≤ env.cacheCheck
  rebuildCheck : env.cacheCheck ≤ env.rebuildCheck
  builtAt : env.rebuildCheck ≤ env.builtAt
  storedAt : env.builtAt ≤ env.storedAt

theorem inOrder_callAt {start now : Time} (h : start ≤ now) (reply : StatusReply) :
    (callAt now reply).InOrder start :=
  ⟨h, le_rfl, le_rfl, le_rfl⟩

theorem CallEnv.InOrder.start_le_builtAt {env : CallEnv} {start : Time} (h : env.InOrder start) :
    start ≤ env.builtAt :=
  h.cacheCheck.trans (h.rebuildCheck.trans h.builtAt)

/-- What a call returns in a state. -/
def Call.result (call : Call) (p : PodMap) : Except Err ContainerInfo :=
  (p.containerInfo call.cgroupID call.env).1

/-- One call. -/
def CallStep (s : CallState) (call : Call) (s' : CallState) : Prop :=
  call.env.InOrder s.now ∧
    s' = ⟨(s.podMap.containerInfo call.cgroupID call.env).2, call.env.storedAt⟩

/-- A run of calls. -/
abbrev CallRun (s₀ : CallState) (past : List (Transition CallState Call)) (s : CallState) :
    Prop :=
  Run CallStep s₀ past s

/-- A successful start builds the first snapshot and remembers its settings. -/
theorem newPodMap_ok {cgroupRoot criSocket : String} {interval criTimeout cacheTTL : Duration}
    {env : StartEnv} {p : PodMap}
    (h : newPodMap cgroupRoot criSocket interval criTimeout cacheTTL env = .ok p) :
    p.index = ⟨snapshot cgroupRoot env.fs, cgroupRoot, env.builtAt, interval⟩ ∧
      p.cri = ⟨criTimeout⟩ ∧ p.cache = ∅ ∧ p.cacheTTL = cacheTTL ∧
      p.cgroupIndexRebuilds = 0 := by
  unfold newPodMap at h
  split at h
  · cases h
  split at h
  · cases h
  split at h
  · cases h
  split at h
  · cases h
  split at h
  · cases h
  -- all arguments are valid: what is left is the build and the client
  · rename_i index hindex
    split at h
    · cases h
    · rename_i cri hcri
      cases h
      refine ⟨?_, ?_, rfl, rfl, rfl⟩
      · rw [buildCgroupIndex, buildCgroupInodeMap_eq] at hindex
        cases hindex
        rfl
      · unfold newCRIClient at hcri
        split at hcri
        · cases hcri
        split at hcri
        · cases hcri
        split at hcri
        · cases hcri
        · cases hcri
          rfl

namespace PodMap

variable {p : PodMap} {cgroupID : UInt64} {env : CallEnv}

/-- A cached ID is in the index, under a path that parses. -/
def Coherent (p : PodMap) : Prop :=
  ∀ c entry, p.cache.lookup c = some entry →
    ∃ path ids, p.index.byInode.lookup c = some path ∧ parseCgroupPath path = .ok ids

theorem freshEntry_eq_some {now : Time} {entry : CacheEntry}
    (h : p.freshEntry cgroupID now = some entry) :
    p.cache.lookup cgroupID = some entry ∧ now.sub entry.storedAt < p.cacheTTL := by
  simpa [freshEntry] using h

/-- An ID that has a young entry is not missing, so it causes no rebuild. -/
theorem Coherent.not_rebuilds {entry : CacheEntry} {now : Time} (h : p.Coherent)
    (hfresh : p.freshEntry cgroupID now = some entry) : ¬ p.Rebuilds cgroupID env := by
  rintro ⟨habsent, -⟩
  obtain ⟨path, -, hpath, -⟩ := h cgroupID entry (freshEntry_eq_some hfresh).1
  exact habsent (Map.mem_iff_lookup.mpr ⟨path, hpath⟩)

/-- The pod map a call leaves behind, up to its cache. -/
def answering (p : PodMap) (cgroupID : UInt64) (env : CallEnv) : PodMap :=
  if cgroupID = 0 then p else p.consulted cgroupID env

/-- **A call changes the index and the counter as the index alone decides**; what
else it changes is the cache. -/
theorem containerInfo_state (h : p.Coherent) (cgroupID : UInt64) (env : CallEnv) :
    ∃ cache, (p.containerInfo cgroupID env).2 = { p.answering cgroupID env with cache } := by
  have hexit := p.containerInfo_exit cgroupID env
  generalize (p.containerInfo cgroupID env).1 = result at hexit
  generalize (p.containerInfo cgroupID env).2 = q at hexit ⊢
  unfold answering
  cases hexit with
  | emptyID hid =>
      rw [if_pos hid]
      exact ⟨p.cache, rfl⟩
  | hit hid hfresh =>
      rw [if_neg hid, consulted_of_not_rebuilds (h.not_rebuilds hfresh)]
      exact ⟨p.cache, rfl⟩
  | notIndexed hid =>
      rw [if_neg hid]
      exact ⟨_, rfl⟩
  | notParsed hid =>
      rw [if_neg hid]
      exact ⟨_, rfl⟩
  | notNamed hid =>
      rw [if_neg hid]
      exact ⟨_, rfl⟩
  | named hid =>
      rw [if_neg hid]
      exact ⟨_, rfl⟩

/-- Consulting keeps coherence: the index stays, or the cache is emptied. -/
theorem Coherent.consulted (h : p.Coherent) (cgroupID : UInt64) (env : CallEnv) :
    (p.consulted cgroupID env).Coherent := by
  by_cases hre : p.Rebuilds cgroupID env
  · rw [consulted_of_rebuilds hre]
    intro c entry hentry
    cases hentry
  · rw [consulted_of_not_rebuilds hre]
    exact h

/-- Storing keeps it when the ID has a path that parses. -/
theorem Coherent.store {path : String} {ids : ToIDs} (h : p.Coherent)
    (hpath : p.index.byInode.lookup cgroupID = some path) (hparse : parseCgroupPath path = .ok ids)
    (info : ContainerInfo) (now : Time) : (p.store cgroupID info now).Coherent := by
  intro c entry hentry
  rcases eq_or_ne c cgroupID with rfl | hne
  · exact ⟨path, ids, hpath, hparse⟩
  · exact h c entry (by rwa [PodMap.store, AList.lookup_insert_ne hne] at hentry)

/-- **Every call keeps the cache coherent.** -/
theorem Coherent.containerInfo (h : p.Coherent) (cgroupID : UInt64) (env : CallEnv) :
    (p.containerInfo cgroupID env).2.Coherent := by
  have hexit := p.containerInfo_exit cgroupID env
  generalize (p.containerInfo cgroupID env).1 = result at hexit
  generalize (p.containerInfo cgroupID env).2 = q at hexit ⊢
  cases hexit with
  | emptyID => exact h
  | hit => exact h
  | notIndexed => exact h.consulted cgroupID env
  | notParsed => exact h.consulted cgroupID env
  | notNamed => exact h.consulted cgroupID env
  | named _ _ hpath hparse _ => exact (h.consulted cgroupID env).store hpath hparse _ _

/-- What a pod map never changes. -/
structure SameSettings (p q : PodMap) : Prop where
  root : q.index.root = p.index.root
  interval : q.index.interval = p.index.interval
  cri : q.cri = p.cri
  cacheTTL : q.cacheTTL = p.cacheTTL

theorem SameSettings.refl (p : PodMap) : p.SameSettings p := ⟨rfl, rfl, rfl, rfl⟩

theorem SameSettings.trans {p q r : PodMap} (h₁ : p.SameSettings q) (h₂ : q.SameSettings r) :
    p.SameSettings r :=
  ⟨h₂.root.trans h₁.root, h₂.interval.trans h₁.interval, h₂.cri.trans h₁.cri,
    h₂.cacheTTL.trans h₁.cacheTTL⟩

theorem sameSettings_answering (p : PodMap) (cgroupID : UInt64) (env : CallEnv) :
    p.SameSettings (p.answering cgroupID env) := by
  unfold answering consulted
  split
  · exact .refl p
  · split
    · exact ⟨rfl, rfl, rfl, rfl⟩
    · exact .refl p

theorem sameSettings_containerInfo (h : p.Coherent) (cgroupID : UInt64) (env : CallEnv) :
    p.SameSettings (p.containerInfo cgroupID env).2 := by
  obtain ⟨cache, hstate⟩ := containerInfo_state h cgroupID env
  have hsame := p.sameSettings_answering cgroupID env
  rw [hstate]
  exact ⟨hsame.root, hsame.interval, hsame.cri, hsame.cacheTTL⟩

end PodMap

/-! ## Every reachable pod map -/

theorem PodMap.coherent_of_newPodMap {cgroupRoot criSocket : String}
    {interval criTimeout cacheTTL : Duration} {env : StartEnv} {p : PodMap}
    (h : newPodMap cgroupRoot criSocket interval criTimeout cacheTTL env = .ok p) :
    p.Coherent := by
  intro c entry hentry
  rw [(newPodMap_ok h).2.2.1] at hentry
  cases hentry

/-- **Along a run the cache stays coherent and the settings stay the same.** -/
theorem CallRun.coherent {s₀ s : CallState} {past : List (Transition CallState Call)}
    (h : s₀.podMap.Coherent) (run : CallRun s₀ past s) :
    s.podMap.Coherent ∧ s₀.podMap.SameSettings s.podMap := by
  refine run.invariant (I := fun s => s.podMap.Coherent ∧ s₀.podMap.SameSettings s.podMap)
    ⟨h, .refl _⟩ ?_
  rintro s call s' ⟨hcoherent, hsame⟩ ⟨-, rfl⟩
  exact ⟨hcoherent.containerInfo _ _, hsame.trans (PodMap.sameSettings_containerInfo hcoherent _ _)⟩

end KubeNpu

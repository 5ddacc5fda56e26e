import KubeNpu.Machine.Memo
import KubeNpu.Podmap.Effect

/-!
# A pod map in a world that does not change

The cache and the index save walks of the cgroup tree and questions to the
runtime.  As long as neither the tree nor the runtime changes, they save nothing
but work: every call answers as a lookup would that walks the tree and asks the
runtime each time (`plainInfo`), whatever the clock does and whatever was called
before.

`Settled` is the invariant: the index is the snapshot of the tree, and the cache
is a memo table of plain answers.  A pod map is settled from its start, and also
from the first rebuild on after the world has stopped changing.
-/

namespace KubeNpu

open Go Machine

/-- What a call of `ContainerInfo` sees besides the clock: the cgroup tree and the
runtime service. -/
structure Surroundings where
  fs : CgroupFS
  containerStatus : ContainerStatusFn

/-- The call happens in these surroundings. -/
def CallEnv.In (env : CallEnv) (w : Surroundings) : Prop :=
  env.fs = w.fs ∧ env.containerStatus = w.containerStatus

/-- The answer without a cache and without an index that is kept: walk the tree,
find the path, parse it, ask the runtime. -/
def plainInfo (root : String) (cri : CRIClient) (w : Surroundings) (cgroupID : UInt64) :
    Except Err ContainerInfo :=
  if cgroupID = 0 then .error (.errorf "cgroup ID is empty" [])
  else
    match (snapshot root w.fs).lookup cgroupID with
    | none => .error (.sentinel .errNotIndexed)
    | some path =>
        match parseCgroupPath path with
        | .error err => .error err
        | .ok ids => cri.containerNames ids.containerID w.containerStatus

/-- Two results that no caller can tell apart by their value or by `errors.Is`. -/
def SameAnswer : Except Err ContainerInfo → Except Err ContainerInfo → Prop
  | .ok info, .ok info' => info = info'
  | .error err, .error err' => ∀ s, err.is s = err'.is s
  | _, _ => False

/-- Errors with the same one sentinel. -/
theorem sameAnswer_of_sentinel {err : Err} {s : Sentinel} (h : err.is s = true) :
    SameAnswer (.error err) (.error (.sentinel s)) := by
  intro target
  rw [Error.is_sentinel, Bool.eq_iff_iff, decide_eq_true_eq]
  constructor
  · exact fun htarget => Error.is_unique h htarget
  · rintro rfl
    exact h

namespace PodMap

variable {w : Surroundings} {p : PodMap} {cgroupID : UInt64} {env : CallEnv}

/-- The plain answer with the settings of a pod map. -/
def plain (p : PodMap) (w : Surroundings) (cgroupID : UInt64) : Except Err ContainerInfo :=
  plainInfo p.index.root p.cri w cgroupID

/-- The index is the snapshot of the tree, and the cache remembers plain answers. -/
structure Settled (w : Surroundings) (p : PodMap) : Prop where
  index : p.index.byInode = snapshot p.index.root w.fs
  cache : Memo.Agrees CacheEntry.info (fun c => (p.plain w c).toOption) p.cache

theorem SameSettings.plain_eq {q : PodMap} (h : p.SameSettings q) (w : Surroundings) :
    q.plain w = p.plain w := by
  funext c
  rw [plain, plain, h.root, h.cri]

theorem sameSettings_consulted (p : PodMap) (cgroupID : UInt64) (env : CallEnv) :
    p.SameSettings (p.consulted cgroupID env) := by
  unfold consulted
  split
  · exact ⟨rfl, rfl, rfl, rfl⟩
  · exact .refl p

theorem sameSettings_store (p : PodMap) (info : ContainerInfo) (now : Time) :
    p.SameSettings (p.store cgroupID info now) := ⟨rfl, rfl, rfl, rfl⟩

/-- A call changes no settings, whatever the cache holds. -/
theorem sameSettings_call (p : PodMap) (cgroupID : UInt64) (env : CallEnv) :
    p.SameSettings (p.containerInfo cgroupID env).2 := by
  have hexit := p.containerInfo_exit cgroupID env
  have hconsulted := p.sameSettings_consulted cgroupID env
  generalize (p.containerInfo cgroupID env).1 = result at hexit
  generalize (p.containerInfo cgroupID env).2 = q at hexit ⊢
  cases hexit with
  | emptyID => exact .refl p
  | hit => exact .refl p
  | notIndexed => exact hconsulted
  | notParsed => exact hconsulted
  | notNamed => exact hconsulted
  | named => exact hconsulted.trans (sameSettings_store _ _ _)

/-- A rebuild in these surroundings settles any pod map. -/
theorem settled_rebuilt (p : PodMap) (h : env.In w) : (p.rebuilt env).Settled w := by
  refine ⟨?_, Memo.agrees_empty⟩
  rw [← h.1]
  rfl

/-- Consulting keeps a pod map settled. -/
theorem Settled.consulted (h : p.Settled w) (hin : env.In w) :
    (p.consulted cgroupID env).Settled w := by
  by_cases hre : p.Rebuilds cgroupID env
  · rw [consulted_of_rebuilds hre]
    exact settled_rebuilt p hin
  · rw [consulted_of_not_rebuilds hre]
    exact h

/-- Storing a plain answer does, too. -/
theorem Settled.store {info : ContainerInfo} (h : p.Settled w)
    (hplain : p.plain w cgroupID = .ok info) (now : Time) :
    (p.store cgroupID info now).Settled w := by
  refine ⟨h.index, ?_⟩
  rw [(p.sameSettings_store info now).plain_eq]
  refine h.cache.insert ?_
  rw [hplain]
  rfl

/-! ## What the consulted index answers -/

theorem plain_of_not_mem (h : p.Settled w) (hid : cgroupID ≠ 0)
    (habsent : cgroupID ∉ p.index.byInode) :
    p.plain w cgroupID = .error (.sentinel .errNotIndexed) := by
  have hnone := AList.lookup_eq_none.mpr habsent
  rw [h.index] at hnone
  simp only [plain, plainInfo, if_neg hid, hnone]

theorem plain_of_lookup (h : p.Settled w) (hid : cgroupID ≠ 0) {path : String}
    (hpath : p.index.byInode.lookup cgroupID = some path) :
    p.plain w cgroupID =
      match parseCgroupPath path with
      | .error err => .error err
      | .ok ids => p.cri.containerNames ids.containerID w.containerStatus := by
  rw [h.index] at hpath
  simp only [plain, plainInfo, if_neg hid, hpath]

/-! ## One call -/

/-- A call that the cache does not answer gives the plain answer as soon as the
index it consults is settled. -/
theorem answer_of_consulted (hc : (p.consulted cgroupID env).Settled w) (hin : env.In w)
    (hid : cgroupID ≠ 0) (hmiss : p.freshEntry cgroupID env.cacheCheck = none) :
    SameAnswer (p.containerInfo cgroupID env).1 (p.plain w cgroupID) ∧
      (p.containerInfo cgroupID env).2.Settled w := by
  have hexit := p.containerInfo_exit cgroupID env
  generalize (p.containerInfo cgroupID env).1 = result at hexit ⊢
  generalize (p.containerInfo cgroupID env).2 = q at hexit ⊢
  rw [← (p.sameSettings_consulted cgroupID env).plain_eq w]
  cases hexit with
  | emptyID hzero => exact absurd hzero hid
  | hit _ hfresh =>
      rw [hmiss] at hfresh
      cases hfresh
  | notIndexed _ _ habsent hidx =>
      rw [plain_of_not_mem hc hid habsent]
      exact ⟨sameAnswer_of_sentinel hidx, hc⟩
  | notParsed _ _ hpath hparse hsame =>
      rw [plain_of_lookup hc hid hpath, hparse]
      exact ⟨hsame, hc⟩
  | notNamed _ _ hpath hparse hnames hsame =>
      rw [plain_of_lookup hc hid hpath, hparse, consulted_cri, ← hin.2]
      simp only [hnames]
      exact ⟨hsame, hc⟩
  | @named path ids info _ _ hpath hparse hnames =>
      have hplain : (p.consulted cgroupID env).plain w cgroupID = .ok info := by
        rw [plain_of_lookup hc hid hpath, hparse, consulted_cri, ← hin.2]
        exact hnames
      rw [hplain]
      exact ⟨rfl, hc.store hplain env.storedAt⟩

/-- **One call of a settled pod map gives the plain answer and leaves it settled.** -/
theorem Settled.containerInfo (h : p.Settled w) (hin : env.In w) (cgroupID : UInt64) :
    SameAnswer (p.containerInfo cgroupID env).1 (p.plain w cgroupID) ∧
      (p.containerInfo cgroupID env).2.Settled w := by
  by_cases hid : cgroupID = 0
  · simp only [PodMap.containerInfo, plain, plainInfo, if_pos hid]
    exact ⟨fun s => rfl, h⟩
  cases hfresh : p.freshEntry cgroupID env.cacheCheck with
  | none => exact answer_of_consulted (h.consulted hin) hin hid hfresh
  | some entry =>
      -- the cache remembers a plain answer
      have hplain : (p.plain w cgroupID).toOption = some entry.info :=
        h.cache cgroupID entry (freshEntry_eq_some hfresh).1
      simp only [PodMap.containerInfo, if_neg hid, hfresh]
      refine ⟨?_, h⟩
      cases hresult : p.plain w cgroupID with
      | error err =>
          rw [hresult] at hplain
          cases hplain
      | ok info =>
          rw [hresult] at hplain
          exact (Option.some_inj.mp hplain).symm

/-- **A call that rebuilds the index leaves a settled pod map**, whatever the index
and the cache were before. -/
theorem settled_of_rebuildHappens (h : p.RebuildHappens cgroupID env) (hin : env.In w) :
    (p.containerInfo cgroupID env).2.Settled w := by
  have hre : p.Rebuilds cgroupID env := (rebuildHappens_iff h.1 h.2.1).mp h
  have hc : (p.consulted cgroupID env).Settled w := by
    rw [consulted_of_rebuilds hre]
    exact settled_rebuilt p hin
  exact (answer_of_consulted hc hin h.1 h.2.1).2

/-- A start in these surroundings is settled. -/
theorem settled_of_newPodMap {cgroupRoot criSocket : String}
    {interval criTimeout cacheTTL : Duration} {start : StartEnv} {p : PodMap}
    (hnew : newPodMap cgroupRoot criSocket interval criTimeout cacheTTL start = .ok p)
    (hfs : start.fs = w.fs) : p.Settled w := by
  obtain ⟨hindex, -, hcache, -⟩ := newPodMap_ok hnew
  refine ⟨?_, ?_⟩
  · rw [hindex, ← hfs]
  · rw [hcache]
    exact Memo.agrees_empty

end PodMap

end KubeNpu

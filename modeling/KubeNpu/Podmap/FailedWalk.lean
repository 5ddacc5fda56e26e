import KubeNpu.Podmap.Calls

/-!
# What a walk of an unreadable root does to the index

The walk function answers nil to every error it is told, also to one about the
root itself, so a walk that could read nothing looks like a walk of an empty
tree.  The error paths of `buildCgroupIndex`, `rebuildCgroupIndex` and
`containerInfo` that stand behind the walk are never taken: the index is
replaced, the cache emptied and the rebuild counted.
-/

namespace KubeNpu

open Go

/-- The root of the walk cannot be read: its `lstat` fails, or listing it does. -/
def RootUnreadable : CgroupFS → Prop
  | .error _ => True
  | .ok tree => tree.entry.isDir = true ∧ tree.listErr.isSome = true

/-- The rebuild fails and leaves the index alone. -/
def Index.FailsUnchanged (idx : Index) (check : Time) (fs : CgroupFS) (now : Time) : Prop :=
  ∃ err, idx.rebuildCgroupIndex check fs now = (.error err, idx)

/-- The call reports an error, with the cache and the counter as before. -/
def PodMap.FailsUnchanged (p : PodMap) (cgroupID : UInt64) (env : CallEnv) : Prop :=
  (∃ err, (p.containerInfo cgroupID env).1 = .error err) ∧
    (p.containerInfo cgroupID env).2.cache = p.cache ∧
    (p.containerInfo cgroupID env).2.rebuilds = p.rebuilds

/-- The walk function is told about a root that cannot be read. -/
theorem RootUnreadable.visited {fs : CgroupFS} (h : RootUnreadable fs) (root : String) :
    ∃ d err, (⟨root, d, some err⟩ : Visit FileInfo Err) ∈ rootVisits root fs := by
  cases fs with
  | error err => exact ⟨none, err, List.mem_singleton_self _⟩
  | ok tree =>
      obtain ⟨entry, listErr, children⟩ := tree
      obtain ⟨hdir, hlist⟩ : entry.isDir = true ∧ listErr.isSome = true := h
      obtain ⟨err, rfl⟩ := Option.isSome_iff_exists.mp hlist
      refine ⟨some entry, err, ?_⟩
      rw [rootVisits, visits, if_pos hdir]
      exact List.mem_cons_of_mem _ List.mem_cons_self

/-- Past the interval a rebuild replaces the index, whatever the walk met. -/
theorem Index.rebuildCgroupIndex_of_old {idx : Index} {check : Time}
    (h : ¬ check.sub idx.lastUpdated < idx.interval) (fs : CgroupFS) (now : Time) :
    idx.rebuildCgroupIndex check fs now =
      (.ok true, { idx with byInode := snapshot idx.root fs, lastUpdated := now }) := by
  simp only [Index.rebuildCgroupIndex, if_neg h, buildCgroupInodeMap_eq]

/-- So a rebuild never fails at all. -/
theorem Index.not_failsUnchanged (idx : Index) (check : Time) (fs : CgroupFS) (now : Time) :
    ¬ idx.FailsUnchanged check fs now := by
  rintro ⟨err, h⟩
  by_cases hyoung : check.sub idx.lastUpdated < idx.interval
  · rw [Index.rebuildCgroupIndex, if_pos hyoung] at h
    cases h
  · rw [Index.rebuildCgroupIndex_of_old hyoung] at h
    cases h

/-- A call that rebuilds counts the rebuild. -/
theorem PodMap.not_failsUnchanged {p : PodMap} (hcoherent : p.Coherent) {cgroupID : UInt64}
    {env : CallEnv} (hid : cgroupID ≠ 0) (h : p.Rebuilds cgroupID env) :
    ¬ p.FailsUnchanged cgroupID env := by
  rintro ⟨-, -, hcount⟩
  obtain ⟨cache, hstate⟩ := containerInfo_state hcoherent cgroupID env
  rw [hstate, answering, if_neg hid, consulted_of_rebuilds h] at hcount
  have hsucc : p.cgroupIndexRebuilds + 1 = p.cgroupIndexRebuilds := hcount
  simp at hsucc

/-- Nothing is left in the cache but, perhaps, the answer of the call itself. -/
theorem PodMap.cache_of_rebuilds {p : PodMap} (hcoherent : p.Coherent) {cgroupID : UInt64}
    {env : CallEnv} (hid : cgroupID ≠ 0) (h : p.Rebuilds cgroupID env) {c : UInt64}
    (hc : c ≠ cgroupID) : (p.containerInfo cgroupID env).2.cache.lookup c = none := by
  have hexit := p.containerInfo_exit cgroupID env
  generalize (p.containerInfo cgroupID env).1 = result at hexit
  generalize (p.containerInfo cgroupID env).2 = q at hexit ⊢
  cases hexit with
  | emptyID hzero => exact absurd hzero hid
  | hit _ hfresh => exact absurd h (hcoherent.not_rebuilds hfresh)
  | notIndexed | notParsed | notNamed =>
      rw [consulted_of_rebuilds h]
      rfl
  | named =>
      rw [consulted_of_rebuilds h, PodMap.store, AList.lookup_insert_ne hc]
      rfl

/-- **An unreadable root is never an error.**  The walk function is told about it,
and the build of the index succeeds all the same, as does the start of a pod map
whose other arguments are valid; a rebuild past the interval reports success and
replaces the index; and a call that runs into it, in any pod map a run leads to,
empties the cache and counts a rebuild. -/
theorem unreadable_root_replaces_index (fs : CgroupFS) (hfs : RootUnreadable fs) :
    (∀ root, (∃ d err, (⟨root, d, some err⟩ : Visit FileInfo Err) ∈ rootVisits root fs) ∧
      ¬ ∃ err, buildCgroupInodeMap root fs = .error err) ∧
    (∀ root interval now, ¬ ∃ err, buildCgroupIndex root interval fs now = .error err) ∧
    (∀ root criSocket interval criTimeout cacheTTL builtAt dial cri, root ≠ "" → criSocket ≠ "" →
      0 < interval → 0 < cacheTTL → newCRIClient criSocket criTimeout dial = .ok cri →
      ¬ ∃ err, newPodMap root criSocket interval criTimeout cacheTTL ⟨fs, builtAt, dial⟩ =
        .error err) ∧
    (∀ (idx : Index) check now, ¬ idx.FailsUnchanged check fs now ∧
      (¬ check.sub idx.lastUpdated < idx.interval → idx.rebuildCgroupIndex check fs now =
        (.ok true, { idx with byInode := snapshot idx.root fs, lastUpdated := now }))) ∧
    (∀ {cgroupRoot criSocket : String} {interval criTimeout cacheTTL : Duration}
      {env₀ : StartEnv} {p₀ : PodMap} {past : List (Machine.Transition CallState Call)}
      {s : CallState},
      newPodMap cgroupRoot criSocket interval criTimeout cacheTTL env₀ = .ok p₀ →
      CallRun ⟨p₀, env₀.builtAt⟩ past s → ∀ cgroupID env, env.fs = fs → cgroupID ≠ 0 →
      s.podMap.Rebuilds cgroupID env → ¬ s.podMap.FailsUnchanged cgroupID env ∧
        ∀ c, c ≠ cgroupID → (s.podMap.containerInfo cgroupID env).2.cache.lookup c = none) := by
  refine ⟨?_, ?_, ?_, ?_, ?_⟩
  · refine fun root => ⟨hfs.visited root, ?_⟩
    rintro ⟨err, h⟩
    rw [buildCgroupInodeMap_eq] at h
    cases h
  · rintro root interval now ⟨err, h⟩
    rw [buildCgroupIndex, buildCgroupInodeMap_eq] at h
    cases h
  · rintro root criSocket interval criTimeout cacheTTL builtAt dial cri hroot hsocket hinterval
      hcacheTTL hcri ⟨err, h⟩
    unfold newPodMap at h
    rw [if_neg hroot, if_neg hsocket, dif_neg (Int64.not_le.mpr hinterval),
      dif_neg (Int64.not_le.mpr hcacheTTL)] at h
    split at h
    · rename_i hindex
      -- the build is the only error left, and it never fails
      rw [buildCgroupIndex, buildCgroupInodeMap_eq] at hindex
      cases hindex
    · rw [hcri] at h
      cases h
  · exact fun idx check now =>
      ⟨idx.not_failsUnchanged check fs now, fun hold => Index.rebuildCgroupIndex_of_old hold fs now⟩
  · intro cgroupRoot criSocket interval criTimeout cacheTTL env₀ p₀ past s hnew run cgroupID env
      henv hid hre
    have hcoherent := (CallRun.coherent (PodMap.coherent_of_newPodMap hnew) run).1
    exact ⟨PodMap.not_failsUnchanged hcoherent hid hre,
      fun c hc => PodMap.cache_of_rebuilds hcoherent hid hre hc⟩

/-- The cgroup file system while its mount point does not answer. -/
def staleFS : CgroupFS := .error (.external "lstat /cgroup: stale NFS file handle")

/-- A call for a new cgroup ten seconds later, when the root cannot be read. -/
def staleEnv : CallEnv :=
  { callAt ⟨seconds 10⟩ (labelled "default" "web" "app") with fs := staleFS }

set_option maxRecDepth 4000 in
/-- The general statement at that file system. -/
theorem unreadable_root_stale :
    (∃ d err, (⟨"/cgroup", d, some err⟩ : Visit FileInfo Err) ∈ rootVisits "/cgroup" staleFS) ∧
      ¬ onePodMap.index.FailsUnchanged ⟨seconds 10⟩ staleFS ⟨seconds 10⟩ :=
  have h := unreadable_root_replaces_index staleFS trivial
  ⟨(h.1 "/cgroup").1, (h.2.2.2.1 onePodMap.index ⟨seconds 10⟩ ⟨seconds 10⟩).1⟩

set_option maxRecDepth 4000 in
/-- **A good index is lost**: the rebuild on the stale file system reports success
with an empty map, the start builds an empty index there, and a call for another
cgroup leaves the running container without its entry. -/
theorem stale_root_loses_index :
    RootUnreadable staleFS ∧ buildCgroupInodeMap "/cgroup" staleFS = .ok ∅ ∧
      newPodMap "/cgroup" "/cri.sock" (seconds 5) (seconds 5) (seconds 60)
          ⟨staleFS, ⟨0⟩, ⟨none, none⟩⟩ =
        .ok { onePodMap with index := { onePodMap.index with byInode := ∅ } } ∧
      (onePodMap.index.rebuildCgroupIndex ⟨seconds 10⟩ staleFS ⟨seconds 10⟩).1 = .ok true ∧
      4 ∈ onePodMap.index.byInode ∧
      4 ∉ (onePodMap.containerInfo 9 staleEnv).2.index.byInode ∧
      (onePodMap.containerInfo 9 staleEnv).2.rebuilds = 1 := by
  refine ⟨trivial, rfl, rfl, by decide, by decide, by decide, by decide⟩

end KubeNpu

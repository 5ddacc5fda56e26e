import KubeNpu.Podmap.Cgroup
import KubeNpu.Podmap.Cri

/-!
# `pkg/podmap/podmap.go`: from a cgroup ID to a container

`containerInfo` answers from a cache while an entry is young, otherwise from the
cgroup index and the container runtime; an ID the index lacks rebuilds the index,
at most once per interval, and a rebuild empties the cache.

A `PodMap` carries the two positivity checks of `newPodMap` as fields.  The one
theorem later modules use about `containerInfo` is `containerInfo_exit`: the
exits of a call, with the state each leaves behind.  The index that a call
answers from is the same at every exit, `consulted`.
-/

namespace KubeNpu

open Go

/-- `podmap.cacheEntry`. -/
structure CacheEntry where
  info : ContainerInfo
  storedAt : Time
  deriving DecidableEq

/-- `podmap.PodMap`, less the lock of its cache. -/
structure PodMap where
  index : Index
  cri : CRIClient
  cache : Map UInt64 CacheEntry
  cacheTTL : Duration
  cgroupIndexRebuilds : UInt64
  interval_pos : 0 < index.interval
  cacheTTL_pos : 0 < cacheTTL

/-- The world during the start of the agent: the cgroup tree, the clock after the
first walk, and the runtime socket. -/
structure StartEnv where
  fs : CgroupFS
  builtAt : Time
  dial : DialReply

/-- `NewPodMap`. -/
def newPodMap (cgroupRoot criSocket : String) (interval criTimeout cacheTTL : Duration)
    (env : StartEnv) : Except Err PodMap :=
  if cgroupRoot = "" then .error (.errorf "cgroup root is empty" [])
  else if criSocket = "" then .error (.errorf "CRI socket is empty" [])
  else if hinterval : interval ≤ 0 then .error (.errorf "interval must be positive" [])
  else if httl : cacheTTL ≤ 0 then .error (.errorf "cache TTL must be positive" [])
  else
    match hindex : buildCgroupIndex cgroupRoot interval env.fs env.builtAt with
    | .error err => .error (.wrapf "build cgroup index: %w" [] err)
    | .ok index =>
        match newCRIClient criSocket criTimeout env.dial with
        | .error err => .error (.wrapf "create CRI client: %w" [] err)
        | .ok cri =>
            .ok
              { index, cri, cache := ∅, cacheTTL, cgroupIndexRebuilds := 0
                interval_pos := by
                  rw [buildCgroupIndex, buildCgroupInodeMap_eq] at hindex
                  cases hindex
                  exact Int64.not_le.mp hinterval
                cacheTTL_pos := Int64.not_le.mp httl }

/-- The world during one call of `containerInfo`: the clock where the code reads
it, in program order, the cgroup tree, and the runtime service. -/
structure CallEnv where
  /-- `time.Since(entry.storedAt)`. -/
  cacheCheck : Time
  /-- `time.Since(idx.lastUpdated)`. -/
  rebuildCheck : Time
  fs : CgroupFS
  /-- `idx.lastUpdated = time.Now()`. -/
  builtAt : Time
  containerStatus : ContainerStatusFn
  /-- `storedAt: time.Now()`. -/
  storedAt : Time

theorem Index.rebuildCgroupIndex_interval (idx : Index) (check : Time) (fs : CgroupFS)
    (now : Time) : (idx.rebuildCgroupIndex check fs now).2.interval = idx.interval := by
  unfold Index.rebuildCgroupIndex
  split
  · rfl
  · split <;> rfl

namespace PodMap

/-- `p.cache[cgroupID]`, if it is there and younger than the TTL. -/
def freshEntry (p : PodMap) (cgroupID : UInt64) (now : Time) : Option CacheEntry :=
  (p.cache.lookup cgroupID).filter fun entry => now.sub entry.storedAt < p.cacheTTL

/-- The pod map after `p.index.RebuildCgroupIndex()`. -/
def afterRebuild (p : PodMap) (env : CallEnv) : PodMap :=
  { p with
    index := (p.index.rebuildCgroupIndex env.rebuildCheck env.fs env.builtAt).2
    interval_pos := by
      rw [Index.rebuildCgroupIndex_interval]
      exact p.interval_pos }

/-- The middle of `ContainerInfo`: the IDs of a cgroup, with a rebuild of the
index when it lacks the cgroup. -/
def resolve (p : PodMap) (cgroupID : UInt64) (env : CallEnv) : Except Err ToIDs × PodMap :=
  match p.index.parseCgroupToIDs cgroupID with
  | .ok ids => (.ok ids, p)
  | .error err =>
      if err.is .errNotIndexed then
        match (p.index.rebuildCgroupIndex env.rebuildCheck env.fs env.builtAt).1 with
        | .error rerr => (.error (.wrapf "rebuild cgroup index: %w" [] rerr), p.afterRebuild env)
        | .ok false => (.error err, p.afterRebuild env)
        | .ok true =>
            let p := { p.afterRebuild env with
              cgroupIndexRebuilds := p.cgroupIndexRebuilds + 1
              cache := ∅ }
            match p.index.parseCgroupToIDs cgroupID with
            | .error err =>
                (.error (.wrapf "parse cgroup %d after rebuild: %w" [.num cgroupID.toNat] err), p)
            | .ok ids => (.ok ids, p)
      else (.error (.wrapf "parse cgroup %d: %w" [.num cgroupID.toNat] err), p)

/-- `p.cache[cgroupID] = cacheEntry{info, now}`. -/
def store (p : PodMap) (cgroupID : UInt64) (info : ContainerInfo) (now : Time) : PodMap :=
  { p with cache := p.cache.insert cgroupID { info, storedAt := now } }

/-- `PodMap.ContainerInfo`. -/
def containerInfo (p : PodMap) (cgroupID : UInt64) (env : CallEnv) :
    Except Err ContainerInfo × PodMap :=
  if cgroupID = 0 then (.error (.errorf "cgroup ID is empty" []), p)
  else
    match p.freshEntry cgroupID env.cacheCheck with
    | some entry => (.ok entry.info, p)
    | none =>
        match p.resolve cgroupID env with
        | (.error err, p) => (.error err, p)
        | (.ok ids, p) =>
            match p.cri.containerNames ids.containerID env.containerStatus with
            | .error err =>
                (.error (.wrapf "get container info for cgroup %d: %w" [.num cgroupID.toNat] err),
                  p)
            | .ok info => (.ok info, p.store cgroupID info env.storedAt)

/-- `PodMap.CgroupIndexRebuilds`. -/
def rebuilds (p : PodMap) : UInt64 := p.cgroupIndexRebuilds

/-! ## The index a call answers from -/

/-- The call finds its ID missing from an index that is old enough. -/
def Rebuilds (p : PodMap) (cgroupID : UInt64) (env : CallEnv) : Prop :=
  cgroupID ∉ p.index.byInode ∧ ¬ env.rebuildCheck.sub p.index.lastUpdated < p.index.interval

instance (p : PodMap) (cgroupID : UInt64) (env : CallEnv) :
    Decidable (p.Rebuilds cgroupID env) :=
  inferInstanceAs (Decidable (_ ∧ _))

/-- The pod map right after a rebuild: a new snapshot, its time, an empty cache,
and one more rebuild on the counter. -/
def rebuilt (p : PodMap) (env : CallEnv) : PodMap :=
  { p with
    index := { p.index with
      byInode := snapshot p.index.root env.fs
      lastUpdated := env.builtAt }
    cache := ∅
    cgroupIndexRebuilds := p.cgroupIndexRebuilds + 1 }

/-- The pod map whose index answers a call that the cache does not answer. -/
def consulted (p : PodMap) (cgroupID : UInt64) (env : CallEnv) : PodMap :=
  if p.Rebuilds cgroupID env then p.rebuilt env else p

variable {p : PodMap} {cgroupID : UInt64} {env : CallEnv}

theorem consulted_of_rebuilds (h : p.Rebuilds cgroupID env) :
    p.consulted cgroupID env = p.rebuilt env := if_pos h

theorem consulted_of_not_rebuilds (h : ¬ p.Rebuilds cgroupID env) :
    p.consulted cgroupID env = p := if_neg h

@[simp] theorem consulted_cri : (p.consulted cgroupID env).cri = p.cri := by
  unfold consulted
  split <;> rfl

theorem parseCgroupToIDs_of_lookup {idx : Index} {path : String}
    (h : idx.byInode.lookup cgroupID = some path) :
    idx.parseCgroupToIDs cgroupID = parseCgroupPath path := by
  simp only [Index.parseCgroupToIDs, Index.lookup, h]

theorem parseCgroupToIDs_of_not_mem {idx : Index} (h : cgroupID ∉ idx.byInode) :
    idx.parseCgroupToIDs cgroupID = .error (.sentinel .errNotIndexed) := by
  simp only [Index.parseCgroupToIDs, Index.lookup, AList.lookup_eq_none.mpr h]

/-- The errors of a lookup in an index carry `ErrNotIndexed` exactly when the ID
is absent. -/
theorem parseCgroupToIDs_is_errNotIndexed {idx : Index} {err : Err}
    (h : idx.parseCgroupToIDs cgroupID = .error err) :
    err.is .errNotIndexed = true ↔ cgroupID ∉ idx.byInode := by
  cases hlookup : idx.byInode.lookup cgroupID with
  | none =>
      have habsent := AList.lookup_eq_none.mp hlookup
      rw [parseCgroupToIDs_of_not_mem habsent] at h
      cases h
      simp [habsent]
  | some path =>
      rw [parseCgroupToIDs_of_lookup hlookup] at h
      have hmem : cgroupID ∈ idx.byInode := Map.mem_iff_lookup.mpr ⟨path, hlookup⟩
      simp [parseCgroupPath_error h, hmem]

theorem afterRebuild_of_fresh (h : env.rebuildCheck.sub p.index.lastUpdated < p.index.interval) :
    p.afterRebuild env = p := by
  simp only [afterRebuild, Index.rebuildCgroupIndex, if_pos h]

/-- **What resolving does**: it answers from the consulted index, and wraps the
error without changing its sentinel. -/
theorem resolve_spec (p : PodMap) (cgroupID : UInt64) (env : CallEnv) :
    (p.resolve cgroupID env).2 = p.consulted cgroupID env ∧
      match (p.consulted cgroupID env).index.parseCgroupToIDs cgroupID with
      | .ok ids => (p.resolve cgroupID env).1 = .ok ids
      | .error inner => ∃ err, (p.resolve cgroupID env).1 = .error err ∧
          ∀ s, err.is s = inner.is s := by
  cases hparse : p.index.parseCgroupToIDs cgroupID with
  | ok ids =>
      have hnot : ¬ p.Rebuilds cgroupID env := by
        rintro ⟨habsent, -⟩
        rw [parseCgroupToIDs_of_not_mem habsent] at hparse
        cases hparse
      rw [consulted_of_not_rebuilds hnot, hparse]
      simp only [resolve, hparse, and_self]
  | error inner =>
      have hiff := parseCgroupToIDs_is_errNotIndexed hparse
      by_cases hmiss : cgroupID ∈ p.index.byInode
      -- the ID is indexed, so the error is about its path and no rebuild is tried
      · have hnot : ¬ p.Rebuilds cgroupID env := fun h => h.1 hmiss
        have hother : ¬ inner.is .errNotIndexed = true := fun h => hiff.mp h hmiss
        rw [consulted_of_not_rebuilds hnot, hparse]
        simp only [resolve, hparse, if_neg hother, true_and]
        exact ⟨_, rfl, fun s => rfl⟩
      · have hidx := hiff.mpr hmiss
        by_cases hfresh : env.rebuildCheck.sub p.index.lastUpdated < p.index.interval
        · have hnot : ¬ p.Rebuilds cgroupID env := fun h => h.2 hfresh
          rw [consulted_of_not_rebuilds hnot, hparse]
          simp only [resolve, hparse, if_pos hidx, Index.rebuildCgroupIndex, if_pos hfresh,
            afterRebuild_of_fresh hfresh, true_and]
          exact ⟨_, rfl, fun s => rfl⟩
        -- the one case that walks the tree again, and then asks the new index
        · have hre : p.Rebuilds cgroupID env := ⟨hmiss, hfresh⟩
          rw [consulted_of_rebuilds hre]
          simp only [resolve, hparse, if_pos hidx, afterRebuild, Index.rebuildCgroupIndex,
            if_neg hfresh, buildCgroupInodeMap_eq, rebuilt]
          cases hnew : Index.parseCgroupToIDs
              { p.index with
                byInode := snapshot p.index.root env.fs
                lastUpdated := env.builtAt } cgroupID with
          | ok ids => exact ⟨rfl, rfl⟩
          | error inner' => exact ⟨rfl, _, rfl, fun s => rfl⟩

/-! ## The exits of a call -/

/-- How a call of `ContainerInfo` can end, and the state it leaves behind. -/
inductive Exit (p : PodMap) (cgroupID : UInt64) (env : CallEnv) :
    Except Err ContainerInfo → PodMap → Prop where
  /-- The ID is 0, which no cgroup has. -/
  | emptyID {err : Err} : cgroupID = 0 → (∀ s, err.is s = false) →
      Exit p cgroupID env (.error err) p
  /-- A young cache entry answers. -/
  | hit {entry : CacheEntry} : cgroupID ≠ 0 →
      p.freshEntry cgroupID env.cacheCheck = some entry →
      Exit p cgroupID env (.ok entry.info) p
  /-- The consulted index lacks the ID. -/
  | notIndexed {err : Err} : cgroupID ≠ 0 → p.freshEntry cgroupID env.cacheCheck = none →
      cgroupID ∉ (p.consulted cgroupID env).index.byInode →
      err.is .errNotIndexed = true →
      Exit p cgroupID env (.error err) (p.consulted cgroupID env)
  /-- The path of the ID does not parse. -/
  | notParsed {path : String} {inner err : Err} : cgroupID ≠ 0 →
      p.freshEntry cgroupID env.cacheCheck = none →
      (p.consulted cgroupID env).index.byInode.lookup cgroupID = some path →
      parseCgroupPath path = .error inner → (∀ s, err.is s = inner.is s) →
      Exit p cgroupID env (.error err) (p.consulted cgroupID env)
  /-- The runtime does not name the container. -/
  | notNamed {path : String} {ids : ToIDs} {inner err : Err} : cgroupID ≠ 0 →
      p.freshEntry cgroupID env.cacheCheck = none →
      (p.consulted cgroupID env).index.byInode.lookup cgroupID = some path →
      parseCgroupPath path = .ok ids →
      p.cri.containerNames ids.containerID env.containerStatus = .error inner →
      (∀ s, err.is s = inner.is s) →
      Exit p cgroupID env (.error err) (p.consulted cgroupID env)
  /-- The runtime names the container, and the answer is stored. -/
  | named {path : String} {ids : ToIDs} {info : ContainerInfo} : cgroupID ≠ 0 →
      p.freshEntry cgroupID env.cacheCheck = none →
      (p.consulted cgroupID env).index.byInode.lookup cgroupID = some path →
      parseCgroupPath path = .ok ids →
      p.cri.containerNames ids.containerID env.containerStatus = .ok info →
      Exit p cgroupID env (.ok info) ((p.consulted cgroupID env).store cgroupID info env.storedAt)

/-- **Every call ends in one of the exits.** -/
theorem containerInfo_exit (p : PodMap) (cgroupID : UInt64) (env : CallEnv) :
    Exit p cgroupID env (p.containerInfo cgroupID env).1 (p.containerInfo cgroupID env).2 := by
  unfold containerInfo
  by_cases hid : cgroupID = 0
  · rw [if_pos hid]
    exact .emptyID hid fun s => rfl
  rw [if_neg hid]
  cases hfresh : p.freshEntry cgroupID env.cacheCheck with
  | some entry => exact .hit hid hfresh
  | none =>
      obtain ⟨hstate, hresult⟩ := resolve_spec p cgroupID env
      cases hresolve : p.resolve cgroupID env with
      | mk result q =>
          rw [hresolve] at hstate hresult
          obtain rfl : q = p.consulted cgroupID env := hstate
          cases hlookup : (p.consulted cgroupID env).index.byInode.lookup cgroupID with
          | none =>
              have habsent := AList.lookup_eq_none.mp hlookup
              rw [parseCgroupToIDs_of_not_mem habsent] at hresult
              obtain ⟨err, rfl, hsame⟩ := hresult
              exact .notIndexed hid hfresh habsent (hsame _)
          | some path =>
              rw [parseCgroupToIDs_of_lookup hlookup] at hresult
              cases hparse : parseCgroupPath path with
              | error inner =>
                  rw [hparse] at hresult
                  obtain ⟨err, rfl, hsame⟩ := hresult
                  exact .notParsed hid hfresh hlookup hparse hsame
              | ok ids =>
                  rw [hparse] at hresult
                  subst hresult
                  simp only [consulted_cri]
                  cases hnames : p.cri.containerNames ids.containerID env.containerStatus with
                  | error inner => exact .notNamed hid hfresh hlookup hparse hnames fun s => rfl
                  | ok info => exact .named hid hfresh hlookup hparse hnames

end PodMap

/-! ## A node with one container -/

/-- A directory of a readable cgroup tree. -/
def cgroupDir (name : String) (ino : UInt64) (children : List (FileTree FileInfo Err)) :
    FileTree FileInfo Err :=
  .node { name, isDir := true, info := .ok { sys := some { ino } } } none children

/-- The cgroup tree of a node that runs one container: the pod `1`, the container
`ab`, with inode 4. -/
def onePodFS : CgroupFS :=
  .ok (cgroupDir "cgroup" 1 [cgroupDir "kubepods" 2 [cgroupDir "pod1" 3 [cgroupDir "ab" 4 []]]])

def seconds (n : Int) : Duration := Int64.ofInt (n * 1000000000)

/-- The pod map of that node right after the start. -/
def onePodMap : PodMap where
  index :=
    { byInode := snapshot "/cgroup" onePodFS
      root := "/cgroup"
      lastUpdated := ⟨0⟩
      interval := seconds 5 }
  cri := { criTimeout := seconds 5 }
  cache := ∅
  cacheTTL := seconds 60
  cgroupIndexRebuilds := 0
  interval_pos := by decide
  cacheTTL_pos := by decide

/-- A call on that node, with the clock at `now` and a runtime that replies
`reply` to every request. -/
def callAt (now : Time) (reply : StatusReply) : CallEnv where
  cacheCheck := now
  rebuildCheck := now
  fs := onePodFS
  builtAt := now
  containerStatus _ _ := reply
  storedAt := now

/-- The reply for a container of Kubernetes. -/
def labelled (ns pod container : String) : StatusReply :=
  .reply (some ⟨some ⟨(∅ : Map String String).putAll
    [(podNamespaceLabel, ns), (podNameLabel, pod), (containerNameLabel, container)]⟩⟩)

set_option maxRecDepth 4000 in
theorem newPodMap_onePod :
    newPodMap "/cgroup" "/cri.sock" (seconds 5) (seconds 5) (seconds 60)
      ⟨onePodFS, ⟨0⟩, ⟨none, none⟩⟩ = .ok onePodMap := rfl

set_option maxRecDepth 4000 in
example :
    (onePodMap.containerInfo 4 (callAt ⟨1⟩ (labelled "default" "web" "app"))).1 =
      .ok ⟨"default", "web", "app"⟩ := by decide

end KubeNpu

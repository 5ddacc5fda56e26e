import KubeNpu.Go.DirTree
import KubeNpu.Podmap.FailedWalk

/-!
# What the cgroup index contains

Cgroups come and go while the index is built, so any directory may fail to be
listed or to report its inode.  The walk function swallows each such error, and
the index contains the directories that could be reached and read, no more and no
fewer: one failure costs the directory itself or what stands below it, and never
anything beside it.

The tree is a `DirTree` whose keys are the inode numbers; its directories have
pairwise different ones.
-/

namespace KubeNpu

open Go

/-- The cgroup tree `t` as a walk sees it when the entries in `F` fail. -/
def cgroupView (F : Faults UInt64 Err) (t : DirTree UInt64) : CgroupFS :=
  .ok (t.view (fun ino => { sys := some { ino } }) F)

/-! ## A walk as a list of writes -/

/-- What the walk function writes on one call, if it writes anything. -/
def recorded (v : Visit FileInfo Err) : Option (UInt64 × String) :=
  match v.err, v.entry with
  | none, some d =>
      if d.isDir then
        match d.info with
        | .ok ⟨some stat⟩ => some (stat.ino, v.path)
        | _ => none
      else none
  | _, _ => none

theorem visitStep_recordInode (byInode : Map UInt64 String) (v : Visit FileInfo Err) :
    visitStep recordInode byInode v = byInode.putAll (recorded v).toList := by
  obtain ⟨path, entry, err⟩ := v
  cases err with
  | some err => rfl
  | none =>
      cases entry with
      | none => rfl
      | some d =>
          obtain ⟨name, isDir, info⟩ := d
          cases isDir with
          | false => rfl
          | true =>
              cases info with
              | error err => rfl
              | ok info =>
                  obtain ⟨sys⟩ := info
                  cases sys <;> rfl

theorem foldl_visitStep (byInode : Map UInt64 String) (vs : List (Visit FileInfo Err)) :
    vs.foldl (visitStep recordInode) byInode = byInode.putAll (vs.filterMap recorded) := by
  induction vs generalizing byInode with
  | nil => rfl
  | cons v vs ih =>
      rw [List.foldl_cons, ih, visitStep_recordInode, ← Map.putAll_append]
      cases hv : recorded v <;> simp [hv]

theorem snapshot_lookup (root : String) (fs : CgroupFS) (ino : UInt64) :
    (snapshot root fs).lookup ino =
      Map.lastWrite ((rootVisits root fs).filterMap recorded) ino := by
  rw [snapshot, foldl_visitStep, Map.lookup_putAll]
  simp

/-! ## The index of a tree -/

/-- The directory `ino` stands at `path`, below directories that can all be listed,
and its own `Info` succeeds. -/
def ReadableDir (root : String) (t : DirTree UInt64) (F : Faults UInt64 Err) (ino : UInt64)
    (path : String) : Prop :=
  ∃ above d, DirTree.At root t above path d ∧ d.dirKey = some ino ∧
    (∀ key ∈ above, F.listErr key = none) ∧ F.infoErr ino = none

variable {root : String} {t : DirTree UInt64} {F : Faults UInt64 Err}

theorem recorded_firstVisit (p : String) (d : DirTree UInt64) (e : UInt64 × String) :
    recorded (DirTree.firstVisit (fun ino => { sys := some { ino } }) F p d) = some e ↔
      d.dirKey = some e.1 ∧ F.infoErr e.1 = none ∧ e.2 = p := by
  obtain ⟨ino, path⟩ := e
  cases d with
  | file name key => simp [recorded, DirTree.firstVisit, DirTree.entryOf, DirTree.dirKey]
  | dir name key children =>
      cases hinfo : F.infoErr key with
      | none =>
          simp only [recorded, DirTree.firstVisit, DirTree.entryOf, DirTree.dirKey, DirTree.key,
            hinfo, Option.isSome_some, if_true, Option.some.injEq, Prod.mk.injEq]
          constructor
          · rintro ⟨rfl, rfl⟩
            exact ⟨rfl, hinfo, rfl⟩
          · rintro ⟨rfl, -, rfl⟩
            exact ⟨rfl, rfl⟩
      | some err =>
          simp only [recorded, DirTree.firstVisit, DirTree.entryOf, DirTree.dirKey, DirTree.key,
            hinfo, Option.isSome_some, if_true, Option.some.injEq]
          refine iff_of_false (by simp) ?_
          rintro ⟨rfl, hnone, -⟩
          rw [hinfo] at hnone
          cases hnone

/-- The walk writes the readable directories, under their paths. -/
theorem mem_recorded_iff (ino : UInt64) (path : String) :
    (ino, path) ∈ (rootVisits root (cgroupView F t)).filterMap recorded ↔
      ReadableDir root t F ino path := by
  rw [cgroupView, rootVisits, List.mem_filterMap]
  constructor
  · rintro ⟨v, hv, hrec⟩
    obtain ⟨above, p, d, hat, habove, rfl | ⟨key, err, -, -, rfl⟩⟩ :=
      (DirTree.mem_visits_view _ F t root v).mp hv
    · obtain ⟨hkey, hinfo, rfl⟩ := (recorded_firstVisit p d (ino, path)).mp hrec
      exact ⟨above, d, hat, hkey, habove, hinfo⟩
    -- the second call, with the error of the listing, writes nothing
    · cases hrec
  · rintro ⟨above, d, hat, hkey, habove, hinfo⟩
    refine ⟨_, (DirTree.mem_visits_view _ F t root _).mpr
      ⟨above, path, d, hat, habove, Or.inl rfl⟩, ?_⟩
    exact (recorded_firstVisit path d (ino, path)).mpr ⟨hkey, hinfo, rfl⟩

/-- **The snapshot is sound and complete**: it maps an inode to a path exactly when
the directory can be reached and read there. -/
theorem snapshot_lookup_iff (hnodup : t.dirKeys.Nodup) (ino : UInt64) (path : String) :
    (snapshot root (cgroupView F t)).lookup ino = some path ↔ ReadableDir root t F ino path := by
  rw [snapshot_lookup]
  constructor
  · exact fun h => (mem_recorded_iff ino path).mp (Map.mem_of_lastWrite h)
  · intro h
    refine Map.lastWrite_eq_of_agree ?_ ?_
    · rintro ⟨ino', path'⟩ he rfl
      obtain ⟨above', d', hat', hkey', -⟩ := (mem_recorded_iff ino' path').mp he
      obtain ⟨above, d, hat, hkey, -⟩ := h
      rw [(hat.unique hat' hkey hkey' hnodup).2]
    · exact fun v _ => ⟨(ino, path), (mem_recorded_iff ino path).mpr h, rfl⟩

theorem snapshot_lookup_eq_none_iff (hnodup : t.dirKeys.Nodup) (ino : UInt64) :
    (snapshot root (cgroupView F t)).lookup ino = none ↔
      ∀ path, ¬ ReadableDir root t F ino path := by
  rw [Option.eq_none_iff_forall_ne_some]
  exact forall_congr' fun path => not_congr (snapshot_lookup_iff hnodup ino path)

/-! ## One more failure -/

/-- Two snapshots agree on an inode that is as readable in one as in the other. -/
theorem snapshot_lookup_congr {F' : Faults UInt64 Err} (hnodup : t.dirKeys.Nodup) {ino : UInt64}
    (h : ∀ path, ReadableDir root t F' ino path ↔ ReadableDir root t F ino path) :
    (snapshot root (cgroupView F' t)).lookup ino =
      (snapshot root (cgroupView F t)).lookup ino := by
  refine Option.ext fun path => ?_
  rw [snapshot_lookup_iff hnodup, snapshot_lookup_iff hnodup, h]

/-- A failing `Info` costs the directory itself. -/
theorem snapshot_failInfo (hnodup : t.dirKeys.Nodup) (key : UInt64) (err : Err) (ino : UInt64) :
    (snapshot root (cgroupView (F.failInfo key err) t)).lookup ino =
      if ino = key then none else (snapshot root (cgroupView F t)).lookup ino := by
  by_cases hino : ino = key
  · rw [if_pos hino, snapshot_lookup_eq_none_iff hnodup]
    rintro path ⟨above, d, -, -, -, hinfo⟩
    exact (Faults.failInfo_infoErr_eq_none.mp hinfo).1 hino
  · rw [if_neg hino]
    refine snapshot_lookup_congr hnodup ?_
    intro path
    simp [ReadableDir, Faults.failInfo_infoErr_eq_none, hino]

/-- A failing listing costs what stands below the directory. -/
theorem snapshot_failList_of_below (hnodup : t.dirKeys.Nodup) {key : UInt64} (err : Err)
    {ino : UInt64} (h : DirTree.StrictlyBelow root t key ino) :
    (snapshot root (cgroupView (F.failList key err) t)).lookup ino = none := by
  rw [snapshot_lookup_eq_none_iff hnodup]
  rintro path ⟨above, d, hat, hkey, habove, -⟩
  obtain ⟨above', p, d', hat', hkey', hmem⟩ := h
  rw [← (hat.unique hat' hkey hkey' hnodup).1] at hmem
  exact (Faults.failList_listErr_eq_none.mp (habove key hmem)).1 rfl

/-- It costs nothing else. -/
theorem snapshot_failList_of_not_below (hnodup : t.dirKeys.Nodup) {key : UInt64} (err : Err)
    {ino : UInt64} (h : ¬ DirTree.StrictlyBelow root t key ino) :
    (snapshot root (cgroupView (F.failList key err) t)).lookup ino =
      (snapshot root (cgroupView F t)).lookup ino := by
  refine snapshot_lookup_congr hnodup ?_
  intro path
  constructor
  · rintro ⟨above, d, hat, hkey, habove, hinfo⟩
    exact ⟨above, d, hat, hkey,
      fun k hk => (Faults.failList_listErr_eq_none.mp (habove k hk)).2, hinfo⟩
  · rintro ⟨above, d, hat, hkey, habove, hinfo⟩
    refine ⟨above, d, hat, hkey, ?_, hinfo⟩
    intro k hk
    refine Faults.failList_listErr_eq_none.mpr ⟨?_, habove k hk⟩
    rintro rfl
    exact h ⟨above, path, d, hat, hkey, hk⟩

/-- The directory that cannot be listed does not stand below itself. -/
theorem not_strictlyBelow_self (hnodup : t.dirKeys.Nodup) (key : UInt64) :
    ¬ DirTree.StrictlyBelow root t key key := by
  rintro ⟨above, p, d, hat, hkey, hmem⟩
  exact hat.key_not_mem_above hkey hnodup hmem

/-! ## Looking up -/

theorem Index.lookup_ok_iff {idx : Index} {ino : UInt64} {path : String} :
    idx.lookup ino = .ok path ↔ idx.byInode.lookup ino = some path := by
  unfold Index.lookup
  cases idx.byInode.lookup ino <;> simp

/-- **The cgroup index is sound and complete for the readable part of the tree.**
For every tree whose directories have different inodes, and whatever fails during
the walk, the build succeeds with the map of exactly those directories whose
proper ancestors can all be listed and whose own `Info` succeeds, each under its
path; `Lookup` on a built or rebuilt index returns that path.  One more failing
`Info` removes that directory alone, one more failing listing removes what stands
strictly below, which the directory itself does not. -/
theorem cgroup_index_exact (root : String) (t : DirTree UInt64) (hnodup : t.dirKeys.Nodup)
    (F : Faults UInt64 Err) :
    (buildCgroupInodeMap root (cgroupView F t) = .ok (snapshot root (cgroupView F t)) ∧
      ∀ ino path, (snapshot root (cgroupView F t)).lookup ino = some path ↔
        ReadableDir root t F ino path) ∧
    (∀ interval now, ∃ idx, buildCgroupIndex root interval (cgroupView F t) now = .ok idx ∧
      ∀ ino path, idx.lookup ino = .ok path ↔ ReadableDir root t F ino path) ∧
    (∀ (idx : Index) check now, idx.root = root →
      (idx.rebuildCgroupIndex check (cgroupView F t) now).1 = .ok true →
      ∀ ino path, (idx.rebuildCgroupIndex check (cgroupView F t) now).2.lookup ino = .ok path ↔
        ReadableDir root t F ino path) ∧
    (∀ key err ino, (snapshot root (cgroupView (F.failInfo key err) t)).lookup ino =
      if ino = key then none else (snapshot root (cgroupView F t)).lookup ino) ∧
    (∀ key err ino,
      (DirTree.StrictlyBelow root t key ino →
        (snapshot root (cgroupView (F.failList key err) t)).lookup ino = none) ∧
      (¬ DirTree.StrictlyBelow root t key ino →
        (snapshot root (cgroupView (F.failList key err) t)).lookup ino =
          (snapshot root (cgroupView F t)).lookup ino) ∧
      ¬ DirTree.StrictlyBelow root t key key) := by
  refine ⟨?_, ?_, ?_, snapshot_failInfo hnodup, ?_⟩
  · exact ⟨buildCgroupInodeMap_eq _ _, snapshot_lookup_iff hnodup⟩
  · intro interval now
    refine ⟨⟨snapshot root (cgroupView F t), root, now, interval⟩, ?_, ?_⟩
    · rw [buildCgroupIndex, buildCgroupInodeMap_eq]
    · exact fun ino path => Index.lookup_ok_iff.trans (snapshot_lookup_iff hnodup ino path)
  · rintro idx check now rfl hrebuilt ino path
    have hold : ¬ check.sub idx.lastUpdated < idx.interval := by
      intro hyoung
      rw [Index.rebuildCgroupIndex, if_pos hyoung] at hrebuilt
      cases hrebuilt
    rw [Index.rebuildCgroupIndex_of_old hold, Index.lookup_ok_iff]
    exact snapshot_lookup_iff hnodup ino path
  · exact fun key err ino => ⟨snapshot_failList_of_below hnodup err,
      snapshot_failList_of_not_below hnodup err, not_strictlyBelow_self hnodup key⟩

/-- The cgroups of a node with one container and one system service. -/
def onePodTree : DirTree UInt64 :=
  .dir "cgroup" 1
    [.dir "kubepods" 2 [.dir "pod1" 3 [.dir "ab" 4 [.file "cgroup.procs" 6]]],
      .dir "system.slice" 5 []]

/-- The pod ends during the walk: its directory cannot be listed any more. -/
def podVanishes : Faults UInt64 Err where
  listErr ino := if ino = 3 then some (.external "no such file or directory") else none
  infoErr _ := none

/-- The statement for that walk. -/
theorem cgroup_index_exact_vanished :
    (buildCgroupInodeMap "/cgroup" (cgroupView podVanishes onePodTree) =
        .ok (snapshot "/cgroup" (cgroupView podVanishes onePodTree)) ∧
      ∀ ino path, (snapshot "/cgroup" (cgroupView podVanishes onePodTree)).lookup ino =
        some path ↔ ReadableDir "/cgroup" onePodTree podVanishes ino path) :=
  (cgroup_index_exact "/cgroup" onePodTree (by decide) podVanishes).1

set_option maxRecDepth 4000 in
example :
    (snapshot "/cgroup" (cgroupView podVanishes onePodTree)).lookup 4 = none ∧
      (snapshot "/cgroup" (cgroupView podVanishes onePodTree)).lookup 5 =
        some "/cgroup/system.slice" := by
  decide

end KubeNpu

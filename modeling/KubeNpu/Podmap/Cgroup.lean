import KubeNpu.Sentinels
import KubeNpu.Go.Filepath
import KubeNpu.Go.Maps
import KubeNpu.Go.Time

/-!
# `pkg/podmap/cgroup.go`: cgroup paths and the cgroup index

A cgroup is found by its inode number.  `buildCgroupInodeMap` walks the cgroup
tree and records the path of every directory; `parseCgroupPath` reads the pod
UID and the container ID out of a path; `Index` keeps the last walk together
with the time it finished, and rebuilds at most once per interval.
-/

namespace KubeNpu

open Go

/-- The two IDs a container's cgroup path carries. -/
structure ToIDs where
  podUID : String
  containerID : String
  deriving DecidableEq, Repr

/-! ## Parsing a cgroup path -/

/-- `podUIDFromPart`: the pod UID of a pod's path component. -/
def podUIDFromPart (part : String) : Option String :=
  if Strings.hasPrefix part "kubepods-" && Strings.hasSuffix part ".slice" then
    match Strings.cut (Strings.trimSuffix part ".slice") "-pod" with
    | none => none
    | some (_, uid) => if uid = "" then none else some (Strings.replaceAll uid '_' '-')
  else
    match Strings.cutPrefix part "pod" with
    | some uid => if uid ≠ "" then some uid else none
    | none => none

/-- `isHex`: a non-empty string of lowercase hexadecimal digits. -/
def isHex (s : String) : Bool :=
  if s = "" then false
  else s.toList.all fun c => !((c < '0' || '9' < c) && (c < 'a' || 'f' < c))

/-- The part of `id` after its last dash: a runtime's name is cut off. -/
def cutRuntime (id : String) : String :=
  match Strings.lastIndex id '-' with
  | some idx => Strings.sliceFrom id (idx + 1)
  | none => id

/-- `containerIDFromPart`: the container ID of a container's path component. -/
def containerIDFromPart (part : String) : Except Err String :=
  let id := cutRuntime (Strings.trimSuffix part ".scope")
  if !isHex id then .error (.errorf "invalid container cgroup %q" [.str part])
  else .ok id

/-- The loop of `parseCgroupPath` over the remaining components; `isKubepods` is
the latch that the first component starting with "kubepods" sets. -/
def scanParts (path : String) : Bool → List String → Except Err ToIDs
  | _, [] => .error (.errorf "pod UID not found in %q" [.str path])
  | isKubepods, part :: rest =>
      if !isKubepods && !Strings.hasPrefix part "kubepods" then scanParts path false rest
      else
        match podUIDFromPart part with
        | none => scanParts path true rest
        | some podUID =>
            match rest with
            | [] => .error (.errorf "container ID not found in cgroup path %q" [.str path])
            | next :: _ =>
                if next = "" then
                  .error (.errorf "container ID not found in cgroup path %q" [.str path])
                else
                  match containerIDFromPart next with
                  | .error err => .error (.wrapf "%w in cgroup path %q" [.str path] err)
                  | .ok containerID => .ok ⟨podUID, containerID⟩

/-- `parseCgroupPath`. -/
def parseCgroupPath (path : String) : Except Err ToIDs :=
  if !Strings.contains path "kubepods" then .error (.sentinel .errNotPod)
  else scanParts path false (Strings.split (Filepath.toSlash path) '/')

/-! ### What the scan looks at -/

/-- The components from the first one that starts with "kubepods" on. -/
def underKubepods (parts : List String) : List String :=
  parts.dropWhile fun part => !Strings.hasPrefix part "kubepods"

/-- Once the latch is set, a component that names no pod is passed over. -/
theorem scanParts_true_cons_none {path part : String} (rest : List String)
    (h : podUIDFromPart part = none) :
    scanParts path true (part :: rest) = scanParts path true rest := by
  simp [scanParts, h]

theorem scanParts_true_append {path : String} {skipped : List String} (rest : List String)
    (h : ∀ part ∈ skipped, podUIDFromPart part = none) :
    scanParts path true (skipped ++ rest) = scanParts path true rest := by
  induction skipped with
  | nil => rfl
  | cons part skipped ih =>
      rw [List.cons_append, scanParts_true_cons_none _ (h part List.mem_cons_self)]
      exact ih fun p hp => h p (List.mem_cons_of_mem part hp)

/-- The latch starts the scan at the first "kubepods" component. -/
theorem scanParts_false (path : String) (parts : List String) :
    scanParts path false parts = scanParts path true (underKubepods parts) := by
  induction parts with
  | nil => simp [scanParts, underKubepods]
  | cons part rest ih =>
      by_cases hkube : Strings.hasPrefix part "kubepods" = true
      · rw [underKubepods, List.dropWhile_cons_of_neg (by simp [hkube])]
        simp [scanParts, hkube]
      · rw [underKubepods, List.dropWhile_cons_of_pos (by simpa using hkube)]
        simpa [scanParts, hkube, underKubepods] using ih

/-- At a pod component the scan ends, one way or the other. -/
theorem scanParts_true_cons_some {path part podUID next : String} {rest : List String}
    (hpod : podUIDFromPart part = some podUID) (hnext : next ≠ "") :
    scanParts path true (part :: next :: rest) =
      match containerIDFromPart next with
      | .error err => .error (.wrapf "%w in cgroup path %q" [.str path] err)
      | .ok containerID => .ok ⟨podUID, containerID⟩ := by
  simp only [scanParts, hpod, if_neg hnext, Bool.not_true, Bool.false_and, Bool.false_eq_true,
    if_false]

/-- No component from the first "kubepods" on names a pod; in particular a path
may have no such component at all. -/
def NamesNoPod (path : String) : Prop :=
  ∀ part ∈ underKubepods (Strings.split (Filepath.toSlash path) '/'), podUIDFromPart part = none

instance (path : String) : Decidable (NamesNoPod path) :=
  inferInstanceAs (Decidable (∀ part ∈ _, _))

/-- **How a path that names no pod is rejected**: by the substring test, or at the
end of the scan. -/
theorem parseCgroupPath_of_namesNoPod {path : String} (h : NamesNoPod path) :
    parseCgroupPath path = .error
      (if Strings.contains path "kubepods" = true then
        .errorf "pod UID not found in %q" [.str path]
      else .sentinel .errNotPod) := by
  unfold parseCgroupPath
  by_cases hsub : Strings.contains path "kubepods" = true
  · simp only [hsub, Bool.not_true, Bool.false_eq_true, if_false, if_true]
    have hscan : scanParts path true _ = _ := scanParts_true_append [] h
    rw [List.append_nil] at hscan
    rw [scanParts_false, hscan, scanParts]
  · simp only [hsub, Bool.not_false, if_true, Bool.false_eq_true, if_false]

/-! ### How parsing fails -/

theorem containerIDFromPart_error {part : String} {err : Err}
    (h : containerIDFromPart part = .error err) (s : Sentinel) : err.is s = false := by
  simp only [containerIDFromPart] at h
  split at h
  · cases h
    rfl
  · cases h

/-- No error of the scan carries a sentinel. -/
theorem scanParts_error {path : String} {b : Bool} {parts : List String} {err : Err}
    (h : scanParts path b parts = .error err) (s : Sentinel) : err.is s = false := by
  fun_induction scanParts path b parts with
  | case1 => cases h; rfl
  | case2 _ _ _ _ ih => exact ih h
  | case3 _ _ _ _ _ ih => exact ih h
  | case4 => cases h; rfl
  | case5 => cases h; rfl
  | case6 _ _ _ _ _ _ _ _ _ hid =>
      cases h
      rw [Error.is_wrapf]
      exact containerIDFromPart_error hid s
  | case7 => cases h

/-- **The one sentinel a path can be rejected with** is `ErrNotPod`, and only the
substring test rejects with it. -/
theorem parseCgroupPath_error {path : String} {err : Err}
    (h : parseCgroupPath path = .error err) (s : Sentinel) :
    err.is s = true ↔ s = .errNotPod ∧ Strings.contains path "kubepods" = false := by
  unfold parseCgroupPath at h
  by_cases hsub : Strings.contains path "kubepods" = true
  · simp only [hsub, Bool.not_true, Bool.false_eq_true, if_false] at h
    simp [scanParts_error h s, hsub]
  · simp only [hsub, Bool.not_false, if_true] at h
    cases h
    simp [hsub, eq_comm]

/-! ### What a parsed path carries -/

theorem isHex_ne_empty {s : String} (h : isHex s = true) : s ≠ "" := by
  rintro rfl
  simp [isHex] at h

theorem containerIDFromPart_ok {part id : String} (h : containerIDFromPart part = .ok id) :
    isHex id = true := by
  simp only [containerIDFromPart] at h
  split at h
  · cases h
  · rename_i hhex
    cases h
    simpa using hhex

theorem scanParts_ok {path : String} {b : Bool} {parts : List String} {ids : ToIDs}
    (h : scanParts path b parts = .ok ids) : isHex ids.containerID = true := by
  fun_induction scanParts path b parts with
  | case1 => cases h
  | case2 _ _ _ _ ih => exact ih h
  | case3 _ _ _ _ _ ih => exact ih h
  | case4 => cases h
  | case5 => cases h
  | case6 => cases h
  | case7 _ _ _ _ _ _ _ _ _ hid =>
      cases h
      exact containerIDFromPart_ok hid

/-- A parsed path mentions "kubepods", and its container ID is not empty. -/
theorem parseCgroupPath_ok {path : String} {ids : ToIDs} (h : parseCgroupPath path = .ok ids) :
    Strings.contains path "kubepods" = true ∧ ids.containerID ≠ "" := by
  unfold parseCgroupPath at h
  split at h
  · cases h
  · rename_i hsub
    exact ⟨by simpa using hsub, isHex_ne_empty (scanParts_ok h)⟩

/-! ## The index -/

/-- `syscall.Stat_t`, as far as the walk reads it. -/
structure StatT where
  ino : UInt64

/-- `fs.FileInfo`; `sys` is `none` when `Sys()` is no `*syscall.Stat_t`. -/
structure FileInfo where
  sys : Option StatT

/-- The cgroup file system as one walk sees it: the root's `lstat` answer. -/
abbrev CgroupFS := Except Err (FileTree FileInfo Err)

/-- The function `buildCgroupInodeMap` passes to `filepath.WalkDir`; the state is
the map `byInode`. -/
def recordInode : WalkDirFunc FileInfo Err (Map UInt64 String) :=
  fun path d err byInode =>
    match err, d with
    | some _, _ => (none, byInode)
    -- the walk passes a nil entry only together with an error
    | none, none => (none, byInode)
    | none, some d =>
        if !d.isDir then (none, byInode)
        else
          match d.info with
          | .error _ => (none, byInode)
          | .ok info =>
              match info.sys with
              | none => (none, byInode)
              | some stat => (none, byInode.insert stat.ino path)

/-- `buildCgroupInodeMap`. -/
def buildCgroupInodeMap (root : String) (fs : CgroupFS) : Except Err (Map UInt64 String) :=
  match walkDir recordInode root fs ∅ with
  | (some err, _) => .error err
  | (none, byInode) => .ok byInode

/-- What one walk of `fs` records. -/
def snapshot (root : String) (fs : CgroupFS) : Map UInt64 String :=
  (rootVisits root fs).foldl (visitStep recordInode) ∅

/-- The walk function returns nil whatever it is told. -/
theorem recordInode_quiet (path : String) (d : Option (DirEntry FileInfo Err)) (err : Option Err)
    (byInode : Map UInt64 String) : (recordInode path d err byInode).1 = none := by
  unfold recordInode
  split
  · rfl
  · rfl
  · split
    · rfl
    · split
      · rfl
      · split <;> rfl

/-- **The walk never fails**: every error it meets is swallowed by the walk
function, so the result is always a map. -/
theorem buildCgroupInodeMap_eq (root : String) (fs : CgroupFS) :
    buildCgroupInodeMap root fs = .ok (snapshot root fs) := by
  rw [buildCgroupInodeMap, walkDir_quiet recordInode_quiet, snapshot]

/-- `podmap.Index`. -/
structure Index where
  byInode : Map UInt64 String
  root : String
  lastUpdated : Time
  interval : Duration
  deriving DecidableEq

/-- `BuildCgroupIndex`; `now` is the clock once the walk is done. -/
def buildCgroupIndex (root : String) (interval : Duration) (fs : CgroupFS) (now : Time) :
    Except Err Index :=
  match buildCgroupInodeMap root fs with
  | .error err => .error err
  | .ok byInode => .ok { byInode, root, interval, lastUpdated := now }

namespace Index

/-- `Index.RebuildCgroupIndex`: `check` is the clock at the guard, `fs` what the
walk sees, `now` the clock once the walk is done. -/
def rebuildCgroupIndex (idx : Index) (check : Time) (fs : CgroupFS) (now : Time) :
    Except Err Bool × Index :=
  if check.sub idx.lastUpdated < idx.interval then (.ok false, idx)
  else
    match buildCgroupInodeMap idx.root fs with
    | .error err => (.error err, idx)
    | .ok byInode => (.ok true, { idx with byInode, lastUpdated := now })

/-- `Index.Lookup`. -/
def lookup (idx : Index) (inode : UInt64) : Except Err String :=
  match idx.byInode.lookup inode with
  | none => .error (.sentinel .errNotIndexed)
  | some path => .ok path

/-- `Index.ParseCgroupToIDs`. -/
def parseCgroupToIDs (idx : Index) (cgroupID : UInt64) : Except Err ToIDs :=
  match idx.lookup cgroupID with
  | .error err => .error err
  | .ok path => parseCgroupPath path

end Index

end KubeNpu

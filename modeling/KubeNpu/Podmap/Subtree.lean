import KubeNpu.Podmap.Snapshot

/-!
# The paths of a container are one directory subtree

A path is accepted because of two neighbouring components, the first one that
names a pod and the one below it, and nothing further down is looked at.
`Attributes` states this for a list of components; two facts about it carry the
module.  It survives further components (`Attributes.append`), and a list that
has it either ends in the container component or keeps it without its last
component (`Attributes.concat`).

So among the prefixes of an accepted path there is a shortest accepted one, the
directory of the container: everything below it is accepted with the same IDs and
everything above it is rejected.  Together with what a walk records
(`snapshot_lookup_iff`) this says which container a call is about:
`PodMap.containerInfo_of_readable`.
-/

namespace KubeNpu

open Go

/-! ## Components -/

/-- From the first "kubepods" component on, `parts` passes components that name no
pod, then one that names the pod, and then one that names the container. -/
def Attributes (parts : List String) (ids : ToIDs) : Prop :=
  ∃ above pod container below, underKubepods parts = above ++ pod :: container :: below ∧
    (∀ part ∈ above, podUIDFromPart part = none) ∧ podUIDFromPart pod = some ids.podUID ∧
    containerIDFromPart container = .ok ids.containerID

theorem scanParts_true_ok {path : String} {parts : List String} {ids : ToIDs}
    (h : scanParts path true parts = .ok ids) :
    ∃ above pod container below, parts = above ++ pod :: container :: below ∧
      (∀ part ∈ above, podUIDFromPart part = none) ∧ podUIDFromPart pod = some ids.podUID ∧
      containerIDFromPart container = .ok ids.containerID := by
  induction parts with
  | nil => cases h
  | cons part rest ih =>
      cases hpod : podUIDFromPart part with
      | none =>
          rw [scanParts_true_cons_none rest hpod] at h
          obtain ⟨above, pod, container, below, rfl, hnone, huid, hid⟩ := ih h
          refine ⟨part :: above, pod, container, below, rfl, ?_, huid, hid⟩
          intro other hother
          rcases List.mem_cons.mp hother with rfl | habove
          · exact hpod
          · exact hnone other habove
      | some podUID =>
          -- the scan ends here, and only a container component lets it succeed
          cases rest with
          | nil => simp [scanParts, hpod] at h
          | cons next rest =>
              by_cases hnext : next = ""
              · simp [scanParts, hpod, hnext] at h
              · rw [scanParts_true_cons_some hpod hnext] at h
                cases hid : containerIDFromPart next with
                | error err =>
                    rw [hid] at h
                    cases h
                | ok containerID =>
                    rw [hid] at h
                    cases h
                    exact ⟨[], part, next, rest, rfl, by simp, hpod, hid⟩

/-- The scan accepts a list of components exactly when it attributes. -/
theorem scanParts_false_ok_iff {path : String} {parts : List String} {ids : ToIDs} :
    scanParts path false parts = .ok ids ↔ Attributes parts ids := by
  rw [scanParts_false]
  constructor
  · exact scanParts_true_ok
  · rintro ⟨above, pod, container, below, hunder, hnone, huid, hid⟩
    have hne : container ≠ "" := by
      rintro rfl
      cases hid
    rw [hunder, scanParts_true_append _ hnone, scanParts_true_cons_some huid hne, hid]

/-- A path without the substring has no component that starts with it. -/
theorem underKubepods_of_not_contains {path : String}
    (h : ¬ Strings.contains path "kubepods" = true) :
    underKubepods (Strings.split path '/') = [] := by
  refine List.dropWhile_eq_nil_iff.mpr ?_
  intro part hpart
  by_contra hkube
  have hpre : Strings.hasPrefix part "kubepods" = true := by simpa using hkube
  exact h (Strings.contains_iff.mpr
    ((Strings.hasPrefix_iff.mp hpre).isInfix.trans (Strings.infix_of_mem_split hpart)))

/-- **Acceptance is a matter of components**: the substring test in front of the
scan rejects nothing that the scan would accept. -/
theorem parseCgroupPath_ok_iff {path : String} {ids : ToIDs} :
    parseCgroupPath path = .ok ids ↔ Attributes (Strings.split path '/') ids := by
  unfold parseCgroupPath
  by_cases hsub : Strings.contains path "kubepods" = true
  · rw [hsub]
    exact scanParts_false_ok_iff
  · rw [Bool.eq_false_iff.mpr hsub]
    refine iff_of_false (by simp) ?_
    rintro ⟨above, pod, container, below, hunder, -⟩
    rw [underKubepods_of_not_contains hsub] at hunder
    simp at hunder

namespace Attributes

variable {parts : List String} {ids : ToIDs}

theorem unique {ids' : ToIDs} (h : Attributes parts ids) (h' : Attributes parts ids') :
    ids = ids' := by
  have hscan : scanParts "" false parts = .ok ids := scanParts_false_ok_iff.mpr h
  rw [scanParts_false_ok_iff.mpr h'] at hscan
  cases hscan
  rfl

/-- **Further components change nothing.** -/
theorem append (h : Attributes parts ids) (more : List String) :
    Attributes (parts ++ more) ids := by
  obtain ⟨above, pod, container, below, hunder, hrest⟩ := h
  refine ⟨above, pod, container, below ++ more, ?_, hrest⟩
  have hne : (underKubepods parts).isEmpty = false := by
    rw [hunder]
    cases above <;> rfl
  have happend : underKubepods (parts ++ more) = underKubepods parts ++ more := by
    unfold underKubepods at hne ⊢
    rw [List.dropWhile_append, hne]
    rfl
  rw [happend, hunder]
  simp

/-- **The last component is the container's, or it does not matter.** -/
theorem concat {last : String} (h : Attributes (parts ++ [last]) ids) :
    containerIDFromPart last = .ok ids.containerID ∨ Attributes parts ids := by
  obtain ⟨above, pod, container, below, hunder, hnone, huid, hid⟩ := h
  have happend : underKubepods (parts ++ [last]) = underKubepods parts ++ [last] := by
    by_cases hempty : (underKubepods parts).isEmpty = true
    · -- one component is not enough
      unfold underKubepods at hempty hunder
      rw [List.dropWhile_append, if_pos hempty] at hunder
      have hlength := congrArg List.length hunder
      have hle := (List.dropWhile_suffix (l := [last])
        fun part => !Strings.hasPrefix part "kubepods").length_le
      simp only [List.length_append, List.length_cons, List.length_nil] at hlength hle
      omega
    · unfold underKubepods at hempty ⊢
      rw [List.dropWhile_append, if_neg hempty]
  rw [happend] at hunder
  rcases List.eq_nil_or_concat below with rfl | ⟨below, bottom, rfl⟩
  · have hlast : underKubepods parts ++ [last] = (above ++ [pod]) ++ [container] := by
      rw [hunder]
      simp
    cases List.append_inj_right' hlast rfl
    exact Or.inl hid
  · have hinit : underKubepods parts ++ [last] =
        (above ++ pod :: container :: below) ++ [bottom] := by
      rw [hunder]
      simp
    exact Or.inr ⟨above, pod, container, below, List.append_inj_left' hinit rfl, hnone, huid, hid⟩

end Attributes

/-! ## What the IDs look like -/

theorem podUIDFromPart_ne_empty {part uid : String} (h : podUIDFromPart part = some uid) :
    uid ≠ "" := by
  unfold podUIDFromPart at h
  split at h
  · split at h
    · cases h
    · split at h
      · cases h
      · rename_i hne
        cases h
        exact Strings.replaceAll_ne_empty hne _ _
  · split at h
    · split at h
      · rename_i hne
        cases h
        exact hne
      · cases h
    · cases h

theorem isHex_digits {s : String} (h : isHex s = true) :
    ∀ c ∈ s.toList, ('0' ≤ c ∧ c ≤ '9') ∨ ('a' ≤ c ∧ c ≤ 'f') := by
  intro c hc
  unfold isHex at h
  rw [if_neg (isHex_ne_empty h)] at h
  have hdigit := List.all_eq_true.mp h c hc
  simpa [or_iff_not_imp_left] using hdigit

/-- The container ID is the end of its component, without the scope's suffix. -/
theorem containerIDFromPart_suffix {part id : String} (h : containerIDFromPart part = .ok id) :
    id.toList <:+ (Strings.trimSuffix part ".scope").toList := by
  simp only [containerIDFromPart] at h
  split at h
  · cases h
  · cases h
    unfold cutRuntime
    split
    · rw [Strings.toList_sliceFrom]
      exact List.drop_suffix _ _
    · exact List.suffix_refl _

/-! ## Prefixes of a path -/

/-- The first `k` components of a path. -/
def pathPrefix (path : String) (k : ℕ) : String :=
  String.intercalate "/" ((Strings.split path '/').take k)

theorem pathPrefix_zero (path : String) : pathPrefix path 0 = "" := by
  simp [pathPrefix]

theorem split_pathPrefix (path : String) {k : ℕ} (hk : k ≠ 0) :
    Strings.split (pathPrefix path k) '/' = (Strings.split path '/').take k := by
  refine Strings.split_intercalate '/' ?_ ?_
  · exact fun part hpart => Strings.sep_not_mem_of_mem_split (List.mem_of_mem_take hpart)
  · simpa [List.take_eq_nil_iff, hk] using Strings.split_ne_nil path '/'

theorem split_extend (a b : String) :
    Strings.split (a ++ "/" ++ b) '/' = Strings.split a '/' ++ Strings.split b '/' :=
  Strings.split_append_sep a b '/'

theorem pathPrefix_of_length_le {path : String} {k : ℕ}
    (hk : (Strings.split path '/').length ≤ k) : pathPrefix path k = path := by
  rw [pathPrefix, List.take_of_length_le hk]
  exact Strings.intercalate_split path '/'

/-- A path extends each of its prefixes. -/
theorem eq_pathPrefix_or_extends (path : String) {k : ℕ} (hk : k ≠ 0) :
    path = pathPrefix path k ∨ ∃ rest, path = pathPrefix path k ++ "/" ++ rest := by
  by_cases hlength : (Strings.split path '/').length ≤ k
  · exact Or.inl (pathPrefix_of_length_le hlength).symm
  · right
    refine ⟨String.intercalate "/" ((Strings.split path '/').drop k), ?_⟩
    have hdrop : (Strings.split path '/').drop k ≠ [] := by
      simpa [List.drop_eq_nil_iff] using hlength
    have htake : (Strings.split path '/').take k ≠ [] := by
      simpa [List.take_eq_nil_iff, hk] using Strings.split_ne_nil path '/'
    rw [pathPrefix, ← String.intercalate_append_of_ne_nil htake hdrop, List.take_append_drop]
    exact (Strings.intercalate_split path '/').symm

/-- The empty path is rejected. -/
theorem parseCgroupPath_empty : parseCgroupPath "" = .error (.sentinel .errNotPod) := by
  decide

/-- **Every path below an accepted one is accepted with its IDs.** -/
theorem parseCgroupPath_extend {path : String} {ids : ToIDs} (h : parseCgroupPath path = .ok ids)
    (rest : String) : parseCgroupPath (path ++ "/" ++ rest) = .ok ids := by
  rw [parseCgroupPath_ok_iff] at h ⊢
  rw [split_extend]
  exact h.append _

/-- The first `j` components are where `path` gets its IDs from: all shorter
prefixes are rejected, this one is accepted, and so is everything below it. -/
structure ContainerAt (path : String) (ids : ToIDs) (j : ℕ) : Prop where
  above : ∀ k < j, ∃ err, parseCgroupPath (pathPrefix path k) = .error err
  here : parseCgroupPath (pathPrefix path j) = .ok ids
  below : ∀ rest, parseCgroupPath (pathPrefix path j ++ "/" ++ rest) = .ok ids

theorem ContainerAt.unique {path : String} {ids : ToIDs} {i j : ℕ} (hi : ContainerAt path ids i)
    (hj : ContainerAt path ids j) : i = j := by
  rcases lt_trichotomy i j with hlt | heq | hgt
  · obtain ⟨err, herr⟩ := hj.above i hlt
    rw [hi.here] at herr
    cases herr
  · exact heq
  · obtain ⟨err, herr⟩ := hi.above j hgt
    rw [hj.here] at herr
    cases herr

/-- An accepted path has a shortest accepted prefix. -/
theorem exists_containerAt {path : String} {ids : ToIDs} (h : parseCgroupPath path = .ok ids) :
    ∃ j, ContainerAt path ids j ∧ j ≠ 0 ∧ j ≤ (Strings.split path '/').length := by
  classical
  have hsome : ∃ k, ∃ ids', parseCgroupPath (pathPrefix path k) = .ok ids' :=
    ⟨(Strings.split path '/').length, ids, by rwa [pathPrefix_of_length_le le_rfl]⟩
  obtain ⟨ids', hfind⟩ := Nat.find_spec hsome
  have hpos : Nat.find hsome ≠ 0 := by
    intro hzero
    rw [hzero, pathPrefix_zero, parseCgroupPath_empty] at hfind
    cases hfind
  -- the path lies below its shortest accepted prefix, so the IDs are the same
  have hids : ids' = ids := by
    rcases eq_pathPrefix_or_extends path hpos with heq | ⟨rest, heq⟩
    · rw [← heq, h] at hfind
      cases hfind
      rfl
    · have hbelow := parseCgroupPath_extend hfind rest
      rw [← heq, h] at hbelow
      cases hbelow
      rfl
  subst hids
  refine ⟨Nat.find hsome, ⟨?_, hfind, parseCgroupPath_extend hfind⟩, hpos, ?_⟩
  · intro k hk
    cases hparse : parseCgroupPath (pathPrefix path k) with
    | error err => exact ⟨err, rfl⟩
    | ok other => exact absurd ⟨other, hparse⟩ (Nat.find_min hsome hk)
  · exact Nat.find_min' hsome ⟨ids', by rwa [pathPrefix_of_length_le le_rfl]⟩

/-- The last component of the shortest accepted prefix names the container. -/
theorem ContainerAt.component {path : String} {ids : ToIDs} {j : ℕ} (h : ContainerAt path ids j)
    (hpos : j ≠ 0) (hle : j ≤ (Strings.split path '/').length) :
    ∃ component, (Strings.split path '/')[j - 1]? = some component ∧
      containerIDFromPart component = .ok ids.containerID := by
  obtain ⟨i, rfl⟩ := Nat.exists_eq_succ_of_ne_zero hpos
  have hlt : i < (Strings.split path '/').length := hle
  refine ⟨(Strings.split path '/')[i], List.getElem?_eq_getElem hlt, ?_⟩
  have hhere := parseCgroupPath_ok_iff.mp h.here
  rw [split_pathPrefix path hpos, List.take_succ_eq_append_getElem hlt] at hhere
  rcases hhere.concat with hid | hshorter
  · exact hid
  · -- otherwise the next shorter prefix would be accepted as well
    obtain ⟨err, herr⟩ := h.above i (Nat.lt_succ_self i)
    rcases Nat.eq_zero_or_pos i with rfl | hi
    · obtain ⟨above, pod, container, below, hunder, -⟩ := hshorter
      cases above <;> cases hunder
    · rw [← split_pathPrefix path hi.ne', ← parseCgroupPath_ok_iff, herr] at hshorter
      cases hshorter

/-! ## Resolving cgroup IDs -/

/-- An indexed ID is resolved by its path alone. -/
theorem PodMap.resolve_of_lookup {p : PodMap} {cgroupID : UInt64} {q : String}
    (h : p.index.byInode.lookup cgroupID = some q) (env : CallEnv) :
    (∀ ids, parseCgroupPath q = .ok ids → p.resolve cgroupID env = (.ok ids, p)) ∧
      (∀ err, parseCgroupPath q = .error err →
        ∃ err', p.resolve cgroupID env = (.error err', p)) := by
  have hnot : ¬ p.Rebuilds cgroupID env :=
    fun hre => hre.1 (Map.mem_iff_lookup.mpr ⟨q, h⟩)
  obtain ⟨hstate, hresult⟩ := p.resolve_spec cgroupID env
  rw [consulted_of_not_rebuilds hnot] at hstate hresult
  rw [parseCgroupToIDs_of_lookup h] at hresult
  constructor
  · intro ids hparse
    rw [hparse] at hresult
    exact Prod.ext hresult hstate
  · intro err hparse
    rw [hparse] at hresult
    obtain ⟨err', herr, -⟩ := hresult
    exact ⟨err', Prod.ext herr hstate⟩

/-- Whatever is resolved comes from an accepted path. -/
theorem PodMap.resolve_ok {p q : PodMap} {cgroupID : UInt64} {env : CallEnv} {ids : ToIDs}
    (h : p.resolve cgroupID env = (.ok ids, q)) : ∃ path, parseCgroupPath path = .ok ids := by
  obtain ⟨-, hresult⟩ := p.resolve_spec cgroupID env
  rw [h] at hresult
  cases hlookup : (p.consulted cgroupID env).index.byInode.lookup cgroupID with
  | none =>
      rw [parseCgroupToIDs_of_not_mem (AList.lookup_eq_none.mp hlookup)] at hresult
      obtain ⟨err, herr, -⟩ := hresult
      cases herr
  | some path =>
      rw [parseCgroupToIDs_of_lookup hlookup] at hresult
      cases hparse : parseCgroupPath path with
      | error err =>
          rw [hparse] at hresult
          obtain ⟨err', herr, -⟩ := hresult
          cases herr
      | ok ids' =>
          rw [hparse] at hresult
          cases hresult
          exact ⟨path, hparse⟩

/-- **The paths of a container are exactly one directory subtree.**  An accepted
path has one component `j` at which it becomes acceptable: every shorter prefix
is rejected, and the prefix of `j` components and everything below it, whatever it
looks like, is accepted with the same IDs.  The pod UID is not empty, and the
container ID is a hexadecimal string that ends component `j`.  So a cgroup in the
subtree resolves to the container and one above it does not, and no call asks the
runtime for an empty ID. -/
theorem parseCgroupPath_subtree {path : String} {ids : ToIDs}
    (h : parseCgroupPath path = .ok ids) :
    (∃ j, ContainerAt path ids j ∧ (∀ i, ContainerAt path ids i → i = j) ∧
      (path = pathPrefix path j ∨ ∃ rest, path = pathPrefix path j ++ "/" ++ rest) ∧
      (∃ component, (Strings.split path '/')[j - 1]? = some component ∧
        ids.containerID.toList <:+ (Strings.trimSuffix component ".scope").toList) ∧
      (∀ (p : PodMap) cgroupID env q, p.index.byInode.lookup cgroupID = some q →
        ((q = pathPrefix path j ∨ ∃ rest, q = pathPrefix path j ++ "/" ++ rest) →
          p.resolve cgroupID env = (.ok ids, p)) ∧
        ((∃ k < j, q = pathPrefix path k) →
          ∃ err, p.resolve cgroupID env = (.error err, p)))) ∧
    ids.podUID ≠ "" ∧ ids.containerID ≠ "" ∧
    (∀ c ∈ ids.containerID.toList, ('0' ≤ c ∧ c ≤ '9') ∨ ('a' ≤ c ∧ c ≤ 'f')) ∧
    (∀ (p : PodMap) cgroupID env ids' q, p.resolve cgroupID env = (.ok ids', q) →
      ids'.containerID ≠ "") := by
  obtain ⟨j, hj, hpos, hle⟩ := exists_containerAt h
  obtain ⟨-, pod, container, -, -, -, huid, hid⟩ := parseCgroupPath_ok_iff.mp h
  have hhex := containerIDFromPart_ok hid
  refine ⟨⟨j, hj, fun i hi => hi.unique hj, eq_pathPrefix_or_extends path hpos, ?_, ?_⟩,
    podUIDFromPart_ne_empty huid, isHex_ne_empty hhex, isHex_digits hhex, ?_⟩
  · obtain ⟨component, hcomponent, hname⟩ := hj.component hpos hle
    exact ⟨component, hcomponent, containerIDFromPart_suffix hname⟩
  · intro p cgroupID env q hq
    constructor
    · rintro (rfl | ⟨rest, rfl⟩)
      · exact (PodMap.resolve_of_lookup hq env).1 ids hj.here
      · exact (PodMap.resolve_of_lookup hq env).1 ids (hj.below rest)
    · rintro ⟨k, hk, rfl⟩
      obtain ⟨err, herr⟩ := hj.above k hk
      exact (PodMap.resolve_of_lookup hq env).2 err herr
  · intro p cgroupID env ids' q hresolve
    obtain ⟨accepted, haccepted⟩ := PodMap.resolve_ok hresolve
    exact (parseCgroupPath_ok haccepted).2

/-- A cgroup that an inner cluster made below the container `ab`, and whose own
components look like those of another pod. -/
theorem parseCgroupPath_subtree_nested :
    parseCgroupPath "/kubepods/pod1/ab/kubepods/pod2/cd" = .ok ⟨"1", "ab"⟩ ∧
      ∃ j, ContainerAt "/kubepods/pod1/ab/kubepods/pod2/cd" ⟨"1", "ab"⟩ j ∧
        ∀ i, ContainerAt "/kubepods/pod1/ab/kubepods/pod2/cd" ⟨"1", "ab"⟩ i → i = j := by
  have hparse : parseCgroupPath "/kubepods/pod1/ab/kubepods/pod2/cd" = .ok ⟨"1", "ab"⟩ := by
    decide
  obtain ⟨⟨j, hj, hunique, -⟩, -⟩ := parseCgroupPath_subtree hparse
  exact ⟨hparse, j, hj, hunique⟩

/-! ## From the tree to the answer -/

/-- **A call for a nested cgroup is about its container.**  If the call rebuilds the
index, and the walk can reach and read the cgroup in the subtree of a container's
directory, then the call answers what the runtime answers about that container. -/
theorem PodMap.containerInfo_of_readable {p : PodMap} {cgroupID : UInt64} {env : CallEnv}
    (hid : cgroupID ≠ 0) (hfresh : p.freshEntry cgroupID env.cacheCheck = none)
    (hre : p.Rebuilds cgroupID env) {t : DirTree UInt64} {F : Faults UInt64 Err}
    (hfs : env.fs = cgroupView F t) (hnodup : t.dirKeys.Nodup) {dir path : String} {ids : ToIDs}
    (hread : ReadableDir p.index.root t F cgroupID path)
    (hdir : parseCgroupPath dir = .ok ids) (hpath : path = dir ∨ ∃ rest, path = dir ++ "/" ++ rest)
    (info : ContainerInfo) :
    (p.containerInfo cgroupID env).1 = .ok info ↔
      p.cri.containerNames ids.containerID env.containerStatus = .ok info := by
  have hlookup : (p.consulted cgroupID env).index.byInode.lookup cgroupID = some path := by
    rw [consulted_of_rebuilds hre]
    show (snapshot p.index.root env.fs).lookup cgroupID = some path
    rw [hfs]
    exact (snapshot_lookup_iff hnodup cgroupID path).mpr hread
  have hparse : parseCgroupPath path = .ok ids := by
    rcases hpath with rfl | ⟨rest, rfl⟩
    · exact hdir
    · exact parseCgroupPath_extend hdir rest
  have hexit := p.containerInfo_exit cgroupID env
  generalize (p.containerInfo cgroupID env).1 = result at hexit ⊢
  generalize (p.containerInfo cgroupID env).2 = q at hexit
  cases hexit with
  | emptyID hzero => exact absurd hzero hid
  | hit _ hsome =>
      rw [hfresh] at hsome
      cases hsome
  | notIndexed _ _ habsent => exact absurd (Map.mem_iff_lookup.mpr ⟨path, hlookup⟩) habsent
  | notParsed _ _ hlookup' herr =>
      rw [hlookup] at hlookup'
      cases hlookup'
      rw [hparse] at herr
      cases herr
  | notNamed _ _ hlookup' hparse' hnames =>
      rw [hlookup] at hlookup'
      cases hlookup'
      rw [hparse] at hparse'
      cases hparse'
      rw [hnames]
      simp
  | named _ _ hlookup' hparse' hnames =>
      rw [hlookup] at hlookup'
      cases hlookup'
      rw [hparse] at hparse'
      cases hparse'
      rw [hnames]

end KubeNpu

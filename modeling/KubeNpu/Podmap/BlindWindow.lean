import KubeNpu.Podmap.RebuildLimit

/-!
# How long a new container stays unseen

The index is a snapshot, and a snapshot does not have the cgroups that came after
it.  The rate limit on rebuilds therefore leaves every new container a window in
which its events are dropped as not indexed.  The window closes an interval after
the last rebuild, whatever else is looked up meanwhile: a rebuild that another ID
causes sees the new cgroup as well.  Once the cgroup is in the index it stays
there for as long as the tree has it.
-/

namespace KubeNpu

open Go Machine

/-- The call reports its ID as not indexed. -/
def NotIndexed (t : Transition CallState Call) : Prop :=
  errorsIs (errorOf (t.label.result t.pre.podMap)) .errNotIndexed = true

instance : DecidablePred NotIndexed := fun t =>
  inferInstanceAs (Decidable (errorsIs (errorOf (t.label.result t.pre.podMap)) _ = true))

variable {s₀ s s' mid : CallState} {call : Call} {c : UInt64}
  {past after : List (Transition CallState Call)}

/-- A call leaves the index of the pod map that answered it. -/
theorem index_of_step (hcoherent : s.podMap.Coherent) (hstep : CallStep s call s') :
    s'.podMap.index = (s.podMap.answering call.cgroupID call.env).index := by
  obtain ⟨-, rfl⟩ := hstep
  obtain ⟨cache, hstate⟩ := PodMap.containerInfo_state hcoherent call.cgroupID call.env
  rw [hstate]

/-- A call keeps the index, or leaves the snapshot of the tree it saw. -/
theorem index_step_cases (hcoherent : s.podMap.Coherent) (hstep : CallStep s call s') :
    s'.podMap.index = s.podMap.index ∨
      s'.podMap.index.byInode = snapshot s.podMap.index.root call.env.fs := by
  by_cases hreplaced : Replaced ⟨s, call, s'⟩
  · right
    rw [((replaced_iff hcoherent hstep).2.1 hreplaced).1]
    rfl
  · exact Or.inl (not_not.mp hreplaced)

/-- **An indexed cgroup stays indexed** while the tree has it. -/
theorem mem_index_step (hcoherent : s.podMap.Coherent) (hstep : CallStep s call s')
    (hthere : c ∈ snapshot s.podMap.index.root call.env.fs) (h : c ∈ s.podMap.index.byInode) :
    c ∈ s'.podMap.index.byInode := by
  rcases index_step_cases hcoherent hstep with hsame | hnew
  · rwa [hsame]
  · rwa [hnew]

/-- A call for a cgroup that does not report it as not indexed leaves it indexed. -/
theorem mem_index_of_answer (hcoherent : s.podMap.Coherent) (hstep : CallStep s call s')
    (hid : call.cgroupID ≠ 0) (h : ¬ NotIndexed ⟨s, call, s'⟩) :
    call.cgroupID ∈ s'.podMap.index.byInode := by
  have hmem : call.cgroupID ∈ (s.podMap.consulted call.cgroupID call.env).index.byInode :=
    not_not.mp ((errNotIndexed_iff hcoherent call hid).not.mp h)
  rw [index_of_step hcoherent hstep, PodMap.answering, if_neg hid]
  exact hmem

/-- The root of the walks along a run. -/
theorem root_of_run (hcoherent₀ : s₀.podMap.Coherent) (run : CallRun s₀ past s) :
    s.podMap.Coherent ∧ s.podMap.index.root = s₀.podMap.index.root := by
  obtain ⟨hcoherent, hsame⟩ := CallRun.coherent hcoherent₀ run
  exact ⟨hcoherent, hsame.root⟩

/-- Along a run in which the tree always has a cgroup, the index is the one of the
start or has it. -/
theorem mem_index_or_same (hcoherent₀ : s₀.podMap.Coherent) (run : CallRun s₀ past s)
    (hthere : ∀ t ∈ past, c ∈ snapshot s₀.podMap.index.root t.label.env.fs) :
    s.podMap.index = s₀.podMap.index ∨ c ∈ s.podMap.index.byInode := by
  induction run with
  | start => exact Or.inl rfl
  | @snoc past s call s' run hstep ih =>
      obtain ⟨hcoherent, hroot⟩ := root_of_run hcoherent₀ run
      have hnow : c ∈ snapshot s.podMap.index.root call.env.fs := by
        rw [hroot]
        exact hthere ⟨s, call, s'⟩ (List.mem_append_right _ List.mem_cons_self)
      rcases ih fun t ht => hthere t (List.mem_append_left _ ht) with hsame | hmem
      · rcases index_step_cases hcoherent hstep with hkept | hnew
        · exact Or.inl (hkept.trans hsame)
        · right
          rw [hnew]
          exact hnow
      · exact Or.inr (mem_index_step hcoherent hstep hnow hmem)

/-- Once it has the cgroup, it keeps it. -/
theorem mem_index_of_run (hcoherent₀ : s₀.podMap.Coherent) (run : CallRun s₀ past s)
    (hthere : ∀ t ∈ past, c ∈ snapshot s₀.podMap.index.root t.label.env.fs)
    (h : c ∈ s₀.podMap.index.byInode) : c ∈ s.podMap.index.byInode := by
  rcases mem_index_or_same hcoherent₀ run hthere with hsame | hmem
  · rwa [hsame]
  · exact hmem

/-- A call that misses the cgroup finds the index of the start, and finds it young. -/
private theorem kept_of_notIndexed (hcoherent₀ : s₀.podMap.Coherent) (run : CallRun s₀ past s)
    (hid : c ≠ 0) (hthere : ∀ t ∈ past, c ∈ snapshot s₀.podMap.index.root t.label.env.fs)
    {t : Transition CallState Call} (ht : t ∈ past) (hlabel : t.label.cgroupID = c)
    (hmiss : NotIndexed t) :
    t.pre.podMap.index = s₀.podMap.index ∧
      t.label.env.rebuildCheck.nanos - s₀.podMap.index.lastUpdated.nanos <
        s₀.podMap.index.interval.toInt := by
  obtain ⟨before, rest, rfl, hbefore, hstep⟩ := run.of_mem ht
  have hcoherent := (CallRun.coherent hcoherent₀ hbefore).1
  have habsent := (errNotIndexed_iff hcoherent t.label (by rwa [hlabel])).mp hmiss
  rw [not_mem_consulted_iff, hlabel] at habsent
  obtain ⟨hmissing, hwhy⟩ := habsent
  -- the cgroup is missing, so no rebuild has happened since the start
  have hkept : t.pre.podMap.index = s₀.podMap.index := by
    rcases mem_index_or_same hcoherent₀ hbefore
      (fun u hu => hthere u (List.mem_append_left _ hu)) with hkept | hmem
    · exact hkept
    · exact absurd hmem hmissing
  rw [hkept] at hwhy
  rcases hwhy with hyoung | hgone
  · exact ⟨hkept, hyoung⟩
  · exact absurd (hthere t (List.mem_append_right _ List.mem_cons_self)) hgone

/-- After an answer no call misses it. -/
private theorem indexed_after_answer (hcoherent₀ : s₀.podMap.Coherent) (hid : c ≠ 0)
    {before between rest : List (Transition CallState Call)} {t u : Transition CallState Call}
    (run : CallRun s₀ (before ++ t :: (between ++ u :: rest)) s)
    (hthere : ∀ v ∈ before ++ t :: (between ++ u :: rest),
      c ∈ snapshot s₀.podMap.index.root v.label.env.fs)
    (ht : t.label.cgroupID = c) (hu : u.label.cgroupID = c) (hanswered : ¬ NotIndexed t) :
    ¬ NotIndexed u := by
  intro hmiss
  obtain ⟨hbefore, hstep, hafter⟩ := run.through
  obtain ⟨hbetween, -, -⟩ := hafter.through
  obtain ⟨hcoherent₁, hroot₁⟩ := root_of_run hcoherent₀ hbefore
  obtain ⟨hcoherent₂, hroot₂⟩ := root_of_run hcoherent₀ (hbefore.snoc hstep)
  have hmem : c ∈ t.post.podMap.index.byInode := by
    rw [← ht]
    exact mem_index_of_answer hcoherent₁ hstep (by rwa [ht]) hanswered
  -- from here on the cgroup stays in the index
  have hstays : c ∈ u.pre.podMap.index.byInode := by
    refine mem_index_of_run hcoherent₂ hbetween ?_ hmem
    intro v hv
    rw [hroot₂]
    exact hthere v (by simp [hv])
  have hcoherent₃ := (root_of_run hcoherent₂ hbetween).1
  have habsent := (errNotIndexed_iff hcoherent₃ u.label (by rwa [hu])).mp hmiss
  rw [not_mem_consulted_iff, hu] at habsent
  exact habsent.1 hstays

/-- **A new container is unseen for less than one interval, and only once.**  In
any run, from any moment on in which the tree has a cgroup, whatever calls come in
between: a call reports the cgroup as not indexed only if it checks the clock less
than the interval after the last rebuild before that moment, and the index is
still that one; and after the first call that does not, no call does. -/
theorem blind_window {cgroupRoot criSocket : String} {interval criTimeout cacheTTL : Duration}
    {env : StartEnv} {p₀ : PodMap}
    (hnew : newPodMap cgroupRoot criSocket interval criTimeout cacheTTL env = .ok p₀)
    (run : CallRun ⟨p₀, env.builtAt⟩ past mid) (more : CallRun mid after s) (hid : c ≠ 0)
    (hthere : ∀ t ∈ after, c ∈ snapshot cgroupRoot t.label.env.fs) :
    (∀ t ∈ after, t.label.cgroupID = c → NotIndexed t →
      t.pre.podMap.index = mid.podMap.index ∧
        t.label.env.rebuildCheck.nanos <
          mid.podMap.index.lastUpdated.nanos + interval.toInt ∧
        t.label.env.rebuildCheck.nanos < mid.now.nanos + interval.toInt) ∧
    ∀ before t between u rest, after = before ++ t :: (between ++ u :: rest) →
      t.label.cgroupID = c → u.label.cgroupID = c → ¬ NotIndexed t → ¬ NotIndexed u := by
  have hcoherent₀ := PodMap.coherent_of_newPodMap hnew
  obtain ⟨hcoherent, hsame⟩ := CallRun.coherent hcoherent₀ run
  have hindex₀ := (newPodMap_ok hnew).1
  have hroot : mid.podMap.index.root = cgroupRoot := by rw [hsame.root, hindex₀]
  have hinterval : mid.podMap.index.interval = interval := by rw [hsame.interval, hindex₀]
  rw [← hroot] at hthere
  refine ⟨?_, ?_⟩
  · intro t ht hlabel hmiss
    obtain ⟨hkept, hyoung⟩ := kept_of_notIndexed hcoherent more hid hthere ht hlabel hmiss
    have hupdated := Time.le_def.mp
      (CallRun.limited hcoherent₀ (limited_of_newPodMap hnew) run).updated
    rw [hinterval] at hyoung
    exact ⟨hkept, by omega, by omega⟩
  · rintro before t between u rest rfl ht hu hanswered
    exact indexed_after_answer hcoherent hid more hthere ht hu hanswered

/-- The cgroup tree of the node with one container after a second one came. -/
def twoPodFS : CgroupFS :=
  .ok (cgroupDir "cgroup" 1 [cgroupDir "kubepods" 2
    [cgroupDir "pod1" 3 [cgroupDir "ab" 4 [], cgroupDir "cd" 9 []]]])

/-- A call for the new container. -/
def newcomerCall (now : Time) : Call :=
  ⟨9, { callAt now (labelled "default" "web" "sidecar") with fs := twoPodFS }⟩

/-- A call for it, with the state it leaves. -/
def newcomerStep (s : CallState) (now : Time) : Transition CallState Call :=
  ⟨s, newcomerCall now, ⟨(s.podMap.containerInfo 9 (newcomerCall now).env).2, now⟩⟩

/-- It is asked for one second after the start, at the end of the interval, and a
second later. -/
def newcomerSteps : List (Transition CallState Call) :=
  let first := newcomerStep ⟨onePodMap, ⟨0⟩⟩ ⟨seconds 1⟩
  let second := newcomerStep first.post ⟨seconds 5⟩
  [first, second, newcomerStep second.post ⟨seconds 6⟩]

set_option maxRecDepth 8000 in
/-- The first call comes too early, the second rebuilds the index, and so the third
finds the container indexed. -/
theorem blind_window_newcomer :
    (∀ t ∈ newcomerSteps, NotIndexed t → t.label.env.rebuildCheck.nanos < 5000000000) ∧
      ¬ NotIndexed newcomerSteps[2] := by
  have run : CallRun ⟨onePodMap, ⟨0⟩⟩ newcomerSteps _ :=
    ((Run.start.snoc ⟨⟨by decide, by decide, by decide, by decide⟩, rfl⟩).snoc
      ⟨⟨by decide, by decide, by decide, by decide⟩, rfl⟩).snoc
      ⟨⟨by decide, by decide, by decide, by decide⟩, rfl⟩
  obtain ⟨hwindow, honce⟩ := blind_window newPodMap_onePod .start run (c := 9) (by decide)
    (by
      intro t ht
      fin_cases ht <;> decide)
  refine ⟨?_, ?_⟩
  · intro t ht hmiss
    refine (hwindow t ht ?_ hmiss).2.2
    fin_cases ht <;> rfl
  · exact honce [newcomerSteps[0]] newcomerSteps[1] [] newcomerSteps[2] [] rfl rfl rfl
      (by decide)

end KubeNpu

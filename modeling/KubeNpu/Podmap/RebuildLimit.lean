import KubeNpu.Machine.Throttle
import KubeNpu.Podmap.Calls

/-!
# Rebuilds of the index: at most one per interval, and none left out

A call replaces the index exactly when its ID is missing and the last build is at
least an interval ago.  Hence the times of the builds are `Spaced`, the counter
is their number, and an ID is reported as not indexed only inside the window of
the rate limit or when the cgroup tree does not have it.
-/

namespace KubeNpu

open Go Machine

/-- The call put a new index in place. -/
def Replaced (t : Transition CallState Call) : Prop :=
  t.post.podMap.index ≠ t.pre.podMap.index

instance : DecidablePred Replaced := fun t =>
  inferInstanceAs (Decidable (t.post.podMap.index ≠ t.pre.podMap.index))

/-- When the rebuilds of a run finished, in nanoseconds. -/
def rebuildTimes (past : List (Transition CallState Call)) : List ℤ :=
  (past.filter fun t => Replaced t).map fun t => t.post.podMap.index.lastUpdated.nanos

theorem rebuildTimes_concat (past : List (Transition CallState Call))
    (t : Transition CallState Call) :
    rebuildTimes (past ++ [t]) =
      if Replaced t then rebuildTimes past ++ [t.post.podMap.index.lastUpdated.nanos]
      else rebuildTimes past := by
  by_cases h : Replaced t <;> simp [rebuildTimes, List.filter_append, h]

/-! ## One call -/

namespace PodMap

variable {p : PodMap} {cgroupID : UInt64} {env : CallEnv}

/-- A call rebuilds if its ID is not 0 and missing, and the index is old enough. -/
theorem answering_of_rebuilds (hid : cgroupID ≠ 0) (h : p.Rebuilds cgroupID env) :
    p.answering cgroupID env = p.rebuilt env := by
  rw [answering, if_neg hid, consulted_of_rebuilds h]

/-- Otherwise the pod map stays as it is. -/
theorem answering_of_not_rebuilds (h : ¬ (cgroupID ≠ 0 ∧ p.Rebuilds cgroupID env)) :
    p.answering cgroupID env = p := by
  unfold answering
  split
  · rfl
  · rename_i hid
    exact consulted_of_not_rebuilds fun hre => h ⟨hid, hre⟩

/-- The guard of the rebuild, in integers. -/
theorem rebuilds_iff :
    p.Rebuilds cgroupID env ↔ cgroupID ∉ p.index.byInode ∧
      p.index.interval.toInt ≤ env.rebuildCheck.nanos - p.index.lastUpdated.nanos := by
  unfold Rebuilds
  rw [Time.not_sub_lt_iff _ _ p.interval_pos]

theorem interval_toInt_pos (p : PodMap) : 0 < p.index.interval.toInt := by
  simpa [Int64.lt_iff_toInt_lt] using p.interval_pos

end PodMap

variable {s s' : CallState} {call : Call}

/-- **When a call replaces the index**, and by what. -/
theorem replaced_iff (hcoherent : s.podMap.Coherent) (hstep : CallStep s call s') :
    (Replaced ⟨s, call, s'⟩ ↔
        call.cgroupID ≠ 0 ∧ s.podMap.Rebuilds call.cgroupID call.env) ∧
      (Replaced ⟨s, call, s'⟩ →
        s'.podMap.index = (s.podMap.rebuilt call.env).index ∧
          s'.podMap.cgroupIndexRebuilds = s.podMap.cgroupIndexRebuilds + 1) ∧
      (¬ Replaced ⟨s, call, s'⟩ →
        s'.podMap.cgroupIndexRebuilds = s.podMap.cgroupIndexRebuilds) := by
  obtain ⟨horder, rfl⟩ := hstep
  obtain ⟨cache, hstate⟩ := PodMap.containerInfo_state hcoherent call.cgroupID call.env
  rw [hstate]
  by_cases h : call.cgroupID ≠ 0 ∧ s.podMap.Rebuilds call.cgroupID call.env
  · rw [PodMap.answering_of_rebuilds h.1 h.2]
    have hreplaced : (s.podMap.rebuilt call.env).index ≠ s.podMap.index := by
      intro heq
      -- the new build is later than the old one by at least the interval
      have hguard := (PodMap.rebuilds_iff.mp h.2).2
      have hlater : call.env.builtAt = s.podMap.index.lastUpdated :=
        congrArg Index.lastUpdated heq
      have hbuilt := Time.le_def.mp horder.builtAt
      have hpos := s.podMap.interval_toInt_pos
      rw [hlater] at hbuilt
      omega
    exact ⟨iff_of_true hreplaced h, fun _ => ⟨rfl, rfl⟩, fun hnot => absurd hreplaced hnot⟩
  · rw [PodMap.answering_of_not_rebuilds h]
    exact ⟨iff_of_false (fun hne => hne rfl) h, fun hne => absurd rfl hne, fun _ => rfl⟩

/-- **When a call reports its ID as not indexed.** -/
theorem errNotIndexed_iff {p : PodMap} (hcoherent : p.Coherent) (call : Call)
    (hid : call.cgroupID ≠ 0) :
    errorsIs (errorOf (call.result p)) .errNotIndexed = true ↔
      call.cgroupID ∉ (p.consulted call.cgroupID call.env).index.byInode := by
  have hexit := p.containerInfo_exit call.cgroupID call.env
  unfold Call.result
  generalize (p.containerInfo call.cgroupID call.env).1 = result at hexit ⊢
  generalize (p.containerInfo call.cgroupID call.env).2 = q at hexit
  cases hexit with
  | emptyID hzero => exact absurd hzero hid
  | hit _ hfresh =>
      rw [PodMap.consulted_of_not_rebuilds (hcoherent.not_rebuilds hfresh)]
      obtain ⟨path, -, hpath, -⟩ := hcoherent _ _ (PodMap.freshEntry_eq_some hfresh).1
      refine iff_of_false (by simp) ?_
      intro habsent
      exact habsent (Map.mem_iff_lookup.mpr ⟨path, hpath⟩)
  | notIndexed _ _ habsent hidx => exact iff_of_true (by simpa using hidx) habsent
  | notParsed _ _ hpath hparse hsame =>
      refine iff_of_false ?_ fun habsent => habsent (Map.mem_iff_lookup.mpr ⟨_, hpath⟩)
      rw [errorOf_error, errorsIs_some, hsame, parseCgroupPath_error hparse]
      rintro ⟨hne, -⟩
      cases hne
  | notNamed _ _ hpath hparse hnames hsame =>
      refine iff_of_false ?_ fun habsent => habsent (Map.mem_iff_lookup.mpr ⟨_, hpath⟩)
      rw [errorOf_error, errorsIs_some, hsame,
        CRIClient.containerNames_not_errNotIndexed hnames]
      exact Bool.false_ne_true
  | named _ _ hpath =>
      exact iff_of_false (by simp) fun habsent => habsent (Map.mem_iff_lookup.mpr ⟨_, hpath⟩)

/-- A missing ID stays missing unless the call may rebuild and the tree has it. -/
theorem not_mem_consulted_iff (p : PodMap) (cgroupID : UInt64) (env : CallEnv) :
    cgroupID ∉ (p.consulted cgroupID env).index.byInode ↔
      cgroupID ∉ p.index.byInode ∧
        (env.rebuildCheck.nanos - p.index.lastUpdated.nanos < p.index.interval.toInt ∨
          cgroupID ∉ snapshot p.index.root env.fs) := by
  have hguard : p.Rebuilds cgroupID env ↔ _ := PodMap.rebuilds_iff
  by_cases hre : p.Rebuilds cgroupID env
  · obtain ⟨habsent, hold⟩ := hguard.mp hre
    rw [PodMap.consulted_of_rebuilds hre]
    constructor
    · exact fun hmiss => ⟨habsent, Or.inr hmiss⟩
    · rintro ⟨-, hyoung | hmiss⟩
      · omega
      · exact hmiss
  · rw [PodMap.consulted_of_not_rebuilds hre]
    constructor
    · intro habsent
      refine ⟨habsent, Or.inl (not_le.mp fun hold => hre (hguard.mpr ⟨habsent, hold⟩))⟩
    · exact And.left

/-! ## Runs -/

/-- The builds so far are spaced, and the counter is their number. -/
structure Limited (t₀ : Time) (past : List (Transition CallState Call)) (s : CallState) :
    Prop where
  updated : s.podMap.index.lastUpdated ≤ s.now
  spaced : Throttle.Spaced s.podMap.index.interval.toInt t₀.nanos (rebuildTimes past)
  latest : Throttle.latest t₀.nanos (rebuildTimes past) = s.podMap.index.lastUpdated.nanos
  counted : s.podMap.cgroupIndexRebuilds.toNat = (rebuildTimes past).length

/-- As many builds as fit between two clock readings fit the counter. -/
theorem length_lt_of_spaced {gap : ℤ} {t₀ t : Time} {ts : List ℤ} (hgap : 0 < gap)
    (h : Throttle.Spaced gap t₀.nanos ts) (hlatest : Throttle.latest t₀.nanos ts = t.nanos) :
    ts.length < 2 ^ 64 := by
  have hbound := h.length_le_ediv hgap hlatest.le
  -- the clock itself has fewer than 2^64 readings
  have hwidth : t.nanos - t₀.nanos ≤ 2 ^ 64 - 1 := by
    have hlt := t.nanos_lt
    have hle := t₀.le_nanos
    omega
  have hdiv : (t.nanos - t₀.nanos) / gap ≤ 2 ^ 64 - 1 := by
    refine Int.ediv_le_of_le_mul hgap (hwidth.trans ?_)
    exact le_mul_of_one_le_right (by norm_num) hgap
  omega

/-- **One call keeps the builds limited.** -/
theorem Limited.step {t₀ : Time} {past : List (Transition CallState Call)}
    (h : Limited t₀ past s) (hcoherent : s.podMap.Coherent) (hstep : CallStep s call s') :
    Limited t₀ (past ++ [⟨s, call, s'⟩]) s' := by
  obtain ⟨hiff, hthen, helse⟩ := replaced_iff hcoherent hstep
  obtain ⟨horder, rfl⟩ := hstep
  have hsettings := PodMap.sameSettings_containerInfo hcoherent call.cgroupID call.env
  have hnow : s.now ≤ call.env.storedAt := horder.start_le_builtAt.trans horder.storedAt
  by_cases hreplaced : Replaced ⟨s, call,
      ⟨(s.podMap.containerInfo call.cgroupID call.env).2, call.env.storedAt⟩⟩
  · obtain ⟨hindex, hcount⟩ := hthen hreplaced
    have hguard := (PodMap.rebuilds_iff.mp (hiff.mp hreplaced).2).2
    have hbuilt := Time.le_def.mp horder.builtAt
    have hspaced : Throttle.Spaced s.podMap.index.interval.toInt t₀.nanos
        (rebuildTimes past ++ [call.env.builtAt.nanos]) := by
      -- the guard was read after the last build and before the new one ended
      refine h.spaced.concat ?_
      rw [h.latest]
      omega
    have hlen := length_lt_of_spaced s.podMap.interval_toInt_pos hspaced
      (Throttle.latest_concat _ _ _)
    rw [List.length_append, List.length_singleton] at hlen
    refine ⟨?_, ?_, ?_, ?_⟩
    · rw [hindex]
      exact horder.storedAt
    · rw [rebuildTimes_concat, if_pos hreplaced, hsettings.interval, hindex]
      exact hspaced
    · rw [rebuildTimes_concat, if_pos hreplaced, Throttle.latest_concat]
    · rw [rebuildTimes_concat, if_pos hreplaced, hcount, List.length_append,
        List.length_singleton, UInt64.toNat_add, h.counted]
      exact Nat.mod_eq_of_lt hlen
  · have hindex := not_not.mp hreplaced
    refine ⟨?_, ?_, ?_, ?_⟩
    · rw [hindex]
      exact h.updated.trans hnow
    · rw [rebuildTimes_concat, if_neg hreplaced, hsettings.interval]
      exact h.spaced
    · rw [rebuildTimes_concat, if_neg hreplaced, hindex]
      exact h.latest
    · rw [rebuildTimes_concat, if_neg hreplaced, helse hreplaced]
      exact h.counted

/-- **Along a run the builds stay limited.** -/
theorem CallRun.limited {s₀ : CallState} {past : List (Transition CallState Call)} {t₀ : Time}
    (hcoherent : s₀.podMap.Coherent) (h : Limited t₀ [] s₀) (run : CallRun s₀ past s) :
    Limited t₀ past s := by
  induction run with
  | start => exact h
  | snoc run hstep ih => exact ih.step (CallRun.coherent hcoherent run).1 hstep

theorem limited_of_newPodMap {cgroupRoot criSocket : String}
    {interval criTimeout cacheTTL : Duration} {env : StartEnv} {p : PodMap}
    (h : newPodMap cgroupRoot criSocket interval criTimeout cacheTTL env = .ok p) :
    Limited env.builtAt [] ⟨p, env.builtAt⟩ := by
  obtain ⟨hindex, -, -, -, hcount⟩ := newPodMap_ok h
  refine ⟨?_, Throttle.spaced_nil _ _, ?_, ?_⟩
  · rw [hindex]
  · rw [hindex]
    rfl
  · show p.cgroupIndexRebuilds.toNat = 0
    rw [hcount]
    rfl

/-- **Rebuilds are rate limited and otherwise complete.**  From the start on,
every call replaces the index if and only if its ID is not 0, missing, and the
last build is at least the interval ago; the builds are at least the interval
apart, so no more of them fit before any time after the last one, and the counter
is their number; and a call reports its ID as not indexed if and only if it is
missing and either the interval has not passed or the tree does not have it. -/
theorem rebuilds_limited {cgroupRoot criSocket : String}
    {interval criTimeout cacheTTL : Duration} {env : StartEnv} {p₀ : PodMap}
    (hnew : newPodMap cgroupRoot criSocket interval criTimeout cacheTTL env = .ok p₀)
    {past : List (Transition CallState Call)} {s : CallState}
    (run : CallRun ⟨p₀, env.builtAt⟩ past s) :
    (∀ t ∈ past,
      (Replaced t ↔ t.label.cgroupID ≠ 0 ∧ t.label.cgroupID ∉ t.pre.podMap.index.byInode ∧
        interval.toInt ≤
          t.label.env.rebuildCheck.nanos - t.pre.podMap.index.lastUpdated.nanos) ∧
      (Replaced t → t.post.podMap.index =
        ⟨snapshot cgroupRoot t.label.env.fs, cgroupRoot, t.label.env.builtAt, interval⟩)) ∧
    (Throttle.Spaced interval.toInt env.builtAt.nanos (rebuildTimes past) ∧
      (∀ now, s.podMap.index.lastUpdated ≤ now →
        ((rebuildTimes past).length : ℤ) ≤ (now.nanos - env.builtAt.nanos) / interval.toInt) ∧
      s.podMap.rebuilds.toNat = (rebuildTimes past).length) ∧
    ∀ t ∈ past, t.label.cgroupID ≠ 0 →
      (errorsIs (errorOf (t.label.result t.pre.podMap)) .errNotIndexed = true ↔
        t.label.cgroupID ∉ t.pre.podMap.index.byInode ∧
          (t.label.env.rebuildCheck.nanos - t.pre.podMap.index.lastUpdated.nanos <
              interval.toInt ∨
            t.label.cgroupID ∉ snapshot cgroupRoot t.label.env.fs)) := by
  have hcoherent := PodMap.coherent_of_newPodMap hnew
  obtain ⟨hindex₀, -⟩ := newPodMap_ok hnew
  have hsettings : ∀ {before : List (Transition CallState Call)} {u : CallState},
      CallRun ⟨p₀, env.builtAt⟩ before u →
      u.podMap.index.interval = interval ∧ u.podMap.index.root = cgroupRoot := by
    intro before u hrun
    have hsame := (CallRun.coherent hcoherent hrun).2
    exact ⟨by rw [hsame.interval, hindex₀], by rw [hsame.root, hindex₀]⟩
  refine ⟨?_, ⟨?_, ?_, ?_⟩, ?_⟩
  · intro t ht
    obtain ⟨before, -, -, hbefore, hstep⟩ := run.of_mem ht
    obtain ⟨hinterval, hroot⟩ := hsettings hbefore
    obtain ⟨hiff, hthen, -⟩ := replaced_iff (CallRun.coherent hcoherent hbefore).1 hstep
    rw [PodMap.rebuilds_iff, hinterval] at hiff
    refine ⟨hiff, ?_⟩
    intro hreplaced
    rw [(hthen hreplaced).1, ← hroot, ← hinterval]
    rfl
  · have hlimited := CallRun.limited hcoherent (limited_of_newPodMap hnew) run
    rw [← (hsettings run).1]
    exact hlimited.spaced
  · intro now hnow
    have hlimited := CallRun.limited hcoherent (limited_of_newPodMap hnew) run
    rw [← (hsettings run).1]
    refine hlimited.spaced.length_le_ediv s.podMap.interval_toInt_pos ?_
    rw [hlimited.latest]
    exact hnow
  · exact (CallRun.limited hcoherent (limited_of_newPodMap hnew) run).counted
  · intro t ht hid
    obtain ⟨before, -, -, hbefore, -⟩ := run.of_mem ht
    obtain ⟨hinterval, hroot⟩ := hsettings hbefore
    rw [errNotIndexed_iff (CallRun.coherent hcoherent hbefore).1 t.label hid,
      not_mem_consulted_iff, hinterval, hroot]

/-- A call for a cgroup that the start did not see, one second later. -/
def earlyCall : Call := ⟨9, callAt (⟨seconds 1⟩) (labelled "default" "web" "app")⟩

/-- The state after it. -/
def afterEarly : CallState := ⟨(onePodMap.containerInfo 9 earlyCall.env).2, ⟨seconds 1⟩⟩

/-- That call does not rebuild the index, and reports its ID as not indexed. -/
theorem rebuilds_limited_early :
    let t : Transition CallState Call := ⟨⟨onePodMap, ⟨0⟩⟩, earlyCall, afterEarly⟩
    (∀ u ∈ [t],
      (Replaced u ↔ u.label.cgroupID ≠ 0 ∧ u.label.cgroupID ∉ u.pre.podMap.index.byInode ∧
        (seconds 5).toInt ≤
          u.label.env.rebuildCheck.nanos - u.pre.podMap.index.lastUpdated.nanos) ∧
      (Replaced u → u.post.podMap.index =
        ⟨snapshot "/cgroup" u.label.env.fs, "/cgroup", u.label.env.builtAt, seconds 5⟩)) ∧
    (Throttle.Spaced (seconds 5).toInt (⟨0⟩ : Time).nanos (rebuildTimes [t]) ∧
      (∀ now, afterEarly.podMap.index.lastUpdated ≤ now →
        ((rebuildTimes [t]).length : ℤ) ≤
          (now.nanos - (⟨0⟩ : Time).nanos) / (seconds 5).toInt) ∧
      afterEarly.podMap.rebuilds.toNat = (rebuildTimes [t]).length) ∧
    ∀ u ∈ [t], u.label.cgroupID ≠ 0 →
      (errorsIs (errorOf (u.label.result u.pre.podMap)) .errNotIndexed = true ↔
        u.label.cgroupID ∉ u.pre.podMap.index.byInode ∧
          (u.label.env.rebuildCheck.nanos - u.pre.podMap.index.lastUpdated.nanos <
              (seconds 5).toInt ∨
            u.label.cgroupID ∉ snapshot "/cgroup" u.label.env.fs)) :=
  rebuilds_limited newPodMap_onePod (.snoc .start ⟨inOrder_callAt (by decide) _, rfl⟩)

end KubeNpu

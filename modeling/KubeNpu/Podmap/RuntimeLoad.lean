import KubeNpu.Podmap.RebuildLimit

/-!
# How often the runtime is asked

The runtime serves the kubelet as well, and every counted ioctl of a container is an
event, so `ContainerInfo` keeps the answers.  An answer saves the questions of one TTL,
unless a rebuild of the index empties the cache before that; and what causes a rebuild
is any cgroup that is missing, not the one whose answer is lost.

For one cgroup the pod map is a throttle with resets: an answer passes it, a rebuild
resets it, and the entry in the cache is the memory of the last pass.  The rate limit on
rebuilds then bounds the answers for a cgroup by the clock alone.  There is no such
bound on questions that fail, since an error is not kept.
-/

namespace KubeNpu

open Go Machine

/-- The runtime names the container of a cgroup: a call for it succeeds, and the cache has
no young entry to answer it from. -/
def NamedFor (c : UInt64) (t : Transition CallState Call) : Prop :=
  t.label.cgroupID = c ∧ t.pre.podMap.freshEntry c t.label.env.cacheCheck = none ∧
    (t.label.result t.pre.podMap).isOk = true

instance (c : UInt64) : DecidablePred (NamedFor c) := fun t =>
  inferInstanceAs (Decidable (t.label.cgroupID = c ∧
    t.pre.podMap.freshEntry c t.label.env.cacheCheck = none ∧
      (t.label.result t.pre.podMap).isOk = true))

/-- When the cached answer for a cgroup was stored. -/
def PodMap.storedTime (p : PodMap) (c : UInt64) : Option ℤ :=
  (p.cache.lookup c).map fun entry => entry.storedAt.nanos

namespace PodMap

variable {p : PodMap} {c : UInt64} {info : ContainerInfo} {now : Time}

theorem storedTime_store_self : (p.store c info now).storedTime c = some now.nanos := by
  simp [storedTime, store]

theorem storedTime_store_ne {cgroupID : UInt64} (h : c ≠ cgroupID) :
    (p.store cgroupID info now).storedTime c = p.storedTime c := by
  rw [storedTime, storedTime, store, AList.lookup_insert_ne h]

end PodMap

/-! ## One call -/

section

variable {c : UInt64} {s s' : CallState} {call : Call} {ttl t₀ : ℤ} {passes resets : ℕ}

/-- While a call runs, the clock goes on. -/
private theorem paced_wait (horder : call.env.InOrder s.now)
    (h : Throttle.Paced ttl t₀ passes resets (s.podMap.storedTime c) s.now.nanos) :
    Throttle.Paced ttl t₀ passes resets (s.podMap.storedTime c) call.env.storedAt.nanos :=
  h.wait (Time.le_def.mp (horder.start_le_builtAt.trans horder.storedAt))

/-- Consulting the index does nothing else, or resets the throttle. -/
private theorem paced_consulted (horder : call.env.InOrder s.now)
    (h : Throttle.Paced ttl t₀ passes resets (s.podMap.storedTime c) s.now.nanos) :
    Throttle.Paced ttl t₀ passes
      (resets + if s.podMap.Rebuilds call.cgroupID call.env then 1 else 0)
      ((s.podMap.consulted call.cgroupID call.env).storedTime c) call.env.storedAt.nanos := by
  have hwait := paced_wait horder h
  by_cases hre : s.podMap.Rebuilds call.cgroupID call.env
  · rw [if_pos hre, PodMap.consulted_of_rebuilds hre]
    exact hwait.reset
  · rw [if_neg hre, PodMap.consulted_of_not_rebuilds hre]
    exact hwait

/-- An entry that did not answer is a TTL old when the next answer is stored. -/
private theorem gap_of_stale (horder : call.env.InOrder s.now)
    (hmiss : s.podMap.freshEntry c call.env.cacheCheck = none) :
    ∀ t ∈ (s.podMap.consulted call.cgroupID call.env).storedTime c,
      t + s.podMap.cacheTTL.toInt ≤ call.env.storedAt.nanos := by
  intro t ht
  obtain ⟨entry, hentry, rfl⟩ := Option.map_eq_some_iff.mp ht
  have hold : s.podMap.cache.lookup c = some entry := by
    by_cases hre : s.podMap.Rebuilds call.cgroupID call.env
    · rw [PodMap.consulted_of_rebuilds hre] at hentry
      cases hentry
    · rwa [PodMap.consulted_of_not_rebuilds hre] at hentry
  have hstale : ¬ call.env.cacheCheck.sub entry.storedAt < s.podMap.cacheTTL := by
    rw [PodMap.freshEntry, hold] at hmiss
    simpa using hmiss
  rw [Time.not_sub_lt_iff _ _ s.podMap.cacheTTL_pos] at hstale
  have hlater := Time.le_def.mp
    (horder.rebuildCheck.trans (horder.builtAt.trans horder.storedAt))
  omega

/-- **For one cgroup, a call is a move of the throttle.** -/
theorem paced_step (hcoherent : s.podMap.Coherent) (hstep : CallStep s call s')
    (h : Throttle.Paced s.podMap.cacheTTL.toInt t₀ passes resets (s.podMap.storedTime c)
      s.now.nanos) :
    Throttle.Paced s.podMap.cacheTTL.toInt t₀
      (passes + if NamedFor c ⟨s, call, s'⟩ then 1 else 0)
      (resets + if Replaced ⟨s, call, s'⟩ then 1 else 0)
      (s'.podMap.storedTime c) s'.now.nanos := by
  have hreplaced := (replaced_iff hcoherent hstep).1
  obtain ⟨horder, rfl⟩ := hstep
  have hnamed : NamedFor c ⟨s, call, ⟨(s.podMap.containerInfo call.cgroupID call.env).2,
      call.env.storedAt⟩⟩ ↔ call.cgroupID = c ∧
        s.podMap.freshEntry c call.env.cacheCheck = none ∧
          (s.podMap.containerInfo call.cgroupID call.env).1.isOk = true := Iff.rfl
  have hexit := s.podMap.containerInfo_exit call.cgroupID call.env
  simp only [hnamed, hreplaced]
  generalize (s.podMap.containerInfo call.cgroupID call.env).1 = result at hexit ⊢
  generalize (s.podMap.containerInfo call.cgroupID call.env).2 = q at hexit ⊢
  have hconsulted := paced_consulted horder h
  cases hexit with
  | emptyID hid =>
      rw [if_neg fun hn => Bool.false_ne_true hn.2.2, if_neg fun hre => hre.1 hid]
      exact paced_wait horder h
  | hit hid hfresh =>
      have hnot (named : Prop) : ¬ (call.cgroupID = c ∧
          s.podMap.freshEntry c call.env.cacheCheck = none ∧ named) := by
        rintro ⟨rfl, hmiss, -⟩
        rw [hfresh] at hmiss
        cases hmiss
      rw [if_neg (hnot _), if_neg fun hre => hcoherent.not_rebuilds hfresh hre.2]
      exact paced_wait horder h
  | notIndexed hid | notParsed hid | notNamed hid =>
      rw [if_neg fun hn => Bool.false_ne_true hn.2.2]
      simpa only [ne_eq, hid, not_false_eq_true, true_and, Nat.add_zero] using hconsulted
  | named hid hmiss hpath hparse hnames =>
      simp only [ne_eq, hid, not_false_eq_true, true_and]
      by_cases hc : call.cgroupID = c
      · subst hc
        rw [if_pos ⟨rfl, hmiss, rfl⟩, PodMap.storedTime_store_self]
        exact hconsulted.pass (gap_of_stale horder hmiss)
      · rw [if_neg fun hn => hc hn.1, PodMap.storedTime_store_ne (Ne.symm hc)]
        exact hconsulted

/-! ## Runs -/

/-- Along a run, the answers for a cgroup pass the throttle and the rebuilds reset it. -/
theorem CallRun.paced {s₀ : CallState} {past : List (Transition CallState Call)} (c : UInt64)
    (hcoherent : s₀.podMap.Coherent)
    (h₀ : Throttle.Paced s₀.podMap.cacheTTL.toInt t₀ 0 0 (s₀.podMap.storedTime c) s₀.now.nanos)
    (run : CallRun s₀ past s) :
    Throttle.Paced s.podMap.cacheTTL.toInt t₀ (past.countP fun t => NamedFor c t)
      (rebuildTimes past).length (s.podMap.storedTime c) s.now.nanos := by
  induction run with
  | start => exact h₀
  | @snoc past s call s' run hstep ih =>
      have hcoherent' := (CallRun.coherent hcoherent run).1
      have hsame : s'.podMap.cacheTTL = s.podMap.cacheTTL := by
        rw [hstep.2]
        exact (PodMap.sameSettings_containerInfo hcoherent' call.cgroupID call.env).cacheTTL
      have hnext := paced_step hcoherent' hstep ih
      rw [hsame, List.countP_append, List.countP_singleton, rebuildTimes_concat]
      by_cases hreplaced : Replaced ⟨s, call, s'⟩
      · simpa only [if_pos hreplaced, List.length_append, List.length_singleton,
          decide_eq_true_eq] using hnext
      · simpa only [if_neg hreplaced, decide_eq_true_eq, Nat.add_zero] using hnext

/-- **The cache bounds the load on the runtime.**  In every run of calls from the start,
whatever the tree and the runtime do in between, the runtime names the container of a
cgroup at most once for each TTL that passed, once for each rebuild of the index, and
once to begin with; and so, by the rate limit on rebuilds, at most once for each TTL and
once for each interval, and once to begin with. -/
theorem runtime_asked_rarely {cgroupRoot criSocket : String}
    {interval criTimeout cacheTTL : Duration} {env : StartEnv} {p₀ : PodMap}
    (hnew : newPodMap cgroupRoot criSocket interval criTimeout cacheTTL env = .ok p₀)
    {past : List (Transition CallState Call)} (run : CallRun ⟨p₀, env.builtAt⟩ past s)
    (c : UInt64) :
    ((past.countP fun t => NamedFor c t : ℕ) : ℤ) ≤
        1 + s.podMap.rebuilds.toNat + (s.now.nanos - env.builtAt.nanos) / cacheTTL.toInt ∧
      ((past.countP fun t => NamedFor c t : ℕ) : ℤ) ≤
        1 + (s.now.nanos - env.builtAt.nanos) / interval.toInt +
          (s.now.nanos - env.builtAt.nanos) / cacheTTL.toInt := by
  have hcoherent := PodMap.coherent_of_newPodMap hnew
  obtain ⟨hindex, -, hcache, httl, -⟩ := newPodMap_ok hnew
  have hsame := (CallRun.coherent hcoherent run).2
  have hlimited := CallRun.limited hcoherent (limited_of_newPodMap hnew) run
  have hstart : Throttle.Paced p₀.cacheTTL.toInt env.builtAt.nanos 0 0 (p₀.storedTime c)
      env.builtAt.nanos := by
    rw [PodMap.storedTime, hcache]
    exact .start
  have hpaced := CallRun.paced c hcoherent hstart run
  have hpasses := hpaced.passes_le (by
    simpa [Int64.lt_iff_toInt_lt] using s.podMap.cacheTTL_pos)
  rw [hsame.cacheTTL, httl, ← hlimited.counted] at hpasses
  have hrebuilds := hlimited.spaced.length_le_ediv s.podMap.interval_toInt_pos
    (hlimited.latest.trans_le (Time.le_def.mp hlimited.updated))
  rw [hsame.interval, hindex, ← hlimited.counted] at hrebuilds
  refine ⟨hpasses, ?_⟩
  simp only at hrebuilds
  have hcount : s.podMap.rebuilds.toNat = s.podMap.cgroupIndexRebuilds.toNat := rfl
  omega

end

/-- A call for the one container, with the state it leaves. -/
def webStep (s : CallState) (now : Time) : Transition CallState Call :=
  let env := callAt now (labelled "default" "web" "app")
  ⟨s, ⟨4, env⟩, ⟨(s.podMap.containerInfo 4 env).2, now⟩⟩

/-- It is asked for after one second, a second later, and when the first answer is a TTL
old. -/
def webSteps : List (Transition CallState Call) :=
  let first := webStep ⟨onePodMap, ⟨0⟩⟩ ⟨seconds 1⟩
  let second := webStep first.post ⟨seconds 2⟩
  [first, second, webStep second.post ⟨seconds 61⟩]

set_option maxRecDepth 4000 in
/-- The runtime is asked twice, which is all that the bound allows. -/
theorem runtime_asked_rarely_web :
    (webSteps.countP fun t => NamedFor 4 t) = 2 ∧
      ((webSteps.countP fun t => NamedFor 4 t : ℕ) : ℤ) ≤
        1 + webSteps[2].post.podMap.rebuilds.toNat +
          ((⟨seconds 61⟩ : Time).nanos - (⟨0⟩ : Time).nanos) / (seconds 60).toInt := by
  have run : CallRun ⟨onePodMap, ⟨0⟩⟩ webSteps webSteps[2].post :=
    ((Run.start.snoc ⟨inOrder_callAt (by decide) _, rfl⟩).snoc
      ⟨inOrder_callAt (by decide) _, rfl⟩).snoc ⟨inOrder_callAt (by decide) _, rfl⟩
  exact ⟨by decide, (runtime_asked_rarely newPodMap_onePod run 4).1⟩

end KubeNpu

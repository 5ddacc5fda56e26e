import KubeNpu.Machine.Run

/-!
# Objects behind a mutex

Threads call the methods of one object.  A method takes the mutex, works on the
guarded value in small steps, and gives the mutex back; meanwhile every other
thread goes on, and the surroundings `ε`, which no mutex guards, change on their
own.  A small step may look at the surroundings, so two readings of one call can
differ.

Nothing in the step relation keeps two threads apart but the mutex itself.  It is
enough (`serialized_of_run`): the guarded value is at any time what the returned
calls make of it one after another, each alone, up to the steps of the one call
that is inside; and that call started from there when it got the mutex.
-/

namespace Machine

variable {ι σ ε O A X : Type}

/-! ## The work of one call -/

/-- What a call does while it has the mutex: small steps on the guarded value, then
an answer. -/
inductive Critical (σ ε A : Type) where
  | done (answer : A)
  | step (update : σ → ε → σ) (next : σ → ε → Critical σ ε A)

namespace Critical

/-- The first steps of a call that is left alone, one for each view of the
surroundings. -/
def play : Critical σ ε A → σ → List ε → Critical σ ε A × σ
  | code, v, [] => (code, v)
  | done answer, v, _ :: _ => (done answer, v)
  | step update next, v, w :: views => play (next v w) (update v w) views

@[simp] theorem play_nil (code : Critical σ ε A) (v : σ) : code.play v [] = (code, v) := by
  cases code <;> rfl

@[simp] theorem play_done (answer : A) (v : σ) (views : List ε) :
    (done answer : Critical σ ε A).play v views = (done answer, v) := by
  cases views <;> rfl

/-- More steps start where the first ones ended. -/
theorem play_append (code : Critical σ ε A) (v : σ) (views more : List ε) :
    code.play v (views ++ more) =
      (code.play v views).1.play (code.play v views).2 more := by
  induction views generalizing code v with
  | nil => rw [List.nil_append, play_nil]
  | cons w views ih =>
      cases code with
      | done answer => rw [play_done, play_done, play_done]
      | step update next => exact ih (next v w) (update v w)

/-- Code that is done took a step if it had one. -/
theorem play_step_done {update : σ → ε → σ} {next : σ → ε → Critical σ ε A} {v v' : σ}
    {views : List ε} {answer : A} (h : (step update next).play v views = (done answer, v')) :
    ∃ w later, views = w :: later ∧ (next v w).play (update v w) later = (done answer, v') := by
  cases views with
  | nil =>
      rw [play_nil] at h
      cases h
  | cons w later => exact ⟨w, later, rfl, h⟩

end Critical

/-- A call that has returned, with what it saw on the way. -/
structure Visit (ι ε O A : Type) where
  caller : ι
  op : O
  views : List ε
  answer : A

/-- The visit turns the guarded value `v` into `v'` if it is alone. -/
def Alone (body : O → Critical σ ε A) (v : σ) (visit : Visit ι ε O A) (v' : σ) : Prop :=
  (body visit.op).play v visit.views = (.done visit.answer, v')

/-! ## The threads -/

/-- Where a thread is. -/
inductive ThreadPC (σ ε O A : Type) where
  | outside
  /-- At `mu.Lock()`. -/
  | waiting (op : O)
  /-- After it, with the steps left to do. -/
  | inside (op : O) (rest : Critical σ ε A)

/-- The object, its mutex, its surroundings and the threads. -/
structure Guarded (ι σ ε O A : Type) where
  value : σ
  around : ε
  holder : Option ι
  thread : ι → ThreadPC σ ε O A

/-- The object before any call. -/
def Guarded.start (v : σ) (w : ε) : Guarded ι σ ε O A := ⟨v, w, none, fun _ => .outside⟩

/-- What happens. -/
inductive MutexAct (ι O A X : Type) where
  | call (i : ι) (op : O)
  | lock (i : ι)
  | inner (i : ι)
  | unlock (i : ι) (op : O) (answer : A)
  /-- The surroundings change. -/
  | elsewhere (what : X)

variable (body : O → Critical σ ε A) (drift : ε → X → ε)

/-- One step of one thread, or of the surroundings. -/
inductive MutexStep [DecidableEq ι] :
    Guarded ι σ ε O A → MutexAct ι O A X → Guarded ι σ ε O A → Prop where
  | call {s : Guarded ι σ ε O A} (i : ι) (op : O) (outside : s.thread i = .outside) :
      MutexStep s (.call i op) { s with thread := Function.update s.thread i (.waiting op) }
  | lock {s : Guarded ι σ ε O A} (i : ι) (op : O) (free : s.holder = none)
      (waits : s.thread i = .waiting op) :
      MutexStep s (.lock i)
        { s with
          holder := some i
          thread := Function.update s.thread i (.inside op (body op)) }
  | inner {s : Guarded ι σ ε O A} (i : ι) (op : O) (update : σ → ε → σ)
      (next : σ → ε → Critical σ ε A) (at_step : s.thread i = .inside op (.step update next)) :
      MutexStep s (.inner i)
        { s with
          value := update s.value s.around
          thread := Function.update s.thread i (.inside op (next s.value s.around)) }
  | unlock {s : Guarded ι σ ε O A} (i : ι) (op : O) (answer : A)
      (at_end : s.thread i = .inside op (.done answer)) :
      MutexStep s (.unlock i op answer)
        { s with holder := none, thread := Function.update s.thread i .outside }
  | elsewhere {s : Guarded ι σ ε O A} (what : X) :
      MutexStep s (.elsewhere what) { s with around := drift s.around what }

/-- The histories of the object. -/
abbrev MutexRun [DecidableEq ι] := Run (MutexStep (ι := ι) body drift)

/-- The call that returns in a step. -/
def MutexAct.returned : MutexAct ι O A X → Option (ι × O × A)
  | unlock i op answer => some (i, op, answer)
  | _ => none

/-- The change of the surroundings that a step is. -/
def MutexAct.change : MutexAct ι O A X → Option X
  | elsewhere what => some what
  | _ => none

/-! ## One call after another -/

/-- How things stand after a history: the calls that returned lead, each alone, to
`v`, and what is inside is on its way from there. -/
structure Serialized (v₀ : σ) (past : List (Transition (Guarded ι σ ε O A) (MutexAct ι O A X)))
    (s : Guarded ι σ ε O A) (calls : List (Transition σ (Visit ι ε O A))) (v : σ) : Prop where
  serial : Run (Alone body) v₀ calls v
  returned : (calls.map fun t => (t.label.caller, t.label.op, t.label.answer)) =
    collect MutexAct.returned past
  free : s.holder = none → s.value = v
  /-- The holder got the mutex after the last return, and has worked since. -/
  held : ∀ i, s.holder = some i → ∃ op rest earlier l during views,
    s.thread i = .inside op rest ∧ past = earlier ++ l :: during ∧ l.label = .lock i ∧
      collect MutexAct.returned during = [] ∧
      views.Sublist (during.map fun t => t.pre.around) ∧
      (body op).play v views = (rest, s.value)
  /-- Nobody else is inside. -/
  only : ∀ i op rest, s.thread i = .inside op rest → s.holder = some i

section

variable {body drift} {v₀ v : σ} {w₀ : ε} {s s' : Guarded ι σ ε O A} {act : MutexAct ι O A X}
  {past : List (Transition (Guarded ι σ ε O A) (MutexAct ι O A X))}
  {calls : List (Transition σ (Visit ι ε O A))}

theorem serialized_start : Serialized body v₀ ([] : List (Transition _ (MutexAct ι O A X)))
    (Guarded.start v₀ w₀) [] v₀ where
  serial := .start
  returned := rfl
  free _ := rfl
  held i h := by cases h
  only i op rest h := by cases h

namespace Serialized

/-- What a step does not concern goes on as it was. -/
private theorem frame (h : Serialized body v₀ past s calls v) (act : MutexAct ι O A X)
    (hact : act.returned = none) (hvalue : s'.value = s.value) (hholder : s'.holder = s.holder)
    (hinside : ∀ i op rest, s'.thread i = .inside op rest ↔ s.thread i = .inside op rest) :
    Serialized body v₀ (past ++ [⟨s, act, s'⟩]) s' calls v where
  serial := h.serial
  returned := by
    rw [collect_concat, hact, Option.toList_none, List.append_nil]
    exact h.returned
  free hfree := by
    rw [hvalue]
    exact h.free (hholder ▸ hfree)
  held i hi := by
    obtain ⟨op, rest, earlier, l, during, views, hthread, rfl, hlock, hnone, hviews, hplay⟩ :=
      h.held i (hholder ▸ hi)
    refine ⟨op, rest, earlier, l, during ++ [⟨s, act, s'⟩], views,
      (hinside i op rest).mpr hthread, ?_, hlock, ?_, ?_, ?_⟩
    · rw [List.append_assoc, List.cons_append]
    · rw [collect_concat, hact, Option.toList_none, List.append_nil]
      exact hnone
    · rw [List.map_append]
      exact hviews.trans (List.sublist_append_left _ _)
    · rw [hvalue]
      exact hplay
  only i op rest hthread := by
    rw [hholder]
    exact h.only i op rest ((hinside i op rest).mp hthread)

end Serialized

variable [DecidableEq ι]

/-- **One step keeps the calls apart.** -/
theorem serialized_step (h : Serialized body v₀ past s calls v)
    (hstep : MutexStep body drift s act s') :
    ∃ calls' v', Serialized body v₀ (past ++ [⟨s, act, s'⟩]) s' calls' v' := by
  cases hstep with
  | call i op outside =>
      refine ⟨calls, v, h.frame _ rfl rfl rfl ?_⟩
      intro j op' rest
      show Function.update s.thread i (.waiting op) j = _ ↔ _
      rcases eq_or_ne j i with rfl | hj
      · rw [Function.update_self, outside]
        simp
      · rw [Function.update_of_ne hj]
  | lock i op free waits =>
      refine ⟨calls, v, h.serial, ?_, ?_, ?_, ?_⟩
      · rw [collect_concat]
        exact h.returned.trans (List.append_nil _).symm
      · intro hfree
        cases hfree
      · intro j hj
        cases hj
        refine ⟨op, body op, past, _, [], [], Function.update_self .., rfl, rfl, rfl,
          List.Sublist.refl _, ?_⟩
        show _ = (body op, s.value)
        rw [Critical.play_nil, h.free free]
      · intro j op' rest hthread
        rcases eq_or_ne j i with rfl | hj
        · rfl
        · have hbefore := (Function.update_of_ne hj _ _).symm.trans hthread
          exact absurd (h.only j op' rest hbefore) (by rw [free]; simp)
  | inner i op update next at_step =>
      have hholder := h.only i op _ at_step
      refine ⟨calls, v, h.serial, ?_, ?_, ?_, ?_⟩
      · rw [collect_concat]
        exact h.returned.trans (List.append_nil _).symm
      · intro hfree
        exact absurd (hholder.symm.trans hfree) (by simp)
      · intro j hj
        obtain rfl := Option.some_injective _ (hholder.symm.trans hj)
        obtain ⟨op', rest, earlier, l, during, views, hthread, rfl, hlock, hnone, hviews, hplay⟩ :=
          h.held i hholder
        obtain ⟨rfl, rfl⟩ := ThreadPC.inside.inj (at_step.symm.trans hthread)
        refine ⟨op, next s.value s.around, earlier, l, during ++ [⟨s, .inner i, { s with
            value := update s.value s.around
            thread := Function.update s.thread i (.inside op (next s.value s.around)) }⟩],
          views ++ [s.around], Function.update_self .., ?_, hlock, ?_, ?_, ?_⟩
        · rw [List.append_assoc, List.cons_append]
        · rw [collect_concat, hnone]
          rfl
        · rw [List.map_append]
          exact hviews.append (List.Sublist.refl _)
        · rw [Critical.play_append, hplay]
          exact Critical.play_nil _ _
      · intro j op' rest hthread
        rcases eq_or_ne j i with rfl | hj
        · exact hholder
        · have hbefore := (Function.update_of_ne hj _ _).symm.trans hthread
          exact h.only j op' rest hbefore
  | unlock i op answer at_end =>
      have hholder := h.only i op _ at_end
      obtain ⟨op', rest, earlier, l, during, views, hthread, -, -, -, -, hplay⟩ := h.held i hholder
      obtain ⟨rfl, rfl⟩ := ThreadPC.inside.inj (at_end.symm.trans hthread)
      have halone : Alone body v ⟨i, op, views, answer⟩ s.value := hplay
      refine ⟨calls ++ [⟨v, ⟨i, op, views, answer⟩, s.value⟩], s.value,
        h.serial.snoc halone, ?_, ?_, ?_, ?_⟩
      · rw [List.map_append, h.returned, collect_concat]
        rfl
      · intro _
        rfl
      · intro j hj
        cases hj
      · intro j op' rest hthread
        rcases eq_or_ne j i with rfl | hj
        · have houtside := (Function.update_self ..).symm.trans hthread
          cases houtside
        · have hbefore := (Function.update_of_ne hj _ _).symm.trans hthread
          exact absurd (Option.some_injective _ (hholder.symm.trans (h.only j op' rest hbefore)))
            hj.symm
  | elsewhere what => exact ⟨calls, v, h.frame _ rfl rfl rfl fun _ _ _ => Iff.rfl⟩

/-- **Every history is a serial one**, up to the call that is inside. -/
theorem serialized_of_run (run : MutexRun body drift (Guarded.start v₀ w₀) past s) :
    ∃ calls v, Serialized body v₀ past s calls v := by
  induction run with
  | start => exact ⟨[], v₀, serialized_start⟩
  | snoc _ hstep ih =>
      obtain ⟨calls, v, h⟩ := ih
      exact serialized_step h hstep

/-- **A call that returns worked alone**: between its `Lock` and its `Unlock` no other
call returned, and its answer is what it gives from the value that the calls before it
left, with what it saw of the surroundings meanwhile. -/
theorem alone_of_run {before after : List (Transition (Guarded ι σ ε O A) (MutexAct ι O A X))}
    {t : Transition (Guarded ι σ ε O A) (MutexAct ι O A X)} {i : ι} {op : O} {answer : A}
    (run : MutexRun body drift (Guarded.start v₀ w₀) (before ++ t :: after) s)
    (hlabel : t.label = .unlock i op answer) :
    ∃ earlier l during views calls v, before = earlier ++ l :: during ∧ l.label = .lock i ∧
      collect MutexAct.returned during = [] ∧
      views.Sublist (during.map fun u => u.pre.around) ∧
      Run (Alone body) v₀ calls v ∧
      (calls.map fun u => (u.label.caller, u.label.op, u.label.answer)) =
        collect MutexAct.returned earlier ∧
      (body op).play v views = (.done answer, t.pre.value) := by
  obtain ⟨hbefore, hstep, -⟩ := run.through
  obtain ⟨calls, v, h⟩ := serialized_of_run hbefore
  rw [hlabel] at hstep
  generalize hpost : t.post = post at hstep
  cases hstep with
  | unlock _ _ _ at_end =>
      obtain ⟨op', rest, earlier, l, during, views, hthread, hsplit, hlock, hnone, hviews,
        hplay⟩ := h.held i (h.only i op _ at_end)
      obtain ⟨rfl, rfl⟩ := ThreadPC.inside.inj (at_end.symm.trans hthread)
      refine ⟨earlier, l, during, views, calls, v, hsplit, hlock, hnone, hviews, h.serial, ?_,
        hplay⟩
      have hcollect : collect MutexAct.returned (earlier ++ l :: during) =
          collect MutexAct.returned earlier := by
        rw [collect, List.filterMap_append, List.filterMap_cons, hlock]
        exact (congrArg _ hnone).trans (List.append_nil _)
      rw [h.returned, hsplit, hcollect]

omit [DecidableEq ι] in
/-- What a call did after its `Lock` is after everything that had returned by then. -/
theorem lock_after_return {before between earlier during :
      List (Transition (Guarded ι σ ε O A) (MutexAct ι O A X))}
    {t l : Transition (Guarded ι σ ε O A) (MutexAct ι O A X)} {i j : ι} {op : O} {answer : A}
    (h : before ++ t :: between = earlier ++ l :: during)
    (hreturn : t.label = .unlock i op answer) (hlock : l.label = .lock j)
    (hnone : collect MutexAct.returned during = []) :
    ∃ middle, earlier = before ++ t :: middle ∧ between = middle ++ l :: during := by
  have hne : l ≠ t := by
    rintro rfl
    rw [hreturn] at hlock
    cases hlock
  rcases List.append_eq_append_iff.mp h with ⟨gap, rfl, hgap⟩ | ⟨gap, rfl, hgap⟩
  · cases gap with
    | nil => exact absurd (List.cons.inj hgap).1.symm hne
    | cons u middle =>
        obtain ⟨rfl, rfl⟩ := List.cons.inj hgap
        exact ⟨middle, rfl, rfl⟩
  · cases gap with
    | nil => exact absurd (List.cons.inj hgap).1 hne
    | cons u middle =>
        -- `t` would have returned after the lock
        obtain ⟨rfl, rfl⟩ := List.cons.inj hgap
        have hmem : (i, op, answer) ∈ collect MutexAct.returned (middle ++ t :: between) :=
          List.mem_filterMap.mpr ⟨t, List.mem_append_cons_self, by rw [hreturn]; rfl⟩
        exact absurd hmem (hnone ▸ List.not_mem_nil)

/-- The surroundings are what their own changes made of them. -/
theorem around_of_run {s₀ : Guarded ι σ ε O A} (run : MutexRun body drift s₀ past s) :
    s.around = (collect MutexAct.change past).foldl drift s₀.around := by
  induction run with
  | start => rfl
  | snoc _ hstep ih =>
      rw [collect_concat, List.foldl_append, ← ih]
      cases hstep <;> rfl

/-- The holder can do its work while nothing around it changes. -/
private theorem exists_inner_run {code : Critical σ ε A} {k : ℕ} {i : ι} {op : O} {v' : σ}
    {answer : A} (hthread : s.thread i = .inside op code)
    (h : code.play s.value (List.replicate k s.around) = (.done answer, v')) :
    ∃ past, MutexRun body drift s past
        { s with value := v', thread := Function.update s.thread i (.inside op (.done answer)) } ∧
      collect MutexAct.returned past = [] ∧ collect MutexAct.change past = [] := by
  induction k generalizing code s with
  | zero =>
      rw [List.replicate_zero, Critical.play_nil] at h
      obtain ⟨rfl, rfl⟩ := Prod.mk.inj h
      rw [← hthread, Function.update_eq_self]
      exact ⟨[], .start, rfl, rfl⟩
  | succ k ih =>
      cases code with
      | done answer' =>
          rw [Critical.play_done] at h
          obtain ⟨hanswer, rfl⟩ := Prod.mk.inj h
          rw [← hanswer, ← hthread, Function.update_eq_self]
          exact ⟨[], .start, rfl, rfl⟩
      | step update next =>
          have hfirst : MutexStep body drift s (.inner i : MutexAct ι O A X) _ :=
            .inner i op update next hthread
          obtain ⟨more, hmore, hreturned, hchange⟩ := ih (s := { s with
            value := update s.value s.around
            thread := Function.update s.thread i (.inside op (next s.value s.around)) })
            (Function.update_self ..) h
          rw [Function.update_idem] at hmore
          exact ⟨_, (Run.start.snoc hfirst).append hmore, hreturned, hchange⟩

/-- **A call that nobody disturbs goes through.** -/
theorem exists_visit {k : ℕ} {i : ι} {op : O} {v' : σ} {answer : A}
    (outside : s.thread i = .outside) (free : s.holder = none)
    (h : (body op).play s.value (List.replicate k s.around) = (.done answer, v')) :
    ∃ past t, MutexRun body drift s (past ++ [t]) { s with value := v' } ∧
      t.label = .unlock i op answer ∧ collect MutexAct.returned past = [] ∧
      collect MutexAct.change past = [] := by
  have run : MutexRun body drift s [] s := .start
  have run := run.snoc (.call i op outside)
  have run := run.snoc (.lock i op free (Function.update_self ..))
  obtain ⟨more, hmore, hreturned, hchange⟩ : ∃ more, MutexRun body drift ⟨s.value, s.around, some i,
      Function.update (Function.update s.thread i (.waiting op)) i (.inside op (body op))⟩
      more _ ∧ _ := exists_inner_run (Function.update_self ..) h
  have run := (run.append hmore).snoc (.unlock i op answer (Function.update_self ..))
  have hthread : Function.update (Function.update (Function.update (Function.update s.thread i
      (.waiting op)) i (.inside op (body op))) i (.inside op (.done answer))) i .outside =
      s.thread := by
    rw [Function.update_idem, Function.update_idem, Function.update_idem, ← outside,
      Function.update_eq_self]
  have hend : (⟨v', s.around, none, Function.update (Function.update (Function.update
      (Function.update s.thread i (.waiting op)) i (.inside op (body op))) i
      (.inside op (.done answer))) i .outside⟩ : Guarded ι σ ε O A) = { s with value := v' } := by
    rw [hthread, free]
  rw [hend] at run
  exact ⟨_, _, run, rfl, hreturned, hchange⟩

end

end Machine

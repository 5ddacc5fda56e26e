import Mathlib

/-!
# Runs of a labelled step relation

A system is a relation `step s l s'` between a state, what happens, and the next
state.  `Run step s₀ past s` says that the transitions `past`, in order, lead
from `s₀` to `s`; the history is part of the judgement, so a statement about a
run may count what happened or look back at how something came about.

`Run.invariant` is induction over runs for a predicate on states,
`Run.of_mem` recovers, from a transition of the past, the run that led up to it,
and `Run.split`, `Run.append` and `Run.through` cut a run in two and join it again.
`Run.countP_add_rank_le` bounds the number of steps by a rank that they lower.
`collect` reads a list off the labels of a history, such as everything that went
through one point of the system, and `project` is the history of a part of the
system; where the part follows its own step relation, that history is a run of it
(`Run.project`).
-/

namespace Machine

/-- One step that was taken. -/
structure Transition (S L : Type) where
  pre : S
  label : L
  post : S

/-- The transitions `past` lead from `s₀` to `s`. -/
inductive Run {S L : Type} (step : S → L → S → Prop) (s₀ : S) :
    List (Transition S L) → S → Prop where
  | start : Run step s₀ [] s₀
  | snoc {past : List (Transition S L)} {s : S} {l : L} {s' : S} :
      Run step s₀ past s → step s l s' → Run step s₀ (past ++ [⟨s, l, s'⟩]) s'

namespace Run

variable {S L : Type} {step : S → L → S → Prop} {s₀ : S}

/-- **Induction over a run**, for a predicate on states. -/
theorem invariant {I : S → Prop} (init : I s₀)
    (preserved : ∀ {s l s'}, I s → step s l s' → I s') {past : List (Transition S L)} {s : S}
    (run : Run step s₀ past s) : I s := by
  induction run with
  | start => exact init
  | snoc _ hstep ih => exact preserved ih hstep

/-- A transition of the past is a step, and a run led up to it. -/
theorem of_mem {past : List (Transition S L)} {s : S} (run : Run step s₀ past s)
    {t : Transition S L} (ht : t ∈ past) :
    ∃ before after, past = before ++ t :: after ∧ Run step s₀ before t.pre ∧
      step t.pre t.label t.post := by
  induction run with
  | start => cases ht
  | @snoc past s l s' hrun hstep ih =>
      rcases List.mem_append.mp ht with hold | hnew
      · obtain ⟨before, after, rfl, hbefore, ht⟩ := ih hold
        exact ⟨before, after ++ [⟨s, l, s'⟩], by simp, hbefore, ht⟩
      · obtain rfl := List.mem_singleton.mp hnew
        exact ⟨past, [], rfl, hrun, hstep⟩

/-- Without a transition nothing has changed. -/
theorem nil_inv {s : S} (run : Run step s₀ [] s) : s = s₀ := by
  generalize hall : ([] : List (Transition S L)) = all at run
  cases run with
  | start => rfl
  | snoc hbefore hstep => exact absurd hall (by simp)

/-- The last transition of a run leads to its end. -/
theorem concat_inv {past : List (Transition S L)} {t : Transition S L} {s : S}
    (run : Run step s₀ (past ++ [t]) s) :
    Run step s₀ past t.pre ∧ step t.pre t.label t.post ∧ s = t.post := by
  generalize hall : past ++ [t] = all at run
  cases run with
  | start => exact absurd hall (by simp)
  | snoc hbefore hstep =>
      obtain ⟨rfl, hlast⟩ := List.append_inj' hall rfl
      obtain rfl := List.singleton_inj.mp hlast
      exact ⟨hbefore, hstep, rfl⟩

/-- A run can be cut anywhere. -/
theorem split {first second : List (Transition S L)} {s : S}
    (run : Run step s₀ (first ++ second) s) :
    ∃ m, Run step s₀ first m ∧ Run step m second s := by
  induction second using List.reverseRecOn generalizing s with
  | nil =>
      rw [List.append_nil] at run
      exact ⟨s, run, .start⟩
  | append_singleton second t ih =>
      rw [← List.append_assoc] at run
      obtain ⟨hbefore, hstep, rfl⟩ := run.concat_inv
      obtain ⟨m, hfirst, hsecond⟩ := ih hbefore
      exact ⟨m, hfirst, .snoc hsecond hstep⟩

/-- And a run can go on. -/
theorem append {first second : List (Transition S L)} {m s : S} (run : Run step s₀ first m)
    (more : Run step m second s) : Run step s₀ (first ++ second) s := by
  induction more with
  | start =>
      rw [List.append_nil]
      exact run
  | snoc _ hstep ih =>
      rw [← List.append_assoc]
      exact .snoc ih hstep

/-- A run goes through each of its transitions. -/
theorem through {before after : List (Transition S L)} {t : Transition S L} {s : S}
    (run : Run step s₀ (before ++ t :: after) s) :
    Run step s₀ before t.pre ∧ step t.pre t.label t.post ∧ Run step t.post after s := by
  rw [← List.singleton_append, ← List.append_assoc] at run
  obtain ⟨m, hfirst, hafter⟩ := run.split
  obtain ⟨hbefore, hstep, rfl⟩ := hfirst.concat_inv
  exact ⟨hbefore, hstep, hafter⟩

/-- **A rank bounds the steps that lower it**: if no step raises the rank and
every marked step lowers it, a run has at most as many marked steps as the rank
falls. -/
theorem countP_add_rank_le {I : S → Prop} {rank : S → ℕ} {marked : L → Bool} (init : I s₀)
    (preserved : ∀ {s l s'}, I s → step s l s' → I s')
    (descends : ∀ {s l s'}, I s → step s l s' →
      rank s' + (if marked l = true then 1 else 0) ≤ rank s)
    {past : List (Transition S L)} {s : S} (run : Run step s₀ past s) :
    (past.countP fun t => marked t.label) + rank s ≤ rank s₀ := by
  induction run with
  | start => exact le_of_eq (Nat.zero_add _)
  | @snoc past s l s' run hstep ih =>
      have hone := descends (run.invariant init preserved) hstep
      rw [List.countP_append, List.countP_singleton]
      show _ + (if marked l = true then 1 else 0) + rank s' ≤ rank s₀
      omega

end Run

section

variable {S L A : Type}

/-- What `f` finds in the labels of a history, in order. -/
def collect (f : L → Option A) (past : List (Transition S L)) : List A :=
  past.filterMap fun t => f t.label

@[simp] theorem collect_nil (f : L → Option A) :
    collect f ([] : List (Transition S L)) = [] := rfl

/-- One more step adds what `f` finds in its label. -/
@[simp] theorem collect_concat (f : L → Option A) (past : List (Transition S L)) (s : S) (l : L)
    (s' : S) : collect f (past ++ [⟨s, l, s'⟩]) = collect f past ++ (f l).toList := by
  unfold collect
  rw [List.filterMap_append]
  cases hl : f l <;> simp [hl]

end

section

variable {S L S' L' : Type} {step : S → L → S → Prop} {step' : S' → L' → S' → Prop} {s₀ : S}

/-- The history of a part of the system: its state, and the labels that concern
it. -/
def project (part : S → S') (concerns : L → Option L') (past : List (Transition S L)) :
    List (Transition S' L') :=
  past.filterMap fun t => (concerns t.label).map fun l => ⟨part t.pre, l, part t.post⟩

/-- Its labels are the ones that concern the part. -/
theorem map_label_project (part : S → S') (concerns : L → Option L')
    (past : List (Transition S L)) :
    (project part concerns past).map Transition.label = collect concerns past := by
  rw [project, List.map_filterMap, collect]
  refine List.filterMap_congr ?_
  intro t _
  cases concerns t.label <;> rfl

/-- **A part of a system runs by its own rules** if it does so in every step that
concerns it and stays as it is in every other step. -/
theorem Run.project {part : S → S'} {concerns : L → Option L'}
    (idle : ∀ {s l s'}, step s l s' → concerns l = none → part s' = part s)
    (moves : ∀ {s l s' l'}, step s l s' → concerns l = some l' → step' (part s) l' (part s'))
    {past : List (Transition S L)} {s : S} (run : Run step s₀ past s) :
    Run step' (part s₀) (Machine.project part concerns past) (part s) := by
  induction run with
  | start => exact .start
  | @snoc past s l s' run hstep ih =>
      cases hl : concerns l with
      | none =>
          have hsame : Machine.project part concerns (past ++ [⟨s, l, s'⟩]) =
              Machine.project part concerns past := by
            simp [Machine.project, List.filterMap_append, hl]
          rw [hsame, idle hstep hl]
          exact ih
      | some l' =>
          have hmore : Machine.project part concerns (past ++ [⟨s, l, s'⟩]) =
              Machine.project part concerns past ++ [⟨part s, l', part s'⟩] := by
            simp [Machine.project, List.filterMap_append, hl]
          rw [hmore]
          exact .snoc ih (moves hstep hl)

end

end Machine

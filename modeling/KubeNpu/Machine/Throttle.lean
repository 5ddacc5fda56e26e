import Mathlib

/-!
# Throttled events

Something happens at most once per interval: each time it happens lies at least
`gap` after the time before.  `Spaced gap t₀ ts` says so about the times `ts`
that follow `t₀`, and `length_le_ediv` turns it into the bound on their number
that a rate limit promises.

A throttle may also forget the last time, as a cache does that is emptied.  `Paced` is
the machine with that one more move, and `Paced.passes_le` says what a reset costs: one
more pass.
-/

namespace Machine.Throttle

section

variable {α : Type} [AddCommGroup α] [PartialOrder α]

/-- Each of `t₀, ts` is at least `gap` after the one before it. -/
def Spaced (gap t₀ : α) (ts : List α) : Prop :=
  List.IsChain (fun s t => s + gap ≤ t) (t₀ :: ts)

/-- The last of `t₀, ts`. -/
def latest (t₀ : α) (ts : List α) : α := (t₀ :: ts).getLast (List.cons_ne_nil t₀ ts)

omit [AddCommGroup α] [PartialOrder α] in
@[simp] theorem latest_nil (t₀ : α) : latest t₀ [] = t₀ := rfl

omit [AddCommGroup α] [PartialOrder α] in
@[simp] theorem latest_concat (t₀ t : α) (ts : List α) : latest t₀ (ts ++ [t]) = t :=
  List.getLast_append_singleton (t₀ :: ts)

theorem spaced_nil (gap t₀ : α) : Spaced gap t₀ [] := List.isChain_singleton t₀

theorem Spaced.concat {gap t₀ t : α} {ts : List α} (h : Spaced gap t₀ ts)
    (ht : latest t₀ ts + gap ≤ t) : Spaced gap t₀ (ts ++ [t]) := by
  unfold Spaced
  rw [← List.cons_append]
  refine List.IsChain.append h (List.isChain_singleton t) ?_
  intro s hs u hu
  rw [List.head?_singleton, Option.mem_some_iff] at hu
  rw [List.getLast?_eq_some_getLast (List.cons_ne_nil t₀ ts), Option.mem_some_iff] at hs
  rwa [← hs, ← hu]

theorem Spaced.of_concat {gap t₀ t : α} {ts : List α} (h : Spaced gap t₀ (ts ++ [t])) :
    Spaced gap t₀ ts ∧ latest t₀ ts + gap ≤ t := by
  have happend : List.IsChain (fun s t => s + gap ≤ t) ((t₀ :: ts) ++ [t]) := h
  exact ⟨happend.left_of_append,
    happend.rel_getLast_head_of_append (List.cons_ne_nil t₀ ts) (List.cons_ne_nil t [])⟩

/-- So many gaps fit between the first time and the last. -/
theorem Spaced.add_nsmul_le [IsOrderedAddMonoid α] {gap t₀ : α} {ts : List α}
    (h : Spaced gap t₀ ts) : t₀ + ts.length • gap ≤ latest t₀ ts := by
  induction ts using List.reverseRecOn with
  | nil => simp
  | append_singleton ts t ih =>
      obtain ⟨hts, ht⟩ := h.of_concat
      rw [List.length_append, List.length_singleton, succ_nsmul, ← add_assoc, latest_concat]
      exact (add_le_add_left (ih hts) gap).trans ht

end

/-- **The rate limit**: by the time `now`, no more events than intervals. -/
theorem Spaced.length_le_ediv {gap t₀ now : ℤ} {ts : List ℤ} (hgap : 0 < gap)
    (h : Spaced gap t₀ ts) (hnow : latest t₀ ts ≤ now) :
    (ts.length : ℤ) ≤ (now - t₀) / gap := by
  have hfit := h.add_nsmul_le
  rw [nsmul_eq_mul] at hfit
  rw [Int.le_ediv_iff_mul_le hgap]
  omega

/-! ## A throttle that can be reset -/

section

variable {α : Type} [AddCommGroup α] [LinearOrder α]

/-- From `t₀` to `now` a throttle let `passes` things pass and was reset `resets` times.
The last of them passed at `last`, if that is not forgotten. -/
inductive Paced (gap t₀ : α) : ℕ → ℕ → Option α → α → Prop where
  | start : Paced gap t₀ 0 0 none t₀
  | wait {passes resets : ℕ} {last : Option α} {now later : α}
      (h : Paced gap t₀ passes resets last now) (hle : now ≤ later) :
      Paced gap t₀ passes resets last later
  | pass {passes resets : ℕ} {last : Option α} {now : α}
      (h : Paced gap t₀ passes resets last now) (hgap : ∀ t ∈ last, t + gap ≤ now) :
      Paced gap t₀ (passes + 1) resets (some now) now
  | reset {passes resets : ℕ} {last : Option α} {now : α}
      (h : Paced gap t₀ passes resets last now) : Paced gap t₀ passes (resets + 1) none now

namespace Paced

variable {gap t₀ now : α} {passes resets : ℕ} {last : Option α}

theorem last_le (h : Paced gap t₀ passes resets last now) : ∀ t ∈ last, t ≤ now := by
  induction h with
  | start => exact fun t ht => by cases ht
  | wait h hle ih => exact fun t ht => (ih t ht).trans hle
  | pass h hgap ih => exact fun t ht => (Option.mem_some_iff.mp ht).ge
  | reset h ih => exact fun t ht => by cases ht

variable [IsOrderedAddMonoid α]

/-- Every pass but the first after a reset costs a gap, so a throttle that remembers a
pass is a gap ahead of the clock at most. -/
private theorem add_nsmul_le (hgap : 0 ≤ gap) (h : Paced gap t₀ passes resets last now) :
    t₀ + passes • gap ≤ last.elim now (· + gap) + resets • gap := by
  induction h with
  | start => simp
  | @wait passes resets last now later h hle ih =>
      cases last with
      | none => exact ih.trans (add_le_add_left hle _)
      | some t => exact ih
  | @pass passes resets last now h hgap' ih =>
      have hahead : last.elim now (· + gap) ≤ now := by
        cases last with
        | none => exact le_rfl
        | some t => exact hgap' t rfl
      calc t₀ + (passes + 1) • gap = t₀ + passes • gap + gap := by rw [succ_nsmul, add_assoc]
        _ ≤ last.elim now (· + gap) + resets • gap + gap := add_le_add_left ih gap
        _ ≤ now + resets • gap + gap := add_le_add_left (add_le_add_left hahead _) gap
        _ = now + gap + resets • gap := add_right_comm _ _ _
  | @reset passes resets last now h ih =>
      have hahead : last.elim now (· + gap) ≤ now + gap := by
        cases last with
        | none => exact le_add_of_nonneg_right hgap
        | some t => exact add_le_add_left (h.last_le t rfl) gap
      calc t₀ + passes • gap ≤ last.elim now (· + gap) + resets • gap := ih
        _ ≤ now + gap + resets • gap := add_le_add_left hahead _
        _ = now + (resets + 1) • gap := by rw [succ_nsmul', add_assoc]

end Paced

end

/-- **What passes a throttle with resets**: one thing for each gap, one for each reset,
and one to begin with. -/
theorem Paced.passes_le {gap t₀ now : ℤ} {passes resets : ℕ} {last : Option ℤ} (hgap : 0 < gap)
    (h : Paced gap t₀ passes resets last now) :
    (passes : ℤ) ≤ 1 + resets + (now - t₀) / gap := by
  have hahead : last.elim now (· + gap) ≤ now + gap := by
    cases last with
    | none => exact le_add_of_nonneg_right hgap.le
    | some t => exact add_le_add_left (h.last_le t rfl) gap
  have hfit := (h.add_nsmul_le hgap.le).trans (add_le_add_left hahead _)
  rw [nsmul_eq_mul, nsmul_eq_mul] at hfit
  have hle : (passes : ℤ) - 1 - resets ≤ (now - t₀) / gap := by
    rw [Int.le_ediv_iff_mul_le hgap, sub_mul, sub_mul, one_mul]
    omega
  omega

end Machine.Throttle

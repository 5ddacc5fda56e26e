import KubeNpu.Go.Maps

/-!
# Memo tables

A program that remembers answers keeps a map from questions to entries, with the
answer in each entry.  `Agrees answer f m` says that every remembered answer is
the one `f` gives, where `f` is what the program computes when it does not
remember; consulting such a table instead of `f` makes no difference.

Forgetting keeps the agreement, so does remembering what `f` gives.  When entries
are forgotten, and whether a table is consulted at all, does not matter.
-/

namespace Machine.Memo

open Go

variable {K E V : Type} [DecidableEq K]

/-- Every entry has the answer of `f` in it. -/
def Agrees (answer : E → V) (f : K → Option V) (m : Map K E) : Prop :=
  ∀ k e, m.lookup k = some e → f k = some (answer e)

variable {answer : E → V} {f : K → Option V} {m : Map K E}

theorem agrees_empty : Agrees answer f (∅ : Map K E) := by
  intro k e h
  cases h

/-- **Remembering what `f` gives keeps the agreement.** -/
theorem Agrees.insert (h : Agrees answer f m) {k : K} {e : E} (hk : f k = some (answer e)) :
    Agrees answer f (m.insert k e) := by
  intro j e' hj
  rcases eq_or_ne j k with rfl | hne
  · rw [AList.lookup_insert, Option.some_inj] at hj
    rw [← hj]
    exact hk
  · exact h j e' (by rwa [AList.lookup_insert_ne hne] at hj)

end Machine.Memo

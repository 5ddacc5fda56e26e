import KubeNpu.Go.Maps

/-!
# Grouping into a map

A loop looks an item up under its key; the first of a key is stored, each later one
is joined to what is there.  Whatever else the map holds, an entry is the join of
the items of its key, in order (`lookup_gatherAll`), so the entries can be computed
without the map (`grouped`).
-/

namespace Go.Map

variable {K A : Type} [DecidableEq K] (key : A → K) (join : A → A → A)

/-- One round of the loop. -/
def gather (m : Map K A) (a : A) : Map K A :=
  match m.lookup (key a) with
  | none => m.insert (key a) a
  | some old => m.insert (key a) (join old a)

/-- The loop. -/
def gatherAll (m : Map K A) (as : List A) : Map K A := as.foldl (gather key join) m

/-- What a group becomes with one more item. -/
def joined (old : Option A) (a : A) : A :=
  match old with
  | none => a
  | some old => join old a

/-- The group of a key among some items. -/
def grouped (as : List A) (k : K) : Option A :=
  (as.filter fun a => key a = k).foldl (fun old a => some (joined join old a)) none

variable {key join}

theorem gather_eq (m : Map K A) (a : A) :
    gather key join m a = m.insert (key a) (joined join (m.lookup (key a)) a) := by
  unfold gather joined
  cases m.lookup (key a) <;> rfl

/-- **An entry is the join of the items of its key.** -/
theorem lookup_gatherAll (m : Map K A) (as : List A) (k : K) :
    (gatherAll key join m as).lookup k =
      (as.filter fun a => key a = k).foldl (fun old a => some (joined join old a))
        (m.lookup k) := by
  induction as generalizing m with
  | nil => rfl
  | cons a as ih =>
      show (gatherAll key join (gather key join m a) as).lookup k = _
      rw [ih, gather_eq]
      rcases eq_or_ne (key a) k with rfl | hne
      · rw [AList.lookup_insert, List.filter_cons_of_pos (by simp), List.foldl_cons]
      · rw [AList.lookup_insert_ne hne.symm, List.filter_cons_of_neg (by simpa using hne)]

/-- So it is for a map that starts empty. -/
theorem lookup_gatherAll_empty (as : List A) (k : K) :
    (gatherAll key join ∅ as).lookup k = grouped key join as k :=
  lookup_gatherAll ∅ as k

/-- Once there is an item, the group is its join with the others. -/
private theorem foldl_joined (as : List A) (a : A) :
    as.foldl (fun old a => some (joined join old a)) (some a) = some (as.foldl join a) := by
  induction as generalizing a with
  | nil => rfl
  | cons b as ih => exact ih (join a b)

/-- **A group is its first item joined with the others.** -/
theorem grouped_eq_some_iff {as : List A} {k : K} {a : A} :
    grouped key join as k = some a ↔
      ∃ first rest, (as.filter fun a => key a = k) = first :: rest ∧ rest.foldl join first = a := by
  unfold grouped
  cases as.filter fun a => key a = k with
  | nil => simp
  | cons first rest =>
      rw [List.foldl_cons]
      show rest.foldl _ (some first) = _ ↔ _
      rw [foldl_joined]
      simp

end Go.Map

import Mathlib

/-!
# Go maps

A Go map is a finite partial function whose iteration order is unspecified.
`Map K V` is Mathlib's association list with distinct keys: `AList.lookup` is
`m[k]`, `AList.insert` is `m[k] = v`, the empty list is `make` and `clear`, and
`toList` is one order in which `range` may visit the entries.

The part Mathlib leaves open is filling a map in a loop: `putAll` writes a list
of entries in order, and `lookup_putAll` says that **the last write of a key
wins**, which is all an order of writes can decide.
-/

namespace Go

/-- A Go `map[K]V`. -/
abbrev Map (K V : Type) := AList (fun _ : K => V)

namespace Map

variable {K V : Type} [DecidableEq K]

/-- The entries in the order a `range` loop visits them. -/
def toList (m : Map K V) : List (K × V) := m.entries.map fun e => (e.1, e.2)

omit [DecidableEq K] in
theorem map_fst_toList (m : Map K V) : m.toList.map Prod.fst = m.keys := by
  simp [toList, AList.keys, List.keys]

omit [DecidableEq K] in
theorem nodup_keys_toList (m : Map K V) : (m.toList.map Prod.fst).Nodup := by
  rw [map_fst_toList]
  exact m.keys_nodup

theorem mem_toList {m : Map K V} {k : K} {v : V} :
    (k, v) ∈ m.toList ↔ m.lookup k = some v := by
  rw [← Option.mem_def, AList.mem_lookup_iff, toList, List.mem_map]
  constructor
  · rintro ⟨⟨k', v'⟩, hmem, heq⟩
    cases heq
    exact hmem
  · intro hmem
    exact ⟨⟨k, v⟩, hmem, rfl⟩

theorem mem_iff_lookup {m : Map K V} {k : K} : k ∈ m ↔ ∃ v, m.lookup k = some v := by
  rw [← AList.lookup_isSome, Option.isSome_iff_exists]

/-- `len(m)`. -/
def size (m : Map K V) : ℕ := m.entries.length

omit [DecidableEq K] in
theorem size_eq_length_keys (m : Map K V) : m.size = m.keys.length := by
  simp [size, AList.keys, List.keys]

omit [DecidableEq K] in
/-- A map with more keys is larger, whatever the values are. -/
theorem size_le_of_subset {W : Type} {m : Map K V} {m' : Map K W} (h : ∀ k, k ∈ m → k ∈ m') :
    m.size ≤ m'.size := by
  rw [size_eq_length_keys, size_eq_length_keys]
  refine (m.keys_nodup.subperm ?_).length_le
  intro k hk
  exact AList.mem_keys.mp (h k (AList.mem_keys.mpr hk))

/-- The values of a map in which every value stands under its own key. -/
theorem mem_values_iff {m : Map K V} {key : V → K}
    (hkey : ∀ k v, m.lookup k = some v → key v = k) {v : V} :
    v ∈ m.toList.map Prod.snd ↔ m.lookup (key v) = some v := by
  rw [List.mem_map]
  constructor
  · rintro ⟨⟨k, v⟩, hmem, rfl⟩
    have hlookup := mem_toList.mp hmem
    rw [hkey k v hlookup]
    exact hlookup
  · exact fun hlookup => ⟨(key v, v), mem_toList.mpr hlookup, rfl⟩

/-- **A list is the concatenation of its groups**, up to order, for any order of
the keys. -/
theorem flatMap_filter_perm (key : V → K) {keys : List K} (hnodup : keys.Nodup) {xs : List V}
    (hcover : ∀ x ∈ xs, key x ∈ keys) :
    (keys.flatMap fun k => xs.filter fun x => key x = k).Perm xs := by
  induction keys generalizing xs with
  | nil =>
      have hnil : xs = [] := List.eq_nil_iff_forall_not_mem.mpr fun x hx => by
        have hnone := hcover x hx
        cases hnone
      rw [hnil]
      exact List.Perm.nil
  | cons k keys ih =>
      obtain ⟨hk, hnodup⟩ := List.nodup_cons.mp hnodup
      -- the other groups are those of the elements that are not in this one
      have hothers : (keys.flatMap fun k' => xs.filter fun x => key x = k') =
          keys.flatMap fun k' => (xs.filter fun x => !decide (key x = k)).filter
            fun x => key x = k' := by
        refine List.flatMap_congr fun k' hk' => ?_
        rw [List.filter_filter]
        refine List.filter_congr fun x _ => ?_
        have hne : k' ≠ k := fun heq => hk (heq ▸ hk')
        by_cases hx : key x = k' <;> simp [hx, hne]
      rw [List.flatMap_cons, hothers]
      refine ((ih hnodup ?_).append_left _).trans (List.filter_append_perm _ xs)
      intro x hx
      rw [List.mem_filter] at hx
      rcases List.mem_cons.mp (hcover x hx.1) with heq | hmem
      · simp [heq] at hx
      · exact hmem

/-- A loop that writes the entries `es` in order. -/
def putAll (m : Map K V) (es : List (K × V)) : Map K V :=
  es.foldl (fun m e => m.insert e.1 e.2) m

@[simp] theorem putAll_nil (m : Map K V) : m.putAll [] = m := rfl

theorem putAll_append (m : Map K V) (es fs : List (K × V)) :
    m.putAll (es ++ fs) = (m.putAll es).putAll fs :=
  List.foldl_append

@[simp] theorem putAll_singleton (m : Map K V) (e : K × V) :
    m.putAll [e] = m.insert e.1 e.2 := rfl

/-- The value the last write to `k` leaves behind, if `es` writes `k` at all. -/
def lastWrite (es : List (K × V)) (k : K) : Option V :=
  es.foldl (fun found e => if e.1 = k then some e.2 else found) none

@[simp] theorem lastWrite_nil (k : K) : lastWrite ([] : List (K × V)) k = none := rfl

theorem lastWrite_concat (es : List (K × V)) (e : K × V) (k : K) :
    lastWrite (es ++ [e]) k = if e.1 = k then some e.2 else lastWrite es k := by
  simp [lastWrite, List.foldl_append]

theorem lastWrite_append (es fs : List (K × V)) (k : K) :
    lastWrite (es ++ fs) k = (lastWrite fs k).or (lastWrite es k) := by
  induction fs using List.reverseRecOn with
  | nil => simp
  | append_singleton fs f ih =>
      rw [← List.append_assoc, lastWrite_concat, lastWrite_concat, ih]
      by_cases hk : f.1 = k <;> simp [hk]

theorem lastWrite_eq_none {es : List (K × V)} {k : K} :
    lastWrite es k = none ↔ ∀ e ∈ es, e.1 ≠ k := by
  induction es using List.reverseRecOn with
  | nil => simp
  | append_singleton es e ih =>
      rw [lastWrite_concat]
      by_cases hk : e.1 = k
      · rw [if_pos hk]
        exact ⟨fun h => absurd h (by simp), fun h => absurd hk (h e (by simp))⟩
      · simp [hk, ih, or_imp, forall_and]

theorem mem_of_lastWrite {es : List (K × V)} {k : K} {v : V}
    (h : lastWrite es k = some v) : (k, v) ∈ es := by
  induction es using List.reverseRecOn with
  | nil => simp at h
  | append_singleton es e ih =>
      rw [lastWrite_concat] at h
      by_cases hk : e.1 = k
      · rw [if_pos hk, Option.some_inj] at h
        exact List.mem_append_right _ (by simp [← hk, ← h])
      · rw [if_neg hk] at h
        exact List.mem_append_left _ (ih h)

/-- Writing one value to several keys: the last write is that value exactly at
those keys. -/
theorem lastWrite_const {J : Type} (js : List J) (f : J → K) (v : V) (k : K) :
    lastWrite (js.map fun j => (f j, v)) k = if ∃ j ∈ js, f j = k then some v else none := by
  by_cases hex : ∃ j ∈ js, f j = k
  · rw [if_pos hex]
    cases hlast : lastWrite (js.map fun j => (f j, v)) k with
    | none =>
        obtain ⟨j, hj, hjk⟩ := hex
        exact absurd hjk (lastWrite_eq_none.mp hlast (f j, v) (List.mem_map.mpr ⟨j, hj, rfl⟩))
    | some w =>
        obtain ⟨j, -, heq⟩ := List.mem_map.mp (mem_of_lastWrite hlast)
        rw [← (Prod.mk.inj heq).2]
  · rw [if_neg hex, lastWrite_eq_none]
    rintro e he hk
    obtain ⟨j, hj, rfl⟩ := List.mem_map.mp he
    exact hex ⟨j, hj, hk⟩

/-- Writers that each write one value to several keys: the last one that writes a
key decides. -/
theorem lastWrite_flatMap_const {J I : Type} (js : List J) (items : J → List I) (key : I → K)
    (val : J → V) (k : K) :
    lastWrite (js.flatMap fun j => (items j).map fun i => (key i, val j)) k =
      (js.filter fun j => decide (∃ i ∈ items j, key i = k)).getLast?.map val := by
  induction js using List.reverseRecOn with
  | nil => rfl
  | append_singleton js j ih =>
      rw [List.flatMap_append, List.flatMap_singleton, lastWrite_append, lastWrite_const, ih,
        List.filter_append]
      by_cases hj : ∃ i ∈ items j, key i = k
      · simp [hj]
      · simp [hj]

/-- If all writes of a key agree, they are what it reads as. -/
theorem lastWrite_eq_of_agree {es : List (K × V)} {k : K} {found : Option V}
    (hagree : ∀ e ∈ es, e.1 = k → found = some e.2)
    (hwritten : ∀ v, found = some v → ∃ e ∈ es, e.1 = k) : lastWrite es k = found := by
  cases hlast : lastWrite es k with
  | none =>
      cases hfound : found with
      | none => rfl
      | some v =>
          obtain ⟨e, he, hk⟩ := hwritten v hfound
          exact absurd hk (lastWrite_eq_none.mp hlast e he)
  | some v => exact (hagree (k, v) (mem_of_lastWrite hlast) rfl).symm

/-- **The last write of a key wins**; a key never written keeps its old value. -/
theorem lookup_putAll (m : Map K V) (es : List (K × V)) (k : K) :
    (m.putAll es).lookup k = (lastWrite es k).or (m.lookup k) := by
  induction es using List.reverseRecOn with
  | nil => simp
  | append_singleton es e ih =>
      rw [putAll_append, putAll_singleton, lastWrite_concat]
      by_cases hk : e.1 = k
      · subst hk
        simp
      · rw [AList.lookup_insert_ne (Ne.symm hk), ih, if_neg hk]

/-- The keys of a filled map are the old ones and the written ones. -/
theorem mem_putAll {m : Map K V} {es : List (K × V)} {k : K} :
    k ∈ m.putAll es ↔ k ∈ m ∨ ∃ e ∈ es, e.1 = k := by
  rw [← AList.lookup_isSome, lookup_putAll, ← AList.lookup_isSome]
  cases hlast : lastWrite es k with
  | none =>
      have hnot := lastWrite_eq_none.mp hlast
      simp only [Option.none_or]
      refine ⟨Or.inl, fun h => h.resolve_right ?_⟩
      rintro ⟨e, he, hk⟩
      exact hnot e he hk
  | some v =>
      refine iff_of_true rfl (Or.inr ⟨(k, v), mem_of_lastWrite hlast, rfl⟩)

/-- The size of a map that a loop filled is the number of its keys, each once. -/
theorem size_putAll_empty (es : List (K × V)) :
    ((∅ : Map K V).putAll es).size = (es.map Prod.fst).dedup.length := by
  rw [size_eq_length_keys]
  refine List.Perm.length_eq ?_
  refine (List.perm_ext_iff_of_nodup (AList.keys_nodup _) (List.nodup_dedup _)).mpr ?_
  intro k
  rw [← AList.mem_keys, mem_putAll, List.mem_dedup, List.mem_map]
  constructor
  · rintro (h | h)
    · exact absurd h (AList.notMem_empty k)
    · exact h
  · exact Or.inr

/-- More writes make no map smaller. -/
theorem size_putAll_le (m : Map K V) (es fs : List (K × V)) :
    (m.putAll es).size ≤ (m.putAll (es ++ fs)).size := by
  refine size_le_of_subset ?_
  intro k hk
  rw [putAll_append]
  exact mem_putAll.mpr (Or.inl hk)

end Map

end Go

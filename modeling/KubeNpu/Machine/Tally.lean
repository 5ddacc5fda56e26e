import KubeNpu.Go.Maps

/-!
# Tallies: maps of 64-bit counters

A program that publishes counts keeps a map from series to unsigned 64-bit
counters and increments one entry per event (`m[k]++`, where an absent key
counts as zero).  `bump` is that increment, and `bumps` a series of them:

* as long as nothing wraps, the counter of a key is the number of its increments
  (`value_bumps`), and each increment adds one to the sum of all counters
  (`total_bump`, `total_bumps`);
* the keys present are the old ones and the incremented ones (`mem_bumps`).
-/

namespace Machine.Tally

open Go

variable {K : Type} [DecidableEq K]

/-- `m[k]++`. -/
def bump (m : Map K UInt64) (k : K) : Map K UInt64 :=
  m.insert k ((m.lookup k).getD 0 + 1)

/-- The counter of `k` as a natural number; absent keys read as zero. -/
def value (m : Map K UInt64) (k : K) : ℕ := ((m.lookup k).getD 0).toNat

/-- The sum of all counters. -/
def total (m : Map K UInt64) : ℕ := (m.toList.map fun e => e.2.toNat).sum

@[simp] theorem value_empty (k : K) : value (∅ : Map K UInt64) k = 0 := rfl

theorem value_of_lookup {m : Map K UInt64} {k : K} {v : UInt64} (h : m.lookup k = some v) :
    value m k = v.toNat := by
  rw [value, h, Option.getD_some]

theorem lookup_bump_self (m : Map K UInt64) (k : K) :
    (bump m k).lookup k = some ((m.lookup k).getD 0 + 1) :=
  AList.lookup_insert m

theorem lookup_bump_ne (m : Map K UInt64) {k j : K} (h : j ≠ k) :
    (bump m k).lookup j = m.lookup j :=
  AList.lookup_insert_ne h

/-- An increment, wherever the counter stands. -/
theorem value_bump_self_mod (m : Map K UInt64) (k : K) :
    value (bump m k) k = (value m k + 1) % 2 ^ 64 := by
  rw [value, value, lookup_bump_self, Option.getD_some, UInt64.toNat_add]
  rfl

theorem value_bump_self {m : Map K UInt64} {k : K} (h : value m k + 1 < 2 ^ 64) :
    value (bump m k) k = value m k + 1 := by
  rw [value_bump_self_mod, Nat.mod_eq_of_lt h]

theorem value_bump_ne (m : Map K UInt64) {k j : K} (h : j ≠ k) :
    value (bump m k) j = value m j := by
  rw [value, value, lookup_bump_ne m h]

/-- An increment always changes the map, also where the counter wraps. -/
theorem bump_ne (m : Map K UInt64) (k : K) : bump m k ≠ m := by
  intro h
  have hself := lookup_bump_self m k
  rw [h] at hself
  rw [hself, Option.getD_some] at hself
  simp at hself

/-- The sum of a list of entries, with the entry of `k` taken out. -/
private theorem sum_kerase (k : K) (l : List (Σ _ : K, UInt64)) :
    (l.map fun e => e.2.toNat).sum =
      ((l.dlookup k).getD 0).toNat + ((l.kerase k).map fun e => e.2.toNat).sum := by
  induction l with
  | nil => rfl
  | cons e l ih =>
      by_cases hk : k = e.1
      · subst hk
        rw [List.kerase_cons_eq rfl, List.dlookup_cons_eq]
        rfl
      · rw [List.kerase_cons_ne hk, List.dlookup_cons_ne _ _ hk, List.map_cons, List.sum_cons,
          List.map_cons, List.sum_cons, ih]
        omega

theorem value_le_total (m : Map K UInt64) (k : K) : value m k ≤ total m := by
  simp only [value, total, Map.toList, List.map_map, Function.comp_def, AList.lookup]
  rw [sum_kerase k m.entries]
  exact Nat.le_add_right _ _

/-- One increment adds one to the sum. -/
theorem total_bump {m : Map K UInt64} {k : K} (h : value m k + 1 < 2 ^ 64) :
    total (bump m k) = total m + 1 := by
  have hself := value_bump_self h
  simp only [value, lookup_bump_self, Option.getD_some] at hself
  simp only [total, Map.toList, List.map_map, Function.comp_def]
  rw [sum_kerase k m.entries, bump, AList.entries_insert, List.map_cons, List.sum_cons, hself]
  simp only [AList.lookup]
  omega

/-- The increments `ks`, in order. -/
def bumps (m : Map K UInt64) (ks : List K) : Map K UInt64 := ks.foldl bump m

@[simp] theorem bumps_nil (m : Map K UInt64) : bumps m [] = m := rfl

theorem bumps_concat (m : Map K UInt64) (ks : List K) (k : K) :
    bumps m (ks ++ [k]) = bump (bumps m ks) k := by
  simp [bumps, List.foldl_append]

/-- **A counter is the number of its increments.** -/
theorem value_bumps {m : Map K UInt64} {ks : List K} {k : K}
    (h : value m k + ks.count k < 2 ^ 64) :
    value (bumps m ks) k = value m k + ks.count k := by
  induction ks using List.reverseRecOn with
  | nil => rfl
  | append_singleton ks j ih =>
      rw [bumps_concat]
      by_cases hjk : k = j
      · subst hjk
        simp only [List.count_append, List.count_singleton_self] at h ⊢
        have hprev := ih (by omega)
        rw [value_bump_self (by omega), hprev, Nat.add_assoc]
      · have hcount : (ks ++ [j]).count k = ks.count k := by
          simp [List.count_append, Ne.symm hjk]
        rw [hcount] at h ⊢
        rw [value_bump_ne _ hjk, ih h]

/-- The same for any number of increments: the counter is their number modulo
2^64. -/
theorem value_bumps_mod (m : Map K UInt64) (ks : List K) (k : K) :
    value (bumps m ks) k = (value m k + ks.count k) % 2 ^ 64 := by
  induction ks using List.reverseRecOn with
  | nil => exact (Nat.mod_eq_of_lt (UInt64.toNat_lt _)).symm
  | append_singleton ks j ih =>
      rw [bumps_concat, List.count_append]
      rcases eq_or_ne k j with rfl | hkj
      · rw [value_bump_self_mod, ih, Nat.mod_add_mod, List.count_singleton_self, Nat.add_assoc]
      · have hnone : List.count k [j] = 0 := List.count_eq_zero.mpr (by simpa using hkj)
        rw [value_bump_ne _ hkj, ih, hnone, Nat.add_zero]

/-- Increments add their number to the sum, as long as the sum fits a counter. -/
theorem total_bumps {m : Map K UInt64} {ks : List K} (h : total m + ks.length < 2 ^ 64) :
    total (bumps m ks) = total m + ks.length := by
  induction ks using List.reverseRecOn with
  | nil => rfl
  | append_singleton ks j ih =>
      rw [List.length_append, List.length_singleton] at h ⊢
      have hprev := ih (by omega)
      have hroom := value_le_total (bumps m ks) j
      rw [bumps_concat, total_bump (by omega), hprev, Nat.add_assoc]

theorem mem_bump {m : Map K UInt64} {k j : K} : j ∈ bump m k ↔ j = k ∨ j ∈ m :=
  AList.mem_insert m

theorem mem_bumps {m : Map K UInt64} {ks : List K} {k : K} :
    k ∈ bumps m ks ↔ k ∈ m ∨ k ∈ ks := by
  induction ks using List.reverseRecOn with
  | nil => simp
  | append_singleton ks j ih =>
      rw [bumps_concat, mem_bump, ih, List.mem_append, List.mem_singleton]
      tauto

end Machine.Tally

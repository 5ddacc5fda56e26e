import Mathlib

/-!
# The string functions of the `strings` package

The functions are defined on lists over an arbitrary alphabet, where a parser's
proof does its work, and lifted to `String` under the names of the `strings`
package.  Each lifted function is its list function between `String.toList` and
`String.ofList`, so a statement about strings moves to lists by `simp`.

The laws are decode-after-encode laws, one for each function: cutting at a
separator that starts nowhere earlier gives back both sides, the last index of a
symbol that does not occur later is where it was put, a suffix that was appended
is trimmed, and splitting distributes over joining.
-/

namespace Go

namespace Seq

variable {α : Type} [DecidableEq α]

/-- `strings.TrimSuffix`: at most one copy of the suffix is removed. -/
def trimSuffix (l suffix : List α) : List α :=
  if suffix.isSuffixOf l then l.take (l.length - suffix.length) else l

theorem trimSuffix_append (l suffix : List α) : trimSuffix (l ++ suffix) suffix = l := by
  have h : suffix.isSuffixOf (l ++ suffix) = true := by simp
  rw [trimSuffix, if_pos h]
  simp

theorem trimSuffix_of_not_suffix {l suffix : List α} (h : ¬ suffix <:+ l) :
    trimSuffix l suffix = l := by
  rw [trimSuffix, if_neg]
  simpa using h

/-- `strings.CutPrefix`: what follows the prefix, if it is one. -/
def cutPrefix (l pre : List α) : Option (List α) :=
  if pre.isPrefixOf l then some (l.drop pre.length) else none

theorem cutPrefix_append (pre l : List α) : cutPrefix (pre ++ l) pre = some l := by
  have h : pre.isPrefixOf (pre ++ l) = true := by simp
  rw [cutPrefix, if_pos h]
  simp

theorem mem_of_mem_trimSuffix {l suffix : List α} {a : α} (h : a ∈ trimSuffix l suffix) :
    a ∈ l := by
  unfold trimSuffix at h
  split at h
  · exact List.mem_of_mem_take h
  · exact h

/-- `strings.Cut`: the parts before and after the first occurrence of `sep`. -/
def cut (sep : List α) : List α → Option (List α × List α)
  | [] => if sep = [] then some ([], []) else none
  | a :: l =>
      if sep.isPrefixOf (a :: l) then some ([], (a :: l).drop sep.length)
      else (cut sep l).map fun p => (a :: p.1, p.2)

/-- A one-symbol separator cuts at its first occurrence. -/
theorem cut_singleton_append {l : List α} {x : α} (r : List α) (h : x ∉ l) :
    cut [x] (l ++ x :: r) = some (l, r) := by
  induction l with
  | nil => simp [cut, List.isPrefixOf]
  | cons a l ih =>
      rw [List.mem_cons, not_or] at h
      rw [List.cons_append, cut, ih h.2, if_neg (by simp [h.1]), Option.map_some]

theorem cut_singleton_eq_none {l : List α} {x : α} (h : x ∉ l) : cut [x] l = none := by
  induction l with
  | nil => simp [cut]
  | cons a l ih =>
      rw [List.mem_cons, not_or] at h
      rw [cut, ih h.2, if_neg (by simp [h.1]), Option.map_none]

/-- `strings.LastIndex` for a one-symbol substring; `none` is `-1`. -/
def lastIndex (l : List α) (x : α) : Option ℕ :=
  match l with
  | [] => none
  | a :: l =>
      match lastIndex l x with
      | some i => some (i + 1)
      | none => if a = x then some 0 else none

theorem lastIndex_eq_none {l : List α} {x : α} (h : x ∉ l) : lastIndex l x = none := by
  induction l with
  | nil => rfl
  | cons a l ih =>
      rw [List.mem_cons, not_or] at h
      rw [lastIndex, ih h.2, if_neg (Ne.symm h.1)]

theorem lastIndex_append_cons (l r : List α) {x : α} (h : x ∉ r) :
    lastIndex (l ++ x :: r) x = some l.length := by
  induction l with
  | nil => rw [List.nil_append, lastIndex, lastIndex_eq_none h, if_pos rfl, List.length_nil]
  | cons a l ih => rw [List.cons_append, lastIndex, ih, List.length_cons]

/-- `strings.ReplaceAll` for one-symbol arguments. -/
def replaceAll (l : List α) (old new : α) : List α :=
  l.map fun a => if a = old then new else a

theorem length_replaceAll (l : List α) (old new : α) :
    (replaceAll l old new).length = l.length :=
  List.length_map _

/-- Replacing there and back is the identity when the replacement is fresh. -/
theorem replaceAll_replaceAll {l : List α} {a b : α} (h : b ∉ l) :
    replaceAll (replaceAll l a b) b a = l := by
  induction l with
  | nil => rfl
  | cons c l ih =>
      rw [List.mem_cons, not_or] at h
      have htail := ih h.2
      simp only [replaceAll, List.map_cons, List.map_map] at htail ⊢
      rw [htail]
      by_cases hc : c = a
      · simp [hc]
      · simp [hc, Ne.symm h.1]

theorem mem_replaceAll_of_mem {l : List α} {a b c : α} (h : c ∈ replaceAll l a b)
    (hcb : c ≠ b) : c ∈ l := by
  obtain ⟨d, hd, rfl⟩ := List.mem_map.mp h
  by_cases had : d = a
  · rw [if_pos had] at hcb
    exact absurd rfl hcb
  · rwa [if_neg had]

end Seq

namespace Strings

/-- `strings.HasPrefix`. -/
def hasPrefix (s pre : String) : Bool := pre.toList.isPrefixOf s.toList

/-- `strings.HasSuffix`. -/
def hasSuffix (s suffix : String) : Bool := suffix.toList.isSuffixOf s.toList

/-- `strings.Contains`. -/
def contains (s sub : String) : Bool := decide (sub.toList <:+: s.toList)

/-- `strings.TrimSuffix`. -/
def trimSuffix (s suffix : String) : String :=
  String.ofList (Seq.trimSuffix s.toList suffix.toList)

/-- `strings.CutPrefix`; `none` is a false `found`. -/
def cutPrefix (s pre : String) : Option String :=
  (Seq.cutPrefix s.toList pre.toList).map String.ofList

/-- `strings.Cut`; `none` is a false `found`. -/
def cut (s sep : String) : Option (String × String) :=
  (Seq.cut sep.toList s.toList).map fun p => (String.ofList p.1, String.ofList p.2)

/-- `strings.LastIndex` for a one-character substring; `none` is `-1`. -/
def lastIndex (s : String) (c : Char) : Option ℕ := Seq.lastIndex s.toList c

/-- The slice `s[i:]`. -/
def sliceFrom (s : String) (i : ℕ) : String := String.ofList (s.toList.drop i)

/-- `strings.ReplaceAll` for one-character arguments. -/
def replaceAll (s : String) (old new : Char) : String :=
  String.ofList (Seq.replaceAll s.toList old new)

/-- `strings.Split` at a one-character separator. -/
def split (s : String) (sep : Char) : List String :=
  (s.toList.splitOn sep).map String.ofList

/-- `unicode.IsSpace`. -/
def isSpace (c : Char) : Bool :=
  c ∈ ['\t', '\n', '\x0b', '\x0c', '\r', ' ', '\u0085', '\u00a0', '\u1680', '\u2028', '\u2029',
    '\u202f', '\u205f', '\u3000'] || ('\u2000' ≤ c && c ≤ '\u200a')

/-- `strings.TrimSpace`. -/
def trimSpace (s : String) : String :=
  String.ofList ((s.toList.dropWhile isSpace).rdropWhile isSpace)

theorem hasPrefix_iff {s pre : String} :
    hasPrefix s pre = true ↔ pre.toList <+: s.toList :=
  List.isPrefixOf_iff_prefix

theorem contains_iff {s sub : String} :
    contains s sub = true ↔ sub.toList <:+: s.toList :=
  decide_eq_true_iff

@[simp] theorem toList_trimSuffix (s suffix : String) :
    (trimSuffix s suffix).toList = Seq.trimSuffix s.toList suffix.toList :=
  String.toList_ofList

@[simp] theorem toList_sliceFrom (s : String) (i : ℕ) :
    (sliceFrom s i).toList = s.toList.drop i :=
  String.toList_ofList

@[simp] theorem toList_replaceAll (s : String) (old new : Char) :
    (replaceAll s old new).toList = Seq.replaceAll s.toList old new :=
  String.toList_ofList

theorem trimSuffix_append (s suffix : String) : trimSuffix (s ++ suffix) suffix = s := by
  rw [← String.toList_inj, toList_trimSuffix, String.toList_append, Seq.trimSuffix_append]

/-- A string without the separator is its own only component. -/
theorem split_eq_singleton {s : String} {sep : Char} (h : sep ∉ s.toList) :
    split s sep = [s] := by
  rw [split, List.splitOn_eq_singleton h, List.map_singleton, String.ofList_toList]

/-- **Splitting distributes over joining with the separator.** -/
theorem split_append_sep (a b : String) (sep : Char) :
    split (a ++ String.singleton sep ++ b) sep = split a sep ++ split b sep := by
  have h : (a ++ String.singleton sep ++ b).toList = a.toList ++ sep :: b.toList := by
    simp
  rw [split, h, List.splitOn_append_cons_self, List.map_append, split, split]

/-- No component contains the separator. -/
theorem sep_not_mem_of_mem_split {s part : String} {sep : Char} (h : part ∈ split s sep) :
    sep ∉ part.toList := by
  obtain ⟨l, hl, rfl⟩ := List.mem_map.mp h
  rw [String.toList_ofList]
  exact notMem_of_mem_splitOn s.toList l hl
where
  notMem_of_mem_splitOn (cs : List Char) : ∀ l ∈ cs.splitOn sep, sep ∉ l := by
    induction cs with
    | nil => simp
    | cons c cs ih =>
        intro l hl
        rw [List.splitOn_cons_eq_if_modifyHead] at hl
        by_cases hc : c = sep
        · rw [if_pos (beq_iff_eq.mpr hc)] at hl
          rcases List.mem_cons.mp hl with rfl | hrest
          · exact List.not_mem_nil
          · exact ih l hrest
        · -- the first component of the rest grows by a symbol that is no separator
          rw [if_neg (by simpa using hc)] at hl
          obtain ⟨first, rest, hsplit⟩ := List.exists_cons_of_ne_nil (List.splitOn_ne_nil sep cs)
          rw [hsplit] at hl ih
          rcases List.mem_cons.mp hl with rfl | hrest
          · have hfirst := ih first List.mem_cons_self
            simp [hfirst, Ne.symm hc]
          · exact ih l (List.mem_cons_of_mem first hrest)

/-- **Splitting undoes joining**, for components without the separator. -/
theorem split_intercalate {parts : List String} (sep : Char)
    (h : ∀ part ∈ parts, sep ∉ part.toList) (hne : parts ≠ []) :
    split (String.intercalate (String.singleton sep) parts) sep = parts := by
  have hlists : ∀ l ∈ parts.map String.toList, sep ∉ l := by
    intro l hl
    obtain ⟨part, hpart, rfl⟩ := List.mem_map.mp hl
    exact h part hpart
  rw [split, String.toList_intercalate, String.toList_singleton,
    List.splitOn_intercalate sep hlists (by simpa using hne), List.map_map]
  simp

/-- **Joining undoes splitting.** -/
theorem intercalate_split (s : String) (sep : Char) :
    String.intercalate (String.singleton sep) (split s sep) = s := by
  rw [← String.toList_inj, String.toList_intercalate, String.toList_singleton, split,
    List.map_map]
  simp

theorem split_ne_nil (s : String) (sep : Char) : split s sep ≠ [] := by
  simp [split]

theorem replaceAll_ne_empty {s : String} (h : s ≠ "") (old new : Char) :
    replaceAll s old new ≠ "" := by
  intro hempty
  have hlength := congrArg (fun t : String => t.toList.length) hempty
  simp only [toList_replaceAll, Seq.length_replaceAll] at hlength
  exact h (String.toList_inj.mp (List.length_eq_zero_iff.mp hlength))

/-- A component occurs in the string it was split from. -/
theorem infix_of_mem_split {s part : String} {sep : Char} (h : part ∈ split s sep) :
    part.toList <:+: s.toList := by
  obtain ⟨l, hl, rfl⟩ := List.mem_map.mp h
  obtain ⟨before, after, hsplit⟩ := List.append_of_mem hl
  have hjoin : [sep].intercalate (s.toList.splitOn sep) = s.toList :=
    List.intercalate_splitOn sep
  rw [hsplit] at hjoin
  rw [String.toList_ofList, ← hjoin]
  exact infix_intercalate sep before after l
where
  infix_intercalate (sep : Char) (before after : List (List Char)) (l : List Char) :
      l <:+: [sep].intercalate (before ++ l :: after) := by
    induction before with
    | nil =>
        cases after with
        | nil => simp
        | cons m after =>
            simp only [List.nil_append, List.intercalate_cons_cons]
            exact (List.prefix_append _ _).isInfix.trans (List.prefix_append _ _).isInfix
    | cons m before ih =>
        have hne : before ++ l :: after ≠ [] := by simp
        rw [List.cons_append, List.intercalate_cons_of_ne_nil hne]
        exact ih.trans (List.suffix_append _ _).isInfix

end Strings

end Go

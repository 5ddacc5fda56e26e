import KubeNpu.Go.Filepath

/-!
# Directory trees, and what a walk sees of them

`DirTree` is a directory tree as it is, with a key for every entry; `Faults` says
which listings and which calls of `Info` fail while it is walked, by key.  `view`
is the tree such a walk sees: a directory that cannot be listed has no entries.

`At` places an entry in the tree, with its path and the keys of the directories
above it.  `mem_visits_view` says which calls the walk makes: one for each entry
below listable directories, and one more, with the error, for a directory that
cannot be listed.  When no two directories share a key, a key places its
directory (`At.unique`).
-/

namespace Go

/-- A directory tree; `key` identifies an entry, like an inode number. -/
inductive DirTree (K : Type) where
  | file (name : String) (key : K)
  | dir (name : String) (key : K) (children : List (DirTree K))

/-- Which entries of a tree fail, and how: listing them, or asking for their
`Info`. -/
structure Faults (K ε : Type) where
  listErr : K → Option ε
  infoErr : K → Option ε

namespace Faults

variable {K ε : Type} [DecidableEq K]

/-- One more entry whose `Info` fails. -/
def failInfo (F : Faults K ε) (key : K) (err : ε) : Faults K ε :=
  { F with infoErr := Function.update F.infoErr key (some err) }

/-- One more directory whose listing fails. -/
def failList (F : Faults K ε) (key : K) (err : ε) : Faults K ε :=
  { F with listErr := Function.update F.listErr key (some err) }

@[simp] theorem failInfo_listErr (F : Faults K ε) (key : K) (err : ε) :
    (F.failInfo key err).listErr = F.listErr := rfl

@[simp] theorem failList_infoErr (F : Faults K ε) (key : K) (err : ε) :
    (F.failList key err).infoErr = F.infoErr := rfl

theorem failInfo_infoErr_eq_none {F : Faults K ε} {key k : K} {err : ε} :
    (F.failInfo key err).infoErr k = none ↔ k ≠ key ∧ F.infoErr k = none := by
  by_cases hk : k = key
  · simp [failInfo, hk]
  · simp [failInfo, hk]

theorem failList_listErr_eq_none {F : Faults K ε} {key k : K} {err : ε} :
    (F.failList key err).listErr k = none ↔ k ≠ key ∧ F.listErr k = none := by
  by_cases hk : k = key
  · simp [failList, hk]
  · simp [failList, hk]

end Faults

namespace DirTree

variable {K ι ε : Type}

/-- Induction over a tree, with the hypothesis for every child. -/
@[elab_as_elim, induction_eliminator]
theorem ind {P : DirTree K → Prop} (file : ∀ name key, P (.file name key))
    (dir : ∀ name key children, (∀ child ∈ children, P child) → P (.dir name key children)) :
    ∀ t, P t
  | .file name key => file name key
  | .dir name key children => dir name key children fun child _ => ind file dir child

/-- The name of an entry in its directory. -/
def name : DirTree K → String
  | file name _ => name
  | dir name _ _ => name

/-- The key of an entry. -/
def key : DirTree K → K
  | file _ key => key
  | dir _ key _ => key

/-- The key of a directory. -/
def dirKey : DirTree K → Option K
  | file _ _ => none
  | dir _ key _ => some key

mutual

/-- The keys of all directories, in the order of the walk. -/
def dirKeys : DirTree K → List K
  | file _ _ => []
  | dir _ key children => key :: dirKeysAll children

/-- The keys of all directories below one. -/
def dirKeysAll : List (DirTree K) → List K
  | [] => []
  | t :: ts => dirKeys t ++ dirKeysAll ts

end

theorem dirKeysAll_eq_flatMap (ts : List (DirTree K)) : dirKeysAll ts = ts.flatMap dirKeys := by
  induction ts with
  | nil => rfl
  | cons t ts ih => rw [dirKeysAll, ih, List.flatMap_cons]

/-! ## What a walk sees -/

/-- The entry that the walk function is given. -/
def entryOf (info : K → ι) (F : Faults K ε) (t : DirTree K) : DirEntry ι ε where
  name := t.name
  isDir := t.dirKey.isSome
  info := match F.infoErr t.key with
    | none => .ok (info t.key)
    | some err => .error err

mutual

/-- The tree as a walk sees it. -/
def view (info : K → ι) (F : Faults K ε) : DirTree K → FileTree ι ε
  | file name key => .node (entryOf info F (.file name key)) none []
  | dir name key children =>
      .node (entryOf info F (.dir name key children)) (F.listErr key)
        (match F.listErr key with
          | none => viewAll info F children
          | some _ => [])

/-- The entries of a directory as a walk sees them. -/
def viewAll (info : K → ι) (F : Faults K ε) : List (DirTree K) → List (FileTree ι ε)
  | [] => []
  | t :: ts => view info F t :: viewAll info F ts

end

theorem viewAll_eq_map (info : K → ι) (F : Faults K ε) (ts : List (DirTree K)) :
    viewAll info F ts = ts.map (view info F) := by
  induction ts with
  | nil => rfl
  | cons t ts ih => rw [viewAll, ih, List.map_cons]

@[simp] theorem entry_view (info : K → ι) (F : Faults K ε) (t : DirTree K) :
    (view info F t).entry = entryOf info F t := by
  cases t <;> rfl

@[simp] theorem entryOf_isDir (info : K → ι) (F : Faults K ε) (t : DirTree K) :
    (entryOf info F t).isDir = t.dirKey.isSome := rfl

@[simp] theorem entryOf_name (info : K → ι) (F : Faults K ε) (t : DirTree K) :
    (entryOf info F t).name = t.name := rfl

/-! ## Where an entry stands -/

/-- In the tree `t`, which stands at `path`, the entry `d` stands at `p`, below the
directories with the keys `above`, outermost first. -/
inductive At : String → DirTree K → List K → String → DirTree K → Prop where
  | here (path : String) (t : DirTree K) : At path t [] path t
  | inside {path name : String} {key : K} {children : List (DirTree K)} {child : DirTree K}
      {above : List K} {p : String} {d : DirTree K} :
      child ∈ children → At (Filepath.join path child.name) child above p d →
      At path (.dir name key children) (key :: above) p d

/-- The directory `k` stands somewhere below the directory `key`. -/
def StrictlyBelow (path : String) (t : DirTree K) (key k : K) : Prop :=
  ∃ above p d, At path t above p d ∧ d.dirKey = some k ∧ key ∈ above

theorem At.mem_dirKeys {path p : String} {t d : DirTree K} {above : List K} {k : K}
    (h : At path t above p d) (hk : d.dirKey = some k) : k ∈ t.dirKeys := by
  induction h with
  | here path t =>
      cases t with
      | file => cases hk
      | dir =>
          cases hk
          exact List.mem_cons_self
  | inside hchild _ ih =>
      rw [dirKeys, dirKeysAll_eq_flatMap]
      exact List.mem_cons_of_mem _ (List.mem_flatMap_of_mem hchild (ih hk))

/-- The directories below one have other keys than it. -/
theorem key_not_mem_child {name : String} {key : K} {children : List (DirTree K)}
    (hnodup : (DirTree.dir name key children).dirKeys.Nodup) {child : DirTree K}
    (hchild : child ∈ children) : key ∉ child.dirKeys := by
  rw [dirKeys, dirKeysAll_eq_flatMap, List.nodup_cons] at hnodup
  exact fun hmem => hnodup.1 (List.mem_flatMap_of_mem hchild hmem)

theorem nodup_child {name : String} {key : K} {children : List (DirTree K)}
    (hnodup : (DirTree.dir name key children).dirKeys.Nodup) {child : DirTree K}
    (hchild : child ∈ children) : child.dirKeys.Nodup := by
  rw [dirKeys, dirKeysAll_eq_flatMap, List.nodup_cons, List.nodup_flatMap] at hnodup
  exact hnodup.2.1 child hchild

/-- A directory does not stand below itself. -/
theorem At.key_not_mem_above {path p : String} {t d : DirTree K} {above : List K} {k : K}
    (h : At path t above p d) (hk : d.dirKey = some k) (hnodup : t.dirKeys.Nodup) :
    k ∉ above := by
  induction h with
  | here => exact List.not_mem_nil
  | inside hchild hat ih =>
      intro hmem
      rcases List.mem_cons.mp hmem with rfl | habove
      · exact key_not_mem_child hnodup hchild (hat.mem_dirKeys hk)
      · exact ih hk (nodup_child hnodup hchild) habove

/-- **A key places its directory.** -/
theorem At.unique {path p p' : String} {t d d' : DirTree K} {above above' : List K} {k : K}
    (h : At path t above p d) (h' : At path t above' p' d') (hk : d.dirKey = some k)
    (hk' : d'.dirKey = some k) (hnodup : t.dirKeys.Nodup) : above = above' ∧ p = p' := by
  induction h generalizing above' with
  | here path t =>
      cases h' with
      | here => exact ⟨rfl, rfl⟩
      | inside hchild hat =>
          cases hk
          exact absurd (hat.mem_dirKeys hk') (key_not_mem_child hnodup hchild)
  | @inside path name key children child above p d hchild hat ih =>
      cases h' with
      | here =>
          cases hk'
          exact absurd (hat.mem_dirKeys hk) (key_not_mem_child hnodup hchild)
      | @inside _ _ _ _ child' above' _ _ hchild' hat' =>
          -- the key is in one child only
          have hsame : child = child' := by
            by_contra hne
            have hdisjoint := hnodup
            rw [dirKeys, dirKeysAll_eq_flatMap, List.nodup_cons, List.nodup_flatMap] at hdisjoint
            have : Std.Symm (Function.onFun List.Disjoint (dirKeys (K := K))) :=
              ⟨fun _ _ hd => hd.symm⟩
            exact hdisjoint.2.2.forall hchild hchild' hne (hat.mem_dirKeys hk)
              (hat'.mem_dirKeys hk')
          subst hsame
          obtain ⟨rfl, rfl⟩ := ih hat' hk (nodup_child hnodup hchild)
          exact ⟨rfl, rfl⟩

theorem at_file_iff {path name p : String} {key : K} {above : List K} {d : DirTree K} :
    At path (.file name key) above p d ↔ above = [] ∧ p = path ∧ d = .file name key := by
  constructor
  · rintro ⟨⟩
    exact ⟨rfl, rfl, rfl⟩
  · rintro ⟨rfl, rfl, rfl⟩
    exact .here _ _

theorem at_dir_iff {path name p : String} {key : K} {children : List (DirTree K)}
    {above : List K} {d : DirTree K} :
    At path (.dir name key children) above p d ↔
      (above = [] ∧ p = path ∧ d = .dir name key children) ∨
        ∃ child ∈ children, ∃ between, above = key :: between ∧
          At (Filepath.join path child.name) child between p d := by
  constructor
  · intro h
    cases h with
    | here => exact Or.inl ⟨rfl, rfl, rfl⟩
    | inside hchild hat => exact Or.inr ⟨_, hchild, _, rfl, hat⟩
  · rintro (⟨rfl, rfl, rfl⟩ | ⟨child, hchild, between, rfl, hat⟩)
    · exact .here _ _
    · exact .inside hchild hat

/-! ## The calls of a walk -/

/-- The call of the walk function for the entry `d` at `p`. -/
def firstVisit (info : K → ι) (F : Faults K ε) (p : String) (d : DirTree K) : Visit ι ε :=
  ⟨p, some (entryOf info F d), none⟩

/-- The second call, for a directory that cannot be listed. -/
def IsErrorVisit (info : K → ι) (F : Faults K ε) (p : String) (d : DirTree K)
    (v : Visit ι ε) : Prop :=
  ∃ key err, d.dirKey = some key ∧ F.listErr key = some err ∧
    v = ⟨p, some (entryOf info F d), some err⟩

/-- **The calls a walk makes**: one for every entry all of whose directories can be
listed, and a second one where listing it fails. -/
theorem mem_visits_view (info : K → ι) (F : Faults K ε) (t : DirTree K) (path : String)
    (v : Visit ι ε) :
    v ∈ visits path (view info F t) ↔
      ∃ above p d, At path t above p d ∧ (∀ key ∈ above, F.listErr key = none) ∧
        (v = firstVisit info F p d ∨ IsErrorVisit info F p d v) := by
  induction t generalizing path with
  | file name key =>
      have hvisits : visits path (view info F (.file name key)) =
          [firstVisit info F path (.file name key)] := by
        simp [view, visits, dirKey, firstVisit]
      rw [hvisits, List.mem_singleton]
      constructor
      · exact fun hv => ⟨[], path, _, .here _ _, by simp, Or.inl hv⟩
      · rintro ⟨above, p, d, hat, -, hv⟩
        obtain ⟨rfl, rfl, rfl⟩ := at_file_iff.mp hat
        rcases hv with hv | ⟨_, _, hkey, -⟩
        · exact hv
        · cases hkey
  | dir name key children ih =>
      cases hlist : F.listErr key with
      | some err =>
          have hvisits : visits path (view info F (.dir name key children)) =
              [firstVisit info F path (.dir name key children),
                ⟨path, some (entryOf info F (.dir name key children)), some err⟩] := by
            simp [view, visits, dirKey, firstVisit, hlist, childVisits]
          rw [hvisits, List.mem_cons, List.mem_singleton]
          constructor
          · rintro (hv | hv)
            · exact ⟨[], path, _, .here _ _, by simp, Or.inl hv⟩
            · exact ⟨[], path, _, .here _ _, by simp, Or.inr ⟨key, err, rfl, hlist, hv⟩⟩
          · rintro ⟨above, p, d, hat, habove, hv⟩
            rcases at_dir_iff.mp hat with ⟨rfl, rfl, rfl⟩ | ⟨_, _, _, rfl, _⟩
            · rcases hv with hv | ⟨_, _, hkey, herr, hv⟩
              · exact Or.inl hv
              · cases hkey
                rw [hlist] at herr
                cases herr
                exact Or.inr hv
            -- the entries below this directory are not seen
            · rw [habove key List.mem_cons_self] at hlist
              cases hlist
      | none =>
          have hvisits : visits path (view info F (.dir name key children)) =
              firstVisit info F path (.dir name key children) ::
                children.flatMap fun child =>
                  visits (Filepath.join path child.name) (view info F child) := by
            simp [view, visits, dirKey, firstVisit, hlist, childVisits_eq_flatMap,
              viewAll_eq_map, List.flatMap_map]
          rw [hvisits, List.mem_cons, List.mem_flatMap]
          constructor
          · rintro (hv | ⟨child, hchild, hv⟩)
            · exact ⟨[], path, _, .here _ _, by simp, Or.inl hv⟩
            · obtain ⟨above, p, d, hat, habove, hv⟩ := (ih child hchild _).mp hv
              refine ⟨key :: above, p, d, .inside hchild hat, ?_, hv⟩
              intro k hk
              rcases List.mem_cons.mp hk with rfl | hk
              · exact hlist
              · exact habove k hk
          · rintro ⟨above, p, d, hat, habove, hv⟩
            rcases at_dir_iff.mp hat with ⟨rfl, rfl, rfl⟩ | ⟨child, hchild, between, rfl, hchildAt⟩
            · rcases hv with hv | ⟨_, _, hkey, herr, -⟩
              · exact Or.inl hv
              · cases hkey
                rw [hlist] at herr
                cases herr
            · refine Or.inr ⟨child, hchild,
                (ih child hchild _).mpr ⟨between, p, d, hchildAt, ?_, hv⟩⟩
              exact fun k hk => habove k (List.mem_cons_of_mem key hk)

end DirTree

end Go

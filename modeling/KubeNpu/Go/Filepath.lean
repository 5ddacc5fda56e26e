import KubeNpu.Go.Strings

/-!
# File paths and directory walks

`clean`, `join` and `base` follow `path/filepath` on a slash-separated system.

`walkDir` is `filepath.WalkDir`: a pre-order walk that calls a function for every
entry, calls it a second time for a directory whose listing failed, and lets the
value the function returns decide whether the walk prunes, stops or goes on.  A
file system is seen through the walk only, as the finite tree of what `lstat`
and `ReadDir` answer (`FileTree`), with failures as part of the tree.

A function that always returns nil visits everything that can be reached, and
the walk itself reports nothing: `walkDir_quiet` reduces such a walk to a fold
over the list of visits.
-/

namespace Go

namespace Filepath

/-- One component of `filepath.Clean`: `stack` holds the components kept so far,
innermost first. -/
def cleanStep (rooted : Bool) (stack : List String) (part : String) : List String :=
  if part = "" ∨ part = "." then stack
  else if part = ".." then
    match stack with
    | [] => if rooted then [] else [".."]
    | top :: rest => if top = ".." then ".." :: stack else rest
  else part :: stack

/-- `filepath.Clean`. -/
def clean (path : String) : String :=
  let rooted := Strings.hasPrefix path "/"
  let stack := (Strings.split path '/').foldl (cleanStep rooted) []
  let body := String.intercalate "/" stack.reverse
  if rooted then "/" ++ body else if body = "" then "." else body

/-- `filepath.Join` of two elements: empty elements are ignored. -/
def join (a b : String) : String :=
  if a = "" ∧ b = "" then ""
  else if a = "" then clean b
  else if b = "" then clean a
  else clean (a ++ "/" ++ b)

/-- `filepath.Base`. -/
def base (path : String) : String :=
  if path = "" then "."
  else ((Strings.split path '/').filter (· ≠ "")).getLast?.getD "/"

/-- `filepath.ToSlash`, on a system whose separator is the slash. -/
def toSlash (path : String) : String := path

end Filepath

/-- `fs.DirEntry`: the name, whether it is a directory, and what `Info` answers. -/
structure DirEntry (ι ε : Type) where
  name : String
  isDir : Bool
  info : Except ε ι

/-- What a walk can see below one entry. -/
inductive FileTree (ι ε : Type) where
  /-- An entry, the error of listing it (if listing fails), and the children that
  the listing returns; a failed listing returns those it read before the error. -/
  | node (entry : DirEntry ι ε) (listErr : Option ε) (children : List (FileTree ι ε))

namespace FileTree

variable {ι ε : Type}

/-- The entry at the top of a tree. -/
def entry : FileTree ι ε → DirEntry ι ε
  | node entry _ _ => entry

/-- The error of listing the top of a tree. -/
def listErr : FileTree ι ε → Option ε
  | node _ listErr _ => listErr

end FileTree

/-- The non-nil errors a `fs.WalkDirFunc` returns. -/
inductive WalkSignal (ε : Type) where
  /-- `fs.SkipDir`. -/
  | skipDir
  /-- `fs.SkipAll`. -/
  | skipAll
  | fail (e : ε)

/-- A `fs.WalkDirFunc` over the state `S`: path, entry (nil when the root's
`lstat` failed), error, and back a nil or non-nil error. -/
abbrev WalkDirFunc (ι ε S : Type) :=
  String → Option (DirEntry ι ε) → Option ε → S → Option (WalkSignal ε) × S

section Walk

variable {ι ε S : Type}

/-- A returned `fs.SkipDir` on a directory prunes it and is no error. -/
def skipped (d : DirEntry ι ε) : Option (WalkSignal ε) × S → Option (WalkSignal ε) × S
  | (some .skipDir, s) => (if d.isDir then none else some .skipDir, s)
  | r => r

mutual

/-- `filepath.walkDir`: the recursive walk of one entry. -/
def walkTree (fn : WalkDirFunc ι ε S) (path : String) :
    FileTree ι ε → S → Option (WalkSignal ε) × S
  | .node d listErr children, s =>
      match fn path (some d) none s with
      | (none, s) =>
          if d.isDir then
            match listErr with
            | none => walkTrees fn path children s
            | some e =>
                match fn path (some d) (some e) s with
                | (none, s) => walkTrees fn path children s
                | r => skipped d r
          else (none, s)
      | r => skipped d r

/-- The loop over the entries of one directory. -/
def walkTrees (fn : WalkDirFunc ι ε S) (path : String) :
    List (FileTree ι ε) → S → Option (WalkSignal ε) × S
  | [], s => (none, s)
  | t :: ts, s =>
      match walkTree fn (Filepath.join path t.entry.name) t s with
      | (none, s) => walkTrees fn path ts s
      -- a `fs.SkipDir` out of an entry that is no directory ends this loop only
      | (some .skipDir, s) => (none, s)
      | r => r

end

/-- `filepath.WalkDir` from `root`, whose `lstat` answers `lstat`. -/
def walkDir (fn : WalkDirFunc ι ε S) (root : String) (lstat : Except ε (FileTree ι ε))
    (s : S) : Option ε × S :=
  let r := match lstat with
    | .error e => fn root none (some e) s
    | .ok t => walkTree fn root t s
  match r with
  | (some (.fail e), s) => (some e, s)
  | (_, s) => (none, s)

/-- One call of the walk function. -/
structure Visit (ι ε : Type) where
  path : String
  entry : Option (DirEntry ι ε)
  err : Option ε

mutual

/-- The calls a walk of one entry makes when nothing prunes it. -/
def visits (path : String) : FileTree ι ε → List (Visit ι ε)
  | .node d listErr children =>
      ⟨path, some d, none⟩ ::
        if d.isDir then
          match listErr with
          | none => childVisits path children
          | some e => ⟨path, some d, some e⟩ :: childVisits path children
        else []

/-- The calls the loop over one directory makes. -/
def childVisits (path : String) : List (FileTree ι ε) → List (Visit ι ε)
  | [] => []
  | t :: ts => visits (Filepath.join path t.entry.name) t ++ childVisits path ts

end

theorem childVisits_eq_flatMap (path : String) (ts : List (FileTree ι ε)) :
    childVisits path ts =
      ts.flatMap fun t => visits (Filepath.join path t.entry.name) t := by
  induction ts with
  | nil => rfl
  | cons t ts ih => rw [childVisits, ih, List.flatMap_cons]

/-- The walk function's effect on the state. -/
def visitStep (fn : WalkDirFunc ι ε S) (s : S) (v : Visit ι ε) : S :=
  (fn v.path v.entry v.err s).2

variable {fn : WalkDirFunc ι ε S}

private theorem quiet_apply (quiet : ∀ path d e s, (fn path d e s).1 = none)
    (path : String) (d : Option (DirEntry ι ε)) (e : Option ε) (s : S) :
    fn path d e s = (none, visitStep fn s ⟨path, d, e⟩) :=
  Prod.ext (quiet path d e s) rfl

mutual

/-- **A function that always returns nil turns the walk into a fold** over its
visits: the walk returns nil and nothing is pruned. -/
theorem walkTree_quiet (quiet : ∀ path d e s, (fn path d e s).1 = none) (path : String) :
    ∀ (t : FileTree ι ε) (s : S),
      walkTree fn path t s = (none, (visits path t).foldl (visitStep fn) s)
  | .node d listErr children, s => by
      rw [walkTree, quiet_apply quiet]
      cases listErr with
      | none =>
          rw [visits, List.foldl_cons]
          by_cases hdir : d.isDir = true
          · simp only [hdir, if_true]
            exact walkTrees_quiet quiet path children _
          · simp only [hdir, Bool.false_eq_true, if_false, List.foldl_nil]
      | some e =>
          rw [visits, List.foldl_cons]
          by_cases hdir : d.isDir = true
          · simp only [hdir, if_true, quiet_apply quiet, List.foldl_cons]
            exact walkTrees_quiet quiet path children _
          · simp only [hdir, Bool.false_eq_true, if_false, List.foldl_nil]

theorem walkTrees_quiet (quiet : ∀ path d e s, (fn path d e s).1 = none) (path : String) :
    ∀ (ts : List (FileTree ι ε)) (s : S),
      walkTrees fn path ts s = (none, (childVisits path ts).foldl (visitStep fn) s)
  | [], _ => rfl
  | t :: ts, s => by
      rw [walkTrees, walkTree_quiet quiet, childVisits, List.foldl_append]
      exact walkTrees_quiet quiet path ts _

end

/-- The calls `filepath.WalkDir` makes when nothing prunes it. -/
def rootVisits (root : String) : Except ε (FileTree ι ε) → List (Visit ι ε)
  | .error e => [⟨root, none, some e⟩]
  | .ok t => visits root t

/-- The whole walk, for a function that always returns nil. -/
theorem walkDir_quiet (quiet : ∀ path d e s, (fn path d e s).1 = none) (root : String)
    (lstat : Except ε (FileTree ι ε)) (s : S) :
    walkDir fn root lstat s = (none, (rootVisits root lstat).foldl (visitStep fn) s) := by
  cases lstat with
  | error e => simp only [walkDir, quiet_apply quiet, rootVisits, List.foldl_cons, List.foldl_nil]
  | ok t => simp only [walkDir, walkTree_quiet quiet, rootVisits]

end Walk

end Go

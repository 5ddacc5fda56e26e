import KubeNpu.Go.Errors

/-!
# The sentinel errors of the agent

The package-level errors that callers test with `errors.Is`, from every package
the agent is made of and from the two libraries whose sentinels it tests.
-/

namespace KubeNpu

/-- The errors that some caller compares against. -/
inductive Sentinel where
  /-- `podmap.ErrNotPod`: cgroup is not a kubernetes pod. -/
  | errNotPod
  /-- `podmap.ErrNotIndexed`: cgroup not found in index. -/
  | errNotIndexed
  /-- `podmap.ErrContainerNotFound`: container not found in CRI. -/
  | errContainerNotFound
  /-- `ringbuf.ErrClosed`. -/
  | errClosed
  /-- `fs.ErrNotExist`. -/
  | errNotExist
  deriving DecidableEq, Repr

/-- An error of the agent. -/
abbrev Err := Go.Error Sentinel

end KubeNpu

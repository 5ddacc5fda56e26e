import KubeNpu.Sentinels
import KubeNpu.Go.Maps
import KubeNpu.Go.Time

/-!
# `pkg/podmap/cri.go`: the names of a container

The container runtime is asked for the status of a container, and the namespace,
pod and container names are read from the labels of the answer.  The runtime
itself is outside the program: a call takes whatever `StatusReply` it gives.
-/

namespace KubeNpu

open Go

def podNamespaceLabel : String := "io.kubernetes.pod.namespace"

def podNameLabel : String := "io.kubernetes.pod.name"

def containerNameLabel : String := "io.kubernetes.container.name"

/-- `podmap.ContainerInfo`. -/
structure ContainerInfo where
  /-- The field `Namespace`. -/
  ns : String
  podName : String
  containerName : String
  deriving DecidableEq, Repr

/-- The status codes of an RPC (`codes.Code`). -/
inductive Code where
  | ok | canceled | unknown | invalidArgument | deadlineExceeded | notFound | alreadyExists
  | permissionDenied | resourceExhausted | failedPrecondition | aborted | outOfRange
  | unimplemented | internal | unavailable | dataLoss | unauthenticated
  deriving DecidableEq, Repr

/-- `runtime.ContainerStatusRequest`. -/
structure ContainerStatusRequest where
  containerId : String
  verbose : Bool
  deriving DecidableEq

/-- `runtime.ContainerStatus`, as far as it is read. -/
structure ContainerStatus where
  labels : Map String String
  deriving DecidableEq

/-- `runtime.ContainerStatusResponse`. -/
structure ContainerStatusResponse where
  status : Option ContainerStatus
  deriving DecidableEq

/-- What `RuntimeServiceClient.ContainerStatus` returns. -/
inductive StatusReply where
  /-- A non-nil error with its `status.Code` and text. -/
  | failed (code : Code) (text : String)
  | reply (resp : Option ContainerStatusResponse)
  deriving DecidableEq

/-- The runtime service during one call: the reply to a request made under a
context with the given timeout. -/
abbrev ContainerStatusFn := Duration → ContainerStatusRequest → StatusReply

/-- `podmap.CRIClient`, less its connection. -/
structure CRIClient where
  criTimeout : Duration
  deriving DecidableEq

/-- What dialling the runtime socket answers: the error of `grpc.NewClient`, and
the error of the `Version` call. -/
structure DialReply where
  newClient : Option String
  version : Option String

/-- `NewCRIClient`. -/
def newCRIClient (socket : String) (criTimeout : Duration) (dial : DialReply) :
    Except Err CRIClient :=
  if socket = "" then .error (.errorf "CRI socket is empty" [])
  else
    match dial.newClient with
    | some text =>
        .error (.wrapf "create CRI client for socket %q: %w" [.str socket] (.external text))
    | none =>
        match dial.version with
        | some text =>
            .error (.wrapf "connect to CRI socket %q: %w" [.str socket] (.external text))
        | none => .ok { criTimeout }

namespace CRIClient

/-- The request `ContainerNames` sends. -/
def statusRequest (containerID : String) : ContainerStatusRequest :=
  { containerId := containerID, verbose := false }

/-- The names in the labels of a status; a missing label reads as empty. -/
def infoOfLabels (labels : Map String String) : ContainerInfo where
  ns := (labels.lookup podNamespaceLabel).getD ""
  podName := (labels.lookup podNameLabel).getD ""
  containerName := (labels.lookup containerNameLabel).getD ""

/-- `CRIClient.ContainerNames`. -/
def containerNames (c : CRIClient) (containerID : String)
    (containerStatus : ContainerStatusFn) : Except Err ContainerInfo :=
  if containerID = "" then .error (.errorf "container ID is empty" [])
  else
    match containerStatus c.criTimeout (statusRequest containerID) with
    | .failed code text =>
        if code = .notFound then
          .error (.wrapf "%w: %s" [.str containerID] (.sentinel .errContainerNotFound))
        else
          .error (.wrapf "get status for container %q: %w" [.str containerID] (.external text))
    | .reply none | .reply (some ⟨none⟩) =>
        .error (.errorf "CRI returned empty status for container %q" [.str containerID])
    | .reply (some ⟨some status⟩) =>
        let info := infoOfLabels status.labels
        if info.ns = "" ∨ info.podName = "" ∨ info.containerName = "" then
          .error (.wrapf "%w: container %q has no Kubernetes labels" [.str containerID]
            (.sentinel .errNotPod))
        else .ok info

/-- The runtime knows nothing about the container that the agent could count
under: an error other than not-found, or a reply without a status. -/
def Unanswered : StatusReply → Prop
  | .failed code _ => code ≠ .notFound
  | .reply none => True
  | .reply (some resp) => resp.status = none

instance (r : StatusReply) : Decidable (Unanswered r) :=
  match r with
  | .failed code _ => inferInstanceAs (Decidable (code ≠ .notFound))
  | .reply none => .isTrue trivial
  | .reply (some resp) => inferInstanceAs (Decidable (resp.status = none))

/-- **An answer has no empty name.** -/
theorem containerNames_ok {c : CRIClient} {containerID : String}
    {containerStatus : ContainerStatusFn} {info : ContainerInfo}
    (h : c.containerNames containerID containerStatus = .ok info) :
    info.ns ≠ "" ∧ info.podName ≠ "" ∧ info.containerName ≠ "" := by
  simp only [containerNames] at h
  split at h
  · cases h
  · split at h
    · split at h <;> cases h
    · cases h
    · cases h
    · split at h
      · cases h
      · rename_i hnames
        cases h
        simpa only [not_or] using hnames

/-- The sentinel of a failed answer: `ErrContainerNotFound` for not-found,
`ErrNotPod` for missing labels, none when the runtime gave no answer. -/
theorem containerNames_error {c : CRIClient} {containerID : String}
    {containerStatus : ContainerStatusFn} {err : Err} (hid : containerID ≠ "")
    (h : c.containerNames containerID containerStatus = .error err) :
    (Unanswered (containerStatus c.criTimeout (statusRequest containerID)) ∧
        ∀ s, err.is s = false) ∨
      (¬ Unanswered (containerStatus c.criTimeout (statusRequest containerID)) ∧
        (err.is .errContainerNotFound = true ∨ err.is .errNotPod = true)) := by
  simp only [containerNames, if_neg hid] at h
  split at h
  · rename_i code text hreply
    rw [hreply]
    split at h
    · rename_i hcode
      cases h
      exact .inr ⟨fun hne => hne hcode, .inl rfl⟩
    · rename_i hcode
      cases h
      exact .inl ⟨hcode, fun s => rfl⟩
  · rename_i hreply
    rw [hreply]
    cases h
    exact .inl ⟨trivial, fun s => rfl⟩
  · rename_i hreply
    rw [hreply]
    cases h
    exact .inl ⟨rfl, fun s => rfl⟩
  · rename_i status hreply
    rw [hreply]
    split at h
    · cases h
      exact .inr ⟨Option.some_ne_none _, .inr rfl⟩
    · cases h

/-- No answer is a missing index entry. -/
theorem containerNames_not_errNotIndexed {c : CRIClient} {containerID : String}
    {containerStatus : ContainerStatusFn} {err : Err}
    (h : c.containerNames containerID containerStatus = .error err) :
    err.is .errNotIndexed = false := by
  by_cases hid : containerID = ""
  · simp only [containerNames, if_pos hid] at h
    cases h
    rfl
  · rcases containerNames_error hid h with ⟨-, hnone⟩ | ⟨-, hfound | hpod⟩
    · exact hnone _
    · exact Bool.eq_false_iff.mpr fun hidx => by cases Error.is_unique hfound hidx
    · exact Bool.eq_false_iff.mpr fun hidx => by cases Error.is_unique hpod hidx

/-- An answer is what the labels of a status say. -/
theorem containerNames_ok_reply {c : CRIClient} {containerID : String}
    {containerStatus : ContainerStatusFn} {info : ContainerInfo}
    (h : c.containerNames containerID containerStatus = .ok info) :
    ∃ status, containerStatus c.criTimeout (statusRequest containerID) =
        .reply (some ⟨some status⟩) ∧ info = infoOfLabels status.labels := by
  simp only [containerNames] at h
  split at h
  · cases h
  · split at h
    · split at h <;> cases h
    · cases h
    · cases h
    · rename_i status hreply
      split at h
      · cases h
      · cases h
        exact ⟨status, hreply, rfl⟩

/-- So a runtime that gave no answer produces no names. -/
theorem containerNames_ok_answered {c : CRIClient} {containerID : String}
    {containerStatus : ContainerStatusFn} {info : ContainerInfo}
    (h : c.containerNames containerID containerStatus = .ok info) :
    ¬ Unanswered (containerStatus c.criTimeout (statusRequest containerID)) := by
  obtain ⟨status, hreply, -⟩ := containerNames_ok_reply h
  rw [hreply]
  exact Option.some_ne_none _

end CRIClient

end KubeNpu

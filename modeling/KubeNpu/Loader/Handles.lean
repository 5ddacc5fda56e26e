import KubeNpu.Machine.Run
import KubeNpu.Loader

/-!
# `pkg/loader/loader.go`: what the loader opens and closes

A loader holds the loaded objects, at most one attachment of the program, and a
reader of the ring buffer.  Its methods ask the kernel to make these and to close
them, and any of the requests may fail.  Two `sync.Once` fields decide which of the
methods do something.

`kernelLog` is what a sequence of method calls asks of the kernel, in order.  A
resource is named after the call that made it, so no two have one name.
-/

namespace KubeNpu.Loader

open Go Machine

/-- What the kernel makes for the loader. -/
inductive Resource where
  /-- `l.bpfObjects`: the program and the maps. -/
  | objects
  /-- The attachment that the call of this number made. -/
  | hook (call : ℕ)
  /-- The reader that the call of this number made. -/
  | reader (call : ℕ)
  deriving DecidableEq, Repr

/-- A request to the kernel: one to make something that was made, or one to close
something, with its error. -/
inductive Request where
  | opened (r : Resource)
  | closed (r : Resource) (err : Option String)
  deriving DecidableEq, Repr

/-- `loader.Loader`, less the objects, which it always has. -/
structure Handles where
  hook : Option ℕ
  rb : Option ℕ
  /-- `l.closeOnce` is spent. -/
  closeOnce : Bool
  /-- `l.closeReaderOnce` is spent. -/
  closeReaderOnce : Bool
  deriving DecidableEq, Repr

/-- `&Loader{}`. -/
def Handles.new : Handles := ⟨none, none, false, false⟩

/-- What a method leaves behind: the loader, the errors it returns, joined to one if
they are many, and its requests. -/
structure Done where
  handles : Handles
  errs : List Err
  log : List Request

/-- The error of a failed request, wrapped. -/
def wrapped (format : String) (err : Option String) : List Err :=
  (err.map fun text => .wrapf format [] (.external text)).toList

/-- The second half of `Attach`, from `link.AttachTracing` on. -/
def attachTracing (l : Handles) (call : ℕ) (attachErr : Option String) : Done :=
  match attachErr with
  | some _ => ⟨l, wrapped "failed to attach kubenpu_ioctl: %w" attachErr, []⟩
  | none => ⟨{ l with hook := some call }, [], [.opened (.hook call)]⟩

/-- `Loader.Attach`; a hook from before is closed first. -/
def attach (l : Handles) (call : ℕ) (closeErr attachErr : Option String) : Done :=
  match l.hook with
  | none => attachTracing l call attachErr
  | some h =>
      match closeErr with
      | some _ =>
          ⟨l, wrapped "failed to close previous hook: %w" closeErr, [.closed (.hook h) closeErr]⟩
      | none =>
          let done := attachTracing { l with hook := none } call attachErr
          { done with log := .closed (.hook h) none :: done.log }

/-- `Loader.CreateReader`. -/
def createReader (l : Handles) (call : ℕ) (err : Option String) : Done :=
  match err with
  | some _ => ⟨l, wrapped "failed to create ring buffer reader: %w" err, []⟩
  | none => ⟨{ l with rb := some call }, [], [.opened (.reader call)]⟩

/-- `Loader.CloseReader`. -/
def closeReader (l : Handles) (closeErr : Option String) : Done :=
  if l.closeReaderOnce then ⟨l, [], []⟩
  else
    let l := { l with closeReaderOnce := true }
    match l.rb with
    | none => ⟨l, [], []⟩
    | some r =>
        ⟨l, wrapped "failed to close ring buffer reader: %w" closeErr,
          [.closed (.reader r) closeErr]⟩

/-- `l.hook.Close()` in `Close`, if there is a hook. -/
def closeHook (l : Handles) (hookErr : Option String) : List Err × List Request :=
  match l.hook with
  | none => ([], [])
  | some h => (wrapped "failed to close hook: %w" hookErr, [.closed (.hook h) hookErr])

/-- `Loader.Close`. -/
def close (l : Handles) (readerErr hookErr objectsErr : Option String) : Done :=
  if l.closeOnce then ⟨l, [], []⟩
  else
    let reader := closeReader { l with closeOnce := true } readerErr
    let hook := closeHook reader.handles hookErr
    ⟨reader.handles,
      reader.errs ++ (hook.1 ++ wrapped "failed to close bpf objects: %w" objectsErr),
      reader.log ++ (hook.2 ++ [.closed .objects objectsErr])⟩

/-! ## What each method does -/

theorem closeReader_spent {l : Handles} (h : l.closeReaderOnce = true)
    (closeErr : Option String) : closeReader l closeErr = ⟨l, [], []⟩ := if_pos h

theorem closeReader_none {l : Handles} (h : l.closeReaderOnce = false) (hrb : l.rb = none)
    (closeErr : Option String) :
    closeReader l closeErr = ⟨{ l with closeReaderOnce := true }, [], []⟩ := by
  simp [closeReader, h, hrb]

theorem closeReader_some {l : Handles} (h : l.closeReaderOnce = false) {r : ℕ}
    (hrb : l.rb = some r) (closeErr : Option String) :
    closeReader l closeErr =
      ⟨{ l with closeReaderOnce := true },
        wrapped "failed to close ring buffer reader: %w" closeErr,
        [.closed (.reader r) closeErr]⟩ := by
  simp [closeReader, h, hrb]

/-- In every case its `sync.Once` is spent, and nothing else changes. -/
@[simp] theorem closeReader_handles (l : Handles) (closeErr : Option String) :
    (closeReader l closeErr).handles = { l with closeReaderOnce := true } := by
  cases honce : l.closeReaderOnce with
  | true =>
      rw [closeReader_spent honce]
      simp [← honce]
  | false =>
      cases hrb : l.rb with
      | none => rw [closeReader_none honce hrb, ← hrb]
      | some r => rw [closeReader_some honce hrb, ← hrb]

theorem close_spent {l : Handles} (h : l.closeOnce = true)
    (readerErr hookErr objectsErr : Option String) :
    close l readerErr hookErr objectsErr = ⟨l, [], []⟩ := if_pos h

/-- The first `Close` leaves both of them spent. -/
theorem close_handles {l : Handles} (h : l.closeOnce = false)
    (readerErr hookErr objectsErr : Option String) :
    (close l readerErr hookErr objectsErr).handles =
      { l with closeOnce := true, closeReaderOnce := true } := by
  simp [close, h]

/-- And it asks to close the reader, the hook and the objects. -/
theorem close_log {l : Handles} (h : l.closeOnce = false)
    (readerErr hookErr objectsErr : Option String) :
    (close l readerErr hookErr objectsErr).log =
      (closeReader l readerErr).log ++ (closeHook l hookErr).2 ++
        [.closed .objects objectsErr] := by
  have hreader : (closeReader { l with closeOnce := true } readerErr).log =
      (closeReader l readerErr).log := by
    cases honce : l.closeReaderOnce with
    | true => simp [closeReader, honce]
    | false => cases hrb : l.rb <;> simp [closeReader, honce, hrb]
  simp [close, h, hreader, closeHook]

/-! ## Sequences of calls -/

/-- A loader, and the number of its next call. -/
structure LoaderState where
  handles : Handles
  calls : ℕ
  deriving DecidableEq, Repr

/-- The loader that `NewLoader` returns. -/
def LoaderState.start : LoaderState := ⟨.new, 0⟩

/-- A call of a method, with the errors of the requests it may make. -/
inductive LoaderAct where
  | attach (closeErr attachErr : Option String)
  | createReader (err : Option String)
  | closeReader (closeErr : Option String)
  | close (readerErr hookErr objectsErr : Option String)
  deriving DecidableEq, Repr

/-- What a call does. -/
def LoaderAct.perform (s : LoaderState) : LoaderAct → Done
  | attach closeErr attachErr => Loader.attach s.handles s.calls closeErr attachErr
  | createReader err => Loader.createReader s.handles s.calls err
  | closeReader closeErr => Loader.closeReader s.handles closeErr
  | close readerErr hookErr objectsErr => Loader.close s.handles readerErr hookErr objectsErr

/-- One call. -/
inductive LoaderStep : LoaderState → LoaderAct → LoaderState → Prop where
  | call (s : LoaderState) (act : LoaderAct) :
      LoaderStep s act ⟨(act.perform s).handles, s.calls + 1⟩

/-- A sequence of calls, in any order and with any errors. -/
abbrev LoaderRun (past : List (Transition LoaderState LoaderAct)) (s : LoaderState) : Prop :=
  Run LoaderStep .start past s

/-- The requests of a loader's life, `NewLoader` first. -/
def kernelLog (past : List (Transition LoaderState LoaderAct)) : List Request :=
  .opened .objects :: past.flatMap fun t => (t.label.perform t.pre).log

theorem kernelLog_concat (past : List (Transition LoaderState LoaderAct))
    (t : Transition LoaderState LoaderAct) :
    kernelLog (past ++ [t]) = kernelLog past ++ (t.label.perform t.pre).log := by
  simp [kernelLog]

/-! ## What holds in any order -/

/-- The request closes a reader. -/
def Request.closesReader : Request → Bool
  | closed (.reader _) _ => true
  | _ => false

/-- The request closes the objects. -/
def Request.closesObjects : Request → Bool
  | closed .objects _ => true
  | _ => false

/-- Something that was made and not closed since. -/
def IsOpen (log : List Request) (r : Resource) : Prop :=
  .opened r ∈ log ∧ .closed r none ∉ log

/-- What a call with these requests keeps: a hook is held or closed, and each
`sync.Once` is spent by the requests it stands for. -/
structure Keeps (l : Handles) (log : List Request) (l' : Handles) : Prop where
  held : ∀ h, l.hook = some h → l'.hook = some h ∨ .closed (.hook h) none ∈ log
  made : ∀ h, .opened (.hook h) ∈ log → l'.hook = some h ∨ .closed (.hook h) none ∈ log
  reader : log.countP Request.closesReader + l.closeReaderOnce.toNat ≤ l'.closeReaderOnce.toNat
  objects : log.countP Request.closesObjects + l.closeOnce.toNat ≤ l'.closeOnce.toNat

namespace Keeps

variable {l l' l'' : Handles} {log log' : List Request}

theorem refl (l : Handles) : Keeps l [] l :=
  ⟨fun _ h => Or.inl h, fun _ h => absurd h List.not_mem_nil, by simp, by simp⟩

/-- One after the other. -/
theorem trans (h : Keeps l log l') (h' : Keeps l' log' l'') : Keeps l (log ++ log') l'' where
  held i hi := by
    rcases h.held i hi with hheld | hclosed
    · exact (h'.held i hheld).imp_right (List.mem_append_right log)
    · exact Or.inr (List.mem_append_left log' hclosed)
  made i hi := by
    rcases List.mem_append.mp hi with hold | hnew
    · rcases h.made i hold with hheld | hclosed
      · exact (h'.held i hheld).imp_right (List.mem_append_right log)
      · exact Or.inr (List.mem_append_left log' hclosed)
    · exact (h'.made i hnew).imp_right (List.mem_append_right log)
  reader := by
    have hfirst := h.reader
    have hsecond := h'.reader
    rw [List.countP_append]
    omega
  objects := by
    have hfirst := h.objects
    have hsecond := h'.objects
    rw [List.countP_append]
    omega

end Keeps

theorem attachTracing_keeps {l : Handles} (hnone : l.hook = none) (call : ℕ)
    (attachErr : Option String) :
    Keeps l (attachTracing l call attachErr).log (attachTracing l call attachErr).handles := by
  unfold attachTracing
  cases attachErr with
  | none => exact ⟨by simp [hnone], by simp, by simp [Request.closesReader],
      by simp [Request.closesObjects]⟩
  | some text => exact .refl l

theorem attach_keeps (l : Handles) (call : ℕ) (closeErr attachErr : Option String) :
    Keeps l (attach l call closeErr attachErr).log (attach l call closeErr attachErr).handles := by
  unfold attach
  cases hhook : l.hook with
  | none => exact attachTracing_keeps hhook call attachErr
  | some h =>
      cases closeErr with
      | some text =>
          exact ⟨fun _ hi => Or.inl hi, by simp, by simp [Request.closesReader],
            by simp [Request.closesObjects]⟩
      | none =>
          have hclosed : Keeps l [.closed (.hook h) none] { l with hook := none } :=
            ⟨by simp [hhook], by simp, by simp [Request.closesReader],
              by simp [Request.closesObjects]⟩
          exact hclosed.trans (attachTracing_keeps rfl call attachErr)

theorem createReader_keeps (l : Handles) (call : ℕ) (err : Option String) :
    Keeps l (createReader l call err).log (createReader l call err).handles := by
  unfold createReader
  cases err with
  | none => exact ⟨fun _ hi => Or.inl hi, by simp, by simp [Request.closesReader],
      by simp [Request.closesObjects]⟩
  | some text => exact .refl l

theorem closeReader_keeps (l : Handles) (closeErr : Option String) :
    Keeps l (closeReader l closeErr).log (closeReader l closeErr).handles := by
  cases honce : l.closeReaderOnce with
  | true =>
      rw [closeReader_spent honce]
      exact .refl l
  | false =>
      cases hrb : l.rb with
      | none =>
          rw [closeReader_none honce hrb]
          exact ⟨fun _ hi => Or.inl hi, by simp, by simp [honce], by simp⟩
      | some r =>
          rw [closeReader_some honce hrb]
          exact ⟨fun _ hi => Or.inl hi, by simp, by simp [Request.closesReader, honce],
            by simp [Request.closesObjects]⟩

theorem closeHook_keeps (l : Handles) (hookErr : Option String) :
    Keeps l (closeHook l hookErr).2 l := by
  unfold closeHook
  cases l.hook with
  | none => exact .refl l
  | some h =>
      exact ⟨fun _ hi => Or.inl hi, by simp, by simp [Request.closesReader],
        by simp [Request.closesObjects]⟩

theorem close_keeps (l : Handles) (readerErr hookErr objectsErr : Option String) :
    Keeps l (close l readerErr hookErr objectsErr).log
      (close l readerErr hookErr objectsErr).handles := by
  cases honce : l.closeOnce with
  | true =>
      rw [close_spent honce]
      exact .refl l
  | false =>
      have hlast : Keeps { l with closeReaderOnce := true } [.closed .objects objectsErr]
          { l with closeOnce := true, closeReaderOnce := true } :=
        ⟨fun _ hi => Or.inl hi, by simp, by simp [Request.closesReader],
          by simp [Request.closesObjects, honce]⟩
      have hreader := closeReader_keeps l readerErr
      rw [closeReader_handles] at hreader
      rw [close_log honce, close_handles honce]
      exact (hreader.trans (closeHook_keeps { l with closeReaderOnce := true } hookErr)).trans hlast

theorem perform_keeps (s : LoaderState) (act : LoaderAct) :
    Keeps s.handles (act.perform s).log (act.perform s).handles := by
  cases act with
  | attach closeErr attachErr => exact attach_keeps s.handles s.calls closeErr attachErr
  | createReader err => exact createReader_keeps s.handles s.calls err
  | closeReader closeErr => exact closeReader_keeps s.handles closeErr
  | close readerErr hookErr objectsErr =>
      exact close_keeps s.handles readerErr hookErr objectsErr

/-- **A whole life keeps it too.** -/
theorem keeps_of_run {past : List (Transition LoaderState LoaderAct)} {s : LoaderState}
    (run : LoaderRun past s) : Keeps .new (kernelLog past) s.handles := by
  induction run with
  | start => exact ⟨fun _ h => Or.inl h, by simp [kernelLog], by decide, by decide⟩
  | @snoc past s act s' run hstep ih =>
      rw [kernelLog_concat]
      cases hstep with
      | call => exact ih.trans (perform_keeps s act)

/-! ## What holds in the order of use -/

/-- The loader's callers attach only before `Close`, and make one reader, before it is
closed. -/
def LoaderAct.InOrder (l : Handles) : LoaderAct → Prop
  | attach _ _ => l.closeOnce = false
  | createReader _ => l.rb = none ∧ l.closeReaderOnce = false
  | closeReader _ => True
  | close _ _ _ => True

/-- Something was asked to close. -/
def Asked (log : List Request) (r : Resource) : Prop := ∃ err, .closed r err ∈ log

theorem Asked.append {log : List Request} {r : Resource} (h : Asked log r)
    (more : List Request) : Asked (log ++ more) r :=
  h.imp fun _ herr => List.mem_append_left more herr

/-- The reader is held, and whatever is held behind a spent `sync.Once` was asked to
close. -/
structure Accounted (log : List Request) (l : Handles) : Prop where
  reader : ∀ r, .opened (.reader r) ∈ log → l.rb = some r
  readerAsked : l.closeReaderOnce = true → ∀ r, l.rb = some r → Asked log (.reader r)
  hookAsked : l.closeOnce = true → ∀ h, l.hook = some h → Asked log (.hook h)
  objectsAsked : l.closeOnce = true → Asked log .objects
  once : l.closeOnce = true → l.closeReaderOnce = true

namespace Accounted

variable {log : List Request} {l : Handles}

/-- What `Attach` does to the rest of the loader: nothing. -/
private theorem attach_rest (l : Handles) (call : ℕ) (closeErr attachErr : Option String) :
    (attach l call closeErr attachErr).handles.rb = l.rb ∧
      (attach l call closeErr attachErr).handles.closeOnce = l.closeOnce ∧
      (attach l call closeErr attachErr).handles.closeReaderOnce = l.closeReaderOnce ∧
      ∀ r, .opened (.reader r) ∉ (attach l call closeErr attachErr).log := by
  unfold attach attachTracing
  cases l.hook <;> cases closeErr <;> cases attachErr <;> simp

theorem attach (h : Accounted log l) (horder : l.closeOnce = false) (call : ℕ)
    (closeErr attachErr : Option String) :
    Accounted (log ++ (Loader.attach l call closeErr attachErr).log)
      (Loader.attach l call closeErr attachErr).handles := by
  obtain ⟨hrb, hclose, hcloseReader, hnone⟩ := attach_rest l call closeErr attachErr
  have hopen : (Loader.attach l call closeErr attachErr).handles.closeOnce ≠ true := by
    rw [hclose, horder]
    exact Bool.false_ne_true
  refine ⟨?_, ?_, fun hc => absurd hc hopen, fun hc => absurd hc hopen,
    fun hc => absurd hc hopen⟩
  · intro r hr
    rw [hrb]
    exact h.reader r ((List.mem_append.mp hr).resolve_right (hnone r))
  · intro hspent r hr
    rw [hcloseReader] at hspent
    rw [hrb] at hr
    exact (h.readerAsked hspent r hr).append _

theorem createReader (h : Accounted log l) (hnone : l.rb = none)
    (hunspent : l.closeReaderOnce = false) (call : ℕ) (err : Option String) :
    Accounted (log ++ (Loader.createReader l call err).log)
      (Loader.createReader l call err).handles := by
  unfold Loader.createReader
  cases err with
  | some text =>
      rw [List.append_nil]
      exact h
  | none =>
      have hopen : l.closeOnce ≠ true := by
        intro hclose
        rw [h.once hclose] at hunspent
        cases hunspent
      refine ⟨?_, fun hspent => absurd hspent (by simp [hunspent]), fun hc => absurd hc hopen,
        fun hc => absurd hc hopen, fun hc => absurd hc hopen⟩
      intro r hr
      rcases List.mem_append.mp hr with hold | hnew
      · -- there was no reader before
        rw [h.reader r hold] at hnone
        cases hnone
      · simp at hnew
        simp [hnew]

theorem closeReader (h : Accounted log l) (closeErr : Option String) :
    Accounted (log ++ (Loader.closeReader l closeErr).log)
      { l with closeReaderOnce := true } := by
  cases hspent : l.closeReaderOnce with
  | true =>
      rw [closeReader_spent hspent, List.append_nil, ← hspent]
      exact h
  | false =>
      have hopen : l.closeOnce ≠ true := by
        intro hclose
        rw [h.once hclose] at hspent
        cases hspent
      rcases Option.eq_none_or_eq_some l.rb with hrb | ⟨held, hrb⟩
      · rw [closeReader_none hspent hrb, List.append_nil]
        refine ⟨h.reader, ?_, fun hc => absurd hc hopen, fun hc => absurd hc hopen, fun _ => rfl⟩
        intro _ r hr
        have hr : l.rb = some r := hr
        rw [hrb] at hr
        cases hr
      · rw [closeReader_some hspent hrb]
        refine ⟨?_, ?_, fun hc => absurd hc hopen, fun hc => absurd hc hopen, fun _ => rfl⟩
        · intro r hr
          exact h.reader r (by simpa using hr)
        · intro _ r hr
          obtain rfl : held = r := Option.some_inj.mp (hrb.symm.trans hr)
          exact ⟨closeErr, by simp⟩

theorem close (h : Accounted log l) (readerErr hookErr objectsErr : Option String) :
    Accounted (log ++ (Loader.close l readerErr hookErr objectsErr).log)
      (Loader.close l readerErr hookErr objectsErr).handles := by
  cases hspent : l.closeOnce with
  | true =>
      rw [close_spent hspent, List.append_nil]
      exact h
  | false =>
      have hreader := h.closeReader readerErr
      rw [close_log hspent, close_handles hspent, ← List.append_assoc, ← List.append_assoc]
      refine ⟨?_, ?_, ?_, ?_, fun _ => rfl⟩
      · intro r hr
        refine hreader.reader r ?_
        unfold closeHook at hr
        cases hhook : l.hook <;> simpa [hhook] using hr
      · intro _ r hr
        exact ((hreader.readerAsked rfl r hr).append _).append _
      · intro _ held hheld
        have hheld : l.hook = some held := hheld
        exact ⟨hookErr, by simp [closeHook, hheld]⟩
      · intro _
        exact ⟨objectsErr, by simp⟩

end Accounted

/-- A sequence of calls in the order of use keeps the loader accounted for. -/
theorem accounted_of_run {past : List (Transition LoaderState LoaderAct)} {s : LoaderState}
    (run : LoaderRun past s) (horder : ∀ t ∈ past, t.label.InOrder t.pre.handles) :
    Accounted (kernelLog past) s.handles := by
  induction run with
  | start =>
      have hspent : LoaderState.start.handles.closeOnce ≠ true := by decide
      refine ⟨by simp [kernelLog], fun hc => absurd hc (by decide), fun hc => absurd hc hspent,
        fun hc => absurd hc hspent, fun hc => absurd hc hspent⟩
  | @snoc past s act s' run hstep ih =>
      have hbefore := ih fun t ht => horder t (List.mem_append_left _ ht)
      have hlast : act.InOrder s.handles :=
        horder ⟨s, act, s'⟩ (List.mem_append_right past List.mem_cons_self)
      rw [kernelLog_concat]
      cases hstep with
      | call =>
          cases act with
          | attach closeErr attachErr => exact hbefore.attach hlast s.calls closeErr attachErr
          | createReader err => exact hbefore.createReader hlast.1 hlast.2 s.calls err
          | closeReader closeErr =>
              have hnext := hbefore.closeReader closeErr
              rw [← closeReader_handles s.handles closeErr] at hnext
              exact hnext
          | close readerErr hookErr objectsErr =>
              exact hbefore.close readerErr hookErr objectsErr

/-- **What the loader opens, it closes.**  In every sequence of calls of its methods,
whatever the kernel answers: a hook that is open is the one the loader holds, so the
program is attached once at most; at most one reader, and that and the objects at most
once, is asked to close; and after `Close`, everything that was ever opened was asked
to close, if the callers kept the order of use. -/
theorem loader_releases {past : List (Transition LoaderState LoaderAct)} {s : LoaderState}
    (run : LoaderRun past s) :
    (∀ h, IsOpen (kernelLog past) (.hook h) → s.handles.hook = some h) ∧
    (kernelLog past).countP Request.closesReader ≤ 1 ∧
    (kernelLog past).countP Request.closesObjects ≤ 1 ∧
    ((∀ t ∈ past, t.label.InOrder t.pre.handles) → s.handles.closeOnce = true →
      ∀ r, .opened r ∈ kernelLog past → Asked (kernelLog past) r) := by
  have hkeeps := keeps_of_run run
  refine ⟨?_, ?_, ?_, ?_⟩
  · rintro h ⟨hopened, hopen⟩
    exact (hkeeps.made h hopened).resolve_right hopen
  · exact (Nat.le_add_right _ _).trans (hkeeps.reader.trans (Bool.toNat_le _))
  · exact (Nat.le_add_right _ _).trans (hkeeps.objects.trans (Bool.toNat_le _))
  · intro horder hclosed r hr
    have haccounted := accounted_of_run run horder
    cases r with
    | objects => exact haccounted.objectsAsked hclosed
    | hook h =>
        rcases hkeeps.made h hr with hheld | hasked
        · exact haccounted.hookAsked hclosed h hheld
        · exact ⟨none, hasked⟩
    | reader r =>
        exact haccounted.readerAsked (haccounted.once hclosed) r (haccounted.reader r hr)

/-- A second `Attach` takes the place of the first one; the reader is closed by itself,
and `Close` fails to close the hook. -/
theorem loader_releases_reattached : ∃ (past : List (Transition LoaderState LoaderAct))
    (s : LoaderState), LoaderRun past s ∧ .closed (.hook 1) none ∉ kernelLog past ∧
      ∀ r, .opened r ∈ kernelLog past → Asked (kernelLog past) r := by
  have run : LoaderRun _ ⟨⟨some 0, none, false, false⟩, 1⟩ :=
    Run.start.snoc (.call _ (.attach none none))
  have run : LoaderRun _ ⟨⟨some 1, none, false, false⟩, 2⟩ :=
    run.snoc (.call _ (.attach none none))
  have run : LoaderRun _ ⟨⟨some 1, some 2, false, false⟩, 3⟩ :=
    run.snoc (.call _ (.createReader none))
  have run : LoaderRun _ ⟨⟨some 1, some 2, false, true⟩, 4⟩ :=
    run.snoc (.call _ (.closeReader none))
  have run : LoaderRun _ ⟨⟨some 1, some 2, true, true⟩, 5⟩ :=
    run.snoc (.call _ (.close none (some "busy") none))
  refine ⟨_, _, run, by decide, (loader_releases run).2.2.2 ?_ rfl⟩
  simp [LoaderAct.InOrder, LoaderState.start, Handles.new]

end KubeNpu.Loader

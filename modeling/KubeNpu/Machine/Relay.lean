import KubeNpu.Machine.Run

/-!
# A relay that may discard

Items enter a relay at one end, wait inside, and leave at the other end in the
order they came; any item may be discarded while it waits.  A program that moves
items through buffers and slots, and drops one where there is no room, is such a
relay when all its buffers are read as one line.

`Sound` says what a relay keeps: what left and what still waits is an
order-preserving part of what entered, and every item that entered is in exactly
one of the three places where it can be.  `Simulates` is how a program borrows
that: each of its steps is a move of the relay or leaves the relay alone.
-/

namespace Machine

/-- What a relay has done so far. -/
structure Relay (α : Type) where
  /-- Everything that entered, in order. -/
  entered : List α
  /-- What left, in order. -/
  left : List α
  /-- What waits, the next to leave first. -/
  waiting : List α
  discarded : List α

namespace Relay

variable {α : Type}

/-- A relay that nothing has entered. -/
def empty : Relay α := ⟨[], [], [], []⟩

/-- One move. -/
inductive Move : Relay α → Relay α → Prop where
  | enter {entered left waiting discarded : List α} (a : α) :
      Move ⟨entered, left, waiting, discarded⟩
        ⟨entered ++ [a], left, waiting ++ [a], discarded⟩
  | leave {entered left waiting discarded : List α} (a : α) :
      Move ⟨entered, left, a :: waiting, discarded⟩
        ⟨entered, left ++ [a], waiting, discarded⟩
  | discard {entered left before behind discarded : List α} (a : α) :
      Move ⟨entered, left, before ++ a :: behind, discarded⟩
        ⟨entered, left, before ++ behind, discarded ++ [a]⟩

/-- Order is kept, and every item is in one place. -/
structure Sound (r : Relay α) : Prop where
  ordered : (r.left ++ r.waiting).Sublist r.entered
  partition : r.entered.Perm (r.left ++ r.waiting ++ r.discarded)

theorem sound_empty : (empty : Relay α).Sound := ⟨.slnil, .nil⟩

/-- **A move keeps a relay sound.** -/
theorem Move.sound {r r' : Relay α} (move : Move r r') (h : r.Sound) : r'.Sound := by
  cases move with
  | @enter entered left waiting discarded a =>
      refine ⟨?_, ?_⟩
      · show (left ++ (waiting ++ [a])).Sublist (entered ++ [a])
        rw [← List.append_assoc]
        exact h.ordered.append (List.Sublist.refl [a])
      · show (entered ++ [a]).Perm (left ++ (waiting ++ [a]) ++ discarded)
        -- the new item is the last to wait, in front of what was discarded
        have hlast : (entered ++ [a]).Perm (left ++ waiting ++ discarded ++ [a]) :=
          h.partition.append_right [a]
        refine hlast.trans ?_
        rw [← List.append_assoc left, List.append_assoc, List.append_assoc (left ++ waiting) [a]]
        exact List.perm_append_comm.append_left (left ++ waiting)
  | @leave entered left waiting discarded a =>
      have hmoved : left ++ [a] ++ waiting = left ++ a :: waiting := by
        rw [List.append_assoc, List.singleton_append]
      refine ⟨?_, ?_⟩
      · show (left ++ [a] ++ waiting).Sublist entered
        rw [hmoved]
        exact h.ordered
      · show entered.Perm (left ++ [a] ++ waiting ++ discarded)
        rw [hmoved]
        exact h.partition
  | @discard entered left before behind discarded a =>
      refine ⟨?_, ?_⟩
      · have hfewer : (before ++ behind).Sublist (before ++ a :: behind) :=
          (List.sublist_cons_self a behind).append_left before
        exact (hfewer.append_left left).trans h.ordered
      · show entered.Perm (left ++ (before ++ behind) ++ (discarded ++ [a]))
        have hpart : entered.Perm (left ++ (before ++ a :: behind) ++ discarded) := h.partition
        refine hpart.trans ?_
        rw [← List.append_assoc left before behind, ← List.append_assoc left before,
          List.append_assoc, List.append_assoc (left ++ before) behind]
        refine List.Perm.append_left (left ++ before) ?_
        rw [List.cons_append, ← List.append_assoc]
        exact (List.perm_append_singleton a (behind ++ discarded)).symm

/-- **Nothing is lost or doubled**, as numbers. -/
theorem Sound.length_eq {r : Relay α} (h : r.Sound) :
    r.entered.length = r.left.length + r.waiting.length + r.discarded.length := by
  rw [h.partition.length_eq, List.length_append, List.length_append]

/-- It holds of each kind of item by itself. -/
theorem Sound.countP_eq {r : Relay α} (h : r.Sound) (p : α → Bool) :
    r.entered.countP p = r.left.countP p + r.waiting.countP p + r.discarded.countP p := by
  rw [h.partition.countP_eq, List.countP_append, List.countP_append]

/-! ## Programs that are relays -/

section

variable {S L : Type} {step : S → L → S → Prop} {s₀ : S}

/-- The steps of a program, read through `view`, are moves of a relay or leave
it alone, as long as the invariant `I` holds. -/
def Simulates (step : S → L → S → Prop) (I : S → Prop)
    (view : List (Transition S L) → S → Relay α) : Prop :=
  ∀ past s l s', I s → step s l s' →
    view (past ++ [⟨s, l, s'⟩]) s' = view past s ∨
      Move (view past s) (view (past ++ [⟨s, l, s'⟩]) s')

/-- **Every run of such a program is sound.** -/
theorem Simulates.sound {I : S → Prop} {view : List (Transition S L) → S → Relay α}
    (sim : Simulates step I view) (init : I s₀)
    (preserved : ∀ {s l s'}, I s → step s l s' → I s') (start : (view [] s₀).Sound)
    {past : List (Transition S L)} {s : S} (run : Run step s₀ past s) : (view past s).Sound := by
  induction run with
  | start => exact start
  | snoc run hstep ih =>
      rcases sim _ _ _ _ (run.invariant init preserved) hstep with hsame | hmove
      · rw [hsame]
        exact ih
      · exact hmove.sound ih

end

end Relay

end Machine

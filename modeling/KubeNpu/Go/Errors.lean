import Mathlib

/-!
# Errors that wrap errors

Go errors are values that may carry another error inside them (`fmt.Errorf` with
a `%w` verb), and `errors.Is` decides by walking that chain.  A program that
classifies its failures by sentinel relies on one fact only: wrapping adds text
and keeps the sentinel.

`Error σ` is that structure over an arbitrary type `σ` of sentinels, and
`Error.is` is the walk.  Texts are kept as the format and its arguments, not
rendered: no program logic reads the rendered text back.
-/

namespace Go

/-- An argument of a formatted error text. -/
inductive Arg where
  | str (s : String)
  | num (n : Int)
  deriving DecidableEq, Repr

/-- An error value over the sentinels `σ` of a program. -/
inductive Error (σ : Type) where
  /-- A package-level `errors.New` that callers compare against. -/
  | sentinel (s : σ)
  /-- An error made outside the program, such as a system call's. -/
  | external (text : String)
  /-- `errors.New`, or `fmt.Errorf` without a `%w` verb. -/
  | errorf (format : String) (args : List Arg)
  /-- `fmt.Errorf` with a `%w` verb; `args` leaves the wrapped error out. -/
  | wrapf (format : String) (args : List Arg) (inner : Error σ)
  deriving DecidableEq

namespace Error

variable {σ : Type} [DecidableEq σ]

/-- `errors.Is` on a non-nil error: some error of the chain is the target. -/
def is : Error σ → σ → Bool
  | sentinel s, target => s = target
  | external _, _ => false
  | errorf _ _, _ => false
  | wrapf _ _ inner, target => inner.is target

@[simp] theorem is_sentinel (s target : σ) :
    (sentinel s).is target = decide (s = target) := rfl

@[simp] theorem is_external (text : String) (target : σ) :
    (external text : Error σ).is target = false := rfl

@[simp] theorem is_errorf (format : String) (args : List Arg) (target : σ) :
    (errorf format args : Error σ).is target = false := rfl

/-- **Wrapping keeps the sentinel**, and adds none. -/
@[simp] theorem is_wrapf (format : String) (args : List Arg) (inner : Error σ)
    (target : σ) : (wrapf format args inner).is target = inner.is target := rfl

/-- An error chain ends in one leaf, so it is at most one sentinel. -/
theorem is_unique {e : Error σ} {s t : σ} (hs : e.is s = true)
    (ht : e.is t = true) : s = t := by
  induction e with
  | sentinel u =>
      rw [is_sentinel, decide_eq_true_eq] at hs ht
      exact hs.symm.trans ht
  | external text => simp at hs
  | errorf format args => simp at hs
  | wrapf format args inner ih => exact ih hs ht

end Error

/-- The error of a result; `none` is Go's `nil`. -/
def errorOf {ε α : Type} : Except ε α → Option ε
  | .ok _ => none
  | .error e => some e

@[simp] theorem errorOf_ok {ε α : Type} (a : α) :
    errorOf (.ok a : Except ε α) = none := rfl

@[simp] theorem errorOf_error {ε α : Type} (e : ε) :
    errorOf (.error e : Except ε α) = some e := rfl

/-- `errors.Is(err, target)`; a nil error is no sentinel. -/
def errorsIs {σ : Type} [DecidableEq σ] (err : Option (Error σ)) (target : σ) : Bool :=
  err.any fun e => e.is target

@[simp] theorem errorsIs_none {σ : Type} [DecidableEq σ] (target : σ) :
    errorsIs none target = false := rfl

@[simp] theorem errorsIs_some {σ : Type} [DecidableEq σ] (e : Error σ) (target : σ) :
    errorsIs (some e) target = e.is target := rfl

end Go

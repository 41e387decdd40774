/-
**Checked arithmetic and indexing.**

A run keeps apart an operation that stops the program and an early return, so that a function
written down operation by operation can be compared with one on natural numbers.
-/

import Mathlib.Algebra.Group.Nat.Defs
import Mathlib.Data.List.Basic

namespace Checked

/-! ### Runs -/

/-- What stops a program.  The last case is that of a loop which is not over after the turns it was
given. -/
inductive Fault
  | overflow
  | outOfBounds
  | divisionByZero
  | outOfTurns
  deriving DecidableEq, Repr

inductive Run (α : Type)
  | value (a : α)
  | early
  | stopped (fault : Fault)
  deriving DecidableEq, Repr

instance : Monad Run where
  pure := .value
  bind x f :=
    match x with
    | .value a => f a
    | .early => .early
    | .stopped fault => .stopped fault

section Runs

variable {α β : Type}

@[simp] theorem value_bind (a : α) (f : α → Run β) : Run.value a >>= f = f a := rfl

def ofOption : Option α → Run α
  | some a => .value a
  | none => .early

/-- **A run is compared with a function step by step.** -/
theorem ofOption_bind {o : Option α} {f : α → Run β} {g : α → Option β}
    (h : ∀ a, o = some a → f a = ofOption (g a)) : ofOption o >>= f = ofOption (o.bind g) := by
  cases o with
  | none => rfl
  | some a => exact h a rfl

end Runs

/-! ### Machine numbers -/

inductive UsizeWidth
  | w32
  | w64
  deriving DecidableEq

def UsizeWidth.bits : UsizeWidth → ℕ
  | .w32 => 32
  | .w64 => 64

def UsizeWidth.limit (w : UsizeWidth) : ℕ := 2 ^ w.bits

/-! ### Operations -/

/-- A sum of machine numbers below `limit`. -/
def add (limit a b : ℕ) : Run ℕ := if a + b < limit then .value (a + b) else .stopped .overflow

def rem (a n : ℕ) : Run ℕ := if n = 0 then .stopped .divisionByZero else .value (a % n)

section Slices

variable {α : Type}

def index (xs : List α) (i : ℕ) : Run α :=
  match xs[i]? with
  | some x => .value x
  | none => .stopped .outOfBounds

def range (xs : List α) (start stop : ℕ) : Run (List α) :=
  if start ≤ stop ∧ stop ≤ xs.length then .value ((xs.drop start).take (stop - start))
  else .stopped .outOfBounds

theorem add_value {limit a b : ℕ} (h : a + b < limit) : add limit a b = .value (a + b) := if_pos h

theorem rem_value (a : ℕ) {n : ℕ} (h : 0 < n) : rem a n = .value (a % n) := if_neg (by omega)

theorem index_value {xs : List α} {i : ℕ} (h : i < xs.length) :
    index xs i = .value (xs.get ⟨i, h⟩) := by
  rw [index, List.getElem?_eq_getElem h]
  rfl

theorem range_value {xs : List α} {start stop : ℕ} (h : start ≤ stop) (h' : stop ≤ xs.length) :
    range xs start stop = .value ((xs.drop start).take (stop - start)) := if_pos ⟨h, h'⟩

end Slices

end Checked

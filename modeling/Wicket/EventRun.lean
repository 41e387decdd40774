/-
**Runs of a machine with events.**

An event may be impossible in a state, and then so is the run.  What an event keeps, a run keeps.
-/

import Mathlib.Data.List.Basic

namespace EventRun

variable {σ ε : Type} {step : σ → ε → Option σ} {start s s' : σ} {e : ε} {es : List ε}

/-- The state after some events, if they can happen. -/
def run (step : σ → ε → Option σ) (s : σ) (es : List ε) : Option σ := es.foldlM step s

@[simp] theorem run_cons (step : σ → ε → Option σ) (s : σ) (e : ε) (es : List ε) :
    run step s (e :: es) = (step s e).bind fun s' => run step s' es := by
  rfl

/-- **What every event keeps, a run keeps.** -/
theorem run_invariant {P : σ → Prop} (hstep : ∀ s e s', P s → step s e = some s' → P s')
    (hs : P s) (hrun : run step s es = some s') : P s' := by
  induction es generalizing s with
  | nil =>
    cases hrun
    exact hs
  | cons e es ih =>
    obtain ⟨next, hnext, hrest⟩ := Option.bind_eq_some_iff.1 hrun
    exact ih (hstep s e next hs hnext) hrest

/-- In the run over the events, the event leads from one state to another. -/
def Happens (step : σ → ε → Option σ) (start : σ) (es : List ε) (s : σ) (e : ε) (s' : σ) : Prop :=
  ∃ pre post, es = pre ++ e :: post ∧ run step start pre = some s ∧ step s e = some s'

theorem Happens.invariant {P : σ → Prop} (hstep : ∀ s e s', P s → step s e = some s' → P s')
    (hstart : P start) (h : Happens step start es s e s') : P s := by
  obtain ⟨pre, post, -, hrun, -⟩ := h
  exact run_invariant hstep hstart hrun

theorem Happens.step_eq (h : Happens step start es s e s') : step s e = some s' := by
  obtain ⟨pre, post, -, -, hstep⟩ := h
  exact hstep

end EventRun

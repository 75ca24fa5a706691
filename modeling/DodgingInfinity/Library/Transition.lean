import Mathlib.Logic.Relation

/-!
# Runs of a transition system

A run is a chain of steps.  What the initial state has and every step keeps
holds in every state reached, and a preorder that every step respects relates
the ends of every run.
-/

namespace DodgingInfinity

universe u

namespace Transition

open Relation

variable {σ : Type u} {move : σ → σ → Prop} {origin : σ}

/-- The states some run from the initial state ends in. -/
def Reachable (move : σ → σ → Prop) (origin : σ) (state : σ) : Prop :=
  ReflTransGen move origin state

theorem Reachable.start : Reachable move origin origin :=
  ReflTransGen.refl

theorem Reachable.tail {state next : σ} (h : Reachable move origin state)
    (hstep : move state next) : Reachable move origin next :=
  ReflTransGen.tail h hstep

/-- A run from a reachable state ends in a reachable one. -/
theorem Reachable.run {state later : σ} (h : Reachable move origin state)
    (hrun : ReflTransGen move state later) : Reachable move origin later :=
  ReflTransGen.trans h hrun

/-- The induction over runs, for an invariant every step keeps. -/
theorem Reachable.invariant {p : σ → Prop} (hinit : p origin)
    (hstep : ∀ state next, p state → move state next → p next)
    {state : σ} (h : Reachable move origin state) : p state := by
  induction h with
  | refl => exact hinit
  | tail _ hlast ih => exact hstep _ _ ih hlast

/-- A preorder that every step from a reachable state respects relates the two
ends of a run from one. -/
theorem Reachable.related {r : σ → σ → Prop} (hrefl : ∀ state, r state state)
    (htrans : ∀ first second third, r first second → r second third → r first third)
    (hstep : ∀ state next, Reachable move origin state → move state next → r state next)
    {state later : σ} (h : Reachable move origin state)
    (hrun : ReflTransGen move state later) : r state later := by
  induction hrun with
  | refl => exact hrefl state
  | tail hleading hlast ih =>
      exact htrans _ _ _ ih (hstep _ _ (h.run hleading) hlast)

end Transition

end DodgingInfinity

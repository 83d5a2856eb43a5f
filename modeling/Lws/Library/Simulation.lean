import Mathlib.Logic.Relation

/-!
# Invariants and stuttering simulation over runs

A system given by a step relation `step : σ → σ → Prop` runs along its
reflexive transitive closure. Two rules lift what one step does to every run.

An invariant that every step keeps holds of every state a run reaches from a
state where it holds.

An abstraction `abstract : σ → τ` under which every step from a state of the
invariant is a step of an abstract relation or leaves the abstraction as it
was (a stuttering step) maps every run to a run of the abstract relation.
What the abstract relation keeps then holds of the abstraction of every state
the run reaches.
-/

namespace Simulation

variable {σ τ : Type} {step : σ → σ → Prop} {invariant : σ → Prop}

/-- **Invariant rule.** What every step keeps holds along every run. -/
theorem invariant_of_run (preserves : ∀ state next, invariant state → step state next → invariant next)
    {start finish : σ} (run : Relation.ReflTransGen step start finish) (initial : invariant start) :
    invariant finish := by
  induction run with
  | refl => exact initial
  | tail _ last reached => exact preserves _ _ reached last

/-- **Stuttering simulation.** When every step from a state of the invariant
maps to an abstract step or to none, every run from a state of the invariant
maps to an abstract run.
Proof: induction on the run; the invariant at the last step's source comes
from the invariant rule. -/
theorem abstract_run (abstract : σ → τ) {abstractStep : τ → τ → Prop}
    (preserves : ∀ state next, invariant state → step state next → invariant next)
    (simulates : ∀ state next, invariant state → step state next →
      abstract next = abstract state ∨ abstractStep (abstract state) (abstract next))
    {start finish : σ} (run : Relation.ReflTransGen step start finish) (initial : invariant start) :
    Relation.ReflTransGen abstractStep (abstract start) (abstract finish) := by
  induction run with
  | refl => exact .refl
  | @tail middle next earlier last abstracted =>
    have reached : invariant middle := invariant_of_run preserves earlier initial
    rcases simulates middle next reached last with stutter | moved
    · rw [stutter]
      exact abstracted
    · exact abstracted.tail moved

end Simulation

import Mathlib.Logic.Function.Basic

/-!
# Refinement of labelled transition systems

A system is a relation between states with a label on each step; the label is
what an observer sees.  An implementation refines a specification when the
abstraction of each of its steps is a step of the specification with the same
label.  Whole runs then have the same labels on both levels.
-/

namespace Refinement

variable {State Spec Label : Type}

/-- Steps one after the other, with their labels. -/
inductive Run (step : State → Label → State → Prop) :
    State → List Label → State → Prop where
  | nil {state : State} : Run step state [] state
  | cons {before middle after : State} {label : Label} {rest : List Label} :
      step before label middle → Run step middle rest after →
      Run step before (label :: rest) after

/-- The steps from the states with the invariant, seen through the
abstraction, are steps of the specification. -/
structure Simulation (step : State → Label → State → Prop)
    (allowed : Spec → Label → Spec → Prop) (invariant : State → Prop)
    (abstract : State → Spec) : Prop where
  keeps : ∀ {before after : State} {label : Label}, invariant before →
    step before label after → invariant after
  allows : ∀ {before after : State} {label : Label}, invariant before →
    step before label after → allowed (abstract before) label (abstract after)

/-- A simulation of the steps is one of the runs. -/
theorem Simulation.run {step : State → Label → State → Prop}
    {allowed : Spec → Label → Spec → Prop} {invariant : State → Prop}
    {abstract : State → Spec}
    (simulation : Simulation step allowed invariant abstract)
    {before after : State} {labels : List Label} (holds : invariant before)
    (run : Run step before labels after) :
    invariant after ∧
      Run allowed (abstract before) labels (abstract after) := by
  induction run with
  | nil => exact ⟨holds, .nil⟩
  | cons taken _ induction =>
      obtain ⟨kept, rest⟩ := induction (simulation.keeps holds taken)
      exact ⟨kept, .cons (simulation.allows holds taken) rest⟩

end Refinement

import EvpnForOvn.Lib.Method

/-!
# Methods that stop at an error

A proof about a method follows its straight path and has to say, at every
early return, what holds there.  `Leads` splits an outcome into the two; a
steady assertion is one that the environment's own moves keep, so that a
method may return or wait under it.
-/

namespace Interactive

variable {signature : Signature} {World : Type}

/-- An assertion that the environment's own moves keep. -/
structure Steady (environment : Environment signature World)
    (stable assertion : World → Prop) : Prop where
  drift : ∀ before after, assertion before →
    environment.drifts before after → assertion after
  holds : ∀ world, assertion world → stable world

namespace Steady

variable {environment : Environment signature World}
  {stable assertion : World → Prop} {world : World}

theorem drifted (steady : Steady environment stable assertion)
    (here : assertion world) {later : World}
    (moved : environment.Drift world later) : assertion later := by
  induction moved with
  | refl => exact here
  | tail _ step induction => exact steady.drift _ _ induction step

end Steady

namespace Method

variable {ε Memory α β : Type}

/-- Either the call goes on, or it has failed. -/
def Leads (next : α → Memory → World → Prop)
    (fails : ε → Memory → World → Prop) :
    Except ε α → Memory → World → Prop
  | .ok value, memory, world => next value memory world
  | .error reason, memory, world => fails reason memory world

variable {environment : Environment signature World} {stable : World → Prop}
  {next : α → Memory → World → Prop} {fails : ε → Memory → World → Prop}
  {memory : Memory} {world : World}

theorem Safe.leads_bind {last : β → Memory → World → Prop}
    {method : Method signature ε Memory α}
    {continuation : α → Method signature ε Memory β}
    (safe : Safe environment stable (Leads next fails) method memory world)
    (continues : ∀ value memory after, stable after →
      next value memory after →
      Safe environment stable (Leads last fails) (continuation value) memory
        after) :
    Safe environment stable (Leads last fails) (method >>= continuation)
      memory world := by
  apply Safe.bind safe continues
  intro reason reached after _ failed
  exact failed

/-- An error in other words fails in the same way. -/
theorem Safe.leads_mapError {lost : Memory → World → Prop} {change : ε → ε}
    {method : Method signature ε Memory α}
    (safe : Safe environment stable (Leads next fun _ => lost) method memory
      world) :
    Safe environment stable (Leads next fun _ => lost)
      (Method.mapError change method) memory world := by
  apply Safe.mapError
  apply safe.weaken
  intro outcome reached after _ posted
  cases outcome with
  | ok value => exact posted
  | error reason => exact posted

theorem Safe.leads_throw {assertion : World → Prop} {reason : ε}
    (steady : Steady environment stable assertion) (here : assertion world)
    (posted : ∀ after, assertion after → fails reason memory after) :
    Safe environment stable (Leads next fails) (throw reason) memory
      world := by
  intro later moved
  have there := steady.drifted here moved
  exact ⟨steady.holds later there, posted later there⟩

theorem Safe.leads_pure {assertion : World → Prop} {value : α}
    (steady : Steady environment stable assertion) (here : assertion world)
    (posted : ∀ after, assertion after → next value memory after) :
    Safe environment stable (Leads next fails) (pure value) memory world := by
  intro later moved
  have there := steady.drifted here moved
  exact ⟨steady.holds later there, posted later there⟩

/-- A request whose reply is the outcome of the call. -/
theorem Safe.leads_call {program : Program signature (Except ε α)}
    (safe : Interactive.Safe environment stable
      (fun outcome after => Leads next fails outcome memory after) program
      world) :
    Safe environment stable (Leads next fails) (Method.call program) memory
      world :=
  Safe.call safe

end Method

end Interactive

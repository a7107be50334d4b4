import EvpnForOvn.Lib.Method

/-!
# Methods that only look

Between its writes a method asks questions: it reads the clock, calls a
backend, checks what it was told and may give up.  `Queries` specifies such a
stretch: the memory does not change, and the world moves only along a relation
that every question keeps.  Its rules follow the method line by line, and the
result is used as one step of the crash specification around it.
-/

namespace Interactive

variable {signature : Signature} {World : Type}

/-- A relation along which the world moves while nothing of interest
changes. -/
structure Undisturbed (environment : Environment signature World)
    (since : World → World → Prop) : Prop where
  refl : ∀ world, since world world
  trans : ∀ {first second third},
    since first second → since second third → since first third
  drift : ∀ {before after}, environment.drifts before after →
    since before after

namespace Undisturbed

variable {environment : Environment signature World}
  {since : World → World → Prop}

theorem drifted (undisturbed : Undisturbed environment since)
    {before after : World} (moved : environment.Drift before after) :
    since before after := by
  induction moved with
  | refl => exact undisturbed.refl _
  | tail _ step induction =>
      exact undisturbed.trans induction (undisturbed.drift step)

end Undisturbed

namespace Method

variable {ε Memory α β : Type} {environment : Environment signature World}
  {since : World → World → Prop} {pre : World → Prop}

/-- From a world with `pre`, the method keeps the memory and moves along
`since`; a value it returns satisfies `post`. -/
def Queries (environment : Environment signature World)
    (since : World → World → Prop) (pre : World → Prop)
    (method : Method signature ε Memory α) (post : α → World → Prop) : Prop :=
  ∀ memory world, pre world →
    Safe environment (since world)
      (fun outcome reached after => reached = memory ∧
        ∀ value, outcome = .ok value → post value after)
      method memory world

namespace Queries

theorem weaken {strong : World → Prop} {post other : α → World → Prop}
    {method : Method signature ε Memory α}
    (queries : Queries environment since pre method post)
    (before : ∀ world, strong world → pre world)
    (after : ∀ value world, post value world → other value world) :
    Queries environment since strong method other := by
  intro memory world holds
  apply (queries memory world (before world holds)).weaken
  intro outcome reached later _ posted
  exact ⟨posted.1, fun value returned =>
    after value later (posted.2 value returned)⟩

theorem check (undisturbed : Undisturbed environment since)
    {outcome : Except ε α} {post : α → World → Prop}
    (keeps : ∀ before after, pre before → since before after → pre after)
    (posted : ∀ value world, outcome = .ok value → pre world →
      post value world) :
    Queries environment since pre
      (Method.check outcome : Method signature ε Memory α) post := by
  intro memory world holds later moved
  have passed := undisturbed.drifted moved
  exact ⟨passed, rfl, fun value returned =>
    posted value later returned (keeps world later holds passed)⟩

theorem pure (undisturbed : Undisturbed environment since) {value : α}
    (keeps : ∀ before after, pre before → since before after → pre after) :
    Queries environment since pre
      (Pure.pure value : Method signature ε Memory α)
      (fun returned world => returned = value ∧ pre world) := by
  have checked : Queries environment since pre
      (Method.check (.ok value) : Method signature ε Memory α)
      (fun returned world => returned = value ∧ pre world) := by
    apply check undisturbed keeps
    intro returned world same holds
    cases same
    exact ⟨rfl, holds⟩
  exact checked

theorem throw (undisturbed : Undisturbed environment since) {reason : ε}
    {post : α → World → Prop} :
    Queries environment since pre
      (MonadExcept.throw reason : Method signature ε Memory α) post := by
  intro memory world _ later moved
  refine ⟨undisturbed.drifted moved, rfl, ?_⟩
  intro value returned
  cases returned

theorem refuse (undisturbed : Undisturbed environment since)
    {condition : Bool} {reason : ε}
    (keeps : ∀ before after, pre before → since before after → pre after) :
    Queries environment since pre
      (Method.refuse condition reason : Method signature ε Memory Unit)
      (fun _ world => condition = false ∧ pre world) := by
  cases condition with
  | true => exact throw undisturbed
  | false =>
      apply (pure undisturbed keeps).weaken (fun _ holds => holds)
      intro value world posted
      exact ⟨rfl, posted.2⟩

theorem ask (undisturbed : Undisturbed environment since)
    {message : signature.Request}
    {post : signature.Reply message → World → Prop}
    (answered : ∀ before reply after, pre before →
      environment.answers before message reply after →
      since before after ∧ post reply after)
    (keeps : ∀ before after, pre before → since before after → pre after)
    (kept : ∀ reply before after, post reply before → since before after →
      post reply after) :
    Queries environment since pre
      (Method.ask message : Method signature ε Memory _) post := by
  intro memory world holds
  apply Safe.ask (fun here => since world here ∧ pre here)
    ⟨undisturbed.refl world, holds⟩
  · intro before after held moved
    have passed := undisturbed.drift moved
    exact ⟨undisturbed.trans held.1 passed, keeps _ _ held.2 passed⟩
  · intro here held
    exact held.1
  · intro here reply after held step
    have both := answered here reply after held.2 step
    exact (⟨undisturbed.trans held.1 both.1, both.2⟩ :
      since world after ∧ post reply after)
  · intro reply before after held moved
    have passed := undisturbed.drift moved
    exact ⟨undisturbed.trans held.1 passed, kept _ _ _ held.2 passed⟩
  · intro reply after held
    refine ⟨held.1, rfl, ?_⟩
    intro value returned
    cases returned
    exact held.2

theorem bind (undisturbed : Undisturbed environment since)
    {middle : α → World → Prop} {post : β → World → Prop}
    {method : Method signature ε Memory α}
    {continuation : α → Method signature ε Memory β}
    (first : Queries environment since pre method middle)
    (second : ∀ value, Queries environment since (middle value)
      (continuation value) post) :
    Queries environment since pre (method >>= continuation) post := by
  intro memory world holds
  apply Safe.bind (first memory world holds)
  · intro value reached after passed posted
    obtain ⟨rfl, returned⟩ := posted
    have continues := second value reached after (returned value rfl)
    exact continues.relax
      (fun later further => undisturbed.trans passed further)
  · intro reason reached after _ posted
    refine ⟨posted.1, ?_⟩
    intro value returned
    cases returned

theorem mapError {change : ε → ε} {post : α → World → Prop}
    {method : Method signature ε Memory α}
    (queries : Queries environment since pre method post) :
    Queries environment since pre (Method.mapError change method) post := by
  intro memory world holds
  apply Safe.mapError
  apply (queries memory world holds).weaken
  intro outcome reached after _ posted
  refine ⟨posted.1, ?_⟩
  intro value returned
  cases outcome with
  | error reason => cases returned
  | ok found =>
      cases returned
      exact posted.2 _ rfl

theorem attempt (undisturbed : Undisturbed environment since)
    {method : Method signature ε Memory α} {post : α → World → Prop}
    (keeps : ∀ before after, pre before → since before after → pre after)
    (queries : Queries environment since pre method post) :
    Queries environment since pre (Method.attempt method)
      (fun _ world => pre world) := by
  intro memory world holds
  have attempted : Safe environment (since world)
      (fun outcome reached after => reached = memory ∧
        ∀ value, outcome = .ok value → pre after)
      (Method.attempt method >>= fun outcome =>
        (Pure.pure outcome : Method signature ε Memory _)) memory world := by
    apply Safe.attempt_bind (queries memory world holds)
    intro outcome reached after passed posted later moved
    have passedLater := undisturbed.trans passed (undisturbed.drifted moved)
    refine ⟨passedLater, posted.1, ?_⟩
    intro value _
    exact keeps world later holds passedLater
  rw [bind_pure] at attempted
  exact attempted

/-- A stretch of questions inside a crash specification. -/
theorem safe {stable : World → Prop} {middle : α → World → Prop}
    {post : Except ε α → Memory → World → Prop}
    {method : Method signature ε Memory α} {memory : Memory} {world : World}
    (queries : Queries environment since pre method middle)
    (holds : pre world) (keeps : ∀ after, since world after → stable after)
    (posted : ∀ outcome after, since world after →
      (∀ value, outcome = .ok value → middle value after) →
      post outcome memory after) :
    Safe environment stable post method memory world := by
  have asked : Safe environment (since world) post method memory world := by
    apply (queries memory world holds).weaken
    intro outcome reached after passed returned
    obtain ⟨rfl, returned⟩ := returned
    exact posted outcome after passed returned
  exact asked.relax keeps

/-- A stretch of questions as one step of a crash specification. -/
theorem safe_bind {stable : World → Prop} {middle : α → World → Prop}
    {post : Except ε β → Memory → World → Prop}
    {method : Method signature ε Memory α}
    {continuation : α → Method signature ε Memory β} {memory : Memory}
    {world : World}
    (queries : Queries environment since pre method middle)
    (holds : pre world)
    (keeps : ∀ after, since world after → stable after)
    (continues : ∀ value after, since world after → middle value after →
      Safe environment stable post (continuation value) memory after)
    (fails : ∀ reason after, since world after →
      post (.error reason) memory after) :
    Safe environment stable post (method >>= continuation) memory world := by
  have asked : Safe environment stable
      (fun outcome reached after => since world after ∧ reached = memory ∧
        ∀ value, outcome = .ok value → middle value after)
      method memory world :=
    queries.safe holds keeps
      (fun outcome after passed returned => ⟨passed, rfl, returned⟩)
  apply Safe.bind asked
  · intro value reached after _ posted
    obtain ⟨passed, rfl, returned⟩ := posted
    exact continues value after passed (returned value rfl)
  · intro reason reached after _ posted
    obtain ⟨passed, rfl, _⟩ := posted
    exact fails reason after passed

end Queries

end Method

end Interactive

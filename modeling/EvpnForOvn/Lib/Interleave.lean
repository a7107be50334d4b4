import EvpnForOvn.Lib.Method

/-!
# Two programs on one world

Two programs that share a world take turns, one request at a time and in any
order.  The left one is verified against an environment that may, between any
two of its requests, carry out whatever the right one is permitted to ask.
`Pair.Step.safe` is the rule: a program that is safe beside every permitted
request stays safe along every interleaving.
-/

namespace Interactive

variable {signature : Signature} {World α β : Type}

/-- Two programs and the world they share. -/
structure Pair (signature : Signature) (World α β : Type) where
  world : World
  left : Program signature α
  right : Program signature β

/-- One of the programs receives a reply, or the world moves by itself. -/
inductive Pair.Step (environment : Environment signature World) :
    Pair signature World α β → Pair signature World α β → Prop where
  | left {message : signature.Request}
      {next : signature.Reply message → Program signature α}
      {right : Program signature β} {before after : World}
      {reply : signature.Reply message} :
      environment.answers before message reply after →
      Step environment ⟨before, .ask message next, right⟩
        ⟨after, next reply, right⟩
  | right {message : signature.Request}
      {next : signature.Reply message → Program signature β}
      {left : Program signature α} {before after : World}
      {reply : signature.Reply message} :
      environment.answers before message reply after →
      Step environment ⟨before, left, .ask message next⟩
        ⟨after, left, next reply⟩
  | drift {left : Program signature α} {right : Program signature β}
      {before after : World} :
      environment.drifts before after →
      Step environment ⟨before, left, right⟩ ⟨after, left, right⟩

/-- Every interleaving of the two programs. -/
def Pair.Steps (environment : Environment signature World) :
    Pair signature World α β → Pair signature World α β → Prop :=
  Relation.ReflTransGen (Pair.Step environment)

/-- Whatever the replies, the program sends permitted requests only. -/
def Program.Asks (permitted : signature.Request → Prop) :
    Program signature α → Prop
  | .done _ => True
  | .ask message next =>
      permitted message ∧ ∀ reply, (next reply).Asks permitted

theorem Program.Asks.bind {permitted : signature.Request → Prop}
    {program : Program signature α}
    {continuation : α → Program signature β}
    (first : program.Asks permitted)
    (second : ∀ value, (continuation value).Asks permitted) :
    (program.bind continuation).Asks permitted := by
  induction program with
  | done value => exact second value
  | ask message next induction =>
      exact ⟨first.1, fun reply => induction reply (first.2 reply)⟩

/-- The environment of a program beside another that sends permitted requests
only. -/
def Environment.beside (environment : Environment signature World)
    (permitted : signature.Request → Prop) : Environment signature World :=
  { answers := environment.answers
    drifts := fun before after => environment.drifts before after ∨
      ∃ message reply, permitted message ∧
        environment.answers before message reply after }

section Rule

variable {environment : Environment signature World}
  {permitted : signature.Request → Prop} {stable : World → Prop}
  {post : α → World → Prop}

/-- A step of either program keeps the left one safe and the right one within
what it is permitted. -/
theorem Pair.Step.safe {before after : Pair signature World α β}
    (step : Pair.Step environment before after)
    (safe : Safe (environment.beside permitted) stable post before.left
      before.world)
    (asks : before.right.Asks permitted) :
    Safe (environment.beside permitted) stable post after.left after.world ∧
      after.right.Asks permitted := by
  cases step with
  | left answered =>
      exact ⟨(safe _ .refl).2 _ _ answered, asks⟩
  | right answered =>
      exact ⟨safe.drift (.single (.inr ⟨_, _, asks.1, answered⟩)),
        asks.2 _⟩
  | drift moved =>
      exact ⟨safe.drift (.single (.inl moved)), asks⟩

theorem Pair.Steps.safe {before after : Pair signature World α β}
    (steps : Pair.Steps environment before after)
    (safe : Safe (environment.beside permitted) stable post before.left
      before.world)
    (asks : before.right.Asks permitted) :
    Safe (environment.beside permitted) stable post after.left after.world ∧
      after.right.Asks permitted := by
  induction steps with
  | refl => exact ⟨safe, asks⟩
  | tail _ step induction => exact step.safe induction.1 induction.2

/-- What the left program promises of its result holds at every later point
of the interleaving. -/
theorem Pair.Steps.returned {before after : Pair signature World α β}
    {value : α} (steps : Pair.Steps environment before after)
    (safe : Safe (environment.beside permitted) stable post before.left
      before.world)
    (asks : before.right.Asks permitted)
    (finished : after.left = .done value) : post value after.world := by
  have settled := (steps.safe safe asks).1
  rw [finished] at settled
  exact (settled _ .refl).2

end Rule

/-- Let the left program take its turn where the order says `true`, and the
right one elsewhere. -/
def Pair.schedule (answer : World → (request : signature.Request) →
      signature.Reply request × World) :
    List Bool → Pair signature World α β → Pair signature World α β
  | [], pair => pair
  | true :: order, ⟨world, .ask message next, right⟩ =>
      schedule answer order ⟨(answer world message).2,
        next (answer world message).1, right⟩
  | false :: order, ⟨world, left, .ask message next⟩ =>
      schedule answer order ⟨(answer world message).2, left,
        next (answer world message).1⟩
  | _ :: order, pair => schedule answer order pair

theorem Pair.steps_schedule {environment : Environment signature World}
    {answer : World → (request : signature.Request) →
      signature.Reply request × World}
    (allowed : ∀ world request, environment.answers world request
      (answer world request).1 (answer world request).2)
    (order : List Bool) (pair : Pair signature World α β) :
    Pair.Steps environment pair (schedule answer order pair) := by
  induction order generalizing pair with
  | nil => exact .refl
  | cons turn order induction =>
      obtain ⟨world, left, right⟩ := pair
      cases turn with
      | true =>
          cases left with
          | done value =>
              cases right <;> exact induction _
          | ask message next =>
              exact .head (.left (allowed world message)) (induction _)
      | false =>
          cases right with
          | done value =>
              cases left <;> exact induction _
          | ask message next =>
              exact .head (.right (allowed world message)) (induction _)

namespace Method

variable {ε Memory : Type} {permitted : signature.Request → Prop}

def Asks (permitted : signature.Request → Prop)
    (method : Method signature ε Memory α) : Prop :=
  ∀ memory, (method.start memory).Asks permitted

theorem Asks.bind {method : Method signature ε Memory α}
    {continuation : α → Method signature ε Memory β}
    (first : method.Asks permitted)
    (second : ∀ value, (continuation value).Asks permitted) :
    (method >>= continuation).Asks permitted := by
  intro memory
  rw [start_bind]
  apply (first memory).bind
  intro out
  obtain ⟨outcome, reached⟩ := out
  cases outcome with
  | ok value => exact second value reached
  | error reason => trivial

theorem Asks.ask {message : signature.Request} (allowed : permitted message) :
    (Method.ask message : Method signature ε Memory _).Asks permitted :=
  fun _ => ⟨allowed, fun _ => trivial⟩

theorem Asks.check {outcome : Except ε α} :
    (Method.check outcome : Method signature ε Memory α).Asks permitted :=
  fun _ => trivial

theorem Asks.pure {value : α} :
    (Pure.pure value : Method signature ε Memory α).Asks permitted :=
  fun _ => trivial

/-- What follows a check may rely on it. -/
theorem Asks.check_bind {outcome : Except ε α}
    {continuation : α → Method signature ε Memory β}
    (passed : ∀ value, outcome = .ok value →
      (continuation value).Asks permitted) :
    (Method.check outcome >>= continuation).Asks permitted := by
  cases outcome with
  | ok value => exact passed value rfl
  | error reason => exact fun _ => trivial

theorem Asks.refuse_bind {condition : Bool} {reason : ε}
    {continuation : Unit → Method signature ε Memory β}
    (passed : condition = false → (continuation ()).Asks permitted) :
    (Method.refuse condition reason >>= continuation).Asks permitted := by
  cases condition with
  | true => exact fun _ => trivial
  | false => exact passed rfl

/-- What a method promises beside another method. -/
theorem outcome_of_steps {ε' Memory' : Type}
    {environment : Environment signature World} {stable : World → Prop}
    {left : Method signature ε Memory α}
    {right : Method signature ε' Memory' β}
    {post : Except ε α → Memory → World → Prop} {memory reached : Memory}
    {other : Memory'} {world : World} {outcome : Except ε α}
    {after : Pair signature World (Except ε α × Memory)
      (Except ε' β × Memory')}
    (safe : Method.Safe (environment.beside permitted) stable post left
      memory world)
    (asks : right.Asks permitted)
    (steps : Pair.Steps environment
      ⟨world, left.start memory, right.start other⟩ after)
    (finished : after.left = .done (outcome, reached)) :
    post outcome reached after.world :=
  Pair.Steps.returned steps safe (asks other) finished

end Method

end Interactive

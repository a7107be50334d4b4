import Mathlib.Logic.Relation

/-!
# Interactive programs and their crash specifications

A program asks its environment one request at a time and continues with the
reply.  Between any two requests the process may be killed, so a
specification has two parts: a property of the world that holds at every
point of the execution, and a postcondition of the returned value.

Nothing in this file depends on what the requests are.  An environment says
which replies are possible in a world, and how the world may move on its own
while the program is between two requests.
-/

namespace Interactive

/-- The requests a program may send, and the type of the reply to each. -/
structure Signature where
  Request : Type
  Reply : Request → Type

/-- A request together with the reply it received. -/
abbrev Event (signature : Signature) : Type :=
  (request : signature.Request) × signature.Reply request

/-- A program either has returned a value or waits for one reply. -/
inductive Program (signature : Signature) (α : Type) : Type where
  | done (value : α) : Program signature α
  | ask (request : signature.Request)
      (next : signature.Reply request → Program signature α) :
      Program signature α

namespace Program

variable {signature : Signature} {α β γ : Type}

def bind : Program signature α → (α → Program signature β) →
    Program signature β
  | .done value, continuation => continuation value
  | .ask request next, continuation =>
      .ask request (fun reply => (next reply).bind continuation)

instance : Monad (Program signature) where
  pure := .done
  bind := bind

theorem bind_done (program : Program signature α) :
    program.bind .done = program := by
  induction program with
  | done value => rfl
  | ask message next induction =>
      simp only [bind]
      congr 1
      funext reply
      exact induction reply

theorem bind_assoc (program : Program signature α)
    (first : α → Program signature β) (second : β → Program signature γ) :
    (program.bind first).bind second =
      program.bind (fun value => (first value).bind second) := by
  induction program with
  | done value => rfl
  | ask message next induction =>
      simp only [bind]
      congr 1
      funext reply
      exact induction reply

instance : LawfulMonad (Program signature) :=
  LawfulMonad.mk' (Program signature)
    (fun program => bind_done program)
    (fun _ _ => rfl)
    (fun program first second => bind_assoc program first second)

end Program

/-- What the outside of a program can do: which replies are possible and
what they change, and how the world moves by itself. -/
structure Environment (signature : Signature) (World : Type) where
  answers : World → (request : signature.Request) →
    signature.Reply request → World → Prop
  drifts : World → World → Prop

namespace Environment

variable {signature : Signature} {World : Type}

/-- An environment that changes the world only by answering requests. -/
def still (answers : World → (request : signature.Request) →
    signature.Reply request → World → Prop) :
    Environment signature World :=
  { answers := answers
    drifts := fun _ _ => False }

def Drift (environment : Environment signature World) :
    World → World → Prop :=
  Relation.ReflTransGen environment.drifts

theorem drift_still_iff
    {answers : World → (request : signature.Request) →
      signature.Reply request → World → Prop} {before after : World} :
    (still answers).Drift before after ↔ after = before := by
  constructor
  · intro drift
    induction drift with
    | refl => rfl
    | tail _ moved _ => exact moved.elim
  · rintro rfl
    exact .refl

/-- Any reply is possible, and the world is the log of the events, oldest
first. -/
def logging : Environment signature (List (Event signature)) :=
  still fun before request reply after =>
    after = before ++ [⟨request, reply⟩]

end Environment

/-- `Runs environment program before events rest after` holds when `program`,
started in `before`, can perform `events` and then stands at `rest` in the
world `after`.  The run is complete when `rest` has returned. -/
inductive Runs {signature : Signature} {World α : Type}
    (environment : Environment signature World) :
    Program signature α → World → List (Event signature) →
      Program signature α → World → Prop where
  | here {program : Program signature α} {world : World} :
      Runs environment program world [] program world
  | drift {program rest : Program signature α} {before moved after : World}
      {events : List (Event signature)} :
      environment.drifts before moved →
      Runs environment program moved events rest after →
      Runs environment program before events rest after
  | ask {message : signature.Request}
      {next : signature.Reply message → Program signature α}
      {rest : Program signature α} {before answered after : World}
      {reply : signature.Reply message} {events : List (Event signature)} :
      environment.answers before message reply answered →
      Runs environment (next reply) answered events rest after →
      Runs environment (.ask message next) before
        (⟨message, reply⟩ :: events) rest after

theorem Runs.of_done {signature : Signature} {World α : Type}
    {environment : Environment signature World} {value : α}
    {rest : Program signature α} {before after : World}
    {events : List (Event signature)}
    (run : Runs environment (.done value) before events rest after) :
    events = [] ∧ rest = .done value := by
  generalize returned : Program.done value = program at run
  induction run with
  | here => exact ⟨rfl, rfl⟩
  | drift _ _ induction => exact induction returned
  | ask _ _ _ => cases returned

/-- Run a program against a function that answers every request. -/
def Program.execute {signature : Signature} {World α : Type}
    (answer : World → (request : signature.Request) →
      signature.Reply request × World) :
    Program signature α → World → α × World
  | .done value, world => (value, world)
  | .ask message next, world =>
      (next (answer world message).1).execute answer (answer world message).2

theorem Program.runs_execute {signature : Signature} {World α : Type}
    {environment : Environment signature World}
    {answer : World → (request : signature.Request) →
      signature.Reply request × World}
    (allowed : ∀ world request, environment.answers world request
      (answer world request).1 (answer world request).2)
    (program : Program signature α) (world : World) :
    ∃ events, Runs environment program world events
      (.done (program.execute answer world).1)
      (program.execute answer world).2 := by
  induction program generalizing world with
  | done value => exact ⟨[], .here⟩
  | ask message next induction =>
      obtain ⟨events, run⟩ := induction (answer world message).1
        (answer world message).2
      exact ⟨_, .ask (allowed world message) run⟩

/-- Run a program against a function that may leave a request unanswered. -/
def Program.evaluate {signature : Signature} {World α : Type}
    (answer : World → (request : signature.Request) →
      Option (signature.Reply request × World)) :
    Program signature α → World → Option (α × World)
  | .done value, world => some (value, world)
  | .ask message next, world =>
      match answer world message with
      | none => none
      | some (reply, after) => (next reply).evaluate answer after

theorem Program.runs_evaluate {signature : Signature} {World α : Type}
    {environment : Environment signature World}
    {answer : World → (request : signature.Request) →
      Option (signature.Reply request × World)}
    (allowed : ∀ world request reply after,
      answer world request = some (reply, after) →
      environment.answers world request reply after)
    {program : Program signature α} {world after : World} {value : α}
    (evaluated : program.evaluate answer world = some (value, after)) :
    ∃ events, Runs environment program world events (.done value) after := by
  induction program generalizing world with
  | done returned =>
      cases evaluated
      exact ⟨[], .here⟩
  | ask message next induction =>
      unfold Program.evaluate at evaluated
      split at evaluated
      · cases evaluated
      · rename_i reply middle answered
        obtain ⟨events, run⟩ := induction reply evaluated
        exact ⟨_, .ask (allowed _ _ _ _ answered) run⟩

/-- The world of a logged run is its log. -/
theorem Runs.log_eq {signature : Signature} {α : Type}
    {program rest : Program signature α}
    {before events after : List (Event signature)}
    (run : Runs Environment.logging program before events rest after) :
    after = before ++ events := by
  induction run with
  | here => simp
  | drift moved _ _ => exact moved.elim
  | ask answered _ induction =>
      rw [induction, answered, List.append_assoc]
      rfl

/-- Every run can be logged. -/
theorem Runs.logs {signature : Signature} {World α : Type}
    {environment : Environment signature World}
    {program rest : Program signature α} {before after : World}
    {events : List (Event signature)}
    (run : Runs environment program before events rest after)
    (log : List (Event signature)) :
    Runs Environment.logging program log events rest (log ++ events) := by
  induction run generalizing log with
  | here =>
      rw [List.append_nil]
      exact .here
  | drift _ _ induction => exact induction log
  | @ask message next _ _ _ _ reply rest _ _ induction =>
      have continued := induction (log ++ [⟨message, reply⟩])
      rw [List.append_assoc] at continued
      exact .ask rfl continued

/-- A run of two programs in sequence is still in the first, or has finished
it and is in the second. -/
theorem Runs.of_bind {signature : Signature} {World α β : Type}
    {environment : Environment signature World}
    {program : Program signature α} {continuation : α → Program signature β}
    {rest : Program signature β} {before after : World}
    {events : List (Event signature)}
    (run : Runs environment (program.bind continuation) before events rest
      after) :
    (∃ remaining, Runs environment program before events remaining after ∧
      rest = remaining.bind continuation) ∨
    ∃ value middle first second, events = first ++ second ∧
      Runs environment program before first (.done value) middle ∧
      Runs environment (continuation value) middle second rest after := by
  generalize composed : program.bind continuation = whole at run
  induction run generalizing program with
  | here => exact .inl ⟨program, .here, composed.symm⟩
  | drift moved _ induction =>
      rcases induction composed with
        ⟨remaining, inside, same⟩ | ⟨value, middle, first, second, parts,
          inside, outside⟩
      · exact .inl ⟨remaining, .drift moved inside, same⟩
      · exact .inr ⟨value, middle, first, second, parts,
          .drift moved inside, outside⟩
  | @ask message next _ _ _ _ reply tail answered further induction =>
      cases program with
      | done value =>
          refine .inr ⟨value, _, [], _, rfl, .here, ?_⟩
          change continuation value = _ at composed
          rw [composed]
          exact .ask answered further
      | ask asked resume =>
          cases composed
          rcases induction rfl with
            ⟨remaining, inside, same⟩ | ⟨value, middle, first, second, parts,
              inside, outside⟩
          · exact .inl ⟨remaining, .ask answered inside, same⟩
          · refine .inr ⟨value, middle, ⟨message, reply⟩ :: first, second,
              ?_, .ask answered inside, outside⟩
            rw [parts]
            rfl

/-- A run of two programs in sequence that waits for a reply waits in the
first, or in the second after the first has returned. -/
theorem Runs.ask_of_bind {signature : Signature} {World α β : Type}
    {environment : Environment signature World}
    {program : Program signature α} {continuation : α → Program signature β}
    {message : signature.Request}
    {next : signature.Reply message → Program signature β}
    {before after : World} {events : List (Event signature)}
    (run : Runs environment (program.bind continuation) before events
      (.ask message next) after) :
    (∃ resume, Runs environment program before events (.ask message resume)
      after) ∨
    ∃ value middle first second, events = first ++ second ∧
      Runs environment program before first (.done value) middle ∧
      Runs environment (continuation value) middle second (.ask message next)
        after := by
  rcases run.of_bind with ⟨remaining, inside, stands⟩ | outside
  · cases remaining with
    | done value =>
        refine .inr ⟨value, after, events, [], (List.append_nil _).symm,
          inside, ?_⟩
        change _ = continuation value at stands
        rw [← stands]
        exact .here
    | ask asked resume =>
        cases stands
        exact .inl ⟨resume, inside⟩
  · exact .inr outside

/-- A finished first program hands over to the second. -/
theorem Runs.into_bind {signature : Signature} {World α β : Type}
    {environment : Environment signature World}
    {program : Program signature α} {value : α} {before after : World}
    {events : List (Event signature)}
    (run : Runs environment program before events (.done value) after)
    (continuation : α → Program signature β) :
    Runs environment (program.bind continuation) before events
      (continuation value) after := by
  generalize returned : Program.done value = rest at run
  induction run with
  | here =>
      subst returned
      exact .here
  | drift moved _ induction => exact .drift moved (induction returned)
  | ask answered _ induction => exact .ask answered (induction returned)

/-- Answer a request and log it. -/
def Program.logged {signature : Signature}
    (answer : (request : signature.Request) → signature.Reply request)
    (log : List (Event signature)) (request : signature.Request) :
    signature.Reply request × List (Event signature) :=
  (answer request, log ++ [⟨request, answer request⟩])

theorem Program.runs_logged {signature : Signature} {α : Type}
    (answer : (request : signature.Request) → signature.Reply request)
    (program : Program signature α) :
    Runs Environment.logging program []
      (program.execute (logged answer) []).2
      (.done (program.execute (logged answer) []).1)
      (program.execute (logged answer) []).2 := by
  have allowed : ∀ log request, Environment.logging.answers log request
      (logged answer log request).1 (logged answer log request).2 := by
    intro log request
    rfl
  obtain ⟨events, run⟩ := Program.runs_execute allowed program []
  have same := run.log_eq
  rw [List.nil_append] at same
  rw [← same] at run
  exact run

/-- `Safe environment stable post program world`: at every point of every run
from `world`, and after every drift there, `stable` holds; and whenever the
program has returned, `post` holds of its value. -/
def Safe {signature : Signature} {World α : Type}
    (environment : Environment signature World) (stable : World → Prop)
    (post : α → World → Prop) : Program signature α → World → Prop
  | .done value, world => ∀ later, environment.Drift world later →
      stable later ∧ post value later
  | .ask message next, world => ∀ later, environment.Drift world later →
      stable later ∧ ∀ reply answered,
        environment.answers later message reply answered →
        Safe environment stable post (next reply) answered

namespace Safe

variable {signature : Signature} {World α β : Type}
  {environment : Environment signature World} {stable : World → Prop}

theorem holds {post : α → World → Prop} {program : Program signature α}
    {world : World} (safe : Safe environment stable post program world) :
    stable world := by
  cases program with
  | done value => exact (safe world .refl).1
  | ask message next => exact (safe world .refl).1

theorem drift {post : α → World → Prop} {program : Program signature α}
    {before after : World}
    (safe : Safe environment stable post program before)
    (moved : environment.Drift before after) :
    Safe environment stable post program after := by
  cases program with
  | done value => exact fun later further => safe later (moved.trans further)
  | ask message next =>
      exact fun later further => safe later (moved.trans further)

/-- A safe program stays safe along its runs. -/
theorem along {post : α → World → Prop} {program rest : Program signature α}
    {before after : World} {events : List (Event signature)}
    (safe : Safe environment stable post program before)
    (run : Runs environment program before events rest after) :
    Safe environment stable post rest after := by
  induction run with
  | here => exact safe
  | drift moved _ induction =>
      exact induction (safe.drift (.single moved))
  | ask answered _ induction =>
      exact induction ((safe _ .refl).2 _ _ answered)

theorem returned {post : α → World → Prop} {program : Program signature α}
    {before after : World} {events : List (Event signature)} {value : α}
    (safe : Safe environment stable post program before)
    (run : Runs environment program before events (.done value) after) :
    post value after :=
  (safe.along run after .refl).2

theorem weaken {post other : α → World → Prop}
    {program : Program signature α} {world : World}
    (safe : Safe environment stable post program world)
    (implies : ∀ value after, stable after → post value after →
      other value after) :
    Safe environment stable other program world := by
  induction program generalizing world with
  | done value =>
      intro later moved
      obtain ⟨stableLater, posted⟩ := safe later moved
      exact ⟨stableLater, implies value later stableLater posted⟩
  | ask message next induction =>
      intro later moved
      obtain ⟨stableLater, continues⟩ := safe later moved
      exact ⟨stableLater, fun reply answered step =>
        induction reply (continues reply answered step)⟩

/-- The property of every point may be weakened as well. -/
theorem relax {other : World → Prop} {post : α → World → Prop}
    {program : Program signature α} {world : World}
    (safe : Safe environment stable post program world)
    (implies : ∀ after, stable after → other after) :
    Safe environment other post program world := by
  induction program generalizing world with
  | done value =>
      intro later moved
      obtain ⟨stableLater, posted⟩ := safe later moved
      exact ⟨implies later stableLater, posted⟩
  | ask message next induction =>
      intro later moved
      obtain ⟨stableLater, continues⟩ := safe later moved
      exact ⟨implies later stableLater, fun reply answered step =>
        induction reply (continues reply answered step)⟩

/-- Sequencing: the first program's postcondition starts the second.  It still
holds after every move of the environment. -/
theorem bind_settled {middle : α → World → Prop} {post : β → World → Prop}
    {program : Program signature α}
    {continuation : α → Program signature β} {world : World}
    (safe : Safe environment stable middle program world)
    (continues : ∀ value after,
      (∀ later, environment.Drift after later →
        stable later ∧ middle value later) →
      Safe environment stable post (continuation value) after) :
    Safe environment stable post (program >>= continuation) world := by
  induction program generalizing world with
  | done value => exact continues value world safe
  | ask message next induction =>
      intro later moved
      obtain ⟨stableLater, resumes⟩ := safe later moved
      exact ⟨stableLater, fun reply answered step =>
        induction reply (resumes reply answered step)⟩

theorem bind {middle : α → World → Prop} {post : β → World → Prop}
    {program : Program signature α}
    {continuation : α → Program signature β} {world : World}
    (safe : Safe environment stable middle program world)
    (continues : ∀ value after, stable after → middle value after →
      Safe environment stable post (continuation value) after) :
    Safe environment stable post (program >>= continuation) world := by
  apply safe.bind_settled
  intro value after settled
  obtain ⟨stableAfter, posted⟩ := settled after .refl
  exact continues value after stableAfter posted

/-- The rule for one request under an assertion the environment's own moves
cannot break. -/
theorem ask {post : α → World → Prop} {message : signature.Request}
    {next : signature.Reply message → Program signature α} {world : World}
    (assertion : World → Prop) (holdsHere : assertion world)
    (undrifted : ∀ before after, assertion before →
      environment.drifts before after → assertion after)
    (keeps : ∀ here, assertion here → stable here)
    (answered : ∀ here reply after, assertion here →
      environment.answers here message reply after →
      Safe environment stable post (next reply) after) :
    Safe environment stable post (.ask message next) world := by
  intro later moved
  have holdsLater : assertion later := by
    induction moved with
    | refl => exact holdsHere
    | tail _ step induction => exact undrifted _ _ induction step
  exact ⟨keeps later holdsLater, fun reply after step =>
    answered later reply after holdsLater step⟩

/-- Returning under an assertion the environment's own moves cannot break. -/
theorem done {post : α → World → Prop} {value : α} {world : World}
    (assertion : World → Prop) (holdsHere : assertion world)
    (undrifted : ∀ before after, assertion before →
      environment.drifts before after → assertion after)
    (keeps : ∀ here, assertion here → stable here ∧ post value here) :
    Safe environment stable post (.done value) world := by
  intro later moved
  apply keeps
  induction moved with
  | refl => exact holdsHere
  | tail _ step induction => exact undrifted _ _ induction step

section Still

variable {answers : World → (request : signature.Request) →
    signature.Reply request → World → Prop}

theorem done_still_iff {post : α → World → Prop} {value : α}
    {world : World} :
    Safe (Environment.still answers) stable post (.done value) world ↔
      stable world ∧ post value world := by
  constructor
  · intro safe
    exact safe world .refl
  · intro holdsHere later moved
    obtain rfl := Environment.drift_still_iff.mp moved
    exact holdsHere

theorem ask_still_iff {post : α → World → Prop}
    {message : signature.Request}
    {next : signature.Reply message → Program signature α} {world : World} :
    Safe (Environment.still answers) stable post (.ask message next) world ↔
      stable world ∧ ∀ reply after, answers world message reply after →
        Safe (Environment.still answers) stable post (next reply) after := by
  constructor
  · intro safe
    exact safe world .refl
  · intro holdsHere later moved
    obtain rfl := Environment.drift_still_iff.mp moved
    exact holdsHere

end Still

end Safe

end Interactive

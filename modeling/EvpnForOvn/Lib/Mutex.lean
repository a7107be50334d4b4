import EvpnForOvn.Lib.Service

/-!
# Calls under one mutex

Several threads call the methods of one object, and every method holds the
object's mutex from its first step to its last.  Threads may interleave in any
way; the program of a method advances only inside its critical section.  Every
interleaving is a run of the service that serves one call at a time, and while
a thread stays inside its critical section no other call completes.
-/

namespace Interactive

/-- A critical section: who is in it, the memory it found, the events since
then and the program that remains. -/
structure CriticalSection {signature : Signature}
    (service : Service signature) (World Thread : Type) where
  thread : Thread
  call : service.Call
  memory : service.Memory
  entered : World
  events : List (Event signature)
  program : Program signature (service.Result × service.Memory)

/-- The object, its mutex and the threads that wait for it.  `memory` is the
memory of the object while nobody is inside; `completed` lists the calls that
have returned, newest first. -/
structure Mutexed {signature : Signature} (service : Service signature)
    (World Thread : Type) where
  world : World
  memory : service.Memory
  inside : Option (CriticalSection service World Thread)
  waiting : Thread → Option service.Call
  completed : List (Thread × service.Call × service.Result)

section Extending

variable {signature : Signature} {World : Type}
  {environment : Environment signature World}

theorem Runs.snoc_drift {α : Type} {program rest : Program signature α}
    {before after later : World} {events : List (Event signature)}
    (run : Runs environment program before events rest after)
    (moved : environment.drifts after later) :
    Runs environment program before events rest later := by
  induction run with
  | here => exact .drift moved .here
  | drift step _ induction => exact .drift step (induction moved)
  | ask answered _ induction => exact .ask answered (induction moved)

theorem Runs.snoc_ask {α : Type} {program : Program signature α}
    {before after later : World} {events : List (Event signature)}
    {message : signature.Request} {reply : signature.Reply message}
    {next : signature.Reply message → Program signature α}
    (run : Runs environment program before events (.ask message next) after)
    (answered : environment.answers after message reply later) :
    Runs environment program before (events ++ [⟨message, reply⟩])
      (next reply) later := by
  generalize stands : Program.ask message next = rest at run
  induction run with
  | here =>
      subst stands
      exact .ask answered .here
  | drift step _ induction => exact .drift step (induction answered stands)
  | ask first _ induction => exact .ask first (induction answered stands)

end Extending

namespace Mutexed

variable {signature : Signature} {World Thread : Type} [DecidableEq Thread]
  {service : Service signature} {environment : Environment signature World}

/-- Nobody is inside, and nobody waits. -/
def free (world : World) (memory : service.Memory) :
    Mutexed service World Thread :=
  { world := world
    memory := memory
    inside := none
    waiting := fun _ => none
    completed := [] }

/-- One step of one thread, or of the environment. -/
inductive Step (environment : Environment signature World) :
    Mutexed service World Thread → Mutexed service World Thread → Prop where
  /-- A thread calls a method and waits for the mutex. -/
  | wait {state : Mutexed service World Thread} (thread : Thread)
      (call : service.Call) :
      state.waiting thread = none →
      Step environment state
        { state with
          waiting := fun other =>
            if other = thread then some call else state.waiting other }
  /-- A waiting thread takes the mutex. -/
  | enter {state : Mutexed service World Thread} {thread : Thread}
      {call : service.Call} :
      state.waiting thread = some call → state.inside = none →
      Step environment state
        { state with
          inside := some
            { thread := thread
              call := call
              memory := state.memory
              entered := state.world
              events := []
              program := service.serve call state.memory }
          waiting := fun other =>
            if other = thread then none else state.waiting other }
  /-- The thread inside sends a request and receives the reply. -/
  | ask {state : Mutexed service World Thread}
      {current : CriticalSection service World Thread}
      {message : signature.Request} {reply : signature.Reply message}
      {next : signature.Reply message →
        Program signature (service.Result × service.Memory)}
      {after : World} :
      state.inside = some current → current.program = .ask message next →
      environment.answers state.world message reply after →
      Step environment state
        { state with
          world := after
          inside := some
            { current with
              events := current.events ++ [⟨message, reply⟩]
              program := next reply } }
  /-- The method returns and the mutex is free. -/
  | leave {state : Mutexed service World Thread}
      {current : CriticalSection service World Thread}
      {result : service.Result} {memory : service.Memory} :
      state.inside = some current →
      current.program = .done (result, memory) →
      Step environment state
        { state with
          memory := memory
          inside := none
          completed :=
            (current.thread, current.call, result) :: state.completed }
  | drift {state : Mutexed service World Thread} {after : World} :
      environment.drifts state.world after →
      Step environment state { state with world := after }

def Steps (environment : Environment signature World) :
    Mutexed service World Thread → Mutexed service World Thread → Prop :=
  Relation.ReflTransGen (Step environment)

/-- What the service that serves one call at a time would be doing. -/
def phase (state : Mutexed service World Thread) : service.Phase :=
  match state.inside with
  | none => .idle state.memory
  | some current => .serving current.call current.program

theorem phase_step {before after : Mutexed service World Thread}
    (step : Step environment before after) :
    service.Steps environment (before.world, before.phase)
      (after.world, after.phase) := by
  cases step with
  | wait thread call _ => exact .refl
  | enter _ nobody =>
      unfold phase
      rw [nobody]
      exact .single (.call _)
  | ask someone program answered =>
      unfold phase
      rw [someone]
      simp only [program]
      exact .single (.serveAsk answered)
  | leave someone program =>
      unfold phase
      rw [someone]
      simp only [program]
      exact .single .served
  | drift moved => exact .single (.drift moved)

/-- Every interleaving is a run of the service that serves one call at a
time. -/
theorem serialized {before after : Mutexed service World Thread}
    (steps : Steps environment before after) :
    service.Steps environment (before.world, before.phase)
      (after.world, after.phase) := by
  induction steps with
  | refl => exact .refl
  | tail _ last induction => exact induction.trans (phase_step last)

/-- A critical section has run the program of its call. -/
def Traced (environment : Environment signature World)
    (state : Mutexed service World Thread) : Prop :=
  ∀ current, state.inside = some current →
    Runs environment (service.serve current.call current.memory)
      current.entered current.events current.program state.world

theorem traced_step {before after : Mutexed service World Thread}
    (step : Step environment before after)
    (traced : Traced environment before) : Traced environment after := by
  cases step with
  | wait thread call _ => exact traced
  | enter _ _ =>
      intro current same
      cases same
      exact .here
  | @ask here message reply next _ someone program answered =>
      intro current same
      cases same
      have run := traced here someone
      rw [program] at run
      exact Runs.snoc_ask run answered
  | leave _ _ =>
      intro current impossible
      cases impossible
  | drift moved =>
      intro current same
      exact Runs.snoc_drift (traced current same) moved

/-- Along every interleaving, a critical section has run the program of its
call from the memory it found. -/
theorem traced {world : World} {memory : service.Memory}
    {state : Mutexed service World Thread}
    (steps : Steps environment (free world memory) state) :
    Traced environment state := by
  induction steps with
  | refl =>
      intro current impossible
      cases impossible
  | tail _ last induction => exact traced_step last induction

/-- A critical section starts from an idle object. -/
theorem entered {world : World} {memory : service.Memory}
    {state : Mutexed service World Thread}
    (steps : Steps environment (free world memory) state) :
    ∀ current, state.inside = some current →
      service.Steps environment (world, .idle memory)
        (current.entered, .idle current.memory) := by
  induction steps with
  | refl =>
      intro current impossible
      cases impossible
  | @tail before after earlier last induction =>
      cases last with
      | wait thread call _ => exact induction
      | enter _ nobody =>
          intro current same
          cases same
          have serial := serialized earlier
          unfold phase at serial
          rw [nobody] at serial
          exact serial
      | @ask here message reply next _ someone _ _ =>
          intro current same
          cases same
          exact induction here someone
      | leave _ _ =>
          intro current impossible
          cases impossible
      | drift _ => exact induction

/-- The thread that is inside. -/
def HeldBy (thread : Thread) (state : Mutexed service World Thread) : Prop :=
  ∃ current, state.inside = some current ∧ current.thread = thread

/-- A stretch of a run in which one thread stays inside. -/
def Holds (environment : Environment signature World) (thread : Thread) :
    Mutexed service World Thread → Mutexed service World Thread → Prop :=
  Relation.ReflTransGen fun before after =>
    Step environment before after ∧ HeldBy thread before ∧
      HeldBy thread after

/-- A thread inside has been there since it took the mutex. -/
theorem holding {world : World} {memory : service.Memory}
    {state : Mutexed service World Thread}
    (steps : Steps environment (free world memory) state) :
    ∀ current, state.inside = some current →
      ∃ entry, Holds environment current.thread entry state ∧
        entry.inside = some { current with
          events := []
          program := service.serve current.call current.memory } := by
  induction steps with
  | refl =>
      intro current impossible
      cases impossible
  | tail _ last induction =>
      have extend : ∀ {before after : Mutexed service World Thread}
          {old new : CriticalSection service World Thread},
          Step environment before after → before.inside = some old →
          after.inside = some new → old.thread = new.thread →
          ∀ {entry}, Holds environment old.thread entry before →
            Holds environment new.thread entry after := by
        intro before after old new step someone other same entry held
        rw [← same]
        exact held.tail ⟨step, ⟨old, someone, rfl⟩, ⟨new, other, same.symm⟩⟩
      have kept := last
      cases last with
      | wait thread call _ =>
          intro current someone
          obtain ⟨entry, held, entered⟩ := induction current someone
          exact ⟨entry, extend kept someone someone rfl held, entered⟩
      | enter _ _ =>
          intro current same
          cases same
          exact ⟨_, .refl, rfl⟩
      | @ask here message reply next _ someone _ _ =>
          intro current same
          obtain ⟨entry, held, entered⟩ := induction here someone
          refine ⟨entry, extend kept someone same ?_ held, ?_⟩
          · cases same
            rfl
          · cases same
            exact entered
      | leave _ _ =>
          intro current impossible
          cases impossible
      | drift _ =>
          intro current someone
          obtain ⟨entry, held, entered⟩ := induction current someone
          exact ⟨entry, extend kept someone someone rfl held, entered⟩

/-- A run of the program of a thread inside is a run of the whole. -/
theorem steps_of_runs {state : Mutexed service World Thread}
    {current : CriticalSection service World Thread} {after : World}
    {rest : Program signature (service.Result × service.Memory)}
    {events : List (Event signature)}
    (someone : state.inside = some current)
    (run : Runs environment current.program state.world events rest after) :
    Steps environment state
      { state with
        world := after
        inside := some
          { current with
            events := current.events ++ events
            program := rest } } := by
  obtain ⟨world, memory, inside, waiting, completed⟩ := state
  obtain ⟨thread, call, found, enteredIn, past, program⟩ := current
  cases someone
  change Runs environment program world events rest after at run
  induction run generalizing past with
  | here =>
      rw [List.append_nil]
      exact .refl
  | drift moved _ induction =>
      exact .head (.drift moved) (induction past)
  | @ask message next rest before answered last reply events step _
      induction =>
      have further := induction (past ++ [⟨message, reply⟩])
      rw [List.append_assoc] at further
      exact .head (.ask rfl rfl step) further

/-- While a thread stays inside, no call completes and the object keeps its
memory. -/
theorem holds_completed {thread : Thread}
    {before after : Mutexed service World Thread}
    (held : Holds environment thread before after) :
    after.completed = before.completed ∧ after.memory = before.memory := by
  induction held with
  | refl => exact ⟨rfl, rfl⟩
  | tail _ last induction =>
      obtain ⟨step, _, current, someone, _⟩ := last
      cases step with
      | wait thread call _ => exact induction
      | enter _ _ => exact induction
      | ask _ _ _ => exact induction
      | leave _ _ => cases someone
      | drift _ => exact induction

end Mutexed

end Interactive

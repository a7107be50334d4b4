import EvpnForOvn.Lib.Program

/-!
# Services that crash and reopen

A service is booted, serves calls one at a time from the memory of its
process, and may be killed between any two steps.  A crash discards the
memory and keeps the world; the next boot starts from whatever the world
holds.  `Service.Kept` is the induction rule over whole runs: an invariant of
the world and one of the live memory, kept by booting and by every call.
-/

namespace Interactive

/-- A process: how it boots, and how it serves each call. -/
structure Service (signature : Signature) where
  Argument : Type
  Memory : Type
  Call : Type
  Result : Type
  boot : Argument → Program signature (Option Memory)
  serve : Call → Memory → Program signature (Result × Memory)

namespace Service

variable {signature : Signature} {World : Type}

/-- What the process is doing. -/
inductive Phase (service : Service signature) : Type where
  | down : Phase service
  | booting (program : Program signature (Option service.Memory)) :
      Phase service
  | idle (memory : service.Memory) : Phase service
  | serving (call : service.Call)
      (program : Program signature (service.Result × service.Memory)) :
      Phase service

/-- One step of the process, of its environment, or a crash. -/
inductive Step (service : Service signature)
    (environment : Environment signature World) :
    World × service.Phase → World × service.Phase → Prop where
  | start {world : World} (argument : service.Argument) :
      Step service environment (world, .down)
        (world, .booting (service.boot argument))
  | bootAsk {before after : World} {message : signature.Request}
      {reply : signature.Reply message}
      {next : signature.Reply message →
        Program signature (Option service.Memory)} :
      environment.answers before message reply after →
      Step service environment (before, .booting (.ask message next))
        (after, .booting (next reply))
  | booted {world : World} {memory : service.Memory} :
      Step service environment (world, .booting (.done (some memory)))
        (world, .idle memory)
  | refused {world : World} :
      Step service environment (world, .booting (.done none))
        (world, .down)
  | call {world : World} {memory : service.Memory} (call : service.Call) :
      Step service environment (world, .idle memory)
        (world, .serving call (service.serve call memory))
  | serveAsk {before after : World} {call : service.Call}
      {message : signature.Request} {reply : signature.Reply message}
      {next : signature.Reply message →
        Program signature (service.Result × service.Memory)} :
      environment.answers before message reply after →
      Step service environment (before, .serving call (.ask message next))
        (after, .serving call (next reply))
  | served {world : World} {call : service.Call} {result : service.Result}
      {memory : service.Memory} :
      Step service environment
        (world, .serving call (.done (result, memory)))
        (world, .idle memory)
  | crash {world : World} {phase : service.Phase} :
      Step service environment (world, phase) (world, .down)
  | drift {before after : World} {phase : service.Phase} :
      environment.drifts before after →
      Step service environment (before, phase) (after, phase)

/-- The runs of a service between two configurations. -/
def Steps (service : Service signature)
    (environment : Environment signature World) :
    World × service.Phase → World × service.Phase → Prop :=
  Relation.ReflTransGen (Step service environment)

/-- Configurations a service can reach from a world in which it is down. -/
def Reachable (service : Service signature)
    (environment : Environment signature World) (initial : World)
    (configuration : World × service.Phase) : Prop :=
  Steps service environment (initial, .down) configuration

/-- The service without its boots: its runs stay with the memory of one
process. -/
def running (service : Service signature) : Service signature :=
  { service with boot := fun _ => .done none }

/-- Every point of a call is reached from its start. -/
theorem steps_of_runs {service : Service signature}
    {environment : Environment signature World} {call : service.Call}
    {program rest : Program signature (service.Result × service.Memory)}
    {before after : World} {events : List (Event signature)}
    (run : Runs environment program before events rest after) :
    Steps service environment (before, .serving call program)
      (after, .serving call rest) := by
  induction run with
  | here => exact .refl
  | drift moved _ induction => exact .head (.drift moved) induction
  | ask answered _ induction => exact .head (.serveAsk answered) induction

/-- A boot that has returned leads to the idle process. -/
theorem reachable_booted {service : Service signature}
    {environment : Environment signature World} {initial before after : World}
    {argument : service.Argument} {memory : service.Memory}
    {events : List (Event signature)}
    (down : Reachable service environment initial (before, .down))
    (run : Runs environment (service.boot argument) before events
      (.done (some memory)) after) :
    Reachable service environment initial (after, .idle memory) := by
  have booting : ∀ {program rest : Program signature (Option service.Memory)}
      {before after : World} {events : List (Event signature)},
      Runs environment program before events rest after →
      Steps service environment (before, .booting program)
        (after, .booting rest) := by
    intro program rest before after events run
    induction run with
    | here => exact .refl
    | drift moved _ induction => exact .head (.drift moved) induction
    | ask answered _ induction => exact .head (.bootAsk answered) induction
  exact ((down.tail (.start argument)).trans (booting run)).tail .booted

/-- A call that has returned leads back to the idle process. -/
theorem reachable_served {service : Service signature}
    {environment : Environment signature World} {initial before after : World}
    {call : service.Call} {memory reached : service.Memory}
    {result : service.Result} {events : List (Event signature)}
    (idle : Reachable service environment initial (before, .idle memory))
    (run : Runs environment (service.serve call memory) before events
      (.done (result, reached)) after) :
    Reachable service environment initial (after, .idle reached) :=
  ((idle.tail (.call call)).trans (steps_of_runs run)).tail .served

/-- Serve calls one after the other, against a function that answers every
request. -/
def session (service : Service signature)
    (answer : World → (request : signature.Request) →
      signature.Reply request × World) :
    List service.Call → service.Memory → World → service.Memory × World
  | [], memory, world => (memory, world)
  | call :: rest, memory, world =>
      let out := (service.serve call memory).execute answer world
      service.session answer rest out.1.2 out.2

/-- Serve calls one after the other, against a function that may leave a
request unanswered. -/
def attempts (service : Service signature)
    (answer : World → (request : signature.Request) →
      Option (signature.Reply request × World)) :
    List service.Call → service.Memory → World →
      Option (service.Memory × World)
  | [], memory, world => some (memory, world)
  | call :: rest, memory, world =>
      match (service.serve call memory).evaluate answer world with
      | none => none
      | some (out, after) => service.attempts answer rest out.2 after

/-- Boot the process and serve calls. -/
def trial (service : Service signature)
    (answer : World → (request : signature.Request) →
      Option (signature.Reply request × World))
    (argument : service.Argument) (calls : List service.Call)
    (world : World) : Option (service.Memory × World) :=
  match (service.boot argument).evaluate answer world with
  | some (some memory, after) => service.attempts answer calls memory after
  | _ => none

section Trials

variable {service : Service signature}
  {environment : Environment signature World}
  {answer : World → (request : signature.Request) →
    Option (signature.Reply request × World)} {initial before after : World}
  {memory reached : service.Memory} {calls : List service.Call}

theorem reachable_attempts
    (allowed : ∀ world request reply after,
      answer world request = some (reply, after) →
      environment.answers world request reply after)
    (idle : Reachable service environment initial (before, .idle memory))
    (tried : service.attempts answer calls memory before =
      some (reached, after)) :
    Reachable service environment initial (after, .idle reached) := by
  induction calls generalizing memory before with
  | nil =>
      cases tried
      exact idle
  | cons call rest induction =>
      unfold attempts at tried
      split at tried
      · cases tried
      · rename_i out middle evaluated
        obtain ⟨_, run⟩ := Program.runs_evaluate allowed evaluated
        exact induction (reachable_served idle run) tried

theorem reachable_trial {argument : service.Argument}
    (allowed : ∀ world request reply after,
      answer world request = some (reply, after) →
      environment.answers world request reply after)
    (tried : service.trial answer argument calls initial =
      some (reached, after)) :
    Reachable service environment initial (after, .idle reached) := by
  unfold trial at tried
  split at tried
  · rename_i memory middle evaluated
    obtain ⟨_, run⟩ := Program.runs_evaluate allowed evaluated
    exact reachable_attempts allowed (reachable_booted .refl run) tried
  · cases tried

end Trials

/-- `stable` is kept at every point of every run, and `live` relates the
memory to the world whenever the process waits for a call. -/
structure Kept (service : Service signature)
    (environment : Environment signature World) (stable : World → Prop)
    (live : service.Memory → World → Prop)
    (answer : service.Call → service.Result → service.Memory → World → Prop) :
    Prop where
  boot : ∀ argument world, stable world →
    Safe environment stable
      (fun outcome after => ∀ memory, outcome = some memory →
        live memory after)
      (service.boot argument) world
  serve : ∀ call memory world, stable world → live memory world →
    Safe environment stable
      (fun out after => live out.2 after ∧ answer call out.1 out.2 after)
      (service.serve call memory) world
  drift : ∀ before after, stable before →
    environment.drifts before after → stable after
  liveDrift : ∀ memory before after, stable before → live memory before →
    environment.drifts before after → live memory after

namespace Kept

variable {service : Service signature}
  {environment : Environment signature World} {stable : World → Prop}
  {live : service.Memory → World → Prop}
  {answer : service.Call → service.Result → service.Memory → World → Prop}

/-- What a configuration must satisfy in each phase. -/
def PhaseHolds (service : Service signature)
    (environment : Environment signature World) (stable : World → Prop)
    (live : service.Memory → World → Prop)
    (answer : service.Call → service.Result → service.Memory → World → Prop)
    (world : World) : service.Phase → Prop
  | .down => True
  | .booting program =>
      Safe environment stable
        (fun outcome after => ∀ memory, outcome = some memory →
          live memory after) program world
  | .idle memory => live memory world
  | .serving call program =>
      Safe environment stable
        (fun out after => live out.2 after ∧ answer call out.1 out.2 after)
        program world

theorem step (kept : Kept service environment stable live answer)
    {before after : World × service.Phase}
    (step : Step service environment before after)
    (stableBefore : stable before.1)
    (phaseBefore : PhaseHolds service environment stable live answer
      before.1 before.2) :
    stable after.1 ∧
      PhaseHolds service environment stable live answer after.1 after.2 := by
  cases step with
  | start argument => exact ⟨stableBefore, kept.boot argument _ stableBefore⟩
  | bootAsk answered =>
      have continues := (phaseBefore _ .refl).2 _ _ answered
      exact ⟨continues.holds, continues⟩
  | booted =>
      exact ⟨stableBefore, (phaseBefore _ .refl).2 _ rfl⟩
  | refused => exact ⟨stableBefore, trivial⟩
  | call call => exact ⟨stableBefore, kept.serve call _ _ stableBefore phaseBefore⟩
  | serveAsk answered =>
      have continues := (phaseBefore _ .refl).2 _ _ answered
      exact ⟨continues.holds, continues⟩
  | served => exact ⟨stableBefore, (phaseBefore _ .refl).2.1⟩
  | crash => exact ⟨stableBefore, trivial⟩
  | @drift _ _ phase moved =>
      refine ⟨kept.drift _ _ stableBefore moved, ?_⟩
      cases phase with
      | down => trivial
      | booting program => exact Safe.drift phaseBefore (.single moved)
      | idle memory =>
          exact kept.liveDrift memory _ _ stableBefore phaseBefore moved
      | serving call program =>
          exact Safe.drift phaseBefore (.single moved)

/-- Both invariants hold along every run that starts from them. -/
theorem steps (kept : Kept service environment stable live answer)
    {before after : World × service.Phase}
    (steps : Steps service environment before after)
    (stableBefore : stable before.1)
    (phaseBefore : PhaseHolds service environment stable live answer
      before.1 before.2) :
    stable after.1 ∧
      PhaseHolds service environment stable live answer after.1 after.2 := by
  induction steps with
  | refl => exact ⟨stableBefore, phaseBefore⟩
  | tail _ last induction => exact kept.step last induction.1 induction.2

theorem reachable (kept : Kept service environment stable live answer)
    {initial : World} {configuration : World × service.Phase}
    (reached : Reachable service environment initial configuration)
    (stableInitial : stable initial) :
    stable configuration.1 ∧
      PhaseHolds service environment stable live answer
        configuration.1 configuration.2 :=
  kept.steps reached stableInitial trivial

end Kept

end Service

end Interactive

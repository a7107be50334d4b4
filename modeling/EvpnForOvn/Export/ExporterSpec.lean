import EvpnForOvn.Lib.Steady
import EvpnForOvn.Export.Exporter
import EvpnForOvn.Type2.ReconcilerSpec

/-!
# The rule for an exporter call

A call goes through phases: opening, settled on what it has observed, resumed
after the resynchronization, and running its plan; it is halted when an
observation or a read has kept it from going on.  Each phase is an assertion
about the memory of the call and the world.  A client says what its objects do
to the assertions; the rule then gives the whole call, with every early return
in it.
-/

namespace EvpnForOvn.Evpn

open Interactive Go
open Interactive.Method (Leads)

namespace EndpointExporter

/-- The memory of a call that has fenced all later writes. -/
def fencedOff {Outer : Type} (reason : GoError)
    (memory : ExporterMemory Outer) : ExporterMemory Outer :=
  { memory with
    exporter := { memory.exporter with blocked := some reason } }

def reported {Outer : Type} (memory : ExporterMemory Outer) :
    ExporterMemory Outer :=
  { memory with
    result := { memory.result with
      applied := memory.exporter.routes.appliedRoutes } }

section Rules

variable {bgp : BgpPackage} {signature : Signature}
  {Outer World α β : Type} {environment : Environment signature World}
  {stable : World → Prop}
  {fails : GoError → ExporterMemory Outer → World → Prop}
  {parts : ExporterParts bgp signature Outer}
  {memory : ExporterMemory Outer} {world : World}

/-- An assertion a call can stop at. -/
structure Resting (environment : Environment signature World)
    (stable : World → Prop)
    (fails : GoError → ExporterMemory Outer → World → Prop)
    (assertion : ExporterMemory Outer → World → Prop) : Prop where
  drift : ∀ memory before after, assertion memory before →
    environment.drifts before after → assertion memory after
  holds : ∀ memory world, assertion memory world → stable world
  failed : ∀ memory world reason, assertion memory world →
    fails reason memory world
  blocked : ∀ memory world reason, assertion memory world →
    fails reason (fencedOff reason memory) world

namespace Resting

variable {assertion : ExporterMemory Outer → World → Prop}
  {next : α → ExporterMemory Outer → World → Prop}

theorem drifted (resting : Resting environment stable fails assertion)
    (here : assertion memory world) {later : World}
    (moved : environment.Drift world later) : assertion memory later := by
  induction moved with
  | refl => exact here
  | tail _ step induction => exact resting.drift memory _ _ induction step

theorem throws (resting : Resting environment stable fails assertion)
    (here : assertion memory world) (reason : GoError) :
    Method.Safe environment stable (Leads next fails) (throw reason) memory
      world := by
  intro later moved
  have there := resting.drifted here moved
  exact ⟨resting.holds _ _ there, resting.failed _ _ reason there⟩

theorem blocks (resting : Resting environment stable fails assertion)
    (here : assertion memory world) (reason : GoError) :
    Method.Safe environment stable (Leads next fails) (block reason) memory
      world := by
  intro later moved
  have there := resting.drifted here moved
  exact ⟨resting.holds _ _ there, resting.blocked _ _ reason there⟩

theorem returns (resting : Resting environment stable fails assertion)
    (here : assertion memory world) :
    Method.Safe environment stable (Leads (fun _ => assertion) fails)
      (pure ()) memory world := by
  intro later moved
  have there := resting.drifted here moved
  exact ⟨resting.holds _ _ there, there⟩

/-- Return early when the speaker is recoverable, fence off when it is not. -/
theorem fails_or_blocks
    (resting : Resting environment stable fails assertion)
    (here : assertion memory world) (reason other : GoError) :
    Method.Safe environment stable (Leads next fails)
      (if parts.recovery.isSome then throw reason else block other) memory
      world := by
  cases parts.recovery with
  | some recover => exact resting.throws here reason
  | none => exact resting.blocks here other

end Resting

/-- A check whose outcome the caller inspects, from an assertion it keeps. -/
theorem attempt_beyond_bind {value : Type}
    {method : Method signature GoError Outer value}
    (passed failed : ExporterMemory Outer → World → Prop)
    {next : α → ExporterMemory Outer → World → Prop}
    {continuation : Except GoError value →
      Method signature GoError (ExporterMemory Outer) α}
    (safe : Method.Safe environment stable
      (fun outcome outer after => Leads (fun _ => passed) (fun _ => failed)
        outcome { memory with outer := outer } after)
      method memory.outer world)
    (succeeds : ∀ result memory after, stable after → passed memory after →
      Method.Safe environment stable (Leads next fails)
        (continuation (.ok result)) memory after)
    (stops : ∀ reason memory after, stable after → failed memory after →
      Method.Safe environment stable (Leads next fails)
        (continuation (.error reason)) memory after) :
    Method.Safe environment stable (Leads next fails)
      (Method.attempt (beyond method) >>= continuation) memory world := by
  have called : Method.Safe environment stable
      (Leads (fun _ => passed) (fun _ => failed)) (beyond method) memory
      world := Method.Safe.onPart safe
  apply called.attempt_bind
  intro outcome reached after stableAfter posted
  cases outcome with
  | ok result => exact succeeds result reached after stableAfter posted
  | error reason => exact stops reason reached after stableAfter posted

/-- A call that leaves its caller where it was, whatever it returns. -/
def Keeps (environment : Environment signature World) (stable : World → Prop)
    (assertion : ExporterMemory Outer → World → Prop)
    (method : Method signature GoError Outer α) : Prop :=
  ∀ memory world, assertion memory world →
    Method.Safe environment stable
      (fun _ outer after => assertion { memory with outer := outer } after)
      method memory.outer world

theorem Keeps.attempt_bind {value : Type}
    {method : Method signature GoError Outer value}
    {assertion : ExporterMemory Outer → World → Prop}
    {next : α → ExporterMemory Outer → World → Prop}
    {continuation : Except GoError value →
      Method signature GoError (ExporterMemory Outer) α}
    (keeps : Keeps environment stable assertion method)
    (here : assertion memory world)
    (continues : ∀ outcome memory after, assertion memory after →
      Method.Safe environment stable (Leads next fails)
        (continuation outcome) memory after) :
    Method.Safe environment stable (Leads next fails)
      (Method.attempt (beyond method) >>= continuation) memory world := by
  have called : Method.Safe environment stable
      (fun _ memory after => assertion memory after)
      (beyond method) memory world :=
    Method.Safe.onPart (keeps memory world here)
  apply called.attempt_bind
  intro outcome reached after _ there
  exact continues outcome reached after there

section Checks

variable {settled : ExporterMemory Outer → World → Prop}
  (resting : Resting environment stable fails settled)
  (continuous : ∀ continuity, parts.continuity = some continuity →
    Keeps environment stable settled continuity)

include resting continuous

theorem checkContinuity_safe (here : settled memory world) :
    Method.Safe environment stable (Leads (fun _ => settled) fails)
      (checkContinuity parts) memory world := by
  unfold checkContinuity
  cases given : parts.continuity with
  | none => exact resting.returns here
  | some continuity =>
      apply Method.safe_get_bind.mpr
      cases initialized : memory.exporter.initialized with
      | false => exact resting.returns here
      | true =>
          apply (continuous continuity given).attempt_bind here
          intro outcome reached after there
          cases outcome with
          | ok value => exact resting.returns there
          | error reason => exact resting.fails_or_blocks there _ _

theorem checkGate_safe {gate : Method signature GoError Outer Unit}
    (gated : Keeps environment stable settled gate)
    (here : settled memory world) :
    Method.Safe environment stable (Leads (fun _ => settled) fails)
      (checkGate parts gate) memory world := by
  apply gated.attempt_bind here
  intro outcome reached after there
  cases outcome with
  | ok value => exact resting.returns there
  | error reason =>
      cases recovery : parts.recovery with
      | some recover => exact resting.throws there reason
      | none =>
          apply Method.safe_get_bind.mpr
          cases empty : reached.result.applied.isEmpty with
          | true => exact resting.throws there reason
          | false =>
              simp only [Bool.false_eq_true, if_false]
              cases given : parts.continuity with
              | none => exact resting.blocks there _
              | some continuity =>
                  apply (continuous continuity given).attempt_bind there
                  intro again reachedAgain later thereAgain
                  cases again with
                  | ok value => exact resting.throws thereAgain reason
                  | error _ => exact resting.blocks thereAgain _

theorem verifyContinuity_safe (here : settled memory world) :
    Method.Safe environment stable (Leads (fun _ => settled) fails)
      (verifyContinuity parts) memory world := by
  unfold verifyContinuity
  cases given : parts.continuity with
  | none => exact resting.returns here
  | some continuity =>
      apply (continuous continuity given).attempt_bind here
      intro outcome reached after there
      cases outcome with
      | ok value => exact resting.returns there
      | error reason => exact resting.throws there _

end Checks

/-- The objects before each mutation, and what their success gives. -/
structure FenceKept (environment : Environment signature World)
    (stable : World → Prop) (parts : ExporterParts bgp signature Outer)
    (gate : Method signature GoError Outer Unit)
    (running gated fenced : ExporterMemory Outer → World → Prop) : Prop where
  gate : ∀ memory world, running memory world →
    Method.Safe environment stable
      (fun outcome outer after => Leads (fun _ => gated) (fun _ => running)
        outcome { memory with outer := outer } after)
      gate memory.outer world
  continuity : ∀ continuity, parts.continuity = some continuity →
    ∀ memory world, gated memory world →
    Method.Safe environment stable
      (fun outcome outer after => Leads (fun _ => fenced) (fun _ => running)
        outcome { memory with outer := outer } after)
      continuity memory.outer world
  recheck : ∀ continuity, parts.continuity = some continuity →
    Keeps environment stable running continuity
  unchecked : parts.continuity = none → ∀ memory world,
    gated memory world → fenced memory world

section Mutations

variable {running gated fenced : ExporterMemory Outer → World → Prop}
  {gate : Method signature GoError Outer Unit}
  (restingRunning : Resting environment stable fails running)
  (restingGated : Resting environment stable fails gated)
  (restingFenced : Resting environment stable fails fenced)
  (kept : FenceKept environment stable parts gate running gated fenced)

include restingRunning kept

include restingGated in
theorem fenceGate_safe (here : running memory world) :
    Method.Safe environment stable (Leads (fun _ => gated) fails)
      (fenceGate parts gate) memory world := by
  apply attempt_beyond_bind gated running (kept.gate memory world here)
  · intro _ reached after _ there
    exact restingGated.returns there
  · intro reason reached after _ there
    cases recovery : parts.recovery with
    | some recover => exact restingRunning.throws there reason
    | none =>
        simp only [Option.isSome_none, Bool.false_eq_true, if_false]
        cases given : parts.continuity with
        | none => exact restingRunning.blocks there _
        | some continuity =>
            apply (kept.recheck continuity given).attempt_bind there
            intro again reachedAgain later thereAgain
            cases again with
            | ok value => exact restingRunning.throws thereAgain _
            | error _ =>
                exact restingRunning.blocks thereAgain _

include restingFenced in
theorem fenceContinuity_safe (here : gated memory world) :
    Method.Safe environment stable (Leads (fun _ => fenced) fails)
      (fenceContinuity parts) memory world := by
  unfold fenceContinuity
  cases given : parts.continuity with
  | none =>
      exact restingFenced.returns (kept.unchecked given memory world here)
  | some continuity =>
      apply attempt_beyond_bind fenced running
        (kept.continuity continuity given memory world here)
      · intro _ reached after _ there
        exact restingFenced.returns there
      · intro reason reached after _ there
        exact restingRunning.fails_or_blocks there _ _

include restingGated restingFenced

theorem mutate_safe {applier : Type2RouteApplier bgp signature Outer}
    {delta : Type2Route bgp}
    (applies : ∀ memory world, fenced memory world →
      Method.Safe environment stable
        (fun _ part after => running
          (reported { memory with
            exporter := { memory.exporter with reconciler := some part.1 }
            outer := part.2 }) after)
        (RouteReconciler.apply parts.context delta (some applier))
        (memory.exporter.routes, memory.outer) world)
    (here : running memory world) :
    Method.Safe environment stable (Leads (fun _ => running) fails)
      (mutate parts gate applier delta) memory world := by
  apply Method.Safe.leads_bind (fenceGate_safe restingRunning restingGated kept here)
  intro _ memory world _ here
  apply Method.Safe.leads_bind
    (fenceContinuity_safe restingRunning restingFenced kept here)
  intro _ memory world _ here
  have called : Method.Safe environment stable
      (fun _ memory after => running (reported memory) after)
      (onReconciler
        (RouteReconciler.apply parts.context delta (some applier)))
      memory world := Method.Safe.onPart (applies memory world here)
  apply called.attempt_bind
  intro outcome reached after _ there
  apply Method.safe_modify_bind.mpr
  cases outcome with
  | ok value => exact restingRunning.returns there
  | error reason => exact restingRunning.throws there reason

theorem mutations_safe {applier : Type2RouteApplier bgp signature Outer}
    {deltas : List (Type2Route bgp)}
    (applies : ∀ delta ∈ deltas, ∀ memory world, fenced memory world →
      Method.Safe environment stable
        (fun _ part after => running
          (reported { memory with
            exporter := { memory.exporter with reconciler := some part.1 }
            outer := part.2 }) after)
        (RouteReconciler.apply parts.context delta (some applier))
        (memory.exporter.routes, memory.outer) world)
    (here : running memory world) :
    Method.Safe environment stable (Leads (fun _ => running) fails)
      (Method.each (mutate parts gate applier) deltas) memory world := by
  apply Method.Safe.each running here
  · intro delta member memory world _ here
    apply (mutate_safe restingRunning restingGated restingFenced kept
      (applies delta member) here).weaken
    intro outcome reached after _ posted
    cases outcome with
    | ok value => exact posted
    | error reason => exact posted
  · intro memory world _ here
    exact restingRunning.returns here
  · exact restingRunning.holds memory world here

end Mutations

/-- What the objects of a call have to do for its phases. -/
structure CallKept (environment : Environment signature World)
    (stable : World → Prop)
    (fails : GoError → ExporterMemory Outer → World → Prop)
    (parts : ExporterParts bgp signature Outer)
    (opening halted : ExporterMemory Outer → World → Prop)
    (settled resumed : List LocalEndpoint → ExporterMemory Outer → World →
      Prop)
    (running gated fenced : ExporterMemory Outer → World → Prop) :
    Prop where
  restingOpening : Resting environment stable fails opening
  restingHalted : Resting environment stable fails halted
  restingSettled : ∀ desired,
    Resting environment stable fails (settled desired)
  restingRunning : Resting environment stable fails running
  restingGated : Resting environment stable fails gated
  restingFenced : Resting environment stable fails fenced
  observes : ∀ observer, parts.observer = some observer →
    ∀ memory world, opening memory world →
    Method.Safe environment stable
      (fun outcome outer after => match outcome with
        | .error _ => halted { memory with outer := outer } after
        | .ok desired =>
            halted { memory with
              result := { memory.result with desired := desired }
              outer := outer } after ∧
            (checkObserved bgp desired = .ok () → parts.dryRun = false →
              settled desired { memory with
                result := { memory.result with desired := desired }
                outer := outer } after))
      observer memory.outer world
  checksContinuity : ∀ desired continuity,
    parts.continuity = some continuity →
    Keeps environment stable (settled desired) continuity
  checksGate : ∀ desired gate, parts.gate = some gate →
    Keeps environment stable (settled desired) gate
  resynchronizes : ∀ desired source, parts.source = some source →
    ∀ memory world, settled desired memory world →
    Method.Safe environment stable (Leads (fun _ => resumed desired) fails)
      (resynchronize parts source) memory world
  verifies : ∀ desired source, parts.source = some source →
    ∀ memory world, resumed desired memory world →
    Method.Safe environment stable
      (fun outcome outer after =>
        halted { memory with outer := outer } after ∧
        ∀ paths, outcome = .ok paths →
          (memory.result.applied.all fun owned => paths.any fun path =>
            path.isLocal &&
              ribPathMatchesEndpoint bgp path owned.endpoint) = true →
          running { memory with outer := outer } after)
      source.snapshot memory.outer world
  plans : ∀ desired memory world, running memory world →
    running { memory with
      exporter := { memory.exporter with
        reconciler := some
          (RouteReconciler.reconcile bgp desired memory.exporter.routes).2 } }
      world
  fence : ∀ gate, parts.gate = some gate →
    FenceKept environment stable parts gate running gated fenced
  applies : ∀ applier, parts.applier = some applier → ∀ delta,
    ∀ memory world, fenced memory world →
    Method.Safe environment stable
      (fun _ part after => running
        (reported { memory with
          exporter := { memory.exporter with reconciler := some part.1 }
          outer := part.2 }) after)
      (RouteReconciler.apply parts.context delta (some applier))
      (memory.exporter.routes, memory.outer) world
  reports : ∀ memory world, running memory world →
    running (reported memory) world

namespace CallKept

variable
  {opening halted running gated fenced : ExporterMemory Outer → World → Prop}
  {settled resumed : List LocalEndpoint → ExporterMemory Outer → World →
    Prop}
  (kept : CallKept environment stable fails parts opening halted settled
    resumed running gated fenced)

include kept

theorem observe_safe (here : opening memory world) :
    Method.Safe environment stable
      (Leads (fun desired memory after => halted memory after ∧
        (parts.dryRun = false → settled desired memory after)) fails)
      (observe bgp parts.observer) memory world := by
  apply Method.Safe.require_bind
  · intro _
    exact kept.restingOpening.throws here _
  · intro observer given
    have called : Method.Safe environment stable
        (fun outcome reached after => match outcome with
          | .error _ => halted reached after
          | .ok desired =>
              halted { reached with
                result := { reached.result with desired := desired } }
                after ∧
              (checkObserved bgp desired = .ok () → parts.dryRun = false →
                settled desired { reached with
                  result := { reached.result with desired := desired } }
                  after))
        (beyond observer) memory world :=
      Method.Safe.onPart (kept.observes observer given memory world here)
    apply called.attempt_bind_settled
    intro outcome reached after drifted
    cases outcome with
    | error reason =>
        exact kept.restingHalted.throws (drifted after .refl).2 _
    | ok desired =>
        apply Method.safe_modify_bind.mpr
        apply Method.Safe.check_bind
        · intro reason _
          exact kept.restingHalted.throws (drifted after .refl).2.1 reason
        · intro _ valid later moved
          obtain ⟨stableLater, stopped, settles⟩ := drifted later moved
          exact ⟨stableLater, stopped, settles valid⟩

theorem verifyApplied_safe {desired : List LocalEndpoint}
    {source : Type2RIBSource bgp signature Outer}
    (given : parts.source = some source)
    (here : resumed desired memory world) :
    Method.Safe environment stable (Leads (fun _ => running) fails)
      (verifyApplied source) memory world := by
  have called : Method.Safe environment stable
      (fun outcome reached after =>
        halted reached after ∧
        ∀ paths, outcome = .ok paths →
          (reached.result.applied.all fun owned => paths.any fun path =>
            path.isLocal &&
              ribPathMatchesEndpoint bgp path owned.endpoint) = true →
          running reached after)
      (beyond source.snapshot) memory world :=
    Method.Safe.onPart (kept.verifies desired source given memory world here)
  apply called.attempt_bind
  intro outcome reached after _ posted
  cases outcome with
  | error reason =>
      exact kept.restingHalted.throws posted.1 _
  | ok paths =>
      apply Method.safe_get_bind.mpr
      cases found : reached.result.applied.all fun owned =>
          paths.any fun path => path.isLocal &&
            ribPathMatchesEndpoint bgp path owned.endpoint with
      | true =>
          exact kept.restingRunning.returns (posted.2 paths rfl found)
      | false => exact kept.restingHalted.blocks posted.1 _

theorem exportDesired_safe {desired : List LocalEndpoint}
    (here : settled desired memory world) :
    Method.Safe environment stable (Leads (fun _ => running) fails)
      (exportDesired parts desired) memory world := by
  have resting := kept.restingSettled desired
  have continuous := kept.checksContinuity desired
  apply Method.Safe.require_bind (fun _ => resting.throws here _)
  intro gate gateGiven
  apply Method.Safe.require_bind (fun _ => resting.throws here _)
  intro source sourceGiven
  apply Method.Safe.require_bind (fun _ => resting.throws here _)
  intro applier applierGiven
  apply Method.Safe.leads_bind (checkContinuity_safe resting continuous here)
  intro _ memory world _ here
  apply Method.Safe.leads_bind (checkGate_safe resting continuous
    (kept.checksGate desired gate gateGiven) here)
  intro _ memory world _ here
  apply Method.Safe.leads_bind (verifyContinuity_safe resting continuous here)
  intro _ memory world _ here
  apply Method.Safe.leads_bind
    (kept.resynchronizes desired source sourceGiven memory world here)
  intro _ memory world _ here
  apply Method.Safe.leads_bind (kept.verifyApplied_safe sourceGiven here)
  intro _ memory world _ here
  have planned := kept.plans desired memory world here
  have planning : Method.Safe environment stable
      (Leads (fun _ => running) fails)
      (onReconciler (RouteReconciler.planning bgp desired)) memory world := by
    apply Method.Safe.onPart
    apply Method.safe_get_bind.mpr
    apply Method.safe_modify_bind.mpr
    intro later moved
    have there := kept.restingRunning.drifted planned moved
    refine ⟨kept.restingRunning.holds _ _ there, ?_⟩
    cases (RouteReconciler.reconcile bgp desired
        memory.exporter.routes).1 with
    | ok deltas => exact there
    | error reason => exact kept.restingRunning.failed _ _ reason there
  apply Method.Safe.leads_bind planning
  intro deltas memory world _ here
  apply Method.Safe.leads_bind (mutations_safe kept.restingRunning kept.restingGated
    kept.restingFenced (kept.fence gate gateGiven)
    (fun delta _ => kept.applies applier applierGiven delta) here)
  intro _ memory world _ here
  exact kept.restingRunning.returns (kept.reports memory world here)

theorem body_safe {post : Except GoError Unit → ExporterMemory Outer →
      World → Prop}
    (opens : opening (reported { memory with
      exporter := { memory.exporter with
        reconciler := some memory.exporter.routes } }) world)
    (failed : ∀ reason memory after, stable after →
      fails reason memory after → post (.error reason) memory after)
    (dry : ∀ memory after, stable after → parts.dryRun = true →
      halted memory after → post (.ok ()) memory after)
    (ran : ∀ memory after, stable after → running memory after →
      post (.ok ()) memory after) :
    Method.Safe environment stable post (body parts) memory world := by
  apply Method.safe_modify_bind.mpr
  apply Method.safe_modify_bind.mpr
  apply Method.safe_get_bind.mpr
  refine Method.Safe.weaken (?_ : Method.Safe environment stable
    (Leads (fun _ memory after => post (.ok ()) memory after) fails) _
    (reported { memory with
      exporter := { memory.exporter with
        reconciler := some memory.exporter.routes } }) world) ?_
  · cases memory.exporter.blocked with
    | some reason => exact kept.restingOpening.throws opens reason
    | none =>
        apply Method.Safe.leads_bind (kept.observe_safe opens)
        intro desired reached after _ observed
        cases dryRun : parts.dryRun with
        | true =>
            apply (kept.restingHalted.returns observed.1).weaken
            intro outcome final later stableLater posted
            cases outcome with
            | ok value => exact dry final later stableLater dryRun posted
            | error reason => exact posted
        | false =>
            apply (kept.exportDesired_safe (observed.2 dryRun)).weaken
            intro outcome final later stableLater posted
            cases outcome with
            | ok value => exact ran final later stableLater posted
            | error reason => exact posted
  · intro outcome final after stableAfter posted
    cases outcome with
    | ok value => exact posted
    | error reason => exact failed reason final after stableAfter posted

end CallKept

/-- The deferred function turns the memory into the result. -/
theorem reconcile_safe {exporter : EndpointExporter} {outer : Outer}
    {final : (ExportResult × Except GoError Unit) ×
      (EndpointExporter × Outer) → World → Prop}
    (safe : ∀ result, Method.Safe environment stable
      (fun outcome memory after => final
        ((deferred parts outcome memory, outcome),
          (memory.exporter, memory.outer)) after)
      (body parts) ⟨exporter, result, outer⟩ world) :
    Interactive.Safe environment stable final
      (reconcile parts exporter outer) world := by
  apply Interactive.Safe.bind_settled (safe _)
  intro out after settled
  exact settled

end Rules

end EndpointExporter

end EvpnForOvn.Evpn

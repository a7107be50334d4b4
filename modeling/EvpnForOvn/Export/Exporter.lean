import EvpnForOvn.Type2.Reconciler

/-!
# The endpoint exporter

`Reconcile` observes the desired endpoints, checks the speaker, resynchronizes
the reconciler and applies its plan one delta at a time, with the speaker
checked again before each of them.  The objects it calls have a memory of
their own and are optional where the source tests for nil.
-/

namespace EvpnForOvn.Evpn

open Interactive Go

structure ExportResult where
  desired : List LocalEndpoint
  applied : List OwnedType2Route
  dryRun : Bool
  ownershipUnverified : Bool
  recoveryState : String

/-- The unexported fields: what an exporter remembers between calls. -/
structure EndpointExporter where
  reconciler : Option RouteReconciler
  initialized : Bool
  blocked : Option GoError

def newEndpointExporter : EndpointExporter :=
  { reconciler := none
    initialized := false
    blocked := none }

/-- The exported fields, by the methods the exporter calls on them. -/
structure ExporterParts (bgp : BgpPackage) (signature : Signature)
    (Outer : Type) where
  context : Context signature
  observer : Option (Method signature GoError Outer (List LocalEndpoint))
  gate : Option (Method signature GoError Outer Unit)
  continuity : Option (Method signature GoError Outer Unit)
  source : Option (Type2RIBSource bgp signature Outer)
  applier : Option (Type2RouteApplier bgp signature Outer)
  dryRun : Bool
  /-- `Recover` of the export recovery. -/
  recovery : Option (Method signature GoError Outer (List OwnedType2Route))

/-- A call in progress: the exporter, its named result, and the memory of the
objects it calls. -/
structure ExporterMemory (Outer : Type) where
  exporter : EndpointExporter
  result : ExportResult
  outer : Outer

namespace EndpointExporter

/-- The reconciler, made on first use. -/
def routes (exporter : EndpointExporter) : RouteReconciler :=
  exporter.reconciler.getD newRouteReconciler

section Methods

variable {bgp : BgpPackage} {signature : Signature} {Outer α : Type}

def beyond (method : Method signature GoError Outer α) :
    Method signature GoError (ExporterMemory Outer) α :=
  Method.onPart ExporterMemory.outer
    (fun outer memory => { memory with outer := outer }) method

def onReconciler
    (method : Method signature GoError (RouteReconciler × Outer) α) :
    Method signature GoError (ExporterMemory Outer) α :=
  Method.onPart (fun memory => (memory.exporter.routes, memory.outer))
    (fun part memory =>
      { memory with
        exporter := { memory.exporter with reconciler := some part.1 }
        outer := part.2 }) method

/-- Fence all later writes. -/
def block (reason : GoError) :
    Method signature GoError (ExporterMemory Outer) α := do
  modify fun memory =>
    { memory with
      exporter := { memory.exporter with blocked := some reason } }
  throw reason

/-- `result.Applied = e.reconciler.AppliedRoutes()` -/
def report : Method signature GoError (ExporterMemory Outer) Unit :=
  modify fun memory =>
    { memory with
      result := { memory.result with
        applied := memory.exporter.routes.appliedRoutes } }

def markInitialized :
    Method signature GoError (ExporterMemory Outer) Unit :=
  modify fun memory =>
    { memory with
      exporter := { memory.exporter with initialized := true } }

/-- The first endpoint without a route fails the call. -/
def checkObserved (bgp : BgpPackage) :
    List LocalEndpoint → Except GoError Unit
  | [] => .ok ()
  | endpoint :: rest =>
      match buildType2Route bgp endpoint with
      | .error reason =>
          .error (.extend "invalid observed endpoint: " "" reason)
      | .ok _ => checkObserved bgp rest

def observe (bgp : BgpPackage)
    (observer : Option (Method signature GoError Outer
      (List LocalEndpoint))) :
    Method signature GoError (ExporterMemory Outer)
      (List LocalEndpoint) := do
  let observer ← Method.require observer
    (.new "endpoint observer required" "")
  match ← Method.attempt (beyond observer) with
  | .error reason =>
      throw (.extend
        "endpoint observation failed; retaining applied routes: " "" reason)
  | .ok desired => do
      modify fun memory =>
        { memory with result := { memory.result with desired := desired } }
      Method.check (checkObserved bgp desired)
      return desired

variable (parts : ExporterParts bgp signature Outer)

/-- Once initialized, the speaker must still be the one that was verified. -/
def checkContinuity :
    Method signature GoError (ExporterMemory Outer) Unit :=
  match parts.continuity with
  | none => pure ()
  | some continuity => do
      let memory ← get
      if memory.exporter.initialized then
        match ← Method.attempt (beyond continuity) with
        | .ok _ => pure ()
        | .error reason =>
            if parts.recovery.isSome then
              throw (.extend
                "RECOVERY_BLOCKED: speaker re-attestation required: " ""
                reason)
            else
              block (.extend "speaker continuity lost; no writes: " ""
                reason)
      else pure ()

/-- The gate at the start of a call. -/
def checkGate (gate : Method signature GoError Outer Unit) :
    Method signature GoError (ExporterMemory Outer) Unit := do
  match ← Method.attempt (beyond gate) with
  | .ok _ => pure ()
  | .error reason =>
      if parts.recovery.isSome then throw reason
      else do
        let memory ← get
        if memory.result.applied.isEmpty then throw reason
        else
          match parts.continuity with
          | none =>
              block (.extend
                "speaker continuity lost; restart/resync required: " ""
                reason)
          | some continuity => do
              match ← Method.attempt (beyond continuity) with
              | .ok _ => throw reason
              | .error _ =>
                  block (.extend
                    "speaker continuity lost; restart/resync required: " ""
                    reason)

/-- The continuity check after the gate. -/
def verifyContinuity :
    Method signature GoError (ExporterMemory Outer) Unit :=
  match parts.continuity with
  | none => pure ()
  | some continuity => do
      match ← Method.attempt (beyond continuity) with
      | .ok _ => pure ()
      | .error reason =>
          throw (.extend "speaker continuity unverified; no writes: " ""
            reason)

def resynchronize (source : Type2RIBSource bgp signature Outer) :
    Method signature GoError (ExporterMemory Outer) Unit :=
  match parts.recovery with
  | some recover => do
      let receipts ← beyond recover
      onReconciler
        (RouteReconciler.resyncDurable parts.context source receipts)
      report
      markInitialized
  | none => do
      let memory ← get
      if memory.exporter.initialized then pure ()
      else do
        onReconciler
          (RouteReconciler.resync parts.context (some source) [])
        markInitialized

/-- Every applied route must still be in the RIB. -/
def verifyApplied (source : Type2RIBSource bgp signature Outer) :
    Method signature GoError (ExporterMemory Outer) Unit := do
  match ← Method.attempt (beyond source.snapshot) with
  | .error reason =>
      throw (.extend "RIB unavailable; no writes: " "" reason)
  | .ok paths => do
      let memory ← get
      if memory.result.applied.all (fun owned => paths.any fun path =>
          path.isLocal && ribPathMatchesEndpoint bgp path owned.endpoint) then
        pure ()
      else
        block (.wrap .routeResyncRequired
          ("confirmed path disappeared; possible speaker restart, " ++
            "no writes"))

/-- The gate before each mutation. -/
def fenceGate (gate : Method signature GoError Outer Unit) :
    Method signature GoError (ExporterMemory Outer) Unit := do
  match ← Method.attempt (beyond gate) with
  | .ok _ => pure ()
  | .error reason =>
      if parts.recovery.isSome then throw reason
      else
        match parts.continuity with
        | none =>
            block (.extend "speaker readiness lost before mutation: " ""
              reason)
        | some continuity => do
            match ← Method.attempt (beyond continuity) with
            | .ok _ =>
                throw (.extend
                  "speaker readiness uncertain; writes frozen: " "" reason)
            | .error _ =>
                block (.extend "speaker readiness lost before mutation: " ""
                  reason)

/-- The continuity check before each mutation. -/
def fenceContinuity :
    Method signature GoError (ExporterMemory Outer) Unit :=
  match parts.continuity with
  | none => pure ()
  | some continuity => do
      match ← Method.attempt (beyond continuity) with
      | .ok _ => pure ()
      | .error reason =>
          if parts.recovery.isSome then throw reason
          else
            block (.extend "speaker continuity lost before mutation: " ""
              reason)

/-- One delta of the plan. -/
def mutate (gate : Method signature GoError Outer Unit)
    (applier : Type2RouteApplier bgp signature Outer)
    (delta : Type2Route bgp) :
    Method signature GoError (ExporterMemory Outer) Unit := do
  fenceGate parts gate
  fenceContinuity parts
  let outcome ← Method.attempt (onReconciler
    (RouteReconciler.apply parts.context delta (some applier)))
  report
  Method.check outcome

/-- What follows the observation in a live call. -/
def exportDesired (desired : List LocalEndpoint) :
    Method signature GoError (ExporterMemory Outer) Unit := do
  let gate ← Method.require parts.gate
    (.new "speaker readiness, RIB source and applier required" "")
  let source ← Method.require parts.source
    (.new "speaker readiness, RIB source and applier required" "")
  let applier ← Method.require parts.applier
    (.new "speaker readiness, RIB source and applier required" "")
  checkContinuity parts
  checkGate parts gate
  verifyContinuity parts
  resynchronize parts source
  verifyApplied source
  let deltas ← onReconciler (RouteReconciler.planning bgp desired)
  Method.each (mutate parts gate applier) deltas
  report

/-- The body of `reconcile`, without its deferred function. -/
def body : Method signature GoError (ExporterMemory Outer) Unit := do
  modify fun memory =>
    { memory with
      exporter := { memory.exporter with
        reconciler := some memory.exporter.routes } }
  report
  let memory ← get
  match memory.exporter.blocked with
  | some reason => throw reason
  | none => do
      let desired ← observe bgp parts.observer
      if parts.dryRun then pure () else exportDesired parts desired

def deferred (outcome : Except GoError Unit) (memory : ExporterMemory Outer) :
    ExportResult :=
  let unverified := memory.exporter.blocked.isSome || !outcome.isOk
  { memory.result with
    ownershipUnverified := unverified
    recoveryState :=
      if parts.recovery.isSome then
        if unverified then "RECOVERY_BLOCKED" else "RUNNING"
      else "" }

/-- `reconcile` returns its result next to its error. -/
def reconcile (exporter : EndpointExporter) (outer : Outer) :
    Program signature
      ((ExportResult × Except GoError Unit) × (EndpointExporter × Outer)) :=
  (body parts).start
      { exporter := exporter
        result :=
          { desired := []
            applied := []
            dryRun := parts.dryRun
            ownershipUnverified := false
            recoveryState := "" }
        outer := outer } >>= fun out =>
    .done ((deferred parts out.1 out.2, out.1),
      (out.2.exporter, out.2.outer))

/-- The endpoints `DrainNetworks` keeps. -/
def retained (networks : List String) (exporter : EndpointExporter) :
    List LocalEndpoint :=
  match exporter.reconciler with
  | none => []
  | some reconciler =>
      (reconciler.appliedRoutes.map (·.endpoint)).filter fun endpoint =>
        !networks.contains endpoint.networkID

/-- `DrainNetworks` observes what is applied outside the networks. -/
def drainNetworks (networks : List String) (exporter : EndpointExporter)
    (outer : Outer) :
    Program signature
      ((ExportResult × Except GoError Unit) × (EndpointExporter × Outer)) :=
  reconcile
    { parts with observer := some (pure (exporter.retained networks)) }
    exporter outer

end Methods

end EndpointExporter

end EvpnForOvn.Evpn

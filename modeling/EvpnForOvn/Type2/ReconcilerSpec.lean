import EvpnForOvn.Type2.Reconciler

/-!
# Specifications of the reconciler's methods

Rules for `Apply` and the two resynchronizations over any source, applier and
context.  A caller gives what it knows of the three and gets the whole method;
nothing here says what the applier does.
-/

namespace EvpnForOvn.Evpn

open Interactive Go

namespace RouteReconciler

variable {bgp : BgpPackage} {signature : Signature} {Outer World : Type}
  {environment : Environment signature World} {stable : World → Prop}
  {context : Context signature}
  {post : Except GoError Unit → RouteReconciler × Outer → World → Prop}
  {memory : RouteReconciler × Outer} {world : World}

/-- A delta of the current plan of a synchronized reconciler. -/
structure Current (reconciler : RouteReconciler) (delta : Type2Route bgp)
    (address : Nat) (operation : RouteOperation) : Prop where
  synchronized : reconciler.synchronized = true
  addressed : delta.operation = some address
  pending : address ∈ reconciler.pending
  found : reconciler.operations[address]? = some operation

/-- Why `Apply` refuses a delta before it looks at the context. -/
inductive DeltaRefused (reconciler : RouteReconciler)
    (delta : Type2Route bgp)
    (api : Option (Type2RouteApplier bgp signature Outer)) :
    GoError → Prop where
  | unsynchronized :
      reconciler.synchronized = false →
      DeltaRefused reconciler delta api (.plain .routeResyncRequired)
  | stale :
      reconciler.synchronized = true →
      (∀ address operation, ¬Current reconciler delta address operation) →
      DeltaRefused reconciler delta api (.plain .staleRouteOperation)
  | noApplier :
      api = none →
      DeltaRefused reconciler delta api
        (.new "route applier is required" "")

/-- Why `Apply` refuses a pending operation. -/
inductive OperationRefused (bgp : BgpPackage) (reconciler : RouteReconciler)
    (operation : RouteOperation) : GoError → Prop where
  | order :
      operation.action = .advertise →
      (reconciler.applied.get operation.wireKey).isSome = true →
      OperationRefused bgp reconciler operation (.plain .routeOrder)
  | invalid {reason : GoError} :
      operation.action = .advertise →
      buildType2Route bgp operation.endpoint = .error reason →
      OperationRefused bgp reconciler operation reason
  | stale :
      operation.action = .withdraw →
      (∀ current,
        reconciler.applied.get operation.wireKey = some current →
        ¬(current.pathUUID = operation.pathUUID ∧
          current.endpoint.equivalent operation.endpoint = true)) →
      OperationRefused bgp reconciler operation (.plain .staleRouteOperation)

/-- What `Apply` makes of the outcome of `Add`. -/
def afterAdd (reconciler : RouteReconciler) (address : Nat)
    (operation : RouteOperation) :
    Except GoError String → Except GoError Unit × RouteReconciler
  | .error reason =>
      (.error (advertiseFailed operation reason), reconciler)
  | .ok id =>
      if id = "" then
        (.error (.wrap .routeOwnership "AddPath returned no UUID"),
          { reconciler with synchronized := false })
      else
        (.ok (), acknowledge address (fun applied =>
          applied.set operation.wireKey ⟨operation.endpoint, id⟩) reconciler)

/-- What `Apply` makes of the outcome of `Delete`. -/
def afterDelete (reconciler : RouteReconciler) (address : Nat)
    (operation : RouteOperation) :
    Except GoError Unit → Except GoError Unit × RouteReconciler
  | .error reason =>
      (.error (withdrawFailed operation reason), reconciler)
  | .ok _ =>
      (.ok (), acknowledge address (fun applied =>
        applied.delete operation.wireKey) reconciler)

/-- A call of the applier after which `Apply` only finishes. -/
theorem attempt_outside_bind {α : Type}
    {method : Method signature GoError Outer α}
    {continuation : Except GoError α →
      Method signature GoError (RouteReconciler × Outer) Unit}
    (finish : RouteReconciler → Except GoError α →
      Except GoError Unit × RouteReconciler)
    (safe : Method.Safe environment stable
      (fun outcome outer after => post (finish memory.1 outcome).1
        ((finish memory.1 outcome).2, outer) after) method memory.2 world)
    (finishes : ∀ outcome reached, (continuation outcome).start reached =
      .done ((finish reached.1 outcome).1,
        (finish reached.1 outcome).2, reached.2)) :
    Method.Safe environment stable post
      (Method.attempt (outside method) >>= continuation) memory world := by
  have called : Method.Safe environment stable
      (fun outcome reached after => reached.1 = memory.1 ∧
        post (finish memory.1 outcome).1
          ((finish memory.1 outcome).2, reached.2) after)
      (outside method) memory world := by
    apply Method.Safe.onPart
    exact safe.weaken (fun _ _ _ _ posted => ⟨rfl, posted⟩)
  apply called.attempt_bind_settled
  intro outcome reached after settled
  unfold Method.Safe
  rw [finishes]
  intro later moved
  obtain ⟨stableLater, same, posted⟩ := settled later moved
  rw [same]
  exact ⟨stableLater, posted⟩

theorem applyAdvertise_safe {api : Type2RouteApplier bgp signature Outer}
    {address : Nat} {operation : RouteOperation}
    (action : operation.action = .advertise)
    (refused : ∀ reason, OperationRefused bgp memory.1 operation reason →
      Method.Safe environment stable post (throw reason) memory world)
    (added : ∀ route, memory.1.applied.get operation.wireKey = none →
      buildType2Route bgp operation.endpoint = .ok route →
      Method.Safe environment stable
        (fun outcome outer after =>
          post (afterAdd memory.1 address operation outcome).1
            ((afterAdd memory.1 address operation outcome).2, outer) after)
        (api.add route) memory.2 world) :
    Method.Safe environment stable post
      (applyAdvertise api address operation) memory world := by
  apply Method.safe_get_bind.mpr
  apply Method.Safe.refuse_bind
    (fun present => refused _ (.order action present))
  intro absent
  have missing : memory.1.applied.get operation.wireKey = none := by
    simpa using absent
  apply Method.Safe.check_bind
    (fun reason failed => refused reason (.invalid action failed))
  intro route built
  apply attempt_outside_bind (afterAdd · address operation ·)
    (added route missing built)
  intro outcome reached
  cases outcome with
  | error reason => rfl
  | ok id =>
      by_cases empty : id = ""
      · simp only [afterAdd, empty, if_true]
        rfl
      · simp only [afterAdd, empty, if_false]
        rfl

theorem applyWithdraw_safe {api : Type2RouteApplier bgp signature Outer}
    {address : Nat} {operation : RouteOperation}
    (action : operation.action = .withdraw)
    (refused : ∀ reason, OperationRefused bgp memory.1 operation reason →
      Method.Safe environment stable post (throw reason) memory world)
    (deleted : ∀ current,
      memory.1.applied.get operation.wireKey = some current →
      current.pathUUID = operation.pathUUID →
      current.endpoint.equivalent operation.endpoint = true →
      Method.Safe environment stable
        (fun outcome outer after =>
          post (afterDelete memory.1 address operation outcome).1
            ((afterDelete memory.1 address operation outcome).2, outer) after)
        (api.delete current) memory.2 world) :
    Method.Safe environment stable post
      (applyWithdraw api address operation) memory world := by
  apply Method.safe_get_bind.mpr
  apply Method.Safe.require_bind
    (fun missing => refused _ (.stale action (by simp [missing])))
  intro current found
  apply Method.Safe.refuse_bind
  · intro mismatch
    apply refused _ (.stale action _)
    intro other otherFound matched
    rw [found] at otherFound
    cases otherFound
    simp [matched] at mismatch
  intro checked
  have matched : current.pathUUID = operation.pathUUID ∧
      current.endpoint.equivalent operation.endpoint = true := by
    simpa using checked
  apply attempt_outside_bind (afterDelete · address operation ·)
    (deleted current found matched.1 matched.2)
  intro outcome reached
  cases outcome with
  | error reason => rfl
  | ok value => rfl

/-- The rule for `Apply`: refusals, the context, `Add` and `Delete`. -/
theorem apply_safe {delta : Type2Route bgp}
    {api : Option (Type2RouteApplier bgp signature Outer)}
    (alive : World → Prop)
    (refused : ∀ reason, DeltaRefused memory.1 delta api reason →
      Method.Safe environment stable post (throw reason) memory world)
    (checked : ∀ address operation,
      Current memory.1 delta address operation →
      Interactive.Safe environment stable
        (fun outcome after => match outcome with
          | .ok _ => alive after
          | .error reason => post (.error reason) memory after)
        context.err world)
    (refusedAlive : ∀ address operation reason after,
      Current memory.1 delta address operation →
      OperationRefused bgp memory.1 operation reason →
      stable after → alive after →
      Method.Safe environment stable post (throw reason) memory after)
    (added : ∀ applier address operation route after, api = some applier →
      Current memory.1 delta address operation →
      operation.action = .advertise →
      memory.1.applied.get operation.wireKey = none →
      buildType2Route bgp operation.endpoint = .ok route →
      stable after → alive after →
      Method.Safe environment stable
        (fun outcome outer later =>
          post (afterAdd memory.1 address operation outcome).1
            ((afterAdd memory.1 address operation outcome).2, outer) later)
        (applier.add route) memory.2 after)
    (deleted : ∀ applier address operation current after,
      api = some applier → Current memory.1 delta address operation →
      operation.action = .withdraw →
      memory.1.applied.get operation.wireKey = some current →
      current.pathUUID = operation.pathUUID →
      current.endpoint.equivalent operation.endpoint = true →
      stable after → alive after →
      Method.Safe environment stable
        (fun outcome outer later =>
          post (afterDelete memory.1 address operation outcome).1
            ((afterDelete memory.1 address operation outcome).2, outer) later)
        (applier.delete current) memory.2 after) :
    Method.Safe environment stable post (apply context delta api)
      memory world := by
  apply Method.safe_get_bind.mpr
  apply Method.Safe.refuse_bind
    (fun unsynchronized =>
      refused _ (.unsynchronized (by simpa using unsynchronized)))
  intro notUnsynchronized
  have synchronized : memory.1.synchronized = true := by
    simpa using notUnsynchronized
  apply Method.Safe.require_bind
  · intro missing
    apply refused _ (.stale synchronized _)
    intro address operation current
    have addressed := current.addressed
    rw [missing] at addressed
    cases addressed
  intro address addressed
  apply Method.Safe.refuse_bind
  · intro missing
    apply refused _ (.stale synchronized _)
    intro other operation current
    have otherAddressed := current.addressed
    rw [addressed] at otherAddressed
    cases otherAddressed
    simp [current.pending] at missing
  intro pending
  apply Method.Safe.require_bind
  · intro missing
    apply refused _ (.stale synchronized _)
    intro other operation current
    have otherAddressed := current.addressed
    rw [addressed] at otherAddressed
    cases otherAddressed
    have found := current.found
    rw [missing] at found
    cases found
  intro operation found
  have current : Current memory.1 delta address operation :=
    ⟨synchronized, addressed, by simpa using pending, found⟩
  apply Method.Safe.require_bind (fun missing => refused _ (.noApplier missing))
  intro applier given
  apply Method.Safe.call_bind _ (checked address operation current)
  · intro _ after stableAfter aliveAfter
    cases action : operation.action with
    | advertise =>
        apply applyAdvertise_safe action
          (fun reason because => refusedAlive address operation reason after
            current because stableAfter aliveAfter)
        intro route missing built
        exact added applier address operation route after given current
          action missing built stableAfter aliveAfter
    | withdraw =>
        apply applyWithdraw_safe action
          (fun reason because => refusedAlive address operation reason after
            current because stableAfter aliveAfter)
        intro present foundPresent sameUUID equivalent
        exact deleted applier address operation present after given current
          action foundPresent sameUUID equivalent stableAfter aliveAfter
  · intro reason after _ failed
    exact failed

/-- A read of the RIB, whose error is reported in other words. -/
theorem attempt_snapshot_bind {source : Type2RIBSource bgp signature Outer}
    {report : GoError → GoError}
    {continuation : Except GoError (List (Type2RIBPath bgp)) →
      Method signature GoError (RouteReconciler × Outer) Unit}
    (seen : List (Type2RIBPath bgp) → Outer → World → Prop)
    (read : Method.Safe environment stable
      (fun outcome outer after => match outcome with
        | .ok paths => seen paths outer after
        | .error reason => post (.error (report reason)) (memory.1, outer)
            after)
      source.snapshot memory.2 world)
    (failing : ∀ reason, continuation (.error reason) = throw (report reason))
    (continues : ∀ paths outer after, stable after →
      seen paths outer after → Method.Safe environment stable post
        (continuation (.ok paths)) (memory.1, outer) after) :
    Method.Safe environment stable post
      (Method.attempt (outside source.snapshot) >>= continuation) memory
      world := by
  have called : Method.Safe environment stable
      (fun outcome reached after => reached.1 = memory.1 ∧
        match outcome with
        | .ok paths => seen paths reached.2 after
        | .error reason => post (.error (report reason)) reached after)
      (outside source.snapshot) memory world := by
    apply Method.Safe.onPart
    exact read.weaken (fun _ _ _ _ posted => ⟨rfl, posted⟩)
  apply called.attempt_bind_settled
  intro outcome reached after settled
  cases outcome with
  | error reason =>
      rw [failing]
      exact fun later moved => (settled later moved).imp_right And.right
  | ok paths =>
      obtain ⟨stableAfter, same, posted⟩ := settled after .refl
      obtain ⟨reconciler, outer⟩ := reached
      obtain rfl : reconciler = memory.1 := same
      exact continues paths outer after stableAfter posted

theorem resync_safe {source : Option (Type2RIBSource bgp signature Outer)}
    {receipts : List OwnedType2Route}
    (seen alive : List (Type2RIBPath bgp) → Outer → World → Prop)
    (missing : source = none →
      Method.Safe environment stable post
        (throw (.new "RIB source is required" ""))
        (unsynchronize memory.1, memory.2) world)
    (read : ∀ given, source = some given →
      Method.Safe environment stable
        (fun outcome outer after => match outcome with
          | .ok paths => seen paths outer after
          | .error reason =>
              post (.error (.extend "read local Type-2 RIB: " "" reason))
                (unsynchronize memory.1, outer) after)
        given.snapshot memory.2 world)
    (checked : ∀ paths outer after, stable after → seen paths outer after →
      Interactive.Safe environment stable
        (fun outcome later => match outcome with
          | .ok _ => alive paths outer later
          | .error reason =>
              post (.error reason) (unsynchronize memory.1, outer) later)
        context.err after)
    (refused : ∀ paths outer after reason, stable after →
      alive paths outer after → confirm bgp receipts paths = .error reason →
      Method.Safe environment stable post (throw reason)
        (unsynchronize memory.1, outer) after)
    (installed : ∀ paths outer after found, stable after →
      alive paths outer after → confirm bgp receipts paths = .ok found →
      Method.Safe environment stable post (pure ())
        (install found (unsynchronize memory.1), outer) after) :
    Method.Safe environment stable post (resync context source receipts)
      memory world := by
  apply Method.safe_modify_bind.mpr
  apply Method.Safe.require_bind missing
  intro given sourceEq
  apply attempt_snapshot_bind seen (read given sourceEq) (fun _ => rfl)
  intro paths outer after stableAfter posted
  apply Method.Safe.call_bind _ (checked paths outer after stableAfter posted)
  · intro _ later stableLater aliveLater
    apply Method.Safe.check_bind
    · intro reason failed
      exact refused paths outer later reason stableLater aliveLater failed
    · intro found confirmed
      exact installed paths outer later found stableLater aliveLater
        confirmed
  · intro reason later _ failed
    exact failed

theorem resyncDurable_safe {source : Type2RIBSource bgp signature Outer}
    {receipts : List OwnedType2Route}
    (seen : List (Type2RIBPath bgp) → Outer → World → Prop)
    (read : Method.Safe environment stable
      (fun outcome outer after => match outcome with
        | .ok paths => seen paths outer after
        | .error reason =>
            post (.error (.wrap .routeOwnership
                ("recovery RIB unavailable: " ++ reason.text)))
              (unsynchronize memory.1, outer) after)
      source.snapshot memory.2 world)
    (refused : ∀ paths outer after reason, stable after →
      seen paths outer after →
      confirmDurable bgp receipts paths = .error reason →
      Method.Safe environment stable post (throw reason)
        (unsynchronize memory.1, outer) after)
    (installed : ∀ paths outer after found, stable after →
      seen paths outer after →
      confirmDurable bgp receipts paths = .ok found →
      Interactive.Safe environment stable
        (fun outcome later =>
          post outcome (install found (unsynchronize memory.1), outer) later)
        context.err after) :
    Method.Safe environment stable post
      (resyncDurable context source receipts) memory world := by
  apply Method.safe_modify_bind.mpr
  apply attempt_snapshot_bind seen read (fun _ => rfl)
  intro paths outer after stableAfter posted
  apply Method.Safe.check_bind
  · intro reason failed
    exact refused paths outer after reason stableAfter posted failed
  · intro found confirmed
    apply Method.safe_modify_bind.mpr
    apply Method.Safe.call
    exact installed paths outer after found stableAfter posted confirmed

end RouteReconciler

end EvpnForOvn.Evpn

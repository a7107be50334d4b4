import EvpnForOvn.Lib.Method
import EvpnForOvn.Type2.Endpoint

/-!
# The route reconciler

`Reconcile` plans deltas against the applied routes, `Apply` executes one
delta, and the two resynchronizations replace the applied routes by receipts
that a RIB snapshot confirms.  The RIB source and the applier are objects with
their own memory, so the methods act on a reconciler next to that memory.
-/

namespace EvpnForOvn.Evpn

open Interactive Go

structure RouteOperation where
  action : RouteAction
  endpoint : LocalEndpoint
  wireKey : String
  pathUUID : String
  deriving DecidableEq, Repr

/-- `operations` holds every operation planned so far; the address of one is
its position.  `pending` and `foreign` are the sets of the source. -/
structure RouteReconciler where
  operations : List RouteOperation
  applied : GoMap OwnedType2Route
  foreign : List String
  pending : List Nat
  synchronized : Bool

def newRouteReconciler : RouteReconciler :=
  { operations := []
    applied := .empty
    foreign := []
    pending := []
    synchronized := false }

/-- `context.Context`, of which only `Err` matters. -/
structure Context (signature : Signature) where
  err : Program signature (Except GoError Unit)

structure Type2RIBSource (bgp : BgpPackage) (signature : Signature)
    (Outer : Type) where
  snapshot : Method signature GoError Outer (List (Type2RIBPath bgp))

structure Type2RouteApplier (bgp : BgpPackage) (signature : Signature)
    (Outer : Type) where
  add : Type2Route bgp → Method signature GoError Outer String
  delete : OwnedType2Route → Method signature GoError Outer Unit

namespace RouteReconciler

section Planning

variable (bgp : BgpPackage)

/-- The desired routes by wire key. -/
def collectDesired (foreign : List String) :
    List LocalEndpoint → GoMap LocalEndpoint →
      Except GoError (GoMap LocalEndpoint)
  | [], desired => .ok desired
  | endpoint :: rest, desired =>
      if !endpoint.advertise then collectDesired foreign rest desired
      else
        match buildType2Route bgp endpoint with
        | .error reason => .error reason
        | .ok route =>
            let key := bgp.nlriString route.nlri
            if (desired.get key).any (fun other =>
                !other.equivalent endpoint) then
              .error (.wrap .routeOwnership
                ("conflicting desired owners or attributes for " ++ key))
            else if foreign.contains key then
              .error (.wrap .routeOwnership
                ("unclaimed local path for " ++ key))
            else collectDesired foreign rest (desired.set key endpoint)

/-- The withdrawals of a plan, in the order of their keys. -/
def plannedWithdrawals (applied : GoMap OwnedType2Route)
    (desired : GoMap LocalEndpoint) : List RouteOperation :=
  applied.sortedKeys.filterMap fun key => do
    let existing ← applied.get key
    if (desired.get key).any existing.endpoint.equivalent then none
    else some ⟨.withdraw, existing.endpoint, key, existing.pathUUID⟩

/-- The advertisements of a plan, in the order of their keys. -/
def plannedAdvertisements (applied : GoMap OwnedType2Route)
    (desired : GoMap LocalEndpoint) : List RouteOperation :=
  desired.sortedKeys.filterMap fun key => do
    let endpoint ← desired.get key
    if (applied.get key).any
        (fun existing => existing.endpoint.equivalent endpoint) then none
    else some ⟨.advertise, endpoint, key, ""⟩

/-- Allocate the operations of a plan and make them pending. -/
def planAll : List RouteOperation → RouteReconciler →
    List (Type2Route bgp) →
    Except GoError (List (Type2Route bgp)) × RouteReconciler
  | [], reconciler, changes => (.ok changes, reconciler)
  | operation :: rest, reconciler, changes =>
      match buildType2Route bgp operation.endpoint with
      | .error reason => (.error reason, reconciler)
      | .ok route =>
          let address := reconciler.operations.length
          planAll rest
            { reconciler with
              operations := reconciler.operations ++ [operation]
              pending := reconciler.pending ++ [address] }
            (changes ++ [{ route with
              action := operation.action
              operation := some address }])

def reconcile (desired : List LocalEndpoint) (reconciler : RouteReconciler) :
    Except GoError (List (Type2Route bgp)) × RouteReconciler :=
  let reconciler := { reconciler with pending := [] }
  match collectDesired bgp reconciler.foreign desired .empty with
  | .error reason => (.error reason, reconciler)
  | .ok wanted =>
      planAll bgp
        (plannedWithdrawals reconciler.applied wanted ++
          plannedAdvertisements reconciler.applied wanted)
        reconciler []

end Planning

def appliedRoutes (reconciler : RouteReconciler) : List OwnedType2Route :=
  reconciler.applied.sortedKeys.filterMap reconciler.applied.get

section Methods

variable {bgp : BgpPackage} {signature : Signature} {Outer : Type}

/-- Call an object next to the reconciler. -/
def outside {α : Type} (method : Method signature GoError Outer α) :
    Method signature GoError (RouteReconciler × Outer) α :=
  Method.onPart Prod.snd (fun outer memory => (memory.1, outer)) method

def update (change : RouteReconciler → RouteReconciler) :
    Method signature GoError (RouteReconciler × Outer) Unit :=
  modify fun memory => (change memory.1, memory.2)

/-- The end of `Apply`: the operation is acknowledged. -/
def acknowledge (address : Nat)
    (change : GoMap OwnedType2Route → GoMap OwnedType2Route)
    (reconciler : RouteReconciler) : RouteReconciler :=
  { reconciler with
    applied := change reconciler.applied
    pending := reconciler.pending.erase address }

def advertiseFailed (operation : RouteOperation) (reason : GoError) :
    GoError :=
  .extend "advertise " (operation.wireKey ++ ": ") reason

def withdrawFailed (operation : RouteOperation) (reason : GoError) :
    GoError :=
  .extend "withdraw " (operation.wireKey ++ ": ") reason

def applyAdvertise (api : Type2RouteApplier bgp signature Outer)
    (address : Nat) (operation : RouteOperation) :
    Method signature GoError (RouteReconciler × Outer) Unit := do
  let memory ← get
  Method.refuse (memory.1.applied.get operation.wireKey).isSome
    (.plain .routeOrder)
  let route ← Method.check (buildType2Route bgp operation.endpoint)
  match ← Method.attempt (outside (api.add route)) with
  | .error reason =>
      throw (advertiseFailed operation reason)
  | .ok id =>
      if id = "" then do
        update fun reconciler => { reconciler with synchronized := false }
        throw (.wrap .routeOwnership "AddPath returned no UUID")
      else
        update (acknowledge address fun applied =>
          applied.set operation.wireKey ⟨operation.endpoint, id⟩)

def applyWithdraw (api : Type2RouteApplier bgp signature Outer)
    (address : Nat) (operation : RouteOperation) :
    Method signature GoError (RouteReconciler × Outer) Unit := do
  let memory ← get
  let current ← Method.require (memory.1.applied.get operation.wireKey)
    (.plain .staleRouteOperation)
  Method.refuse (current.pathUUID ≠ operation.pathUUID ||
    !current.endpoint.equivalent operation.endpoint)
    (.plain .staleRouteOperation)
  match ← Method.attempt (outside (api.delete current)) with
  | .error reason =>
      throw (withdrawFailed operation reason)
  | .ok _ =>
      update (acknowledge address fun applied =>
        applied.delete operation.wireKey)

def apply (context : Context signature) (delta : Type2Route bgp)
    (api : Option (Type2RouteApplier bgp signature Outer)) :
    Method signature GoError (RouteReconciler × Outer) Unit := do
  let memory ← get
  Method.refuse (!memory.1.synchronized) (.plain .routeResyncRequired)
  let address ← Method.require delta.operation (.plain .staleRouteOperation)
  Method.refuse (!memory.1.pending.contains address)
    (.plain .staleRouteOperation)
  let operation ← Method.require memory.1.operations[address]?
    (.plain .staleRouteOperation)
  let api ← Method.require api (.new "route applier is required" "")
  Method.call context.err
  match operation.action with
  | .advertise => applyAdvertise api address operation
  | .withdraw => applyWithdraw api address operation

/-- The claims of `Resync`, by UUID. -/
def claimsByUUID (bgp : BgpPackage) :
    List OwnedType2Route → GoMap OwnedType2Route →
      Except GoError (GoMap OwnedType2Route)
  | [], claims => .ok claims
  | receipt :: rest, claims =>
      if receipt.pathUUID = "" then
        .error (.wrap .routeOwnership "receipt has no UUID")
      else if (claims.get receipt.pathUUID).isSome then
        .error (.wrap .routeOwnership "duplicate UUID receipt")
      else
        match buildType2Route bgp receipt.endpoint with
        | .error reason =>
            .error (.extend "invalid ownership receipt: " "" reason)
        | .ok _ => claimsByUUID bgp rest (claims.set receipt.pathUUID receipt)

/-- What a resynchronization finds in a snapshot. -/
structure Findings where
  claims : GoMap OwnedType2Route
  applied : GoMap OwnedType2Route
  foreign : List String

/-- The scan of `Resync` over the snapshot. -/
def scanPaths (bgp : BgpPackage) :
    List (Type2RIBPath bgp) → Findings → Except GoError Findings
  | [], found => .ok found
  | path :: rest, found =>
      match path.nlri with
      | none => .error (.new "RIB snapshot contains a nil NLRI" "")
      | some nlri =>
          if !path.isLocal then scanPaths bgp rest found
          else
            let key := bgp.nlriString nlri
            match found.claims.get path.pathUUID with
            | none =>
                scanPaths bgp rest
                  { found with foreign := key :: found.foreign }
            | some receipt =>
                if !ribPathMatchesEndpoint bgp path receipt.endpoint then
                  .error (.wrap .routeOwnership
                    ("UUID " ++ path.pathUUID ++
                      " payload differs from receipt"))
                else if (found.applied.get key).isSome then
                  .error (.wrap .routeOwnership
                    ("multiple owned paths for " ++ key))
                else
                  scanPaths bgp rest
                    { found with
                      claims := found.claims.delete path.pathUUID
                      applied := found.applied.set key receipt }

/-- The result of `Resync` on a snapshot. -/
def confirm (bgp : BgpPackage) (receipts : List OwnedType2Route)
    (paths : List (Type2RIBPath bgp)) : Except GoError Findings := do
  let claims ← claimsByUUID bgp receipts .empty
  let found ← scanPaths bgp paths ⟨claims, .empty, []⟩
  if found.claims.size ≠ 0 then
    throw (.wrap .routeOwnership "claimed UUID not present in local RIB")
  else
    match found.applied.sortedKeys.find? fun key =>
        found.foreign.contains key with
    | some key =>
        throw (.wrap .routeOwnership
          ("owned and foreign paths share " ++ key))
    | none => return found

def install (found : Findings) (reconciler : RouteReconciler) :
    RouteReconciler :=
  { reconciler with
    applied := found.applied
    foreign := found.foreign
    synchronized := true }

/-- The start of both resynchronizations. -/
def unsynchronize (reconciler : RouteReconciler) : RouteReconciler :=
  { reconciler with synchronized := false, pending := [] }

def resync (context : Context signature)
    (source : Option (Type2RIBSource bgp signature Outer))
    (receipts : List OwnedType2Route) :
    Method signature GoError (RouteReconciler × Outer) Unit := do
  update unsynchronize
  let source ← Method.require source (.new "RIB source is required" "")
  match ← Method.attempt (outside source.snapshot) with
  | .error reason => throw (.extend "read local Type-2 RIB: " "" reason)
  | .ok paths => do
      Method.call context.err
      let found ← Method.check (confirm bgp receipts paths)
      update (install found)

/-- The claims of `resyncDurable`, by wire key. -/
def claimsByKey (bgp : BgpPackage) :
    List OwnedType2Route → GoMap OwnedType2Route →
      Except GoError (GoMap OwnedType2Route)
  | [], claims => .ok claims
  | receipt :: rest, claims =>
      match buildType2Route bgp receipt.endpoint with
      | .error _ =>
          .error (.wrap .routeOwnership "invalid durable receipt")
      | .ok route =>
          let key := bgp.nlriString route.nlri
          if receipt.pathUUID = "" then
            .error (.wrap .routeOwnership "invalid durable receipt")
          else if (claims.get key).isSome then
            .error (.wrap .routeOwnership "duplicate durable wire route")
          else claimsByKey bgp rest (claims.set key receipt)

/-- The scan of `resyncDurable` over the snapshot. -/
def scanDurable (bgp : BgpPackage) :
    List (Type2RIBPath bgp) → Findings → Except GoError Findings
  | [], found => .ok found
  | path :: rest, found =>
      match path.nlri with
      | none => .error (.wrap .routeOwnership "nil recovery NLRI")
      | some nlri =>
          if !path.isLocal then scanDurable bgp rest found
          else
            let key := bgp.nlriString nlri
            match found.claims.get key with
            | none =>
                scanDurable bgp rest
                  { found with foreign := key :: found.foreign }
            | some receipt =>
                if (found.applied.get key).isSome then
                  .error (.wrap .routeOwnership
                    "multiple local paths share durable route")
                else if !ribPathMatchesEndpoint bgp path receipt.endpoint ||
                    (path.pathUUID ≠ "" &&
                      path.pathUUID ≠ receipt.pathUUID) then
                  .error (.wrap .routeOwnership
                    "durable UUID payload conflict")
                else
                  scanDurable bgp rest
                    { found with
                      applied := found.applied.set key receipt }

/-- The result of `resyncDurable` on a snapshot. -/
def confirmDurable (bgp : BgpPackage) (receipts : List OwnedType2Route)
    (paths : List (Type2RIBPath bgp)) : Except GoError Findings := do
  let claims ← claimsByKey bgp receipts .empty
  let found ← scanDurable bgp paths ⟨claims, .empty, []⟩
  if found.applied.size ≠ claims.size then
    throw (.wrap .routeOwnership
      "durable receipt disappeared during recovery")
  else return found

def resyncDurable (context : Context signature)
    (source : Type2RIBSource bgp signature Outer)
    (receipts : List OwnedType2Route) :
    Method signature GoError (RouteReconciler × Outer) Unit := do
  update unsynchronize
  match ← Method.attempt (outside source.snapshot) with
  | .error reason =>
      throw (.wrap .routeOwnership
        ("recovery RIB unavailable: " ++ reason.text))
  | .ok paths => do
      let found ← Method.check (confirmDurable bgp receipts paths)
      update (install found)
      Method.call context.err

/-- `Reconcile` as a method. -/
def planning (bgp : BgpPackage) (desired : List LocalEndpoint) :
    Method signature GoError (RouteReconciler × Outer)
      (List (Type2Route bgp)) := do
  let memory ← get
  let planned := reconcile bgp desired memory.1
  update fun _ => planned.2
  Method.check planned.1

end Methods

end RouteReconciler

/-- What a reconciler asks of its surroundings when the source and the applier
have no memory of their own. -/
inductive RouteRequest (bgp : BgpPackage) where
  | context
  | snapshot
  | add (route : Type2Route bgp)
  | delete (owned : OwnedType2Route)

@[reducible] def RouteRequest.Reply {bgp : BgpPackage} :
    RouteRequest bgp → Type
  | .context => Except GoError Unit
  | .snapshot => Except GoError (List (Type2RIBPath bgp))
  | .add _ => Except GoError String
  | .delete _ => Except GoError Unit

abbrev routeSignature (bgp : BgpPackage) : Signature :=
  { Request := RouteRequest bgp
    Reply := RouteRequest.Reply }

def requestContext (bgp : BgpPackage) : Context (routeSignature bgp) :=
  { err := .ask RouteRequest.context .done }

def requestSource (bgp : BgpPackage) :
    Type2RIBSource bgp (routeSignature bgp) Unit :=
  { snapshot := Method.call (.ask RouteRequest.snapshot .done) }

def requestApplier (bgp : BgpPackage) :
    Type2RouteApplier bgp (routeSignature bgp) Unit :=
  { add := fun route => Method.call (.ask (RouteRequest.add route) .done)
    delete := fun owned =>
      Method.call (.ask (RouteRequest.delete owned) .done) }

end EvpnForOvn.Evpn

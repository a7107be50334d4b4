import EvpnForOvn.Ownership.Journal
import EvpnForOvn.Type2.Reconciler

/-!
# Export recovery

Export recovery keeps the acknowledged paths of a speaker in an ownership
journal.  `Add` and `Delete` are write-ahead: the intent is durable before the
call to the speaker and its result is committed after a readback.  `Recover`
compares the durable receipts with a complete RIB and resolves an outstanding
intent only by confirmed absence, or by the deletion of its own UUID.
-/

namespace EvpnForOvn.Evpn

open Interactive Go Ownership

structure ExportReceipt where
  owned : OwnedType2Route
  nlri : Bytes
  attributes : List Bytes
  incarnation : String
  deriving DecidableEq, Repr

/-- `allocated` tells an empty slice of receipts from a nil one, as
`reflect.DeepEqual` and the JSON text do. -/
structure ExportRecoveryState where
  version : Int
  incarnation : String
  receipts : List ExportReceipt
  allocated : Bool
  deriving DecidableEq, Repr

structure ExportIntent where
  incarnation : String
  route : ExportReceipt
  deriving DecidableEq, Repr

/-- The JSON documents in the journal.  A document decodes only as the type it
was marshalled from, since unknown fields are refused. -/
inductive ExportDocument where
  | null
  | state (value : ExportRecoveryState)
  | intent (value : ExportIntent)
  | other (text : String)
  deriving DecidableEq, Repr

namespace ExportDocument

/-- `json: unknown field` -/
def unknownField {α : Type} : Except GoError α :=
  .error (.new "json" ": unknown field")

/-- `decodeExportRecord` into a state; `null` leaves the zero value. -/
def decodeState : ExportDocument → Except GoError ExportRecoveryState
  | .null => .ok ⟨0, "", [], false⟩
  | .state value => .ok value
  | .intent _ => unknownField
  | .other _ => unknownField

/-- `decodeExportRecord` into an intent. -/
def decodeIntent : ExportDocument → Except GoError ExportIntent
  | .null =>
      .ok ⟨"", ⟨⟨⟨"", "", "", "", [], 0, "", [], "", "", "", false, false⟩,
        ""⟩, [], [], ""⟩⟩
  | .intent value => .ok value
  | .state _ => unknownField
  | .other _ => unknownField

end ExportDocument

/-- What a process remembers of its export recovery. -/
structure ExportRecovery where
  journal : Journal ExportDocument
  state : ExportRecoveryState

/-- The objects an export recovery calls: its journal's store, the RIB source,
the applier, the verified speaker and the fault injection of the tests. -/
structure RecoveryParts (bgp : BgpPackage) (signature : Signature) where
  store : Store signature ExportDocument
  source : Type2RIBSource bgp signature ExportRecovery
  applier : Type2RouteApplier bgp signature ExportRecovery
  check : Program signature (Except GoError Unit)
  incarnation : Program signature (Except GoError String)
  fault : Option (String → Program signature (Except GoError Unit))

/-- What `observation` returns. -/
structure RIBObservation (bgp : BgpPackage) where
  incarnation : String
  paths : List (Type2RIBPath bgp)

section Receipts

variable (bgp : BgpPackage)

def durableExportRoute (endpoint : LocalEndpoint) (incarnation id : String) :
    Except GoError ExportReceipt := do
  let route ← buildType2Route bgp endpoint
  let nlri ← bgp.serializeNLRI route.nlri
  let attributes ← route.pathAttributes.mapM bgp.serializeAttribute
  return {
    owned := ⟨endpoint, id⟩
    nlri := nlri
    attributes := attributes
    incarnation := incarnation }

def sameExportPayload (left right : ExportReceipt) : Bool :=
  left.nlri == right.nlri && left.attributes == right.attributes

/-- The loop of `validate`; `keys` and `ids` are those of the receipts before
this one. -/
def validateReceipts (uuid : UuidPackage) (incarnation : String)
    (keys : List Bytes) (ids : List String) :
    List ExportReceipt → Except GoError Unit
  | [] => .ok ()
  | receipt :: rest =>
      let refused := GoError.new
        "invalid or duplicate UUID/incarnation receipt" ""
      match uuid.parse receipt.owned.pathUUID with
      | none => .error refused
      | some id =>
          haveI := uuid.equality
          if id = uuid.zero || ids.contains (uuid.text id) ||
              receipt.incarnation ≠ incarnation then
            .error refused
          else
            match durableExportRoute bgp receipt.owned.endpoint
                receipt.incarnation receipt.owned.pathUUID with
            | .error _ =>
                .error (.new "receipt payload differs from recorded "
                  "endpoint")
            | .ok want =>
                if !sameExportPayload want receipt then
                  .error (.new "receipt payload differs from recorded "
                    "endpoint")
                else if keys.contains receipt.nlri then
                  .error (.new "duplicate wire-route receipt" "")
                else
                  validateReceipts uuid incarnation (receipt.nlri :: keys)
                    (uuid.text id :: ids) rest

def ExportRecoveryState.validate (uuid : UuidPackage)
    (state : ExportRecoveryState) : Except GoError Unit :=
  if state.version ≠ 1 ||
      (state.incarnation == "" && !state.receipts.isEmpty) then
    .error (.new "incompatible exporter schema/incarnation" "")
  else validateReceipts bgp uuid state.incarnation [] [] state.receipts

/-- The NLRI of a path serializes to the given bytes. -/
def hasNLRI (nlri : Bytes) (path : Type2RIBPath bgp) : Bool :=
  match path.nlri with
  | none => false
  | some value =>
      match bgp.serializeNLRI value with
      | .ok bytes => bytes == nlri
      | .error _ => false

def matchingExportPaths (paths : List (Type2RIBPath bgp))
    (receipt : ExportReceipt) : List (Type2RIBPath bgp) :=
  paths.filter fun path => path.isLocal && hasNLRI bgp receipt.nlri path

/-- The paths found for a route are one path that agrees with the endpoint
and with the UUID. -/
def confirmedBy (found : List (Type2RIBPath bgp))
    (owned : OwnedType2Route) : Bool :=
  match found with
  | [path] =>
      ribPathMatchesEndpoint bgp path owned.endpoint &&
        (path.pathUUID == "" || path.pathUUID == owned.pathUUID)
  | _ => false

def withoutExportReceipt (receipts : List ExportReceipt) (id : String) :
    List ExportReceipt :=
  receipts.filter fun receipt => receipt.owned.pathUUID != id

/-- The receipts that `Recover` carries over: those with a local path, which
must be their own. -/
def retainReceipts (seen : RIBObservation bgp) :
    List ExportReceipt → Except GoError (List ExportReceipt)
  | [] => .ok []
  | receipt :: rest =>
      let found := matchingExportPaths bgp seen.paths receipt
      if found.isEmpty then retainReceipts seen rest
      else if seen.incarnation ≠ receipt.incarnation ||
          !confirmedBy bgp found receipt.owned then
        .error (.blocked "retained old or conflicting path; no adoption")
      else (retainReceipts seen rest).map (receipt :: ·)

/-- A checkpoint may only name receipts that are durable already. -/
def acceptCheckpoint (state : ExportRecoveryState)
    (payload : ExportDocument) : Except GoError Unit :=
  match payload.decodeState with
  | .error _ => .error (.blocked "invalid exporter checkpoint")
  | .ok checkpoint =>
      if checkpoint.version ≠ 1 then
        .error (.blocked "invalid exporter checkpoint")
      else if checkpoint.receipts.all state.receipts.contains then .ok ()
      else .error (.blocked "checkpoint cannot introduce ownership")

/-- The intent of an outstanding operation. -/
def readIntent (payload : ExportDocument) : Except GoError ExportIntent :=
  match payload.decodeIntent with
  | .error reason =>
      .error (.blocked ("invalid exporter intent: " ++ reason.text))
  | .ok intent =>
      match durableExportRoute bgp intent.route.owned.endpoint
          intent.incarnation intent.route.owned.pathUUID with
      | .error _ => .error (.blocked "invalid intent payload")
      | .ok want =>
          if !sameExportPayload want intent.route ||
              intent.incarnation == "" then
            .error (.blocked "invalid intent payload")
          else .ok intent

/-- The paths of an observation can all be compared. -/
def readablePaths : List (Type2RIBPath bgp) → Except GoError Unit
  | [] => .ok ()
  | path :: rest =>
      match path.nlri with
      | none => .error (.blocked "nil RIB NLRI")
      | some nlri =>
          match bgp.serializeNLRI nlri with
          | .error reason =>
              .error (.blocked ("invalid RIB NLRI: " ++ reason.text))
          | .ok _ => readablePaths rest

end Receipts

namespace ExportRecovery

/-- `receipts`: the owned routes in the order of their UUIDs. -/
def receipts (state : ExportRecoveryState) : List OwnedType2Route :=
  (state.receipts.map (·.owned)).insertionSort
    fun left right => left.pathUUID ≤ right.pathUUID

/-- The state that `OpenExportRecovery` reads from a journal. -/
def openState (bgp : BgpPackage) (uuid : UuidPackage) (data : ExportDocument)
    (pending : Option (Intent ExportDocument)) :
    Except GoError ExportRecoveryState :=
  match data with
  | .null =>
      if pending.all (·.operation == "export-checkpoint") then
        .ok ⟨1, "", [], false⟩
      else .error (.blocked "invalid exporter state: <nil>")
  | _ =>
      match data.decodeState with
      | .error reason =>
          .error (.blocked ("invalid exporter state: " ++ reason.text))
      | .ok state =>
          match state.validate bgp uuid with
          | .error reason =>
              .error (.blocked ("invalid exporter state: " ++ reason.text))
          | .ok _ => .ok state

section Methods

variable {bgp : BgpPackage} {signature : Signature}
  (parts : RecoveryParts bgp signature)

def onJournal {α : Type}
    (method : Method signature GoError (Journal ExportDocument) α) :
    Method signature GoError ExportRecovery α :=
  Method.onPart ExportRecovery.journal
    (fun journal recovery => { recovery with journal := journal }) method

def setState (state : ExportRecoveryState) :
    Method signature GoError ExportRecovery Unit :=
  modify fun recovery => { recovery with state := state }

/-- `fmt.Errorf("%w: ...%v", ownership.ErrBlocked, err)` -/
def blockedBecause (what : String) (reason : GoError) : GoError :=
  .blocked (what ++ reason.text)

/-- The RIB, read between two attestations of one incarnation. -/
def observation :
    Method signature GoError ExportRecovery (RIBObservation bgp) := do
  Method.mapError (blockedBecause "provider attestation: ")
    (Method.call parts.check)
  let before ← Method.mapError
    (blockedBecause "missing speaker incarnation: ")
    (Method.call parts.incarnation)
  Method.refuse (before == "")
    (.blocked "missing speaker incarnation: <nil>")
  let paths ← Method.mapError
    (blockedBecause "incomplete/unavailable RIB: ") parts.source.snapshot
  Method.mapError (blockedBecause "speaker changed during RIB read: ")
    (Method.call parts.check)
  let after ← Method.mapError
    (fun _ => .blocked "RIB incarnation changed")
    (Method.call parts.incarnation)
  Method.refuse (before != after) (.blocked "RIB incarnation changed")
  Method.check (readablePaths bgp paths)
  return ⟨before, paths⟩

/-- Finish an outstanding deletion whose path is still there. -/
def finishDelete (seen : RIBObservation bgp) (intent : ExportIntent) :
    Method signature GoError ExportRecovery Unit :=
  if (matchingExportPaths bgp seen.paths intent.route).isEmpty then pure ()
  else do
    Method.refuse (seen.incarnation != intent.incarnation)
      (.blocked "withdrawal cannot cross incarnations")
    Method.mapError (blockedBecause "exact pending UUID withdrawal: ")
      (parts.applier.delete intent.route.owned)
    let verified ← Method.mapError
      (blockedBecause "pending withdrawal absence unverified: ")
      (observation parts)
    Method.refuse (verified.incarnation != seen.incarnation ||
        !(matchingExportPaths bgp verified.paths intent.route).isEmpty)
      (.blocked "pending withdrawal absence unverified: <nil>")

/-- The state to commit for an outstanding addition or deletion. -/
def discharge (seen : RIBObservation bgp) (state next : ExportRecoveryState)
    (operation : String) (intent : ExportIntent) :
    Method signature GoError ExportRecovery ExportRecoveryState :=
  if operation = "export-add" then do
    Method.refuse (intent.route.owned.pathUUID != "" ||
        !(matchingExportPaths bgp seen.paths intent.route).isEmpty)
      (.blocked "unresolved AddPath with retained route")
    return next
  else if operation = "export-delete" then do
    Method.refuse (!state.receipts.any fun receipt =>
        receipt.owned.pathUUID == intent.route.owned.pathUUID &&
          sameExportPayload receipt intent.route)
      (.blocked "deletion intent has no durable UUID receipt")
    finishDelete parts seen intent
    return { next with
      receipts := withoutExportReceipt next.receipts
        intent.route.owned.pathUUID
      allocated := true }
  else throw (.blocked ("unknown exporter operation " ++
    LocalEndpoint.quoted operation))

/-- Settle the outstanding operation of the journal, if there is one, and
commit the state that follows from the observation. -/
def resolve (seen : RIBObservation bgp) (state next : ExportRecoveryState) :
    Option (Intent ExportDocument) →
      Method signature GoError ExportRecovery ExportRecoveryState
  | none =>
      if state = next then pure next
      else do
        let sequence ← onJournal (Journal.begin parts.store
          "export-checkpoint" (.ok (.state next)))
        onJournal (Journal.commit parts.store sequence (.ok (.state next)))
        return next
  | some pending =>
      if pending.operation = "export-checkpoint" then do
        Method.check (acceptCheckpoint state pending.payload)
        onJournal (Journal.commit parts.store pending.sequence
          (.ok (.state next)))
        return next
      else do
        let intent ← Method.check (readIntent bgp pending.payload)
        let settled ← discharge parts seen state next pending.operation
          intent
        onJournal (Journal.commit parts.store pending.sequence
          (.ok (.state settled)))
        return settled

/-- The state `Recover` starts from: the receipts it carries over, in the
incarnation it has observed. -/
def recoveredState (incarnation : String) (retained : List ExportReceipt) :
    ExportRecoveryState :=
  { version := 1
    incarnation := incarnation
    receipts := retained
    allocated := !retained.isEmpty }

def recover :
    Method signature GoError ExportRecovery (List OwnedType2Route) := do
  let seen ← observation parts
  let durable ← onJournal (Journal.snapshot parts.store)
  let recovery ← get
  let retained ← Method.check
    (retainReceipts bgp seen recovery.state.receipts)
  let next ← resolve parts seen recovery.state
    (recoveredState seen.incarnation retained) durable.2
  setState next
  return receipts next

def boundary (name : String) : Method signature GoError ExportRecovery Unit :=
  match parts.fault with
  | none => pure ()
  | some fault => Method.call (fault name)

/-- The acknowledged and read back end of `Add`. -/
def acknowledgeAdd (sequence : Nat) (receipt : ExportReceipt) :
    Method signature GoError ExportRecovery Unit := do
  let recovery ← get
  let next := { recovery.state with
    receipts := recovery.state.receipts ++ [receipt]
    allocated := true }
  onJournal (Journal.commit parts.store sequence (.ok (.state next)))
  setState next
  boundary parts "add-ack"

/-- `Add` once its intent is durable. -/
def executeAdd (uuid : UuidPackage) (route : Type2Route bgp)
    (current : String) (receipt : ExportReceipt) (sequence : Nat) :
    Method signature GoError ExportRecovery String := do
  boundary parts "add-intent"
  let id ← parts.applier.add route
  boundary parts "add-executed"
  Method.refuse (!uuid.parsesToNonNil id) (.blocked "no acknowledged UUID")
  let verified ← Method.mapError
    (blockedBecause "AddPath readback unverified: ") (observation parts)
  Method.refuse (verified.incarnation != current ||
      !confirmedBy bgp (matchingExportPaths bgp verified.paths receipt)
        ⟨route.endpoint, id⟩)
    (.blocked "AddPath readback unverified: <nil>")
  acknowledgeAdd parts sequence
    { receipt with owned := { receipt.owned with pathUUID := id } }
  return id

def add (uuid : UuidPackage) (route : Type2Route bgp) :
    Method signature GoError ExportRecovery String := do
  let seen ← observation parts
  let recovery ← get
  Method.refuse (seen.incarnation != recovery.state.incarnation)
    (.blocked "speaker requires recovery")
  let receipt ← Method.check
    (durableExportRoute bgp route.endpoint seen.incarnation "")
  Method.refuse (!(matchingExportPaths bgp seen.paths receipt).isEmpty)
    (.blocked "foreign/unclaimed local route")
  let sequence ← onJournal (Journal.begin parts.store "export-add"
    (.ok (.intent ⟨seen.incarnation, receipt⟩)))
  executeAdd parts uuid route seen.incarnation receipt sequence

/-- The receipt that `Delete` withdraws: the last one with the UUID and an
equivalent endpoint. -/
def ownReceipt (state : ExportRecoveryState) (owned : OwnedType2Route) :
    Option ExportReceipt :=
  (state.receipts.filter fun receipt =>
    receipt.owned.pathUUID == owned.pathUUID &&
      receipt.owned.endpoint.equivalent owned.endpoint).getLast?

/-- The end of `Delete`, after its readback. -/
def acknowledgeDelete (sequence : Nat) (id : String) :
    Method signature GoError ExportRecovery Unit := do
  let recovery ← get
  let next := { recovery.state with
    receipts := withoutExportReceipt recovery.state.receipts id
    allocated := true }
  onJournal (Journal.commit parts.store sequence (.ok (.state next)))
  setState next
  boundary parts "delete-ack"

/-- `Delete` once its intent is durable. -/
def executeDelete (owned : OwnedType2Route) (current : String)
    (receipt : ExportReceipt) (sequence : Nat) :
    Method signature GoError ExportRecovery Unit := do
  boundary parts "delete-intent"
  parts.applier.delete owned
  boundary parts "delete-executed"
  let verified ← Method.mapError
    (blockedBecause "withdrawal readback unverified: ") (observation parts)
  Method.refuse (verified.incarnation != current ||
      !(matchingExportPaths bgp verified.paths receipt).isEmpty)
    (.blocked "withdrawal readback unverified: <nil>")
  acknowledgeDelete parts sequence owned.pathUUID

def delete (owned : OwnedType2Route) :
    Method signature GoError ExportRecovery Unit := do
  let seen ← observation parts
  let recovery ← get
  let receipt ← Method.require
    ((ownReceipt recovery.state owned).filter fun receipt =>
      receipt.incarnation == seen.incarnation)
    (.blocked "exact durable receipt in current incarnation required")
  let sequence ← onJournal (Journal.begin parts.store "export-delete"
    (.ok (.intent ⟨seen.incarnation, receipt⟩)))
  executeDelete parts owned seen.incarnation receipt sequence

def close : Method signature GoError ExportRecovery Unit :=
  onJournal (Journal.close parts.store)

/-- `Rebind`: the replacement objects answer for the same speaker, so only
their absence can be told. -/
def rebind (missing : Bool) : Method signature GoError ExportRecovery Unit :=
  Method.refuse missing (.blocked "missing replacement transport evidence")

/-- `OpenExportRecovery`, on a journal that `ownership.Open` has returned. -/
def openRecovery (uuid : UuidPackage) :
    Method signature GoError (Journal ExportDocument) ExportRecovery := do
  match ← Method.attempt (Journal.snapshot parts.store) with
  | .error reason => do
      match ← Method.attempt (Journal.close parts.store) with
      | .ok _ =>
          throw (.blocked ("invalid exporter state: " ++ reason.text))
      | .error other =>
          throw ((GoError.blocked
            ("invalid exporter state: " ++ reason.text)).join other)
  | .ok durable =>
      match openState bgp uuid durable.1 durable.2 with
      | .ok state => do
          let journal ← get
          return ⟨journal, state⟩
      | .error reason => do
          match ← Method.attempt (Journal.close parts.store) with
          | .ok _ => throw reason
          | .error other => throw (reason.join other)

end Methods

end ExportRecovery

end EvpnForOvn.Evpn

import EvpnForOvn.Lib.Service
import EvpnForOvn.Ownership.JournalCell
import EvpnForOvn.Cni.Messages

/-!
# Durable CNI continuity

The CNI service with its ownership journal.  ADD and DEL are write-ahead: an
intent is durable before the backends are called, and the new state of the
endpoint is committed after they have been observed.  A fresh endpoint starts
as pending creation, and a periodic pass promotes it to active or quarantines
it.  Every operation holds the mutex of the server from its first line to its
last, so the methods below are its critical sections.

The backends, the attestors, the clock and the order in which a map is
iterated are requests, and any reply is possible.
-/

namespace EvpnForOvn.Nodeagent

open Interactive Go Ownership
open Evpn (LocalEndpoint)
open Evpn.LocalEndpoint (quoted)

/-- An error of an attestor; `conflict` wraps `errCNIIdentityConflict`. -/
inductive WorkloadFailure where
  | conflict (reason : GoError)
  | other (reason : GoError)

def WorkloadFailure.error : WorkloadFailure → GoError
  | .conflict reason => reason
  | .other reason => reason

/-- The two results of `Verify`. -/
structure Verification where
  deleted : Bool
  failure : Option WorkloadFailure

/-- An error of the observer; `unready` wraps `errCNIResourceUnready`. -/
inductive ObserveFailure where
  | unready
  | other (reason : GoError)

def ObserveFailure.error : ObserveFailure → GoError
  | .unready => .new "CNI OVS ofport not assigned" ""
  | .other reason => reason

/-- The three results of `Observe`. -/
structure Observation where
  receipt : CniReceipt
  absent : Bool
  failure : Option ObserveFailure

/-- An error of the network backend; `notFound` wraps
`errAttachmentNotFound`. -/
inductive NetworkFailure where
  | notFound
  | other (reason : GoError)

def NetworkFailure.error : NetworkFailure → GoError
  | .notFound => .new "network attachment not found" ""
  | .other reason => reason

/-- The JSON documents in the journal. -/
inductive CniDocument where
  | null
  | state (version : Int) (endpoints : Option (GoMap CniEndpointACK))
  | ack (value : CniEndpointACK)
  | other (text : String)

/-- What a reading of the clock is for.  The clock does not see it. -/
inductive ClockUse where
  | creation
  | deadline (verifyBy : Nat)
  | activation (verifyBy : Nat)
  deriving DecidableEq, Repr

inductive CniRequest (Route : Type) where
  | journal (request : CellRequest CniDocument)
  | now (use : ClockUse)
  /-- The order in which `range` visits a map. -/
  | iterate (endpoints : GoMap CniEndpointACK)
  /-- Whether the context of a waiting loop has ended. -/
  | expired
  | verify (workload : WorkloadRef) (container netns : String)
  | verifyCreating (workload : WorkloadRef) (container netns : String)
  | verifyPod (workload : WorkloadRef)
  | authorityAdmit (request : CNIAddRequest)
  | observe (record : EndpointRecord)
  | networkAbsent (key : String)
  | deleteExact (ack : CniEndpointACK)
  | networkEnsure (key : String) (record : EndpointRecord)
  | networkCheck (key : String) (record : EndpointRecord)
  | networkDelete (key : String) (record : EndpointRecord)
  | networkDeleteAcknowledged (key : String) (record : EndpointRecord)
      (hostIfIndex : Int)
  | ensureEndpoint (spec : EndpointSpec)
  | checkEndpointIdentity (spec : EndpointSpec)
  | getEndpoint (id logicalSwitchPort : String)
  | checkAttachment (spec : EndpointSpec)
  | desiredLocalEndpoints
  | addPath (route : Route)

@[reducible] def CniRequest.Reply {Route : Type} : CniRequest Route → Type
  | .journal request => Except GoError request.Result
  | .now _ => Nat
  | .iterate endpoints =>
      { keys : List String // keys.Perm endpoints.sortedKeys }
  | .expired => Bool
  | .verify _ _ _ => Verification
  | .verifyCreating _ _ _ => Verification
  | .verifyPod _ => Verification
  | .authorityAdmit _ => Except GoError CNIAdmissionEvidence
  | .observe _ => Observation
  | .networkEnsure _ _ => Except GoError NetworkState
  | .networkCheck _ _ => Except NetworkFailure NetworkState
  | .desiredLocalEndpoints => Except GoError (List LocalEndpoint)
  | .addPath _ => Except GoError String
  | _ => Except GoError Unit

@[reducible] def cniSignature (Route : Type) : Signature :=
  { Request := CniRequest Route
    Reply := CniRequest.Reply }

structure CniACKState where
  version : Int
  endpoints : GoMap CniEndpointACK

/-- `CNIServer` with its continuity; both live as long as the process. -/
structure CNIServer where
  stopping : Bool
  journal : Journal CniDocument
  state : CniACKState
  store : GoMap EndpointRecord

/-- The configuration of a process, and which optional interfaces its
backends have.  `readbackRounds` bounds the loop that a context of five seconds
ends. -/
structure CniConfig where
  nodeName : String
  authority : Bool
  verifiesPod : Bool
  verifiesCreating : Bool
  deletesAcknowledged : Bool
  checksIdentity : Bool
  checksAttachment : Bool
  readbackRounds : Nat

def CniACKState.document (state : CniACKState) : CniDocument :=
  .state state.version (some state.endpoints)

/-- `putIfAbsentOrEqual` -/
def putIfAbsent (store : GoMap EndpointRecord) (key : String)
    (record : EndpointRecord) : GoMap EndpointRecord :=
  match store.get key with
  | some _ => store
  | none => store.set key record

/-- `decodeCNIState` into a state. -/
def CniDocument.decodeState :
    CniDocument → Except GoError (Int × Option (GoMap CniEndpointACK))
  | .null => .ok (0, none)
  | .state version endpoints => .ok (version, endpoints)
  | .ack _ => .error (.new "json: unknown field" "")
  | .other _ => .error (.new "json: unknown field" "")

/-- `decodeCNIState` into an acknowledgement. -/
def CniDocument.decodeACK : CniDocument → Except GoError CniEndpointACK
  | .ack value => .ok value
  | .null =>
      .ok ⟨none, none, none, none,
        ⟨"", "", "", "", ⟨"", "", "", "", ""⟩, "", "", "", "", []⟩,
        ⟨"", "", "", "", "", 0, 0, 0⟩, .unset, none, 0, 0, 0, ""⟩
  | .state _ _ => .error (.new "json: unknown field" "")
  | .other _ => .error (.new "json: unknown field" "")

section Methods

variable {Route : Type} (uuid : UuidPackage) (config : CniConfig)

abbrev CniMethod (Route α : Type) : Type :=
  Method (cniSignature Route) GoError CNIServer α

def cniJournal (request : CellRequest CniDocument) :
    Program (cniSignature Route) (Except GoError request.Result) :=
  .ask (.journal request) .done

def onJournal {α : Type}
    (method : Store (cniSignature Route) CniDocument →
      Method (cniSignature Route) GoError (Journal CniDocument) α) :
    CniMethod Route α :=
  Method.onPart (·.journal)
    (fun journal server => { server with journal := journal })
    (method (cellStore cniJournal))

def query (request : CniRequest Route) : CniMethod Route request.Reply :=
  @Method.ask (cniSignature Route) GoError CNIServer request

def ready : CniMethod Route Unit := do
  let snapshot ← onJournal Journal.snapshot
  match snapshot.2 with
  | none => pure ()
  | some pending =>
      throw (.blocked ("uncertain CNI " ++ pending.operation ++ " outcome"))

/-- `c.workload.Verify` on the workload of an acknowledgement. -/
def verifyWorkload (ack : CniEndpointACK) : CniMethod Route Verification :=
  query (.verify ack.spec.workload ack.containerId ack.netnsPath)

def verifyResources (ack : CniEndpointACK) : CniMethod Route Unit := do
  let observation ← query (.observe ack.record)
  match observation.failure with
  | some failure => throw failure.error
  | none => do
      Method.refuse (observation.absent ||
          observation.receipt != ack.receipt)
        (.new "durable endpoint resource UUID changed or absent" "")
      let checked ← query
        (.networkCheck (endpointKey ack.identity) ack.record)
      let _ ← Method.check (checked.mapError NetworkFailure.error)
      return ()

/-- A result whose reply is a Go error. -/
def demand {α : Type} (request : CniRequest Route)
    (outcome : request.Reply → Except GoError α) : CniMethod Route α := do
  let reply ← query request
  Method.check (outcome reply)

def Verification.text (verification : Verification) : String :=
  "deleted=" ++ toString verification.deleted ++ " error=" ++
    (verification.failure.map (·.error.text)).getD "<nil>"

structure CNIAddResponse where
  result : Option CNIResult
  identity : EndpointIdentity
  idempotentReplay : Bool

def addFailure (reason : GoError) : GoError :=
  statusError "FailedPrecondition" ("CNI continuity: " ++ reason.text)

def acknowledgement (record : EndpointRecord) (receipt : CniReceipt)
    (state : AckState) : CniEndpointACK :=
  { identity := record.identity
    runtime := record.runtime
    attachment := record.attachment
    result := record.result
    spec := record.endpointSpec
    receipt := receipt
    state := state
    admission := none
    createdAt := 0
    verifyBy := 0
    verifiedAt := 0
    reason := "" }

def unobservedReceipt : CniReceipt :=
  ⟨"unobserved", "unobserved", "unobserved", "unobserved", "unobserved",
    0, 0, 0⟩

/-- The request with the node of the agent, and the record it asks for. -/
def proposeAdd (identity : EndpointIdentity) (runtime : CNIRuntimeContext)
    (attachment : AttachmentRequest) (request : CNIAddRequest) :
    Except GoError (CNIAddRequest × EndpointRecord) := do
  let k8s := request.k8s.getD {}
  LocalEndpoint.refuse
    (!isBlank k8s.nodeName && k8s.nodeName != config.nodeName)
    (.new "CNI node claim differs from trusted local node scope" "")
  let request : CNIAddRequest :=
    { request with k8s := some { k8s with nodeName := config.nodeName } }
  let spec ← mapCNIAddRequestToEndpointSpec request
  let key := endpointKey (some identity)
  let record : EndpointRecord :=
    { identity := some identity
      runtime := some runtime
      attachment := some attachment
      result := some (buildResultFromStaticConfig runtime attachment)
      endpointSpec := { spec with ovsInterfaceName := hostVethNameForKey key } }
  validateCNIACK uuid key (acknowledgement record unobservedReceipt .active)
  return (request, record)

def verifyAddWorkload (workload : WorkloadRef)
    (runtime : CNIRuntimeContext) : CniMethod Route Verification :=
  if config.verifiesCreating then
    query
      (.verifyCreating workload runtime.containerId runtime.netnsPath)
  else
    query (.verify workload runtime.containerId runtime.netnsPath)

/-- `Admit`, for an endpoint that is not acknowledged as active or
quarantined. -/
def admitCreation (request : CNIAddRequest)
    (existing : Option CniEndpointACK) :
    CniMethod Route (Option CNIAdmissionEvidence) :=
  match existing with
  | none => demand (.authorityAdmit request) (·.map some)
  | some ack =>
      if ack.state = .deleted ∨ ack.state = .pendingCreation then
        demand (.authorityAdmit request) (·.map some)
      else pure none

def demandPresent (verification : Verification) : Except GoError Unit :=
  match verification.failure with
  | some failure => .error failure.error
  | none =>
      LocalEndpoint.refuse verification.deleted
        (.new "Kubernetes Pod deleted; ADD refused" "")

/-- The evidence for an ADD before anything is created. -/
def authorizeAdd (request : CNIAddRequest) (runtime : CNIRuntimeContext)
    (workload : WorkloadRef) (existing : Option CniEndpointACK) :
    CniMethod Route (Option CNIAdmissionEvidence) :=
  if config.authority then do
    let admission ← admitCreation request existing
    Method.refuse (!config.verifiesPod)
      (.new "creation authority requires independent Pod verifier" "")
    let verification ← query (.verifyPod workload)
    Method.check (demandPresent verification)
    return admission
  else do
    let verification ← verifyAddWorkload config workload runtime
    Method.check (demandPresent verification)
    return none

def sameNamespace (admission : CNIAdmissionEvidence) (receipt : CniReceipt) :
    Bool :=
  admission.netNSDevice == receipt.netNSDevice &&
    admission.netNSInode == receipt.netNSInode

/-- What a repeated ADD has to show again. -/
def replayEvidence (ack : CniEndpointACK) (runtime : CNIRuntimeContext)
    (admission : Option CNIAdmissionEvidence) : CniMethod Route Unit :=
  if ack.state = .active then do
    let verification ← query
      (.verify ack.spec.workload runtime.containerId runtime.netnsPath)
    Method.refuse (verification.failure.isSome || verification.deleted)
      (.new "duplicate ADD runtime identity unverified: " verification.text)
    verifyResources ack
  else do
    Method.refuse (!(admission.any fun evidence =>
        sameNamespace evidence ack.receipt))
      (.new "pending ADD replay lacks matching creation authority" "")
    verifyResources ack

/-- An ADD of an endpoint that is acknowledged and not deleted. -/
def replayAdd (key : String) (ack : CniEndpointACK) (record : EndpointRecord)
    (identity : EndpointIdentity) (runtime : CNIRuntimeContext)
    (admission : Option CNIAdmissionEvidence) :
    CniMethod Route CNIAddResponse := do
  Method.refuse (ack.state == .quarantined)
    (addFailure (.new "endpoint quarantined; no ADD adoption" ""))
  Method.refuse (!equivalentRecord ack.record record)
    (statusError "AlreadyExists" "conflicting durable ADD")
  Method.mapError addFailure (replayEvidence ack runtime admission)
  modify fun server =>
    { server with store := putIfAbsent server.store key ack.record }
  return ⟨ack.result, identity, true⟩

def observeCreated (record : EndpointRecord) :
    Nat → CniMethod Route Observation
  | 0 =>
      throw (.new "CNI owned attachment readback: " "context deadline exceeded")
  | rounds + 1 => do
      let observation ← query (.observe record)
      match observation.failure with
      | some .unready => do
          let expired ← query .expired
          Method.refuse expired
            (.new "CNI owned attachment readback: " "context deadline exceeded")
          observeCreated record rounds
      | _ => return observation

/-- A fresh ADD finds nothing of its endpoint. -/
def requireAbsent (key : String) (record : EndpointRecord)
    (existing : Option CniEndpointACK) : CniMethod Route Unit := do
  let observation ← query (.observe record)
  Method.refuse (observation.failure.isSome || !observation.absent)
    (.new "fresh ADD requires independently absent resources: absent="
      (toString observation.absent ++ " error=" ++
        (observation.failure.map (·.error.text)).getD "<nil>"))
  Method.refuse (existing.any fun previous =>
      previous.receipt.switchUUID != observation.receipt.switchUUID)
    (.new "durable network switch UUID changed" "")
  demand (.networkAbsent key) id

/-- The times and the evidence of a pending creation. -/
def stampCreation (ack : CniEndpointACK) :
    Option CNIAdmissionEvidence → CniMethod Route CniEndpointACK
  | none => pure ack
  | some admission => do
      let createdAt ← query (.now .creation)
      Method.refuse (!sameNamespace admission ack.receipt)
        (.new "creation namespace changed during ADD" "")
      return { ack with
        state := .pendingCreation
        admission := some admission
        createdAt := createdAt
        verifyBy := createdAt + twoMinutes }

/-- The workload of an ADD, once its resources exist. -/
def verifyCreated (workload : WorkloadRef) (runtime : CNIRuntimeContext) :
    CniMethod Route Verification :=
  if config.authority then query (.verifyPod workload)
  else verifyAddWorkload config workload runtime

/-- The evidence for an ADD once its resources exist. -/
def confirmAdd (request : CNIAddRequest) (runtime : CNIRuntimeContext)
    (workload : WorkloadRef) (admission : Option CNIAdmissionEvidence) :
    CniMethod Route Unit := do
  let verification ← verifyCreated config workload runtime
  Method.refuse (verification.failure.isSome || verification.deleted)
    (.new "ADD workload no longer verified: " verification.text)
  match admission with
  | none => pure ()
  | some admission => do
      let second ← query (.authorityAdmit request)
      match second with
      | .error reason =>
          throw (.new "creation authority changed during ADD: " reason.text)
      | .ok second =>
          Method.refuse (second.netNSDevice != admission.netNSDevice ||
              second.netNSInode != admission.netNSInode)
            (.new "creation authority changed during ADD: " "<nil>")

/-- Everything a fresh ADD does between its intent and its commit. -/
def createResources (key : String) (request : CNIAddRequest)
    (record : EndpointRecord) (runtime : CNIRuntimeContext)
    (attachment : AttachmentRequest)
    (admission : Option CNIAdmissionEvidence) :
    CniMethod Route CniEndpointACK := do
  let network ← demand (.networkEnsure key record) id
  let record : EndpointRecord :=
    { record with
      result := some
        (buildResultFromNetworkState runtime attachment network)
      endpointSpec :=
        { record.endpointSpec with ovsInterfaceName := network.hostIfName } }
  demand (.ensureEndpoint record.endpointSpec) id
  let observation ← observeCreated record config.readbackRounds
  Method.check (match observation.failure with
    | some failure => .error failure.error
    | none => .ok ())
  Method.refuse observation.absent
    (.new "ADD resource observation absent" "")
  let ack ← stampCreation
    (acknowledgement record observation.receipt .active) admission
  Method.check (validateCNIACK uuid key ack)
  verifyResources ack
  confirmAdd config request runtime record.endpointSpec.workload admission
  return ack

def addIntent (record : EndpointRecord)
    (admission : Option CNIAdmissionEvidence) : CniEndpointACK :=
  { acknowledgement record ⟨"", "", "", "", "", 0, 0, 0⟩ .unset with
    result := none
    admission := admission }

/-- An ADD of an endpoint that is not acknowledged, or deleted. -/
def createAdd (key : String) (request : CNIAddRequest)
    (record : EndpointRecord) (identity : EndpointIdentity)
    (runtime : CNIRuntimeContext) (attachment : AttachmentRequest)
    (admission : Option CNIAdmissionEvidence)
    (existing : Option CniEndpointACK) : CniMethod Route CNIAddResponse := do
  requireAbsent key record existing
  let sequence ← onJournal fun store =>
    Journal.begin store "cni-add" (.ok (.ack (addIntent record admission)))
  let ack ← createResources uuid config key request record runtime attachment
    admission
  let server ← get
  let state : CniACKState :=
    { server.state with endpoints := server.state.endpoints.set key ack }
  set { server with state := state }
  onJournal fun store => Journal.commit store sequence (.ok state.document)
  modify fun server =>
    { server with store := putIfAbsent server.store key ack.record }
  return ⟨ack.result, identity, false⟩

def continuityAdd (request : CNIAddRequest) :
    CniMethod Route CNIAddResponse := do
  let (identity, runtime, attachment) ←
    Method.check (validateAddRequest request)
  Method.mapError addFailure ready
  let (request, record) ← Method.check
    ((proposeAdd uuid config identity runtime attachment request).mapError
      addFailure)
  let key := endpointKey (some identity)
  let server ← get
  let existing := server.state.endpoints.get key
  let admission ← Method.mapError addFailure
    (authorizeAdd config request runtime record.endpointSpec.workload existing)
  match existing.filter fun ack => ack.state != .deleted with
  | some ack => replayAdd key ack record identity runtime admission
  | none =>
      Method.mapError addFailure
        (createAdd uuid config key request record identity runtime attachment
          admission existing)

inductive DelOutcome where
  | deleted
  | alreadyAbsent
  | staleOperation
  deriving DecidableEq, Repr

def delFailure (reason : GoError) : GoError :=
  statusError "FailedPrecondition" ("CNI continuity DEL: " ++ reason.text)

def deleteNetwork (key : String) (ack : CniEndpointACK) :
    CniMethod Route Unit :=
  if config.deletesAcknowledged then
    demand (.networkDeleteAcknowledged key ack.record
      ack.receipt.hostIfIndex) id
  else demand (.networkDelete key ack.record) id

/-- Everything a DEL does between its intent and its commit. -/
def removeResources (key : String) (ack : CniEndpointACK) :
    CniMethod Route Unit := do
  demand (.deleteExact ack) id
  deleteNetwork config key ack
  let observation ← query (.observe ack.record)
  Method.check (match observation.failure with
    | some failure => .error failure.error
    | none => .ok ())
  Method.refuse (!observation.absent)
    (.new "DEL resource absence not verified" "")
  demand (.networkAbsent key) id

def removeEndpoint (key : String) (ack : CniEndpointACK) :
    CniMethod Route Unit := do
  verifyResources ack
  let sequence ← onJournal fun store =>
    Journal.begin store "cni-del" (.ok (.ack ack))
  removeResources config key ack
  let server ← get
  let state : CniACKState :=
    { server.state with
      endpoints :=
        server.state.endpoints.set key { ack with state := .deleted } }
  set { server with state := state }
  onJournal fun store => Journal.commit store sequence (.ok state.document)
  modify fun server => { server with store := server.store.delete key }

def continuityDel (request : CNIDelRequest) : CniMethod Route DelOutcome := do
  let identity ← Method.check (validateIdentity request.identity)
  Method.mapError delFailure ready
  let key := endpointKey (some identity)
  let server ← get
  match server.state.endpoints.get key with
  | none => return .alreadyAbsent
  | some ack =>
      if isIdentityMismatch ack.identity (some identity) then
        return .staleOperation
      else if ack.state = .active ∨ ack.state = .pendingCreation ∨
          ack.state = .quarantined then do
        Method.mapError delFailure (removeEndpoint config key ack)
        return .deleted
      else return .alreadyAbsent

def continuityCheck (request : CNICheckRequest) : CniMethod Route Unit := do
  ready
  let server ← get
  match server.state.endpoints.get (endpointKey request.identity) with
  | none => throw (.new "no matching durable active endpoint ACK" "")
  | some ack => do
      Method.refuse (ack.state != .active ||
          isIdentityMismatch ack.identity request.identity)
        (.new "no matching durable active endpoint ACK" "")
      let verification ← verifyWorkload ack
      Method.check (match verification.failure with
        | some failure => .error failure.error
        | none => .ok ())
      Method.refuse verification.deleted (.new "Kubernetes Pod deleted" "")
      verifyResources ack

/-- The record CHECK compares with the backends. -/
def checkedRecord (request : CNICheckRequest) (identity : EndpointIdentity)
    (stored : Option EndpointRecord) : Except GoError EndpointRecord :=
  let missing := statusError "NotFound"
    ("endpoint_id=" ++ quoted identity.endpointId ++ " not found")
  match stored with
  | some record => .ok record
  | none =>
      if config.checksAttachment then
        (buildRecoveredRecord request).mapError fun _ => missing
      else .error missing

structure CNICheckResponse where
  identity : Option EndpointIdentity
  ovsAttachmentPresent : Bool
  netnsAttachmentPresent : Bool

/-- The endpoint manager's part of CHECK. -/
def checkManager (identity : EndpointIdentity) (spec : EndpointSpec) :
    CniMethod Route Unit :=
  let name := "endpoint_id=" ++ quoted identity.endpointId
  if config.checksIdentity then
    demand (.checkEndpointIdentity spec) fun reply =>
      reply.mapError fun reason => statusError "FailedPrecondition"
        ("endpoint identity check failed for " ++ name ++ ": " ++ reason.text)
  else
    demand (.getEndpoint spec.id spec.logicalSwitchPort) fun reply =>
      reply.mapError fun reason => statusError "NotFound"
        (name ++ " not found in endpoint manager: " ++ reason.text)

/-- The attachment checker's part of CHECK. -/
def checkAttached (identity : EndpointIdentity) (spec : EndpointSpec) :
    CniMethod Route Unit :=
  if config.checksAttachment then
    demand (.checkAttachment spec) fun reply =>
      reply.mapError fun reason => statusError "FailedPrecondition"
        ("ovs attachment check failed for endpoint_id=" ++
          quoted identity.endpointId ++ ": " ++ reason.text)
  else pure ()

/-- The error of CHECK for an error of the network backend. -/
def NetworkFailure.status (identity : EndpointIdentity) :
    NetworkFailure → GoError
  | .notFound => statusError "NotFound"
      ("network attachment missing for endpoint_id=" ++
        quoted identity.endpointId)
  | .other reason => statusError "FailedPrecondition"
      ("network attachment check failed for endpoint_id=" ++
        quoted identity.endpointId ++ ": " ++ reason.text)

/-- The backends CHECK asks once the continuity has passed it. -/
def checkBackends (key : String) (identity : EndpointIdentity)
    (record : EndpointRecord) : CniMethod Route CNICheckResponse := do
  checkManager config identity record.endpointSpec
  let network ← demand (.networkCheck key record) fun reply =>
    reply.mapError (NetworkFailure.status identity)
  checkAttached config identity
    { record.endpointSpec with ovsInterfaceName := network.hostIfName }
  return {
    identity := record.identity
    ovsAttachmentPresent :=
      config.checksAttachment || !isBlank network.hostIfName
    netnsAttachmentPresent := !isBlank network.containerIfName }

def checkEndpoint (request : CNICheckRequest) :
    CniMethod Route CNICheckResponse := do
  Method.mapError
    (fun reason => statusError "FailedPrecondition" reason.text)
    (continuityCheck request)
  let identity ← Method.check (validateIdentity request.identity)
  let key := endpointKey (some identity)
  let server ← get
  let record ← Method.check
    (checkedRecord config request identity (server.store.get key))
  Method.refuse (isIdentityMismatch record.identity (some identity))
    (statusError "FailedPrecondition"
      ("identity mismatch for endpoint_id=" ++ quoted identity.endpointId))
  checkBackends config key identity record

/-- Why a pending endpoint cannot be activated, from the first reading of the
clock; the empty text when it can. -/
def pendingReason (ack : CniEndpointACK) (verification : Verification) :
    CniMethod Route String :=
  if verification.deleted then return "Pod deleted before activation"
  else
    match verification.failure with
    | some (.conflict reason) => return reason.text
    | failure => do
        let now ← query (.now (.deadline ack.verifyBy))
        if ack.verifyBy ≤ now then
          return "runtime publication deadline expired"
        else
          match failure with
          | some failure =>
              throw (GoError.extend "pending CNI runtime verification: " ""
                failure.error)
          | none => do
              let resources ← Method.attempt (verifyResources ack)
              match resources with
              | .ok _ => return ""
              | .error _ =>
                  return "acknowledged resource identity unavailable or changed"

/-- The second reading of the clock. -/
def deadlineReason (ack : CniEndpointACK) (reason : String) :
    CniMethod Route String :=
  if reason = "" then do
    let now ← query (.now (.deadline ack.verifyBy))
    if ack.verifyBy ≤ now then
      return "runtime publication deadline expired during verification"
    else return ""
  else return reason

/-- The acknowledgement a pending endpoint gets. -/
def judgePending (ack : CniEndpointACK) :
    CniMethod Route CniEndpointACK := do
  let verification ← verifyWorkload ack
  let first ← pendingReason ack verification
  let reason ← deadlineReason ack first
  if reason = "" then do
    let now ← query (.now (.activation ack.verifyBy))
    return { ack with state := .active, verifiedAt := now }
  else return { ack with state := .quarantined, reason := reason }

def activationFailure (reason : GoError) : GoError :=
  .blocked ("activation acknowledgement: " ++ reason.text)

/-- Make the new state of a pending endpoint durable. -/
def settlePending (key : String) (ack : CniEndpointACK) :
    CniMethod Route Unit := do
  let sequence ← onJournal fun store =>
    Journal.begin store "cni-identity" (.ok (.ack ack))
  let server ← get
  let next : CniACKState :=
    { server.state with endpoints := server.state.endpoints.set key ack }
  Method.mapError activationFailure
    (onJournal fun store => Journal.commit store sequence (.ok next.document))
  modify fun server =>
    { server with
      state := next
      store := if ack.state = .quarantined then server.store.delete key
        else server.store }

/-- The body of the loop of `verifyPendingCNI`; `endpoints` is the map the
loop ranges over. -/
def verifyPendingKey (endpoints : GoMap CniEndpointACK) (key : String) :
    CniMethod Route Unit :=
  match endpoints.get key with
  | none => pure ()
  | some ack =>
      if ack.state = .pendingCreation then do
        let judged ← judgePending ack
        settlePending key judged
      else pure ()

def verifyPendingCNI : CniMethod Route Unit := do
  let server ← get
  if server.stopping then pure ()
  else do
    ready
    let keys ← query (.iterate server.state.endpoints)
    Method.each (verifyPendingKey server.state.endpoints) keys.val

def validateKey (endpoints : GoMap CniEndpointACK) (key : String) :
    CniMethod Route Unit :=
  match endpoints.get key with
  | none => pure ()
  | some ack =>
      if ack.state = .pendingCreation ∨ ack.state = .quarantined then
        throw (.new "RECOVERY_BLOCKED: endpoint "
          (quoted key ++ " is " ++ ack.state.text))
      else if ack.state = .active then do
        let verification ← verifyWorkload ack
        match verification.failure with
        | some failure => throw failure.error
        | none =>
            if verification.deleted then
              modify fun server =>
                { server with store := server.store.delete key }
            else verifyResources ack
      else pure ()

def validateContinuityLocked : CniMethod Route Unit := do
  ready
  let server ← get
  let keys ← query (.iterate server.state.endpoints)
  Method.each (validateKey server.state.endpoints) keys.val

/-- The addresses of an export are those of the acknowledgement, without
their masks. -/
def sameAddresses : List String → List String → Bool
  | [], [] => true
  | address :: addresses, cidr :: cidrs =>
      ((parseCIDR cidr).map ipString == some address) &&
        sameAddresses addresses cidrs
  | _, _ => false

/-- The checks on the acknowledgement an export maps to. -/
def matchesACK (endpoint : LocalEndpoint) (ack : CniEndpointACK)
    (stored : Option EndpointRecord) : Except GoError Unit := do
  LocalEndpoint.refuse stored.isNone
    (.new "deleted Pod cannot be exported from residual native resources" "")
  LocalEndpoint.refuse (endpoint.endpointID == ack.spec.id &&
      endpoint.incarnation != ack.spec.incarnation)
    (.new "CNI export incarnation mismatch" "")
  LocalEndpoint.refuse (!equalFold endpoint.macAddress ack.spec.macAddress)
    (.new "export address differs from durable endpoint" "")
  if endpoint.macOnly then
    LocalEndpoint.refuse (!endpoint.ipAddresses.isEmpty)
      (.new "MAC-only export contains IP addresses" "")
  else do
    LocalEndpoint.refuse (endpoint.ipAddresses.length !=
        ack.spec.ipAddresses.length)
      (.new "export IP set differs from durable endpoint" "")
    LocalEndpoint.refuse
      (!sameAddresses endpoint.ipAddresses ack.spec.ipAddresses)
      (.new "export IP differs from durable endpoint" "")

/-- An export names an acknowledgement by the identity of its endpoint, or by
the pinned UUID of its logical switch port. -/
def namesACK (endpoint : LocalEndpoint) (ack : CniEndpointACK) : Bool :=
  ack.state == .active && endpoint.networkID == ack.spec.networkID &&
    (endpoint.endpointID == ack.spec.id ||
      endpoint.endpointID == "ovn-netlink/" ++ ack.receipt.lspUUID)

/-- The loop over the acknowledgements for one endpoint. -/
def matchEndpoint (server : CNIServer) (endpoint : LocalEndpoint) :
    List String → Except GoError Unit
  | [] =>
      .error (.new "native/CNI export endpoint "
        (quoted endpoint.endpointID ++ " has no verified durable ACK"))
  | key :: rest =>
      match (server.state.endpoints.get key).filter (namesACK endpoint) with
      | some ack => matchesACK endpoint ack (server.store.get key)
      | none => matchEndpoint server endpoint rest

def validateEndpoint (endpoint : LocalEndpoint) : CniMethod Route Unit := do
  let server ← get
  let keys ← query (.iterate server.state.endpoints)
  Method.check (matchEndpoint server endpoint keys.val)

def validateRecoveredExportEndpointsLocked (endpoints : List LocalEndpoint) :
    CniMethod Route Unit := do
  let server ← get
  Method.refuse server.stopping (.new "CNI operations drained" "")
  validateContinuityLocked
  Method.each validateEndpoint endpoints

/-- `continuityExportObserver.DesiredLocalEndpoints` -/
def desiredLocalEndpoints : CniMethod Route (List LocalEndpoint) := do
  let endpoints ← demand .desiredLocalEndpoints id
  validateRecoveredExportEndpointsLocked endpoints
  return endpoints

/-- `continuityRouteApplier.Add` -/
def continuityRouteAdd (endpointOf : Route → LocalEndpoint) (route : Route) :
    CniMethod Route String := do
  validateRecoveredExportEndpointsLocked [endpointOf route]
  demand (.addPath route) id

def recoveredState : CniDocument → Except GoError CniACKState
  | .null => .ok ⟨1, .empty⟩
  | document => do
      let (version, endpoints) ← document.decodeState.mapError fun reason =>
        .blocked ("CNI metadata: " ++ reason.text)
      match endpoints with
      | none => throw (.blocked "incompatible CNI metadata")
      | some endpoints => do
          LocalEndpoint.refuse (version != 1)
            (.blocked "incompatible CNI metadata")
          return ⟨version, endpoints⟩

/-- An outstanding activation must be one of a pending endpoint. -/
def checkIdentityIntent (state : CniACKState) (payload : CniDocument) :
    Except GoError Unit := do
  let candidate ← payload.decodeACK.mapError fun _ =>
    .blocked "invalid identity checkpoint"
  let refused := GoError.blocked
    "identity checkpoint cannot introduce ownership"
  match state.endpoints.get (endpointKey candidate.identity) with
  | none => throw refused
  | some previous =>
      LocalEndpoint.refuse (previous.state != .pendingCreation ||
        { candidate with
          state := previous.state
          reason := previous.reason
          verifiedAt := previous.verifiedAt } != previous) refused

def resolveIntent (state : CniACKState) :
    Option (Intent CniDocument) → CniMethod Route Unit
  | none => pure ()
  | some pending => do
      Method.refuse (pending.operation != "cni-identity")
        (.blocked ("unresolved CNI " ++ pending.operation ++ " sequence " ++
          toString pending.sequence))
      Method.check (checkIdentityIntent state pending.payload)
      onJournal fun store =>
        Journal.commit store pending.sequence (.ok state.document)

def blockedBy (reason : GoError) : GoError :=
  .blocked reason.text

/-- Put an endpoint whose resources are still its own into the store. -/
def restoreRecord (key : String) (ack : CniEndpointACK) :
    CniMethod Route Unit := do
  verifyResources ack
  modify fun server =>
    { server with store := server.store.set key ack.record }

/-- The body of the loop of `recoverCNI`. -/
def restoreKey (endpoints : GoMap CniEndpointACK) (key : String) :
    CniMethod Route Unit :=
  match endpoints.get key with
  | none => pure ()
  | some ack => do
      Method.check ((validateCNIACK uuid key ack).mapError blockedBy)
      if ack.state = .deleted ∨ ack.state = .quarantined then pure ()
      else if ack.state = .pendingCreation then
        Method.mapError (fun reason => .blocked
          ("pending endpoint resource identity: " ++ reason.text))
          (restoreRecord key ack)
      else do
        let verification ← verifyWorkload ack
        match verification.failure with
        | some failure =>
            throw (.blocked ("workload observation: " ++ failure.error.text))
        | none =>
            if verification.deleted then pure ()
            else Method.mapError blockedBy (restoreRecord key ack)

def recoverCNI : CniMethod Route Unit := do
  let snapshot ← onJournal Journal.snapshot
  let state ← Method.check (recoveredState snapshot.1)
  modify fun server => { server with state := state }
  resolveIntent state snapshot.2
  let keys ← query (.iterate state.endpoints)
  Method.each (restoreKey uuid state.endpoints) keys.val

def newServer (journal : Journal CniDocument) : CNIServer :=
  ⟨false, journal, ⟨1, .empty⟩, .empty⟩

/-- `EnableCNIContinuity`: a server that cannot be recovered is not
started. -/
def enableCNIContinuity (domain : Domain) :
    Program (cniSignature Route) (Option CNIServer) :=
  let opened : Method (cniSignature Route) GoError Unit
      (Journal CniDocument) := openCell cniJournal .null domain
  opened.start () >>= fun out =>
    match out.1 with
    | .error _ => .done none
    | .ok journal =>
        ((recoverCNI uuid).start (newServer journal)) >>= fun out =>
          .done (match out.1 with
            | .ok _ => some out.2
            | .error _ => none)

inductive CniCall (Route : Type) where
  | add (request : CNIAddRequest)
  | del (request : CNIDelRequest)
  | check (request : CNICheckRequest)
  | verifyPending
  | validateContinuity
  | validateExports (endpoints : List LocalEndpoint)
  | desiredEndpoints
  | addRoute (route : Route)
  | drain
  | close

inductive CniResponse where
  | added (response : CNIAddResponse)
  | deleted (outcome : DelOutcome)
  | checked (response : CNICheckResponse)
  | endpoints (endpoints : List LocalEndpoint)
  | path (id : String)
  | done

/-- An RPC of a server that is not being drained. -/
def undrained {α : Type} (method : CniMethod Route α) : CniMethod Route α := do
  let server ← get
  Method.refuse server.stopping
    (statusError "Unavailable" "CNI operations drained")
  method

/-- The critical section of each operation. -/
def serveCall (endpointOf : Route → LocalEndpoint) :
    CniCall Route → CniMethod Route CniResponse
  | .add request =>
      undrained (CniResponse.added <$> continuityAdd uuid config request)
  | .del request =>
      undrained (CniResponse.deleted <$> continuityDel config request)
  | .check request =>
      undrained (CniResponse.checked <$> checkEndpoint config request)
  | .verifyPending => do
      verifyPendingCNI
      return .done
  | .validateContinuity => do
      validateContinuityLocked
      return .done
  | .validateExports endpoints => do
      validateRecoveredExportEndpointsLocked endpoints
      return .done
  | .desiredEndpoints => CniResponse.endpoints <$> desiredLocalEndpoints
  | .addRoute route =>
      CniResponse.path <$> continuityRouteAdd endpointOf route
  | .drain => do
      modify fun server => { server with stopping := true }
      return .done
  | .close => do
      onJournal Journal.close
      return .done

/-- The node agent, which opens the journal directory of one domain. -/
@[reducible] def cniService (domain : Domain)
    (endpointOf : Route → LocalEndpoint) : Service (cniSignature Route) :=
  { Argument := Unit
    Memory := CNIServer
    Call := CniCall Route
    Result := Except GoError CniResponse
    boot := fun _ => enableCNIContinuity uuid domain
    serve := fun call server =>
      (serveCall uuid config endpointOf call).start server }

end Methods

end EvpnForOvn.Nodeagent

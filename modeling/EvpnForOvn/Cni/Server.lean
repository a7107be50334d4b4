import EvpnForOvn.Cni.Continuity

/-!
# The CNI server without continuity

`CNIServer.Add` and `Del` over an endpoint manager, a network backend and an
optional attachment checker.  The server keeps the records of its endpoints in
memory; everything else is behind the backends, whose state is the world.
Requests are served one at a time.
-/

namespace EvpnForOvn.Nodeagent

open Go
open Evpn.LocalEndpoint (quoted)

/-- A call: its reply and the world after it. -/
abbrev WorldCall (World ε α : Type) : Type :=
  World → Except ε α × World

/-- The methods of `endpoint.EndpointManager` that ADD and DEL call. -/
structure EndpointManager (World : Type) where
  ensureEndpoint : EndpointSpec → WorldCall World GoError Unit
  deleteEndpoint : EndpointSpec → WorldCall World GoError Unit

structure NetworkBackend (World : Type) where
  ensure : String → EndpointRecord →
    WorldCall World NetworkFailure (NetworkState × Bool)
  delete : String → EndpointRecord → WorldCall World NetworkFailure Unit

/-- What a server is built with. -/
structure ServerBackends (World : Type) where
  endpoint : EndpointManager World
  network : NetworkBackend World
  attachmentChecker : Option (EndpointSpec → WorldCall World GoError Unit)

/-- A `CNIServer` without continuity, with the world of its backends. -/
structure PlainServer (World : Type) where
  stopping : Bool
  store : GoMap EndpointRecord
  world : World

/-- The reply to a request, and the server after it. -/
abbrev Served (World Response : Type) : Type :=
  Except GoError Response × PlainServer World

/-- `CNIAddResponse` with its `AddOutcome`. -/
structure PlainAddResponse where
  message : String
  result : Option CNIResult
  identity : Option EndpointIdentity
  idempotentReplay : Bool
  outcomeMessage : String
  deriving DecidableEq, Repr

/-- `CNIDelRequest` with the fields that are read without continuity. -/
structure PlainDelRequest extends CNIDelRequest where
  runtime : Option CNIRuntimeContext := none
  attachment : Option AttachmentRequest := none
  k8s : Option K8SIdentity := none
  deriving DecidableEq, Repr

structure PlainDelResponse where
  message : String
  outcome : DelOutcome
  identity : EndpointIdentity
  deriving DecidableEq, Repr

def drained : GoError :=
  statusError "Unavailable" "CNI operations drained"

/-- The record that ADD starts with. -/
def requestedRecord (request : CNIAddRequest) :
    Except GoError (EndpointIdentity × EndpointRecord) := do
  let (identity, runtime, attachment) ← validateAddRequest request
  let spec ← (mapCNIAddRequestToEndpointSpec request).mapError fun reason =>
    statusError "InvalidArgument" ("failed to map add request: " ++
      reason.text)
  return (identity,
    { identity := some identity
      runtime := some runtime
      attachment := some attachment
      result := some (buildResultFromStaticConfig runtime attachment)
      endpointSpec := spec })

theorem eq_some_of_validateIdentity {given : Option EndpointIdentity}
    {identity : EndpointIdentity}
    (valid : validateIdentity given = .ok identity) :
    given = some identity := by
  cases given with
  | none => cases valid
  | some given =>
      obtain ⟨_, _, valid⟩ := bind_eq_ok.mp valid
      obtain ⟨_, _, valid⟩ := bind_eq_ok.mp valid
      obtain ⟨_, _, valid⟩ := bind_eq_ok.mp valid
      cases valid
      rfl

theorem identity_of_requestedRecord {request : CNIAddRequest}
    {identity : EndpointIdentity} {record : EndpointRecord}
    (requested : requestedRecord request = .ok (identity, record)) :
    request.identity = some identity := by
  obtain ⟨⟨given, runtime, attachment⟩, validated, built⟩ :=
    bind_eq_ok.mp requested
  obtain ⟨spec, _, built⟩ := bind_eq_ok.mp built
  cases built
  obtain ⟨checked, valid, rest⟩ := bind_eq_ok.mp validated
  cases present : request.runtime with
  | none =>
      rw [present] at rest
      cases rest
  | some runtime =>
      rw [present] at rest
      obtain ⟨_, _, rest⟩ := bind_eq_ok.mp rest
      obtain ⟨_, _, rest⟩ := bind_eq_ok.mp rest
      cases rest
      exact eq_some_of_validateIdentity valid

/-- The record with what the network backend has found or made. -/
def attachedRecord (record : EndpointRecord) (state : NetworkState) :
    EndpointRecord :=
  let host := trimSpace state.hostIfName
  { record with
    result := some (buildResultFromNetworkState (record.runtime.getD {})
      (record.attachment.getD {}) state)
    endpointSpec :=
      if host = "" then record.endpointSpec
      else { record.endpointSpec with ovsInterfaceName := host } }

/-- Both identities name a value, and not the same. -/
def fieldDiffers (existing requested : String) : Bool :=
  trimSpace requested != "" && trimSpace existing != "" &&
    trimSpace requested != trimSpace existing

def isStaleDelete (existing : Option EndpointIdentity)
    (requested : EndpointIdentity) : Bool :=
  match existing with
  | none => true
  | some existing =>
      trimSpace existing.endpointId != trimSpace requested.endpointId ||
        trimSpace existing.networkId != trimSpace requested.networkId ||
        trimSpace existing.attachmentId !=
          trimSpace requested.attachmentId ||
        fieldDiffers existing.workloadUid requested.workloadUid ||
        fieldDiffers existing.incarnation requested.incarnation

/-- `isStaleOperationErr`.  The text of a wrapped `ErrStaleOperation` begins
with the one that is looked for. -/
def isStaleOperationErr (reason : GoError) : Bool :=
  containsText (toLowerASCII reason.text) "stale operation"

def recoverRecordFromDelRequest (request : PlainDelRequest) :
    Except GoError EndpointRecord :=
  buildRecoveredRecord
    { identity := request.identity
      runtime := request.runtime
      attachment := request.attachment
      k8s := request.k8s }

namespace PlainServer

variable {World : Type} (backends : ServerBackends World)

def conflictingADD (identity : EndpointIdentity) : GoError :=
  statusError "AlreadyExists"
    ("conflicting ADD for endpoint_id=" ++ quoted identity.endpointId)

/-- The error of ADD for an error of the network backend. -/
def ensureNetworkError (identity : EndpointIdentity)
    (failure : NetworkFailure) : GoError :=
  if containsText failure.error.text "network attachment conflict" then
    conflictingADD identity
  else statusError "FailedPrecondition"
    ("failed to ensure network attachment: " ++ failure.error.text)

/-- Undo the network attachment that this call has created. -/
def compensate (created : Bool) (key : String) (record : EndpointRecord)
    (server : PlainServer World) : PlainServer World :=
  if created then
    { server with
      world := (backends.network.delete key record server.world).2 }
  else server

/-- The branch of ADD with a record in the store. -/
def addExisting (identity : EndpointIdentity) (key : String) (created : Bool)
    (existing record : EndpointRecord) (server : PlainServer World) :
    Served World PlainAddResponse :=
  if equivalentRecord existing record then
    match backends.endpoint.ensureEndpoint record.endpointSpec
        server.world with
    | (.error reason, world) =>
        (.error (statusError "FailedPrecondition"
          ("failed to ensure endpoint for idempotent add: " ++
            reason.text)), { server with world := world })
    | (.ok _, world) =>
        (.ok {
          message := "endpoint already exists"
          result := record.result
          identity := existing.identity
          idempotentReplay := true
          outcomeMessage := "idempotent replay" },
          { server with world := world })
  else
    (.error (conflictingADD identity),
      compensate backends created key record server)

/-- The branch of ADD without a record in the store. -/
def addCreated (identity : EndpointIdentity) (key : String) (created : Bool)
    (record : EndpointRecord) (server : PlainServer World) :
    Served World PlainAddResponse :=
  match backends.endpoint.ensureEndpoint record.endpointSpec
      server.world with
  | (.error reason, world) =>
      let stored : PlainServer World :=
        { server with
          store := server.store.set key record
          world := world }
      let undone := compensate backends created key record stored
      (.error (statusError "FailedPrecondition"
        ("failed to ensure endpoint: " ++ reason.text)),
        { undone with store := undone.store.delete key })
  | (.ok _, world) =>
      (.ok {
        message := "endpoint created"
        result := record.result
        identity := some identity
        idempotentReplay := false
        outcomeMessage := "created" },
        { server with
          store := server.store.set key record
          world := world })

/-- ADD after its network attachment. -/
def addAttached (identity : EndpointIdentity) (key : String) (created : Bool)
    (record : EndpointRecord) (server : PlainServer World) :
    Served World PlainAddResponse :=
  match server.store.get key with
  | some existing =>
      addExisting backends identity key created existing record server
  | none => addCreated backends identity key created record server

/-- `Add` without continuity. -/
def add (request : CNIAddRequest) (server : PlainServer World) :
    Served World PlainAddResponse :=
  if server.stopping then (.error drained, server)
  else
    match requestedRecord request with
    | .error reason => (.error reason, server)
    | .ok (identity, record) =>
        let key := endpointKey (some identity)
        match backends.network.ensure key record server.world with
        | (.error failure, world) =>
            (.error (ensureNetworkError identity failure),
              { server with world := world })
        | (.ok (state, created), world) =>
            addAttached backends identity key created
              (attachedRecord record state) { server with world := world }

def deletedReply (identity : EndpointIdentity) (message : String)
    (outcome : DelOutcome) : Except GoError PlainDelResponse :=
  .ok
    { message := message
      outcome := outcome
      identity := identity }

def staleReply (identity : EndpointIdentity) :
    Except GoError PlainDelResponse :=
  deletedReply identity "stale delete rejected" .staleOperation

/-- The network attachment of an endpoint that was deleted. -/
def delNetwork (identity : EndpointIdentity) (key : String)
    (record : EndpointRecord) (server : PlainServer World) :
    Served World PlainDelResponse :=
  match backends.network.delete key record server.world with
  | (.error failure, world) =>
      (.error (statusError "FailedPrecondition"
        ("failed to delete network attachment: " ++ failure.error.text)),
        { server with world := world })
  | (.ok _, world) =>
      (deletedReply identity "endpoint deleted" .deleted,
        { server with world := world })

def deleteEndpointError (reason : GoError) : GoError :=
  statusError "FailedPrecondition"
    ("failed to delete endpoint: " ++ reason.text)

/-- DEL of an endpoint that is not in the store. -/
def delRecovered (identity : EndpointIdentity) (key : String)
    (record : EndpointRecord) (server : PlainServer World) :
    Served World PlainDelResponse :=
  match backends.endpoint.deleteEndpoint record.endpointSpec
      server.world with
  | (.error reason, world) =>
      (if isStaleOperationErr reason then staleReply identity
        else .error (deleteEndpointError reason),
        { server with world := world })
  | (.ok _, world) =>
      delNetwork backends identity key record { server with world := world }

def delAbsent (request : PlainDelRequest) (identity : EndpointIdentity)
    (key : String) (server : PlainServer World) :
    Served World PlainDelResponse :=
  if backends.attachmentChecker.isNone then
    (deletedReply identity "endpoint already absent" .alreadyAbsent, server)
  else
    match recoverRecordFromDelRequest request with
    | .error reason =>
        (.error (statusError "FailedPrecondition"
          ("cannot establish endpoint state for delete: " ++ reason.text)),
          server)
    | .ok record => delRecovered backends identity key record server

def deleteIfRecordMatches (store : GoMap EndpointRecord) (key : String)
    (record : EndpointRecord) : GoMap EndpointRecord :=
  match store.get key with
  | some existing =>
      if equivalentRecord existing record then store.delete key else store
  | none => store

/-- DEL of an endpoint in the store. -/
def delStored (identity : EndpointIdentity) (key : String)
    (record : EndpointRecord) (server : PlainServer World) :
    Served World PlainDelResponse :=
  match backends.endpoint.deleteEndpoint record.endpointSpec
      server.world with
  | (.error reason, world) =>
      (.error (deleteEndpointError reason), { server with world := world })
  | (.ok _, world) =>
      match backends.network.delete key record world with
      | (.error failure, world) =>
          (.error (statusError "FailedPrecondition"
            ("failed to delete network attachment: " ++
              failure.error.text)), { server with world := world })
      | (.ok _, world) =>
          (deletedReply identity "endpoint deleted" .deleted,
            { server with
              store := deleteIfRecordMatches server.store key record
              world := world })

/-- `Del` without continuity. -/
def del (request : PlainDelRequest) (server : PlainServer World) :
    Served World PlainDelResponse :=
  if server.stopping then (.error drained, server)
  else
    match validateIdentity request.identity with
    | .error reason => (.error reason, server)
    | .ok identity =>
        let key := endpointKey (some identity)
        match server.store.get key with
        | none => delAbsent backends request identity key server
        | some record =>
            if isStaleDelete record.identity identity then
              (staleReply identity, server)
            else delStored backends identity key record server

section Branches

variable {backends} {server : PlainServer World}
  {identity : EndpointIdentity} {record : EndpointRecord} {world : World}

theorem add_refused {request : CNIAddRequest} {reason : GoError}
    (serving : server.stopping = false)
    (refused : requestedRecord request = .error reason) :
    add backends request server = (.error reason, server) := by
  unfold add
  rw [serving, refused]
  rfl

theorem add_unattached {request : CNIAddRequest} {failure : NetworkFailure}
    (serving : server.stopping = false)
    (requested : requestedRecord request = .ok (identity, record))
    (ensured : backends.network.ensure (endpointKey (some identity)) record
      server.world = (.error failure, world)) :
    add backends request server =
      (.error (ensureNetworkError identity failure),
        { server with world := world }) := by
  unfold add
  rw [serving, requested]
  dsimp only [Bool.false_eq_true, if_false]
  rw [ensured]
  rfl

theorem add_found {request : CNIAddRequest} {state : NetworkState}
    {created : Bool} {existing : EndpointRecord}
    (serving : server.stopping = false)
    (requested : requestedRecord request = .ok (identity, record))
    (ensured : backends.network.ensure (endpointKey (some identity)) record
      server.world = (.ok (state, created), world))
    (found : server.store.get (endpointKey (some identity)) =
      some existing) :
    add backends request server =
      addExisting backends identity (endpointKey (some identity)) created
        existing (attachedRecord record state)
        { server with world := world } := by
  unfold add
  rw [serving, requested]
  dsimp only [Bool.false_eq_true, if_false]
  rw [ensured]
  dsimp only
  unfold addAttached
  rw [found]
  rfl

theorem add_missing {request : CNIAddRequest} {state : NetworkState}
    {created : Bool} (serving : server.stopping = false)
    (requested : requestedRecord request = .ok (identity, record))
    (ensured : backends.network.ensure (endpointKey (some identity)) record
      server.world = (.ok (state, created), world))
    (absent : server.store.get (endpointKey (some identity)) = none) :
    add backends request server =
      addCreated backends identity (endpointKey (some identity)) created
        (attachedRecord record state) { server with world := world } := by
  unfold add
  rw [serving, requested]
  dsimp only [Bool.false_eq_true, if_false]
  rw [ensured]
  dsimp only
  unfold addAttached
  rw [absent]
  rfl

theorem del_refused {request : PlainDelRequest} {reason : GoError}
    (serving : server.stopping = false)
    (refused : validateIdentity request.identity = .error reason) :
    del backends request server = (.error reason, server) := by
  unfold del
  rw [serving, refused]
  rfl

theorem del_absent {request : PlainDelRequest}
    (serving : server.stopping = false)
    (valid : validateIdentity request.identity = .ok identity)
    (absent : server.store.get (endpointKey (some identity)) = none) :
    del backends request server =
      delAbsent backends request identity (endpointKey (some identity))
        server := by
  unfold del
  rw [serving, valid]
  dsimp only [Bool.false_eq_true, if_false]
  rw [absent]
  rfl

theorem del_stale {request : PlainDelRequest}
    (serving : server.stopping = false)
    (valid : validateIdentity request.identity = .ok identity)
    (found : server.store.get (endpointKey (some identity)) = some record)
    (stale : isStaleDelete record.identity identity = true) :
    del backends request server = (staleReply identity, server) := by
  unfold del
  rw [serving, valid]
  dsimp only [Bool.false_eq_true, if_false]
  rw [found]
  dsimp only
  rw [stale]
  rfl

theorem del_stored {request : PlainDelRequest}
    (serving : server.stopping = false)
    (valid : validateIdentity request.identity = .ok identity)
    (found : server.store.get (endpointKey (some identity)) = some record)
    (current : isStaleDelete record.identity identity = false) :
    del backends request server =
      delStored backends identity (endpointKey (some identity)) record
        server := by
  unfold del
  rw [serving, valid]
  dsimp only [Bool.false_eq_true, if_false]
  rw [found]
  dsimp only
  rw [current]
  rfl

end Branches

section Stopping

variable (server : PlainServer World)

theorem stopping_compensate (created : Bool) (key : String)
    (record : EndpointRecord) :
    (compensate backends created key record server).stopping =
      server.stopping := by
  unfold compensate
  split <;> rfl

theorem stopping_add (request : CNIAddRequest) :
    (add backends request server).2.stopping = server.stopping := by
  unfold add
  split
  · rfl
  · split
    · rfl
    · dsimp only
      split
      · rfl
      · unfold addAttached
        split
        · unfold addExisting
          split
          · split <;> rfl
          · exact stopping_compensate backends _ _ _ _
        · unfold addCreated
          split
          · exact stopping_compensate backends _ _ _ _
          · rfl

theorem stopping_del (request : PlainDelRequest) :
    (del backends request server).2.stopping = server.stopping := by
  unfold del
  split
  · rfl
  · split
    · rfl
    · dsimp only
      split
      · unfold delAbsent
        split
        · rfl
        · split
          · rfl
          · unfold delRecovered
            split
            · rfl
            · unfold delNetwork
              split <;> rfl
      · split
        · rfl
        · unfold delStored
          split
          · rfl
          · split <;> rfl

end Stopping

end PlainServer

end EvpnForOvn.Nodeagent

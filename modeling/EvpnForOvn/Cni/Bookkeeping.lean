import EvpnForOvn.Cni.Server

/-!
# The maps of the CNI server

The server keeps a record of each endpoint in its store, and the in-memory
network backend a state of each attachment.  The two maps are updated one
after the other, with a compensation when the endpoint manager fails.  Between
requests they have the same keys, whatever the endpoint manager replies.
-/

namespace EvpnForOvn.Nodeagent

open Go
open Evpn.LocalEndpoint (quoted)

/-- The calls that the server makes. -/
inductive BackendCall where
  | ensureNetwork (key : String)
  | deleteNetwork (key : String)
  | ensureEndpoint (spec : EndpointSpec)
  | deleteEndpoint (spec : EndpointSpec)
  | checkAttachment (spec : EndpointSpec)
  deriving DecidableEq, Repr

/-- The `records` of the network backend, what the endpoint manager works on,
and the calls so far. -/
structure MemoryWorld (External : Type) where
  records : GoMap NetworkState
  external : External
  calls : List BackendCall

namespace MemoryWorld

variable {External : Type}

def called (world : MemoryWorld External) (call : BackendCall) :
    MemoryWorld External :=
  { world with calls := world.calls ++ [call] }

/-- A call of the endpoint manager or of the attachment checker. -/
def lift (call : BackendCall) (method : WorldCall External GoError Unit) :
    WorldCall (MemoryWorld External) GoError Unit := fun world =>
  let (reply, external) := method world.external
  (reply, { world.called call with external := external })

def endpointManager (manager : EndpointManager External) :
    EndpointManager (MemoryWorld External) :=
  { ensureEndpoint := fun spec =>
      lift (.ensureEndpoint spec) (manager.ensureEndpoint spec)
    deleteEndpoint := fun spec =>
      lift (.deleteEndpoint spec) (manager.deleteEndpoint spec) }

def desired (record : EndpointRecord) : NetworkState :=
  { hostIfName := record.endpointSpec.ovsInterfaceName
    containerIfName := trimSpace (record.runtime.getD {}).ifName
    macAddress := trimSpace (record.attachment.getD {}).staticMac
    staticIPCIDR := trimSpace (record.attachment.getD {}).staticIpCidr }

/-- `inMemoryNetworkBackend.Ensure` -/
def ensure (key : String) (record : EndpointRecord) :
    WorldCall (MemoryWorld External) NetworkFailure (NetworkState × Bool) :=
  fun world =>
    match world.records.get key with
    | some existing =>
        if existing = desired record then
          (.ok (existing, false), world.called (.ensureNetwork key))
        else
          (.error (.other (.new "network attachment conflict"
            (" for " ++ quoted key))), world.called (.ensureNetwork key))
    | none =>
        (.ok (desired record, true),
          { world.called (.ensureNetwork key) with
            records := world.records.set key (desired record) })

def delete (key : String) (_record : EndpointRecord) :
    WorldCall (MemoryWorld External) NetworkFailure Unit := fun world =>
  (.ok (),
    { world.called (.deleteNetwork key) with
      records := world.records.delete key })

section Ensured

variable {world : MemoryWorld External} {key : String}

theorem ensure_absent (record : EndpointRecord)
    (absent : world.records.get key = none) :
    ensure key record world = (.ok (desired record, true),
      { world.called (.ensureNetwork key) with
        records := world.records.set key (desired record) }) := by
  unfold ensure
  rw [absent]

theorem ensure_present {record : EndpointRecord}
    (present : world.records.get key = some (desired record)) :
    ensure key record world = (.ok (desired record, false),
      world.called (.ensureNetwork key)) := by
  unfold ensure
  rw [present]
  exact if_pos rfl

theorem ensure_conflict {record : EndpointRecord} {existing : NetworkState}
    (present : world.records.get key = some existing)
    (different : existing ≠ desired record) :
    ensure key record world = (.error (.other
      (.new "network attachment conflict" (" for " ++ quoted key))),
      world.called (.ensureNetwork key)) := by
  unfold ensure
  rw [present]
  exact if_neg different

end Ensured

def backends (manager : EndpointManager External)
    (checker : Option (EndpointSpec → WorldCall External GoError Unit)) :
    ServerBackends (MemoryWorld External) :=
  { endpoint := endpointManager manager
    network := ⟨ensure, delete⟩
    attachmentChecker := checker.map fun check spec =>
      lift (.checkAttachment spec) (check spec) }

end MemoryWorld

section Effects

variable {External : Type}

abbrev MemoryServer (External : Type) : Type :=
  PlainServer (MemoryWorld External)

structure SameMaps (before after : MemoryServer External) : Prop where
  store : ∀ key, after.store.get key = before.store.get key
  records : ∀ key, after.world.records.get key = before.world.records.get key

def SameKeys (server : MemoryServer External) : Prop :=
  ∀ key, (server.store.get key).isSome =
    (server.world.records.get key).isSome

def storedRecord (record : EndpointRecord) : EndpointRecord :=
  attachedRecord record (MemoryWorld.desired record)

inductive AddEffect (request : CNIAddRequest)
    (before after : MemoryServer External) :
    Except GoError PlainAddResponse → Prop where
  | failed (reason : GoError) :
      SameMaps before after → AddEffect request before after (.error reason)
  | created {identity : EndpointIdentity} {record : EndpointRecord}
      (requested : requestedRecord request = .ok (identity, record))
      (absent : before.store.get (endpointKey (some identity)) = none)
      (store : after.store =
        before.store.set (endpointKey (some identity)) (storedRecord record))
      (records : after.world.records =
        before.world.records.set (endpointKey (some identity))
          (MemoryWorld.desired record)) :
      AddEffect request before after
        (.ok ⟨"endpoint created", (storedRecord record).result,
          some identity, false, "created"⟩)
  | replayed {identity : EndpointIdentity} {record existing : EndpointRecord}
      (requested : requestedRecord request = .ok (identity, record))
      (found : before.store.get (endpointKey (some identity)) =
        some existing)
      (equivalent : equivalentRecord existing (storedRecord record) = true)
      (state : before.world.records.get (endpointKey (some identity)) =
        some (MemoryWorld.desired record))
      (same : SameMaps before after) :
      AddEffect request before after
        (.ok ⟨"endpoint already exists", (storedRecord record).result,
          existing.identity, true, "idempotent replay"⟩)

inductive DelEffect (request : PlainDelRequest)
    (before after : MemoryServer External) :
    Except GoError PlainDelResponse → Prop where
  | kept (reply : Except GoError PlainDelResponse) :
      SameMaps before after → DelEffect request before after reply
  | deleted {identity : EndpointIdentity}
      (valid : validateIdentity request.identity = .ok identity)
      (store : after.store =
        before.store.delete (endpointKey (some identity)))
      (records : after.world.records =
        before.world.records.delete (endpointKey (some identity))) :
      DelEffect request before after
        (.ok ⟨"endpoint deleted", .deleted, identity⟩)

variable (manager : EndpointManager External)
  (checker : Option (EndpointSpec → WorldCall External GoError Unit))

theorem SameMaps.refl (server : MemoryServer External) :
    SameMaps server server :=
  ⟨fun _ => rfl, fun _ => rfl⟩

theorem equivalentRecord_refl (record : EndpointRecord) :
    equivalentRecord record record = true := by
  simp [equivalentRecord, isIdentityMismatch]

theorem get_delete_set_of_none {V : Type} {map : GoMap V} {key : String}
    {value : V} (absent : map.get key = none) (other : String) :
    ((map.set key value).delete key).get other = map.get other := by
  rw [GoMap.get_delete]
  split
  · rename_i same
    rw [same, absent]
  · rename_i different
    exact GoMap.get_set_of_ne different

theorem get_delete_of_none {V : Type} {map : GoMap V} {key : String}
    (absent : map.get key = none) (other : String) :
    (map.delete key).get other = map.get other := by
  rw [GoMap.get_delete]
  split
  · rename_i same
    rw [same, absent]
  · rfl

/-- ADD with a record in the store, after the network backend has found its
state. -/
theorem addExisting_effect {request : CNIAddRequest}
    {server : MemoryServer External} {identity : EndpointIdentity}
    {record existing : EndpointRecord} {world : MemoryWorld External}
    (requested : requestedRecord request = .ok (identity, record))
    (found : server.store.get (endpointKey (some identity)) = some existing)
    (state : server.world.records.get (endpointKey (some identity)) =
      some (MemoryWorld.desired record))
    (records : world.records = server.world.records) :
    let served := PlainServer.addExisting
      (MemoryWorld.backends manager checker) identity
      (endpointKey (some identity)) false existing (storedRecord record)
      { server with world := world }
    AddEffect request server served.2 served.1 := by
  dsimp only
  unfold PlainServer.addExisting
  split
  · rename_i equivalent
    dsimp only [MemoryWorld.backends, MemoryWorld.endpointManager,
      MemoryWorld.lift, MemoryWorld.called]
    cases (manager.ensureEndpoint (storedRecord record).endpointSpec
        world.external).1 with
    | error reason =>
        refine .failed _ ⟨fun _ => rfl, fun key => ?_⟩
        exact congrArg (GoMap.get · key) records
    | ok _ =>
        refine .replayed requested found equivalent state
          ⟨fun _ => rfl, fun key => ?_⟩
        exact congrArg (GoMap.get · key) records
  · refine .failed _ ⟨fun _ => rfl, fun key => ?_⟩
    exact congrArg (GoMap.get · key) records

/-- ADD without a record in the store, after the network backend has made its
state. -/
theorem addCreated_effect {request : CNIAddRequest}
    {server : MemoryServer External} {identity : EndpointIdentity}
    {record : EndpointRecord} {world : MemoryWorld External}
    (requested : requestedRecord request = .ok (identity, record))
    (absent : server.store.get (endpointKey (some identity)) = none)
    (stateless : server.world.records.get (endpointKey (some identity)) =
      none)
    (records : world.records =
      server.world.records.set (endpointKey (some identity))
        (MemoryWorld.desired record)) :
    let served := PlainServer.addCreated
      (MemoryWorld.backends manager checker) identity
      (endpointKey (some identity)) true (storedRecord record)
      { server with world := world }
    AddEffect request server served.2 served.1 := by
  dsimp only
  unfold PlainServer.addCreated
  dsimp only [MemoryWorld.backends, MemoryWorld.endpointManager,
    MemoryWorld.lift, MemoryWorld.called]
  cases (manager.ensureEndpoint (storedRecord record).endpointSpec
      world.external).1 with
  | error reason =>
      refine .failed _ ⟨get_delete_set_of_none absent, fun key => ?_⟩
      change (world.records.delete _).get key = _
      rw [records]
      exact get_delete_set_of_none stateless key
  | ok _ => exact .created requested absent rfl records

theorem sameMaps_delAbsent {request : PlainDelRequest}
    {server : MemoryServer External} {identity : EndpointIdentity}
    (stateless : server.world.records.get (endpointKey (some identity)) =
      none) :
    SameMaps server (PlainServer.delAbsent
      (MemoryWorld.backends manager checker) request identity
      (endpointKey (some identity)) server).2 := by
  unfold PlainServer.delAbsent
  split
  · exact .refl server
  · split
    · exact .refl server
    · rename_i record _
      unfold PlainServer.delRecovered
      dsimp only [MemoryWorld.backends, MemoryWorld.endpointManager,
        MemoryWorld.lift]
      cases (manager.deleteEndpoint record.endpointSpec
          server.world.external).1 with
      | error reason => exact ⟨fun _ => rfl, fun _ => rfl⟩
      | ok _ => exact ⟨fun _ => rfl, get_delete_of_none stateless⟩

theorem delStored_effect {request : PlainDelRequest}
    {server : MemoryServer External} {identity : EndpointIdentity}
    {record : EndpointRecord}
    (valid : validateIdentity request.identity = .ok identity)
    (found : server.store.get (endpointKey (some identity)) =
      some record) :
    let served := PlainServer.delStored
      (MemoryWorld.backends manager checker) identity
      (endpointKey (some identity)) record server
    DelEffect request server served.2 served.1 := by
  dsimp only
  unfold PlainServer.delStored
  dsimp only [MemoryWorld.backends, MemoryWorld.endpointManager,
    MemoryWorld.lift]
  cases (manager.deleteEndpoint record.endpointSpec
      server.world.external).1 with
  | error reason => exact .kept _ ⟨fun _ => rfl, fun _ => rfl⟩
  | ok _ =>
      refine .deleted valid ?_ rfl
      change PlainServer.deleteIfRecordMatches _ _ _ = _
      unfold PlainServer.deleteIfRecordMatches
      rw [found]
      dsimp only
      rw [if_pos (equivalentRecord_refl record)]

theorem add_effect (request : CNIAddRequest) {server : MemoryServer External}
    (serving : server.stopping = false) (same : SameKeys server) :
    let served := PlainServer.add (MemoryWorld.backends manager checker)
      request server
    AddEffect request server served.2 served.1 := by
  dsimp only
  cases requested : requestedRecord request with
  | error reason =>
      rw [PlainServer.add_refused serving requested]
      exact .failed reason (.refl server)
  | ok pair =>
      obtain ⟨identity, record⟩ := pair
      have keys := same (endpointKey (some identity))
      cases state : server.world.records.get
          (endpointKey (some identity)) with
      | none =>
          rw [state] at keys
          have absent : server.store.get (endpointKey (some identity)) =
              none := by
            simpa using keys
          rw [PlainServer.add_missing serving requested
            (MemoryWorld.ensure_absent record state) absent]
          exact addCreated_effect manager checker requested absent state rfl
      | some existing =>
          rw [state] at keys
          obtain ⟨stored, found⟩ := Option.isSome_iff_exists.mp keys
          by_cases wanted : existing = MemoryWorld.desired record
          · rw [wanted] at state
            rw [PlainServer.add_found serving requested
              (MemoryWorld.ensure_present state) found]
            exact addExisting_effect manager checker requested found state
              rfl
          · rw [PlainServer.add_unattached serving requested
              (MemoryWorld.ensure_conflict state wanted)]
            exact .failed _ ⟨fun _ => rfl, fun _ => rfl⟩

theorem del_effect (request : PlainDelRequest) {server : MemoryServer External}
    (serving : server.stopping = false) (same : SameKeys server) :
    let served := PlainServer.del (MemoryWorld.backends manager checker)
      request server
    DelEffect request server served.2 served.1 := by
  dsimp only
  cases valid : validateIdentity request.identity with
  | error reason =>
      rw [PlainServer.del_refused serving valid]
      exact .kept _ (.refl server)
  | ok identity =>
      have keys := same (endpointKey (some identity))
      cases found : server.store.get (endpointKey (some identity)) with
      | none =>
          rw [found] at keys
          have stateless : server.world.records.get
              (endpointKey (some identity)) = none := by
            simpa using keys.symm
          rw [PlainServer.del_absent serving valid found]
          exact .kept _ (sameMaps_delAbsent manager checker stateless)
      | some record =>
          cases stale : isStaleDelete record.identity identity with
          | true =>
              rw [PlainServer.del_stale serving valid found stale]
              exact .kept _ (.refl server)
          | false =>
              rw [PlainServer.del_stored serving valid found stale]
              exact delStored_effect manager checker valid found

theorem SameKeys.of_sameMaps {before after : MemoryServer External}
    (same : SameKeys before) (maps : SameMaps before after) :
    SameKeys after := by
  intro key
  rw [maps.store key, maps.records key]
  exact same key

theorem SameKeys.of_addEffect {request : CNIAddRequest}
    {before after : MemoryServer External}
    {reply : Except GoError PlainAddResponse} (same : SameKeys before)
    (effect : AddEffect request before after reply) : SameKeys after := by
  cases effect with
  | failed _ maps => exact same.of_sameMaps maps
  | created _ _ store records =>
      intro key
      rw [store, records, GoMap.get_set, GoMap.get_set]
      split
      · rfl
      · exact same key
  | replayed _ _ _ _ maps => exact same.of_sameMaps maps

theorem SameKeys.of_delEffect {request : PlainDelRequest}
    {before after : MemoryServer External}
    {reply : Except GoError PlainDelResponse} (same : SameKeys before)
    (effect : DelEffect request before after reply) : SameKeys after := by
  cases effect with
  | kept _ maps => exact same.of_sameMaps maps
  | deleted _ store records =>
      intro key
      rw [store, records, GoMap.get_delete, GoMap.get_delete]
      split
      · rfl
      · exact same key

end Effects

inductive PlainRequest where
  | add (request : CNIAddRequest)
  | del (request : PlainDelRequest)

section Runs

variable {External : Type} (manager : EndpointManager External)
  (checker : Option (EndpointSpec → WorldCall External GoError Unit))

namespace MemoryServer

def fresh (external : External) : MemoryServer External :=
  { stopping := false
    store := .empty
    world := ⟨.empty, external, []⟩ }

def add (request : CNIAddRequest) (server : MemoryServer External) :
    Served (MemoryWorld External) PlainAddResponse :=
  PlainServer.add (MemoryWorld.backends manager checker) request server

def del (request : PlainDelRequest) (server : MemoryServer External) :
    Served (MemoryWorld External) PlainDelResponse :=
  PlainServer.del (MemoryWorld.backends manager checker) request server

def serve (server : MemoryServer External) :
    PlainRequest → MemoryServer External
  | .add request => (add manager checker request server).2
  | .del request => (del manager checker request server).2

def run (requests : List PlainRequest) (server : MemoryServer External) :
    MemoryServer External :=
  requests.foldl (serve manager checker) server

/-- The request is a DEL with the key, and it deletes the endpoint. -/
def Deletes (key : String) (server : MemoryServer External) :
    PlainRequest → Prop
  | .add _ => False
  | .del request =>
      endpointKey request.identity = key ∧
        ∃ response, (del manager checker request server).1 = .ok response ∧
          response.outcome = .deleted

/-- No request of the run deletes the endpoint with the key. -/
def Undeleted (key : String) :
    List PlainRequest → MemoryServer External → Prop
  | [], _ => True
  | request :: rest, server =>
      ¬ Deletes manager checker key server request ∧
        Undeleted key rest (serve manager checker server request)

/-- What holds between the requests. -/
structure Ready (server : MemoryServer External) : Prop where
  serving : server.stopping = false
  sameKeys : SameKeys server

theorem ready_fresh (external : External) : Ready (fresh external) :=
  ⟨rfl, fun _ => rfl⟩

variable {manager checker}

theorem Ready.serve {server : MemoryServer External} (ready : Ready server)
    (request : PlainRequest) :
    Ready (serve manager checker server request) := by
  cases request with
  | add request =>
      refine ⟨?_, ?_⟩
      · exact (PlainServer.stopping_add _ server request).trans
          ready.serving
      · exact ready.sameKeys.of_addEffect (add_effect manager checker
          request ready.serving ready.sameKeys)
  | del request =>
      refine ⟨?_, ?_⟩
      · exact (PlainServer.stopping_del _ server request).trans
          ready.serving
      · exact ready.sameKeys.of_delEffect (del_effect manager checker
          request ready.serving ready.sameKeys)

theorem Ready.run {server : MemoryServer External} (ready : Ready server)
    (requests : List PlainRequest) :
    Ready (run manager checker requests server) := by
  induction requests generalizing server with
  | nil => exact ready
  | cons request rest ih => exact ih (ready.serve request)

/-- An endpoint stays in the store until a DEL deletes it. -/
theorem Ready.present_serve {server : MemoryServer External}
    (ready : Ready server) {key : String} {request : PlainRequest}
    (present : (server.store.get key).isSome = true)
    (undeleted : ¬ Deletes manager checker key server request) :
    ((MemoryServer.serve manager checker server request).store.get
      key).isSome = true := by
  cases request with
  | add request =>
      have effect := add_effect manager checker request ready.serving
        ready.sameKeys
      change ((PlainServer.add _ request server).2.store.get key).isSome =
        true
      generalize PlainServer.add (MemoryWorld.backends manager checker)
        request server = served at effect
      obtain ⟨reply, after⟩ := served
      cases effect with
      | failed _ maps => rwa [maps.store key]
      | created _ _ store _ =>
          rw [store, GoMap.get_set]
          split
          · rfl
          · exact present
      | replayed _ _ _ _ maps => rwa [maps.store key]
  | del request =>
      have effect := del_effect manager checker request ready.serving
        ready.sameKeys
      change ((PlainServer.del _ request server).2.store.get key).isSome =
        true
      change ¬ (endpointKey request.identity = key ∧ ∃ response,
        (PlainServer.del _ request server).1 = .ok response ∧
          response.outcome = .deleted) at undeleted
      generalize PlainServer.del (MemoryWorld.backends manager checker)
        request server = served at effect undeleted
      obtain ⟨reply, after⟩ := served
      cases effect with
      | kept _ maps => rwa [maps.store key]
      | deleted valid store _ =>
          have different : key ≠ endpointKey request.identity := by
            intro same
            exact undeleted ⟨same.symm, _, rfl, rfl⟩
          rw [eq_some_of_validateIdentity valid] at different
          rw [store, GoMap.get_delete_of_ne different]
          exact present

theorem Ready.present_run {server : MemoryServer External}
    (ready : Ready server) {key : String} {requests : List PlainRequest}
    (present : (server.store.get key).isSome = true)
    (undeleted : Undeleted manager checker key requests server) :
    ((MemoryServer.run manager checker requests server).store.get
      key).isSome = true := by
  induction requests generalizing server with
  | nil => exact present
  | cons request rest ih =>
      exact ih (ready.serve request)
        (ready.present_serve present undeleted.1) undeleted.2

/-- A successful ADD: what it replies depends on the request and on whether
the endpoint is in the store. -/
theorem Ready.add_ok {server : MemoryServer External} (ready : Ready server)
    {request : CNIAddRequest} {response : PlainAddResponse}
    (replied : (add manager checker request server).1 = .ok response) :
    (∃ identity record,
      requestedRecord request = .ok (identity, record) ∧
      response.result = (storedRecord record).result) ∧
    response.idempotentReplay =
      (server.store.get (endpointKey request.identity)).isSome ∧
    (((add manager checker request server).2.store.get
      (endpointKey request.identity)).isSome = true) := by
  have effect := add_effect manager checker request ready.serving
    ready.sameKeys
  change (PlainServer.add _ request server).1 = _ at replied
  change _ ∧ _ ∧ ((PlainServer.add _ request server).2.store.get
    _).isSome = true
  generalize PlainServer.add (MemoryWorld.backends manager checker)
    request server = served at effect replied
  obtain ⟨reply, after⟩ := served
  cases effect with
  | failed => cases replied
  | created requested absent store _ =>
      cases replied
      rw [identity_of_requestedRecord requested, absent, store,
        GoMap.get_set_self]
      exact ⟨⟨_, _, requested, rfl⟩, rfl, rfl⟩
  | replayed requested found _ _ maps =>
      cases replied
      rw [identity_of_requestedRecord requested, maps.store, found]
      exact ⟨⟨_, _, requested, rfl⟩, rfl, rfl⟩

theorem Ready.sameMaps_of_error {server : MemoryServer External}
    (ready : Ready server) {request : CNIAddRequest} {reason : GoError}
    (replied : (add manager checker request server).1 = .error reason) :
    SameMaps server (add manager checker request server).2 := by
  have effect := add_effect manager checker request ready.serving
    ready.sameKeys
  change (PlainServer.add _ request server).1 = _ at replied
  change SameMaps server (PlainServer.add _ request server).2
  generalize PlainServer.add (MemoryWorld.backends manager checker)
    request server = served at effect replied
  obtain ⟨reply, after⟩ := served
  cases effect with
  | failed _ maps => exact maps
  | created => cases replied
  | replayed => cases replied

end MemoryServer

end Runs

open MemoryServer

variable {External : Type}

/-- After any requests, whatever the endpoint manager replies: the store and
the network backend have the same keys; an ADD with an error leaves both maps
as they are; a successful ADD of a request that has already been served, with
no deletion in between, is a replay with the same result; and a DEL for
another workload or another incarnation is stale and does nothing at all. -/
theorem maps_agree_between_requests (manager : EndpointManager External)
    (checker : Option (EndpointSpec → WorldCall External GoError Unit))
    (external : External) (history : List PlainRequest) :
    let server := run manager checker history (fresh external)
    SameKeys server ∧
    (∀ request reason,
      (add manager checker request server).1 = .error reason →
      SameMaps server (add manager checker request server).2) ∧
    (∀ request first between again,
      (add manager checker request server).1 = .ok first →
      Undeleted manager checker (endpointKey request.identity) between
        (add manager checker request server).2 →
      (add manager checker request (run manager checker between
        (add manager checker request server).2)).1 = .ok again →
      again.idempotentReplay = true ∧ again.result = first.result) ∧
    (∀ (request : PlainDelRequest) requested record stored,
      validateIdentity request.identity = .ok requested →
      server.store.get (endpointKey (some requested)) = some record →
      record.identity = some stored →
      fieldDiffers stored.workloadUid requested.workloadUid = true ∨
        fieldDiffers stored.incarnation requested.incarnation = true →
      del manager checker request server =
        (PlainServer.staleReply requested, server)) := by
  intro server
  have ready : Ready server := (ready_fresh external).run history
  refine ⟨ready.sameKeys, ?_, ?_, ?_⟩
  · intro request reason replied
    exact ready.sameMaps_of_error replied
  · intro request first between again replied undeleted repeated
    obtain ⟨⟨identity, record, requested, result⟩, _, present⟩ :=
      ready.add_ok replied
    have readied : Ready (serve manager checker server (.add request)) :=
      ready.serve (.add request)
    obtain ⟨⟨_, _, requestedAgain, resultAgain⟩, replay, _⟩ :=
      (readied.run between).add_ok repeated
    rw [requested] at requestedAgain
    cases requestedAgain
    refine ⟨?_, resultAgain.trans result.symm⟩
    rw [replay]
    exact readied.present_run present undeleted
  · intro request requested record stored valid found named different
    refine PlainServer.del_stale ready.serving valid found ?_
    rw [named]
    unfold isStaleDelete
    rcases different with different | different <;>
      simp [different]

def agreeingManager : EndpointManager Unit :=
  { ensureEndpoint := fun _ external => (.ok (), external)
    deleteEndpoint := fun _ external => (.ok (), external) }

def plainAdd (workload : String) : CNIAddRequest :=
  { identity := some ⟨"e", "n", "a", workload, "c"⟩
    runtime := some ⟨"1.0.0", "c", "/proc/1", "eth0"⟩
    attachment := some ⟨"ls", "h", "10.0.0.1/24", "00:00:5e:00:53:01"⟩
    k8s := none }

def plainDel (workload : String) : PlainDelRequest :=
  { identity := some ⟨"e", "n", "a", workload, "c"⟩ }

/-- A replayed ADD and a DEL for another workload. -/
theorem maps_agree_between_requests_sample :
    let server := run agreeingManager none [.add (plainAdd "pod")]
      (fresh ())
    SameKeys server ∧
    (∀ again, (add agreeingManager none (plainAdd "pod")
        (add agreeingManager none (plainAdd "pod") server).2).1 = .ok again →
      again.idempotentReplay = true) ∧
    (add agreeingManager none (plainAdd "pod")
      (add agreeingManager none (plainAdd "pod") server).2).1.isOk = true ∧
    del agreeingManager none (plainDel "other") server =
      (PlainServer.staleReply ⟨"e", "n", "a", "other", "c"⟩, server) := by
  intro server
  obtain ⟨keys, _, replays, stale⟩ :=
    maps_agree_between_requests agreeingManager none ()
      [.add (plainAdd "pod")]
  have replied : (add agreeingManager none (plainAdd "pod") server).1 =
      .ok ⟨"endpoint already exists", some (buildResultFromStaticConfig
        ⟨"1.0.0", "c", "/proc/1", "eth0"⟩
        ⟨"ls", "h", "10.0.0.1/24", "00:00:5e:00:53:01"⟩),
        some ⟨"e", "n", "a", "pod", "c"⟩, true, "idempotent replay"⟩ := by
    decide +kernel
  obtain ⟨record, found, named⟩ := Option.bind_eq_some_iff.mp
    (show (server.store.get "n|a|e").bind (·.identity) =
      some ⟨"e", "n", "a", "pod", "c"⟩ by decide +kernel)
  refine ⟨keys, ?_, by decide +kernel, ?_⟩
  · intro again repeated
    exact (replays (plainAdd "pod") _ [] again replied trivial
      repeated).1
  · exact stale (plainDel "other") ⟨"e", "n", "a", "other", "c"⟩ record _
      rfl found named (.inl (by decide +kernel))

/-- White space around a workload UID does not make a DEL stale. -/
theorem spaced_workload_deleted :
    let server := run agreeingManager none [.add (plainAdd "pod")]
      (fresh ())
    (server.store.get "n|a|e").bind (·.identity) =
      some ⟨"e", "n", "a", "pod", "c"⟩ ∧
    (plainDel " pod").identity = some ⟨"e", "n", "a", " pod", "c"⟩ ∧
    (del agreeingManager none (plainDel " pod") server).1 =
      .ok ⟨"endpoint deleted", .deleted, ⟨"e", "n", "a", " pod", "c"⟩⟩ ∧
    (del agreeingManager none (plainDel " pod") server).2.store.get
      "n|a|e" = none := by
  decide +kernel

end EvpnForOvn.Nodeagent

import EvpnForOvn.Import.RemoteType2

/-!
# The read-only importer

The importer polls the table of a speaker, merges the accepted routes into
endpoints and publishes a snapshot when two successive observations agree.  A
read of the table is an argument of `poll`; any result of any source is
allowed.
-/

namespace EvpnForOvn.Evpn

open Go

structure RemoteRIBSnapshot where
  paths : List (Option RemotePath)
  complete : Bool

/-- What `ReadRemoteRIB` returns, and whether the context has been cancelled
when it returns. -/
structure RemoteRIBRead where
  outcome : Except GoError RemoteRIBSnapshot
  cancelled : Bool

/-- An error with the issues that are reported beside it. -/
structure Uncertain where
  reason : GoError
  issues : List RemoteImportIssue

/-- The variables of the loop of `Poll` over the paths. -/
structure Merge where
  endpoints : GoMap DesiredRemoteEndpoint
  identities : GoMap String
  macs : GoMap String
  ips : GoMap String
  issues : List RemoteImportIssue
  quarantined : List DecodedRemoteType2

namespace Merge

def empty : Merge :=
  { endpoints := GoMap.empty
    identities := GoMap.empty
    macs := GoMap.empty
    ips := GoMap.empty
    issues := []
    quarantined := [] }

/-- The zero value of `DesiredRemoteEndpoint`. -/
def blankEndpoint : DesiredRemoteEndpoint :=
  { key := ""
    networkID := ""
    vni := 0
    mac := ""
    ip := ""
    remoteVTEP := ""
    validationState := .unset
    routes := [] }

def macKey (valid : ValidatedRemoteRoute) : String :=
  valid.networkID ++ "/" ++ valid.route.mac

def ipKey (valid : ValidatedRemoteRoute) : String :=
  valid.networkID ++ "/" ++ valid.route.ip

def conflictingBindings : GoError :=
  .new "conflicting IPv4 bindings" ""

/-- `previous, ok := ips[ipKey]; ok && previous != key`. -/
def bindingTaken (merge : Merge) (valid : ValidatedRemoteRoute)
    (key : String) : Bool :=
  match merge.ips.get (ipKey valid) with
  | some previous => previous != key
  | none => false

section Loop

variable (digest : RemoteHash)

/-- The key of the endpoint that the route belongs to, after the endpoint has
been created or has received the address of the route. -/
def placeRoute (valid : ValidatedRemoteRoute) (merge : Merge) :
    Except GoError (String × Merge) :=
  let route := valid.route
  let nextKey := digest.endpointKey valid.networkID route.mac route.ip
  match merge.macs.get (macKey valid) with
  | some key =>
      let endpoint := (merge.endpoints.get key).getD blankEndpoint
      if endpoint.remoteVTEP ≠ route.nextHop then
        .error (.new "conflicting remote VTEPs" "")
      else if endpoint.ip ≠ "" ∧ route.ip ≠ "" ∧ endpoint.ip ≠ route.ip then
        .error conflictingBindings
      else if endpoint.ip = "" ∧ route.ip ≠ "" then
        if merge.bindingTaken valid key then .error conflictingBindings
        else
          .ok (nextKey, { merge with
            endpoints := (merge.endpoints.delete key).set nextKey
              { endpoint with
                key := nextKey
                ip := route.ip }
            macs := merge.macs.set (macKey valid) nextKey })
      else .ok (key, merge)
  | none =>
      if route.ip ≠ "" ∧ merge.bindingTaken valid nextKey = true then
        .error conflictingBindings
      else
        .ok (nextKey, { merge with
          endpoints := merge.endpoints.set nextKey
            { key := nextKey
              networkID := valid.networkID
              vni := valid.vni
              mac := route.mac
              ip := route.ip
              remoteVTEP := route.nextHop
              validationState := .validated
              routes := [] }
          macs := merge.macs.set (macKey valid) nextKey })

/-- The part of the loop for a route that the policy accepts. -/
def mergeRoute (valid : ValidatedRemoteRoute) (merge : Merge) :
    Except GoError Merge := do
  let (key, merge) ← placeRoute digest valid merge
  if valid.route.ip ≠ "" ∧ merge.bindingTaken valid key = true then
    .error conflictingBindings
  else
    let ips :=
      if valid.route.ip = "" then merge.ips
      else merge.ips.set (ipKey valid) key
    let endpoint := (merge.endpoints.get key).getD blankEndpoint
    .ok { merge with
      ips := ips
      endpoints := merge.endpoints.set key
        { endpoint with routes := endpoint.routes ++ [valid] } }

variable (package : RoutePackage) (config : RemoteImportConfig)

/-- The loop body from the check of the path's identity on. -/
def mergeDecoded (route : DecodedRemoteType2) (merge : Merge) :
    Except GoError Merge :=
  match merge.identities.get route.source.key with
  | some previous =>
      if previous ≠ route.attributeKey then
        .error (.new "conflicting payloads for the same remote path identity"
          "")
      else .ok merge
  | none =>
      let merge := { merge with
        identities :=
          merge.identities.set route.source.key route.attributeKey }
      match config.validateRoute package route with
      | .error reason =>
          .ok { merge with
            issues := merge.issues ++ [⟨route.source.key, reason.text⟩]
            quarantined := merge.quarantined ++ [route] }
      | .ok valid => mergeRoute digest valid merge

def mergePath (path : Option RemotePath) (merge : Merge) :
    Except Uncertain Merge :=
  match decodeRemoteType2 digest path with
  | .error (read, reason) =>
      .error ⟨reason.extend "invalid raw BGP path: " "",
        [⟨read.source.key, reason.text⟩]⟩
  | .ok route =>
      if route.classification = .local ∨
          route.classification = .withdrawn then .ok merge
      else if route.stale = true ∨ route.filtered = true ∨
          route.nexthopInvalid = true then
        .error ⟨.new "remote path validity uncertain" "", []⟩
      else
        (mergeDecoded digest package config route merge).mapError
          fun reason => ⟨reason, []⟩

def mergePaths : List (Option RemotePath) → Merge → Except Uncertain Merge
  | [], merge => .ok merge
  | path :: rest, merge => do
      let merged ← mergePath digest package config path merge
      mergePaths rest merged

end Loop

/-- `overlap`. -/
def overlaps (networkID : String) (route : DecodedRemoteType2)
    (endpoint : DesiredRemoteEndpoint) : Bool :=
  endpoint.networkID == networkID &&
    (endpoint.mac == route.mac ||
      (route.ip != "" && endpoint.ip == route.ip))

/-- The first label of a route is the VNI of a network. -/
def labelled (route : DecodedRemoteType2) (network : RemoteImportNetwork) :
    Bool :=
  match route.labels with
  | [] => false
  | label :: _ => network.vni == label

/-- The loop over the networks for one quarantined route. -/
def checkQuarantined (built confirmed : List DesiredRemoteEndpoint)
    (route : DecodedRemoteType2) :
    List RemoteImportNetwork → Except GoError Unit
  | [] => .ok ()
  | network :: rest =>
      if labelled route network then
        if built.any (overlaps network.networkID route) then
          .error (.new "quarantined route conflicts with validated endpoint"
            "")
        else if confirmed.any (overlaps network.networkID route) then
          .error (.new "quarantined route conflicts with confirmed endpoint"
            "")
        else checkQuarantined built confirmed route rest
      else checkQuarantined built confirmed route rest

/-- The loop over the quarantined routes. -/
def checkQuarantine (built confirmed : List DesiredRemoteEndpoint)
    (networks : List RemoteImportNetwork) :
    List DecodedRemoteType2 → Except GoError Unit
  | [] => .ok ()
  | route :: rest => do
      checkQuarantined built confirmed route networks
      checkQuarantine built confirmed networks rest

def sortRoutes (routes : List ValidatedRemoteRoute) :
    List ValidatedRemoteRoute :=
  routes.insertionSort fun left right =>
    left.route.source.key ≤ right.route.source.key

def sortEndpoints (endpoints : List DesiredRemoteEndpoint) :
    List DesiredRemoteEndpoint :=
  endpoints.insertionSort fun left right => left.key ≤ right.key

/-- The order of the issues: by path, then by reason. -/
def issueBefore (left right : RemoteImportIssue) : Prop :=
  left.pathKey < right.pathKey ∨
    left.pathKey = right.pathKey ∧ left.reason ≤ right.reason

instance : DecidableRel issueBefore := fun _ _ =>
  inferInstanceAs (Decidable (_ ∨ _))

def sortIssues (issues : List RemoteImportIssue) : List RemoteImportIssue :=
  issues.insertionSort issueBefore

/-- The snapshot that the loop has built. -/
def candidate (merge : Merge) : RemoteImportSnapshot :=
  { authoritative := false
    generation := 0
    endpoints := sortEndpoints (merge.endpoints.values.map fun endpoint =>
      { endpoint with routes := sortRoutes endpoint.routes })
    issues := sortIssues merge.issues }

end Merge

/-- `ReadOnlyType2Importer`, without its source. -/
structure ReadOnlyType2Importer where
  config : RemoteImportConfig
  confirmed : RemoteImportSnapshot
  pending : String

/-- What `Poll` returns: a snapshot, and an error or nil. -/
structure PollReply where
  snapshot : RemoteImportSnapshot
  failure : Option GoError

namespace ReadOnlyType2Importer

def blankSnapshot : RemoteImportSnapshot :=
  ⟨false, 0, [], []⟩

variable (digest : RemoteHash) (package : RoutePackage)

/-- `NewReadOnlyType2Importer` with a source. -/
def new (config : RemoteImportConfig) :
    Except GoError ReadOnlyType2Importer := do
  config.validate package
  return ⟨config, blankSnapshot, ""⟩

/-- `RebindSource`; the argument says whether the source is not nil. -/
def rebindSource (importer : ReadOnlyType2Importer) (present : Bool) :
    Except GoError Unit × ReadOnlyType2Importer :=
  if present then
    (.ok (), { importer with
      pending := ""
      confirmed := { importer.confirmed with authoritative := false } })
  else (.error (.new "remote RIB source required" ""), importer)

/-- The part of `Poll` before the comparison with the pending digest. -/
def observe (importer : ReadOnlyType2Importer) (read : RemoteRIBRead) :
    Except Uncertain RemoteImportSnapshot :=
  match read.outcome with
  | .error reason => .error ⟨reason, []⟩
  | .ok raw =>
      if raw.complete = false ∨ read.cancelled = true then
        .error ⟨.new "incomplete/cancelled RIB observation" "", []⟩
      else do
        let merge ← Merge.mergePaths digest package importer.config raw.paths
          Merge.empty
        match Merge.checkQuarantine merge.endpoints.values
            importer.confirmed.endpoints importer.config.networks
            merge.quarantined with
        | .error reason => .error ⟨reason, merge.issues⟩
        | .ok _ => .ok merge.candidate

def poll (importer : ReadOnlyType2Importer) (read : RemoteRIBRead) :
    PollReply × ReadOnlyType2Importer :=
  match importer.observe digest package read with
  | .error uncertain =>
      (⟨{ importer.confirmed with
          authoritative := false
          issues := importer.confirmed.issues ++ uncertain.issues },
        some uncertain.reason⟩,
        { importer with pending := "" })
  | .ok next =>
      let key := digest (.snapshot next)
      if importer.pending ≠ key then
        (⟨{ importer.confirmed with
            authoritative := false
            issues := next.issues }, none⟩,
          { importer with pending := key })
      else
        let comparison := { importer.confirmed with
          authoritative := false
          generation := 0 }
        let confirmed := { next with
          authoritative := true
          generation :=
            if digest (.snapshot comparison) ≠ key then
              importer.confirmed.generation + 1
            else importer.confirmed.generation }
        (⟨confirmed, none⟩, { importer with confirmed := confirmed })

end ReadOnlyType2Importer

end EvpnForOvn.Evpn

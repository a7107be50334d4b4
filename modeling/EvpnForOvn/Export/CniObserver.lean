import EvpnForOvn.Attachment.OvsManager
import EvpnForOvn.Cni.Messages
import EvpnForOvn.Endpoint.Northbound
import EvpnForOvn.Export.ExporterConfig
import Mathlib.Algebra.GroupWithZero.Nat

/-!
# Endpoints observed in the records of the node agent

`CNIEndpointObserver` starts from the managed attachment records.  A record
becomes an endpoint when the rows of the databases and the Linux attachment
agree with it.
-/

namespace EvpnForOvn.Go

/-- `netip.ParsePrefix`, by its address. -/
def parsePrefixAddr (text : String) : Option Addr :=
  let reversed := text.toList.reverse
  match reversed.dropWhile (· != '/') with
  | [] => none
  | _ :: address => do
      let parsed ← parseAddr (String.ofList address.reverse)
      let digits ← (reversed.takeWhile (· != '/')).reverse.mapM decimalDigit
      let value := digits.foldl (fun value digit => value * 10 + digit) 0
      if parsed.zone ≠ "" ∨ digits = [] ∨
          (1 < digits.length ∧ digits.head? = some 0) ∨
          parsed.bitLen < value then none
      else some parsed

end EvpnForOvn.Go

namespace EvpnForOvn.Nodeagent

open Go Evpn
open Endpoint (LogicalSwitch LogicalSwitchPort)
open Attachment (externalIDsForIdentity)

structure ExportBridge where
  name : String
  ports : List String

structure ExportPort where
  uuid : String
  name : String
  interfaces : List String

structure ExportInterface where
  uuid : String
  name : String
  externalIDs : GoMap String
  ofport : Option Int
  error : Option String

structure ExportPortBinding where
  logicalPort : String
  chassis : Option String
  up : Option Bool

structure ExportChassis where
  uuid : String
  name : String

/-- `exportSnapshot`, by the columns that the observer reads. -/
structure ExportSnapshot where
  switches : List LogicalSwitch
  lsps : List LogicalSwitchPort
  bridges : List ExportBridge
  ports : List ExportPort
  interfaces : List ExportInterface
  bindings : List ExportPortBinding
  chassis : List ExportChassis

/-- An early return with a reason. -/
def require (condition : Bool) (reason : String) : Except String Unit :=
  if condition then .ok () else .error reason

/-- The row with a name, which must not be repeated. -/
def onlyNamed {α : Type} (nameOf : α → String) (name repeated : String)
    (rows : List α) : Except String (Option α) :=
  match rows.filter fun row => nameOf row == name with
  | [] => .ok none
  | [row] => .ok (some row)
  | _ => .error repeated

/-- The rows that refer to an identifier have one name, and refer to it
once. -/
def onlyHolder (holders : List (String × List String))
    (name uuid elsewhere repeated : String) : Except String Unit := do
  require (holders.all fun holder =>
    holder.1 == name || !holder.2.contains uuid) elsewhere
  require ((holders.map fun holder => holder.2.count uuid).sum == 1) repeated

/-- The identity of the record is that of its specification. -/
def identityAgrees (spec : EndpointSpec) (record : EndpointRecord) : Bool :=
  let id := record.identity.getD {}
  spec.workload.kind == "pod" && spec.workload.uid != "" &&
    spec.id == spec.networkID ++ "|" ++ spec.attachmentID ++ "|" ++
      spec.workload.uid &&
    id.endpointId == spec.id && id.networkId == spec.networkID &&
    id.attachmentId == spec.attachmentID &&
    id.workloadUid == spec.workload.uid &&
    id.incarnation == spec.incarnation && spec.incarnation != "" &&
    (record.runtime.getD {}).containerId == spec.incarnation

/-- The identifiers that the rows of an endpoint carry. -/
def wantedIDs (spec : EndpointSpec) : GoMap String :=
  externalIDsForIdentity
    { endpointID := spec.id
      networkID := spec.networkID
      attachmentID := spec.attachmentID
      workloadUID := spec.workload.uid
      incarnation := spec.incarnation }
    spec.logicalSwitchPort ""

def ownedBy (want ids : GoMap String) : Bool :=
  want.sortedKeys.all fun key =>
    (ids.get key).getD "" == (want.get key).getD ""

/-- The only address of the port is the one of the attachment. -/
def addressAgrees (spec : EndpointSpec) (ip : Addr) (address : String) :
    Bool :=
  match fields address with
  | [mac, text] =>
      equalFold mac spec.macAddress &&
        (text == spec.ipAddresses.headD "" || text == ip.string)
  | _ => false

/-- The managed IPv4 address. -/
def managedAddress (spec : EndpointSpec) : Except String Addr :=
  match spec.ipAddresses with
  | [text] =>
      match parsePrefixAddr text with
      | some ip =>
          if ip.is4 then .ok ip
          else .error "managed endpoint is not a single IPv4 prefix"
      | none => .error "managed endpoint is not a single IPv4 prefix"
  | _ => .error "exactly one managed IPv4 prefix required"

/-- The logical switch port and its address. -/
def readyLSP (spec : EndpointSpec) (network : EVPNNetworkConfig)
    (data : ExportSnapshot) (ip : Addr) :
    Except String LogicalSwitchPort := do
  match ← onlyNamed (·.name) spec.logicalSwitchPort "duplicate LSP"
      data.lsps with
  | none => .error "NB LSP absent"
  | some lsp =>
      require (ownedBy (wantedIDs spec) lsp.externalIDs)
        "NB LSP ownership mismatch"
      onlyHolder (data.switches.map fun row => (row.name, row.ports))
        network.logicalSwitch lsp.uuid "LSP in unexpected switch"
        "LSP switch membership not unique"
      match lsp.addresses with
      | [address] =>
          require (addressAgrees spec ip address)
            "LSP MAC/IP differs from CNI attachment"
          return lsp
      | _ => .error "LSP address set differs from CNI attachment"

/-- The interface has a port of its own on the integration bridge. -/
def readyInterface (spec : EndpointSpec) (data : ExportSnapshot) :
    Except String Unit := do
  match ← onlyNamed (·.name) spec.ovsInterfaceName "duplicate OVS Interface"
      data.interfaces with
  | none => .error "OVS Interface absent or wrong owner/iface-id"
  | some iface =>
      require (ownedBy (wantedIDs spec) iface.externalIDs)
        "OVS Interface absent or wrong owner/iface-id"
      require (iface.ofport.any (0 < ·) && iface.error.all (· == ""))
        "OVS Interface ofport/error unready"
      match ← onlyNamed (·.name) spec.ovsInterfaceName "duplicate OVS Port"
          data.ports with
      | none => .error "OVS Port/Interface relationship unready"
      | some port =>
          require (port.interfaces == [iface.uuid])
            "OVS Port/Interface relationship unready"
          onlyHolder (data.bridges.map fun row => (row.name, row.ports))
            "br-int" port.uuid "OVS Port attached outside br-int"
            "OVS Port not uniquely attached to br-int"

/-- The port is up on the local chassis. -/
def readyBinding (lsp : LogicalSwitchPort) (chassis : String)
    (data : ExportSnapshot) : Except String Unit := do
  match ← onlyNamed (·.logicalPort) lsp.name "duplicate Port_Binding"
      data.bindings with
  | none => .error "SB Port_Binding absent/down/unbound"
  | some binding =>
      match binding.chassis, binding.up with
      | some row, some true =>
          require (data.chassis.any fun other =>
              other.uuid == row && other.name == chassis)
            "SB Port_Binding is not on configured local chassis"
      | _, _ => .error "SB Port_Binding absent/down/unbound"

/-- All checks in order. -/
def readyDataplane (spec : EndpointSpec) (record : EndpointRecord)
    (network : EVPNNetworkConfig) (chassis : String)
    (data : ExportSnapshot) : Except String Unit := do
  require (identityAgrees spec record) "CNI identity/incarnation mismatch"
  require (spec.logicalSwitch == network.logicalSwitch)
    "logical switch differs from allowlist"
  let ip ← managedAddress spec
  let lsp ← readyLSP spec network data ip
  readyInterface spec data
  readyBinding lsp chassis data

/-- `exportDataplaneReason`; the empty text when all checks pass. -/
def exportDataplaneReason (spec : EndpointSpec) (record : EndpointRecord)
    (network : EVPNNetworkConfig) (chassis : String)
    (data : ExportSnapshot) : String :=
  match readyDataplane spec record network chassis data with
  | .error reason => reason
  | .ok _ => ""

structure ExportObservation where
  endpointID : String
  incarnation : String
  state : String
  reason : String
  deriving DecidableEq, Repr

/-- What a call of the observer reads. -/
structure CniReads where
  snapshot : Except GoError ExportSnapshot
  records : List EndpointRecord
  /-- `Check` of the Linux backend. -/
  check : String → EndpointRecord → Except GoError Unit

/-- The source of a network in a text. -/
def sourceText : ExportSource → String
  | .cni => "cni"
  | .framework => "framework"
  | .ovnNetlink => "ovn-netlink"

/-- Why a record is not exported, or the network that it is exported with. -/
def exportReason (config : ExporterConfig) (data : ExportSnapshot)
    (record : EndpointRecord) : Except String EVPNNetworkConfig :=
  match (networksByID config.networks).get record.endpointSpec.networkID with
  | none => .error "network not allowlisted"
  | some network =>
      if network.exportSource ≠ .cni then
        .error ("network authority is " ++ sourceText network.exportSource)
      else if network.enabled then
        let reason := exportDataplaneReason record.endpointSpec record network
          config.localChassis data
        if reason = "" then .ok network else .error reason
      else .error "network not allowlisted"

def recordEndpoint (config : ExporterConfig) (network : EVPNNetworkConfig)
    (spec : EndpointSpec) (ip : Addr) : LocalEndpoint :=
  { networkID := spec.networkID
    endpointID := spec.id
    incarnation := spec.incarnation
    macAddress := spec.macAddress
    ipAddresses := [ip.string]
    vni := network.vni
    routeDistinguisher := network.routeDistinguisher
    routeTargets := network.routeTargets
    localVTEP := network.localVTEP
    nodeName := config.nodeName
    chassis := config.localChassis
    advertise := true
    macOnly := false }

/-- `fmt.Errorf("%s: %s", ...)` with the identifier of an endpoint. -/
def endpointError (id reason : String) : GoError :=
  { wraps := []
    text := id ++ (": " ++ reason)
    spoken := by
      intro empty
      have lengths := congrArg String.length empty
      simp only [String.length_append] at lengths
      have colon : (": " : String).length = 2 := rfl
      have none : ("" : String).length = 0 := rfl
      omega }

/-- One round of the loop: the endpoint of the record, if any, or a failure
of the call.  The observation comes along in each case but the last. -/
def observeRecord (config : ExporterConfig) (reads : CniReads)
    (data : ExportSnapshot) (record : EndpointRecord) :
    Except GoError (Option LocalEndpoint) × List ExportObservation :=
  let spec := record.endpointSpec
  let observation := ExportObservation.mk spec.id spec.incarnation
  match exportReason config data record with
  | .error reason => (.ok none, [observation "unready" reason])
  | .ok network =>
      match reads.check (endpointKey record.identity) record with
      | .error reason =>
          (.error (endpointError spec.id
              ("Linux attachment verification: " ++ reason.text)),
            [observation "observation-error"
              ("Linux attachment verification: " ++ reason.text)])
      | .ok _ =>
          match parsePrefixAddr (spec.ipAddresses.headD "") with
          | none => (.error (.new "invalid managed endpoint address" ""), [])
          | some ip =>
              (.ok (some (recordEndpoint config network spec ip)),
                [observation "ready"
                  "NB/OVS/Linux/SB ownership and readiness verified"])

def observeRecords (config : ExporterConfig) (reads : CniReads)
    (data : ExportSnapshot) : List EndpointRecord →
    Except GoError (List LocalEndpoint) × List ExportObservation
  | [] => (.ok [], [])
  | record :: rest =>
      match observeRecord config reads data record with
      | (.error reason, observations) => (.error reason, observations)
      | (.ok endpoint, observations) =>
          let later := observeRecords config reads data rest
          (later.1.map (endpoint.toList ++ ·), observations ++ later.2)

def cniDesiredEndpoints (config : ExporterConfig) (reads : CniReads) :
    Except GoError (List LocalEndpoint) × List ExportObservation :=
  match reads.snapshot with
  | .error reason =>
      (.error reason, [⟨"", "", "observation-error", reason.text⟩])
  | .ok data =>
      let records := reads.records.insertionSort fun left right =>
        endpointKey left.identity ≤ endpointKey right.identity
      if records.isEmpty then
        (.ok [], [⟨"", "", "absent", "no managed CNI attachment records"⟩])
      else observeRecords config reads data records

/-- The endpoint is of a network of the configuration that is enabled, and has
the settings of this network. -/
structure Advertised (config : ExporterConfig) (endpoint : LocalEndpoint)
    (network : EVPNNetworkConfig) : Prop where
  listed : network ∈ config.networks
  id : network.networkID = endpoint.networkID
  enabled : network.enabled = true
  vni : endpoint.vni = network.vni
  routeDistinguisher :
    endpoint.routeDistinguisher = network.routeDistinguisher
  routeTargets : endpoint.routeTargets = network.routeTargets
  localVTEP : endpoint.localVTEP = network.localVTEP

section Advertised

variable {config : ExporterConfig} {reads : CniReads} {data : ExportSnapshot}
  {endpoint : LocalEndpoint}

theorem of_exportReason {record : EndpointRecord}
    {network : EVPNNetworkConfig}
    (ready : exportReason config data record = .ok network) :
    (networksByID config.networks).get record.endpointSpec.networkID =
        some network ∧
      network.exportSource = .cni ∧ network.enabled = true := by
  unfold exportReason at ready
  split at ready
  · cases ready
  · rename_i found
    split at ready
    · cases ready
    · rename_i source
      split at ready
      · rename_i enabled
        dsimp only at ready
        split at ready
        · cases ready
          exact ⟨found, not_not.mp source, enabled⟩
        · cases ready
      · cases ready

theorem advertised_of_observeRecord {record : EndpointRecord}
    (observed : (observeRecord config reads data record).1 =
      .ok (some endpoint)) :
    ∃ network, Advertised config endpoint network ∧
      network.exportSource = .cni := by
  unfold observeRecord at observed
  dsimp only at observed
  split at observed
  · cases observed
  · rename_i network ready
    obtain ⟨found, source, enabled⟩ := of_exportReason ready
    obtain ⟨listed, id⟩ := mem_of_get_networksByID found
    split at observed
    · cases observed
    · split at observed
      · cases observed
      · cases observed
        exact ⟨network, ⟨listed, id, enabled, rfl, rfl, rfl, rfl⟩, source⟩

theorem advertised_of_observeRecords {records : List EndpointRecord}
    {endpoints : List LocalEndpoint}
    (observed : (observeRecords config reads data records).1 =
      .ok endpoints) :
    ∀ endpoint ∈ endpoints, ∃ network, Advertised config endpoint network ∧
      network.exportSource = .cni := by
  induction records generalizing endpoints with
  | nil =>
      cases observed
      exact fun _ listed => absurd listed List.not_mem_nil
  | cons record rest induction =>
      unfold observeRecords at observed
      split at observed
      · cases observed
      · rename_i found _ first
        dsimp only at observed
        cases later : (observeRecords config reads data rest).1 with
        | error reason =>
            rw [later] at observed
            cases observed
        | ok others =>
            rw [later] at observed
            cases observed
            intro endpoint listed
            rcases List.mem_append.mp listed with new | old
            · rw [Option.mem_toList] at new
              exact advertised_of_observeRecord
                ((congrArg Prod.fst first).trans (congrArg Except.ok new))
            · exact induction later endpoint old

/-- The endpoints of the records carry the settings of the configuration. -/
theorem advertised_of_cni {endpoints : List LocalEndpoint}
    (observed : (cniDesiredEndpoints config reads).1 = .ok endpoints) :
    ∀ endpoint ∈ endpoints, ∃ network, Advertised config endpoint network ∧
      network.exportSource = .cni := by
  unfold cniDesiredEndpoints at observed
  split at observed
  · cases observed
  · dsimp only at observed
    split at observed
    · cases observed
      exact fun _ listed => absurd listed List.not_mem_nil
    · exact advertised_of_observeRecords observed

end Advertised

end EvpnForOvn.Nodeagent

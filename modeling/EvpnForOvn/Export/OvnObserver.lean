import EvpnForOvn.Type2.Endpoint

/-!
# Endpoints observed in the OVN databases

The observer of framework networks reads the logical switch ports and the
port bindings and turns the ports of the local chassis into endpoints.  The
endpoints are collected in a map under their route keys.
-/

namespace EvpnForOvn.Evpn

open Go

/-- The parts of a route key. -/
def LocalEndpoint.routeFields (endpoint : LocalEndpoint) : List String :=
  [trimSpace endpoint.networkID, trimSpace endpoint.endpointID,
    trimSpace endpoint.incarnation, trimSpace endpoint.routeDistinguisher,
    trimSpace endpoint.macAddress, primaryIP endpoint.ipAddresses,
    toString endpoint.vni, trimSpace endpoint.localVTEP]

def LocalEndpoint.routeKey (endpoint : LocalEndpoint) : String :=
  join '/' endpoint.routeFields

/-- `ExporterSource`; the empty text stands for `cni`. -/
inductive ExportSource where
  | cni
  | framework
  | ovnNetlink
  deriving DecidableEq, Repr

structure EVPNNetworkConfig where
  networkID : String
  logicalSwitch : String
  enabled : Bool
  vni : Nat
  routeDistinguisher : String
  routeTargets : List String
  localVTEP : String
  exportSource : ExportSource
  bridgeDevice : String
  vxlanDevice : String
  advertiseDevice : String
  deriving DecidableEq, Repr

structure OVNLogicalSwitchPort where
  name : String
  addresses : List String
  externalIDs : GoMap String

structure OVNPortBinding where
  logicalPort : String
  chassis : String

/-- What the source of an observer lists. -/
structure OVNState where
  ports : Except GoError (List OVNLogicalSwitchPort)
  bindings : Except GoError (List OVNPortBinding)

/-- `attachment.ExternalIDNetworkID` -/
def frameworkNetworkID : String := "evpn.framework/network-id"

/-- `attachment.ExternalIDEndpointID` -/
def frameworkEndpointID : String := "evpn.framework/endpoint-id"

/-- `attachment.ExternalIDIncarnation` -/
def frameworkIncarnation : String := "evpn.framework/incarnation"

/-- `attachment.ExternalIDAttachID` -/
def frameworkAttachID : String := "evpn.framework/attachment-id"

/-- `attachment.ExternalIDWorkloadUID` -/
def frameworkWorkloadUID : String := "evpn.framework/workload-uid"

/-- An address of a pair, without the mask of a prefix. -/
def pairIP (candidate : String) : Option String :=
  match parseIP candidate with
  | some _ => some candidate
  | none => (parseCIDR candidate).map ipString

/-- A MAC address followed by an IP address. -/
def addressPair (raw : String) : Option (String × String) :=
  match fields (trimSpace raw) with
  | mac :: ip :: _ =>
      if (parseMAC (trimSpace mac)).isSome then
        (pairIP (trimSpace ip)).map fun address => (trimSpace mac, address)
      else none
  | _ => none

def parseAddressPair (addresses : List String) : Option (String × String) :=
  addresses.findSome? addressPair

def normalizeExternalIDs (ids : GoMap String) : GoMap String :=
  ids.sortedKeys.foldl (fun normalized key =>
    normalized.set (trimSpace key) (trimSpace ((ids.get key).getD "")))
    GoMap.empty

/-- `OVNEndpointObserver`, without its source. -/
structure OVNEndpointObserver where
  localNode : String
  localChassis : String
  networks : GoMap EVPNNetworkConfig

namespace OVNEndpointObserver

variable (observer : OVNEndpointObserver)

/-- The chassis of each port. -/
def bindingByPort (bindings : List OVNPortBinding) : GoMap String :=
  bindings.foldl (fun byPort binding =>
    if isBlank binding.logicalPort then byPort
    else byPort.set (trimSpace binding.logicalPort)
      (trimSpace binding.chassis)) GoMap.empty

/-- A missing key reads as the empty text. -/
def idOf (ids : GoMap String) (key : String) : String :=
  (ids.get key).getD ""

def completeIDs (ids : GoMap String) : Bool :=
  idOf ids frameworkEndpointID != "" && idOf ids frameworkIncarnation != "" &&
    idOf ids frameworkAttachID != "" && idOf ids frameworkWorkloadUID != ""

/-- The endpoint of a port with a network, identifiers and an address. -/
def portEndpoint (network : EVPNNetworkConfig) (ids : GoMap String)
    (mac ip : String) : LocalEndpoint :=
  { networkID := idOf ids frameworkNetworkID
    endpointID := idOf ids frameworkEndpointID
    incarnation := idOf ids frameworkIncarnation
    macAddress := mac
    ipAddresses := [ip]
    vni := network.vni
    routeDistinguisher := network.routeDistinguisher
    routeTargets := network.routeTargets
    localVTEP := network.localVTEP
    nodeName := trimSpace observer.localNode
    chassis := trimSpace observer.localChassis
    advertise := true
    macOnly := false }

def isLocal (byPort : GoMap String) (port : OVNLogicalSwitchPort) : Bool :=
  trimSpace port.name != "" &&
    trimSpace (idOf byPort (trimSpace port.name)) ==
      trimSpace observer.localChassis

/-- One round of the loop over the ports. -/
def observePort (byPort : GoMap String) (port : OVNLogicalSwitchPort) :
    Option LocalEndpoint :=
  let ids := normalizeExternalIDs port.externalIDs
  match observer.networks.get (idOf ids frameworkNetworkID),
      parseAddressPair port.addresses with
  | some network, some (mac, ip) =>
      if observer.isLocal byPort port && network.enabled &&
          completeIDs ids then
        some (observer.portEndpoint network ids mac ip)
      else none
  | _, _ => none

def candidates (ports : List OVNLogicalSwitchPort)
    (bindings : List OVNPortBinding) : List LocalEndpoint :=
  ports.filterMap (observer.observePort (bindingByPort bindings))

/-- The endpoints under their route keys; a later one replaces an earlier
one. -/
def resultByKey (endpoints : List LocalEndpoint) : GoMap LocalEndpoint :=
  endpoints.foldl (fun byKey endpoint =>
    byKey.set endpoint.routeKey endpoint) GoMap.empty

/-- The endpoints of a map in the order of its keys. -/
def sortedEndpoints (byKey : GoMap LocalEndpoint) : List LocalEndpoint :=
  byKey.sortedKeys.filterMap byKey.get

/-- `DesiredLocalEndpoints` with a source. -/
def desiredLocalEndpoints (state : OVNState) :
    Except GoError (List LocalEndpoint) :=
  if isBlank observer.localChassis then
    .error (.new "local chassis is required" "")
  else do
    let ports ← state.ports
    let bindings ← state.bindings
    return sortedEndpoints
      (resultByKey (observer.candidates ports bindings))

theorem get_resultByKey (endpoints : List LocalEndpoint) (key : String) :
    (resultByKey endpoints).get key =
      endpoints.reverse.find? fun endpoint => endpoint.routeKey == key := by
  unfold resultByKey
  rw [GoMap.get_foldl_set LocalEndpoint.routeKey, GoMap.get_empty,
    Option.or_none]

theorem mem_sortedEndpoints {byKey : GoMap LocalEndpoint}
    {endpoint : LocalEndpoint} :
    endpoint ∈ sortedEndpoints byKey ↔
      ∃ key, byKey.get key = some endpoint := by
  unfold sortedEndpoints
  rw [List.mem_filterMap]
  constructor
  · intro member
    obtain ⟨key, _, found⟩ := member
    exact ⟨key, found⟩
  · intro member
    obtain ⟨key, found⟩ := member
    refine ⟨key, GoMap.mem_sortedKeys.mpr ?_, found⟩
    simp [found]

/-- The observed endpoints are candidates, one for each route key. -/
theorem mem_sortedEndpoints_resultByKey {endpoints : List LocalEndpoint}
    {endpoint : LocalEndpoint} :
    endpoint ∈ sortedEndpoints (resultByKey endpoints) ↔
      (endpoints.reverse.find? fun other =>
        other.routeKey == endpoint.routeKey) = some endpoint := by
  rw [mem_sortedEndpoints]
  constructor
  · intro member
    obtain ⟨key, found⟩ := member
    rw [get_resultByKey] at found
    have same := List.find?_some found
    rw [beq_iff_eq] at same
    rw [same]
    exact found
  · intro found
    exact ⟨endpoint.routeKey, by rw [get_resultByKey, found]⟩

end OVNEndpointObserver

end EvpnForOvn.Evpn

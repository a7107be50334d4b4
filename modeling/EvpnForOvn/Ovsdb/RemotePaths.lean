import EvpnForOvn.Go.Net
import EvpnForOvn.Ovsdb.RepeatedVtep

/-!
# Paths of remote speakers

`handlePathOVSDB` turns the MAC/IP routes of other speakers into addresses of
transit ports with a tunnel to the speaker.  The name of a transit port is made
of the first eight characters of the router identifier.  This file holds the
branch for remote speakers, the routes that are still advertised, and what a
tunnel of a route is.
-/

namespace EvpnForOvn.OvsdbMgmt

open Go Endpoint Evpn

/-- The fields of a received path that the handler reads.  `rd` has the parts
of a route distinguisher with an IP address and is `none` for one of another
kind; `nextHop` is the first next hop of the attributes, or empty. -/
structure RemotePath where
  rd : Option (String × Nat)
  macAddress : String
  ipAddress : String
  labels : List Nat
  nextHop : String
  neighborIp : String
  sourceId : String
  isWithdraw : Bool
  deriving DecidableEq, Repr

def dashed (text : String) : String :=
  String.ofList (text.toList.map fun character =>
    if character = '.' ∨ character = ':' then '-' else character)

def shortened (text : String) : String :=
  String.ofList ((dashed text).toList.take 8)

def idPart (sourceId neighborIp : String) : String :=
  if shortened sourceId = "" then
    if shortened neighborIp = "" then "unknown" else shortened neighborIp
  else shortened sourceId

/-- The name of the transit port and of its tunnel. -/
def transitName (sourceId neighborIp : String) : String :=
  "rt-" ++ String.ofList ((idPart sourceId neighborIp).toList.take 10)

def localClientPortName (ip : String) : String :=
  "k8s-" ++ dashed ip

def legacyLocalClientPortName (ip : String) : String :=
  "client-" ++ dashed ip

theorem truncateName_transitName (sourceId neighborIp : String) :
    truncateName (transitName sourceId neighborIp) =
      transitName sourceId neighborIp := by
  have short : (transitName sourceId neighborIp).toList.length ≤ 13 := by
    unfold transitName
    have start : "rt-".toList.length = 3 := by decide
    rw [String.toList_append, List.length_append, start]
    simp only [String.toList_ofList, List.length_take]
    omega
  unfold truncateName
  rw [List.take_of_length_le short, String.ofList_toList]

/-- A MAC/IP route of a speaker. -/
structure Route where
  sourceId : String
  neighborIp : String
  vni : Nat
  mac : String
  ip : String
  deriving DecidableEq, Repr

namespace Route

def portName (route : Route) : String :=
  transitName route.sourceId route.neighborIp

def address (route : Route) : String :=
  addressText route.mac route.ip

/-- The request for the tunnel to the speaker. -/
def request (route : Route) (tunnelRemoteIP : String) : VtepRequest :=
  { lspName := truncateName route.portName
    vxlanName := truncateName route.portName
    remoteIP := tunnelRemoteIP
    key := toString route.vni
    dstPort := "4789" }

theorem vxlanName_request (route : Route) (remoteIP : String) :
    (route.request remoteIP).vxlanName = route.portName :=
  truncateName_transitName _ _

theorem lspName_request (route : Route) (remoteIP : String) :
    (route.request remoteIP).lspName = route.portName :=
  truncateName_transitName _ _

end Route

namespace RemotePath

variable (path : RemotePath)

def ip : String :=
  (split '/' path.ipAddress).headD ""

def vniValue : Nat :=
  path.labels.headD 0

def route : Route :=
  { sourceId := path.sourceId
    neighborIp := path.neighborIp
    vni := path.vniValue
    mac := path.macAddress
    ip := path.ip }

/-- The transport address of the neighbor, or else the next hop. -/
def tunnelRemoteIP : String :=
  if (parseIP path.neighborIp).isNone then path.nextHop
  else path.neighborIp

end RemotePath

/-- The path comes from another speaker. -/
def RemotePath.IsRemoteSpeaker (localRouterID : String) (path : RemotePath) :
    Prop :=
  path.neighborIp ≠ "" ∧ path.sourceId ≠ localRouterID

/-- The network of the handler and the provisioned identifiers. -/
structure Handler where
  networkName : String
  isVniProvisioned : Nat → Bool

namespace Handler

variable (handler : Handler)

/-- The path is not skipped. -/
def accepts (path : RemotePath) : Bool :=
  path.ip != "" && (parseIP path.ip).isSome &&
    handler.isVniProvisioned path.vniValue

end Handler

/-- The address is already represented by a local client port. -/
def reflected (nb : Northbound) (route : Route) : Bool :=
  [localClientPortName route.ip, legacyLocalClientPortName route.ip].any
    fun localPortName =>
      match getVtep nb localPortName with
      | none => false
      | some lsp => lsp.addresses.contains route.address

/-- `OvsdbServer.AddVtep`, with nobody else at work. -/
def serveAddVtep (databases : Databases) (lsName : String)
    (request : VtepRequest) (listing : RowLists) (fresh : FreshUuids) :
    Except GoError LogicalSwitchPort × Databases :=
  match switchNamed databases.nb lsName with
  | none => (.error (.new "LogicalSwitch" (" not found: " ++ lsName)), databases)
  | some ls => addVtep databases.nb databases ls request listing fresh

/-- What a step receives: the path, and what the calls that it makes list and
generate. -/
structure Received where
  path : RemotePath
  listing : RowLists
  fresh : FreshUuids

/-- The calls of `handlePathOVSDB` for the path of a remote speaker. -/
def Handler.importPath (handler : Handler) (received : Received)
    (databases : Databases) : Databases :=
  let path := received.path
  let route := path.route
  if !handler.accepts path then databases
  else if path.isWithdraw then
    (withdrawRemoteOVSDBRoute databases handler.networkName route.portName
      route.portName route.mac route.ip).2
  else if reflected databases.nb route then
    ⟨withdrawAddress databases.nb handler.networkName route.portName
      route.mac route.ip, databases.ovs⟩
  else
    match serveAddVtep databases handler.networkName
        (route.request path.tunnelRemoteIP) received.listing
        received.fresh with
    | (.error _, next) => next
    | (.ok _, next) =>
        ⟨((ClientCall.addClient route.mac route.ip).serve route.portName
          next.nb).2, next.ovs⟩

/-- `handlePathOVSDB`.  It reads the parts of the route distinguisher first and
panics when it has none. -/
def handlePathOVSDB (handler : Handler) (received : Received)
    (databases : Databases) : Option Databases :=
  received.path.rd.map fun _ => handler.importPath received databases

/-- The databases, and the remote routes that are still advertised. -/
structure Exchange where
  databases : Databases
  routes : List Route

/-- The routes after a path.  A route of a local client is not a remote
one. -/
def Handler.record (handler : Handler) (path : RemotePath)
    (exchange : Exchange) : List Route :=
  if !handler.accepts path then exchange.routes
  else if path.isWithdraw || reflected exchange.databases.nb path.route then
    exchange.routes.filter fun route => route != path.route
  else
    path.route :: exchange.routes.filter fun route => route != path.route

def Handler.receive (handler : Handler) (received : Received)
    (exchange : Exchange) : Option Exchange :=
  (handlePathOVSDB handler received exchange.databases).map fun databases =>
    ⟨databases, handler.record received.path exchange⟩

/-- The address of the route is one of a transit port whose tunnel leads to
the speaker, with the identifier of the route as its key. -/
structure Tunnelled (databases : Databases) (route : Route) : Prop where
  address : ∃ lsp, getVtep databases.nb route.portName = some lsp ∧
    route.address ∈ lsp.addresses
  tunnel : ∃ iface ∈ databases.ovs.interfaces,
    iface.name = route.portName ∧ iface.type = "vxlan" ∧
      entry iface.externalIDs "iface-id" = route.portName ∧
      entry iface.options "remote_ip" = route.neighborIp ∧
      entry iface.options "key" = toString route.vni

/-- Routes with the same port come from the same speaker and have the same
identifier. -/
def Unshared (routes : List Route) : Prop :=
  ∀ first ∈ routes, ∀ second ∈ routes, first.portName = second.portName →
    first.sourceId = second.sourceId ∧
      first.neighborIp = second.neighborIp ∧ first.vni = second.vni

end EvpnForOvn.OvsdbMgmt

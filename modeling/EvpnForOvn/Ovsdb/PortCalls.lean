import EvpnForOvn.Ovsdb.Networks

/-!
# Ports of local clients

`AddLogicalSwitchPort` creates a logical switch port, or adds addresses to the
one that is there, and brings an interface for it into the integration bridge.
`DelLogicalSwitchPort` deletes the row of the port and then the port of the
integration bridge.  It detaches neither of them from the row that refers to
it.
-/

namespace EvpnForOvn.OvsdbMgmt

open Go Endpoint Evpn

/-- `pb.LogicalSwitchPort` -/
structure PortRequest where
  name : String
  lsName : String
  addresses : List String
  deriving DecidableEq, Repr

/-- What a call finds outside of the two databases: the connection, the
network devices of the host, the identifiers of new rows and the orders in
which rows are listed. -/
structure Host where
  connected : Except GoError Unit
  ovsClient : Bool
  interfaceByName : String → Bool
  fresh : FreshUuids
  switches : List LogicalSwitch → List LogicalSwitch
  interfaces : List Interface → List Interface
  switches_perm : ∀ rows, (switches rows).Perm rows
  interfaces_perm : ∀ rows, (interfaces rows).Perm rows

/-- `strings.SplitN(text, " ", 2)` when it has two parts. -/
def cutSpace (text : String) : Option (String × String) :=
  match text.toList.dropWhile (· != ' ') with
  | [] => none
  | _ :: rest =>
      some (String.ofList (text.toList.takeWhile (· != ' ')),
        String.ofList rest)

section Names

variable (sha1 : String → String)

/-- `ovnK8sIfaceName`, for the hash in hexadecimal digits. -/
def ovnK8sIfaceName (lspName : String) : String :=
  "k8s-" ++ String.ofList ((sha1 lspName).toList.take 9)

end Names

/-- The switch of a name: the one seen before, or the first one listed. -/
def Host.resolveSwitch (host : Host) (networks : GoMap NetworkRow)
    (nb : Northbound) (name : String) : Option LogicalSwitch :=
  match networks.get name with
  | some cached => some cached.switch
  | none => (host.switches nb.switches).find? fun row => row.name == name

/-- The addresses with two parts are added one after the other. -/
def mergeAddresses (nb : Northbound) (lspName : String) :
    List String → Except GoError Unit × Northbound
  | [] => (.ok (), nb)
  | address :: rest =>
      match cutSpace address with
      | none => mergeAddresses nb lspName rest
      | some (mac, ip) =>
          match (ClientCall.addClient mac ip).serve lspName nb with
          | (.error reason, after) => (.error reason, after)
          | (.ok _, after) => mergeAddresses after lspName rest

/-- A new port on its switch, read back by its name.  A port that has been
created meanwhile is taken instead. -/
def createPort (nb : Northbound) (ls : LogicalSwitch) (request : PortRequest)
    (lspUUID : String) : Except GoError Unit × Northbound :=
  match nb.transact [.createPort ⟨lspUUID, request.name, request.addresses,
      GoMap.empty⟩, .attachPort ls.uuid lspUUID] with
  | none =>
      match getVtep nb request.name with
      | some _ => (.ok (), nb)
      | none => (.error (.new "NB op failed: " "constraint violation"), nb)
  | some next =>
      match getVtep next request.name with
      | some _ => (.ok (), next)
      | none => (.error (.new "created LSP " (request.name ++
          " but not found in NB after transact")), next)

def ensureLogicalPort (nb : Northbound) (ls : LogicalSwitch)
    (request : PortRequest) (lspUUID : String) :
    Except GoError Unit × Northbound :=
  match getVtep nb request.name with
  | some _ => mergeAddresses nb request.name request.addresses
  | none => createPort nb ls request lspUUID

/-- A transaction whose errors are only logged. -/
def attemptChange (database : Vswitch) (change : Vswitch → Vswitch) :
    Vswitch :=
  if (change database).collect.consistent then (change database).collect
  else database

/-- The first port of the name. -/
def ovsPortNamed (database : Vswitch) (name : String) : Option Port :=
  database.ports.find? fun port => port.name == name

def interfaceNamed (database : Vswitch) (name : String) :
    Option Interface :=
  database.interfaces.find? fun row => row.name == name

def removePort (database : Vswitch) (name : String) : Vswitch :=
  match ovsPortNamed database name with
  | none => database
  | some port => attemptChange database (·.apply (.deletePort port.uuid))

/-- An interface for the port under another name. -/
def isStale (lspName hostIfaceName : String) (candidate : Interface) :
    Bool :=
  candidate.externalIDs.size != 0 &&
      entry candidate.externalIDs "iface-id" == lspName ||
    "k8s-".toList.isPrefixOf candidate.name.toList &&
      entry candidate.options "name" == hostIfaceName

/-- Try to delete the stale interfaces that have no network device. -/
def removeStale (host : Host) (lspName hostIfaceName : String)
    (database : Vswitch) : List Interface → Vswitch
  | [] => database
  | candidate :: rest =>
      if isStale lspName hostIfaceName candidate &&
          !host.interfaceByName candidate.name then
        removeStale host lspName hostIfaceName
          (attemptChange (removePort database candidate.name)
            (·.apply (.deleteInterface candidate.uuid))) rest
      else removeStale host lspName hostIfaceName database rest

/-- The MAC of the first address. -/
def PortRequest.attachedMac (request : PortRequest) : String :=
  match request.addresses with
  | [] => ""
  | first :: _ =>
      match cutSpace first with
      | none => ""
      | some (mac, _) => mac

def PortRequest.ifaceIDs (request : PortRequest) : GoMap String :=
  if request.attachedMac = "" then
    GoMap.empty.set "iface-id" request.name
  else (GoMap.empty.set "iface-id" request.name).set "attached-mac"
    request.attachedMac

/-- Write columns of one interface. -/
def writeInterface (uuid : String) (columns : InterfaceColumns)
    (database : Vswitch) : Vswitch :=
  { database with interfaces := database.interfaces.map fun row =>
      if row.uuid = uuid then columns.write row else row }

def writePortInterfaces (uuid : String) (interfaces : List String)
    (database : Vswitch) : Vswitch :=
  VtepOperation.apply database (.updatePort uuid interfaces)

/-- Reconcile an interface that is there.  An empty map is no value, so
options are never cleared. -/
def adoptInterface (request : PortRequest) (iface : Interface)
    (database : Vswitch) : Vswitch :=
  let identified :=
    if iface.externalIDs.size = 0 ||
        entry iface.externalIDs "iface-id" != request.name ||
        entry iface.externalIDs "attached-mac" != request.attachedMac then
      attemptChange database
        (writeInterface iface.uuid ⟨none, none, some request.ifaceIDs⟩)
    else database
  let typed :=
    if iface.type != "system" then
      attemptChange identified
        (writeInterface iface.uuid ⟨some "system", none, none⟩)
    else identified
  match ovsPortNamed typed iface.name with
  | none => typed
  | some port =>
      if port.interfaces.contains iface.uuid then typed
      else attemptChange typed (writePortInterfaces port.uuid [iface.uuid])

/-- A new interface with its port on the integration bridge. -/
def newClientInterface (request : PortRequest) (uuid name : String) :
    Interface :=
  { uuid := uuid
    name := name
    type := "system"
    options := GoMap.empty
    externalIDs := request.ifaceIDs }

def newClientPort (uuid name interface : String) : Port :=
  { uuid := uuid
    name := name
    interfaces := [interface]
    externalIDs := GoMap.empty }

/-- A name that is taken counts as success. -/
def recoverInterface (request : PortRequest) (name : String)
    (database : Vswitch) : Vswitch :=
  match interfaceNamed database name with
  | none => database
  | some iface =>
      if entry iface.externalIDs "iface-id" = request.name then database
      else attemptChange database (writeInterface iface.uuid
        ⟨none, none, some (GoMap.empty.set "iface-id" request.name)⟩)

def createInterface (host : Host) (request : PortRequest) (name : String)
    (database : Vswitch) : Except GoError String × Vswitch :=
  match transactVtep database
      [.createInterface (newClientInterface request host.fresh.iface name),
        .createPort (newClientPort host.fresh.port name host.fresh.iface),
        .insertPort "br-int" host.fresh.port] with
  | .ok next =>
      (.ok "LogicalSwitchPort created and OVS port ensured", next)
  | .error .identicalValues =>
      (.ok ("LogicalSwitchPort existed; duplicate OVS interface recovered " ++
        "for " ++ name), recoverInterface request name database)
  | .error .rejected =>
      (.error (.new "OVS op failed" ": constraint violation"), database)

def ensureInterface (host : Host) (request : PortRequest) (name : String)
    (database : Vswitch) : Except GoError String × Vswitch :=
  let cleaned := removeStale host request.name name database
    (host.interfaces database.interfaces)
  match interfaceNamed cleaned name with
  | some iface =>
      (.ok "LogicalSwitchPort created and OVS port ensured",
        adoptInterface request iface cleaned)
  | none => createInterface host request name cleaned

section Calls

variable (sha1 : String → String) (host : Host)
  (networks : GoMap NetworkRow)

/-- The part of the call that works on the switch of the network. -/
def addPortOn (request : PortRequest) (databases : Databases)
    (ls : LogicalSwitch) : Except GoError String × Databases :=
  match ensureLogicalPort databases.nb ls request host.fresh.lsp with
  | (.error reason, nb) => (.error reason, ⟨nb, databases.ovs⟩)
  | (.ok _, nb) =>
      if host.ovsClient then
        let (outcome, ovs) := ensureInterface host request
          (ovnK8sIfaceName sha1 request.name) databases.ovs
        (outcome, ⟨nb, ovs⟩)
      else
        (.error (.new "OVS client is not initialized" ""),
          ⟨nb, databases.ovs⟩)

def addLogicalSwitchPort (request : PortRequest) (databases : Databases) :
    Except GoError String × Databases :=
  match host.connected with
  | .error reason =>
      (.error (.extend "OVN client reconnect failed: " "" reason), databases)
  | .ok _ =>
      if truncateName request.lsName = "" then
        (.error (.new "LogicalSwitch name (LsName) must be specified" ""),
          databases)
      else
        match host.resolveSwitch networks databases.nb
            (truncateName request.lsName) with
        | none => (.error (.new "LogicalSwitch " (truncateName
            request.lsName ++ " not found")), databases)
        | some ls => addPortOn sha1 host request databases ls

/-- The interface that a deletion finds for the port. -/
def findClientInterface (name : String) (database : Vswitch) :
    Option Interface :=
  (([ovnK8sIfaceName sha1 name, truncateName name, name].filter
      (· != "")).findSome? (interfaceNamed database)).or
    ((host.interfaces database.interfaces).find? fun row =>
      row.externalIDs.size != 0 && entry row.externalIDs "iface-id" == name)

def delLogicalSwitchPort (name : String) (databases : Databases) :
    Except GoError String × Databases :=
  match getVtep databases.nb name with
  | none => (.error (.new "LSP " (name ++ " not found")), databases)
  | some lsp =>
      match databases.nb.transact [.deletePort lsp.uuid] with
      | none => (.error (.new "OVSDB error"
          ": referential integrity violation"), databases)
      | some nb =>
          let ovs :=
            match findClientInterface sha1 host name databases.ovs with
            | none => databases.ovs
            | some iface => removePort databases.ovs iface.name
          (.ok ("LSP " ++ name ++ " deleted"), ⟨nb, ovs⟩)

/-- The arguments of `AddVtep`. -/
structure AddVtepRequest extends VtepRequest where
  lsName : String
  deriving DecidableEq, Repr

/-- `OvsdbServer.AddVtep`; the name of the network is not truncated. -/
def addVtepCall (listing : Listing) (request : AddVtepRequest)
    (databases : Databases) : Except GoError String × Databases :=
  match host.connected with
  | .error reason =>
      (.error (.extend "OVN client reconnect failed: " "" reason), databases)
  | .ok _ =>
      match host.resolveSwitch networks databases.nb request.lsName with
      | none => (.error (.new "LogicalSwitch " (request.lsName ++
          " not found")), databases)
      | some ls =>
          match addVtep databases.nb databases ls
              { request.toVtepRequest with
                lspName := truncateName request.lspName
                vxlanName := truncateName request.vxlanName }
              listing host.fresh with
          | (.error reason, after) => (.error reason, after)
          | (.ok _, after) => (.ok "VTEP created successfully", after)

end Calls

end EvpnForOvn.OvsdbMgmt

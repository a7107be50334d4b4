import EvpnForOvn.Model1.VswitchRules
import EvpnForOvn.Ovsdb.Withdrawal

/-!
# Tunnels of transit ports

`addVtep` finds or creates a logical switch port and then brings the VXLAN
interface and port of the same tunnel into the database of the local switch.
It lists the rows of a table anew for each question it asks.  A listing comes
from what the client monitors: all rows, in any order, or none.
-/

namespace EvpnForOvn.OvsdbMgmt

open Go Endpoint Evpn

/-- `truncateName`.  Names are sequences of bytes, one character for each. -/
def truncateName (name : String) : String :=
  String.ofList (name.toList.take 13)

/-- The arguments of `addVtep`, with truncated names. -/
structure VtepRequest where
  lspName : String
  vxlanName : String
  remoteIP : String
  key : String
  dstPort : String
  deriving DecidableEq, Repr

theorem perm_id {α : Type} (rows : List α) : (id rows).Perm rows :=
  .refl _

/-- What the client lists in one call, of the rows that are there. -/
structure RowLists where
  interfacesByName : List Interface → List Interface
  interfacesByTuple : List Interface → List Interface
  portsByName : List Port → List Port
  portsByInterface : List Port → List Port

/-- A client that monitors no table lists nothing. -/
def RowLists.unmonitored : RowLists :=
  ⟨fun _ => [], fun _ => [], fun _ => [], fun _ => []⟩

/-- The lists have all rows, in any order. -/
structure Listing extends RowLists where
  interfacesByName_perm : ∀ rows, (interfacesByName rows).Perm rows
  interfacesByTuple_perm : ∀ rows, (interfacesByTuple rows).Perm rows
  portsByName_perm : ∀ rows, (portsByName rows).Perm rows
  portsByInterface_perm : ∀ rows, (portsByInterface rows).Perm rows

instance coeListing : Coe Listing RowLists :=
  ⟨Listing.toRowLists⟩

/-- The columns that an update of an interface writes. -/
structure InterfaceColumns where
  type : Option String
  options : Option (GoMap String)
  externalIDs : Option (GoMap String)

def InterfaceColumns.write (columns : InterfaceColumns) (row : Interface) :
    Interface :=
  { row with
    type := columns.type.getD row.type
    options := columns.options.getD row.options
    externalIDs := columns.externalIDs.getD row.externalIDs }

/-- The operations that `addVtep` sends.  Interfaces and bridges are selected
by their names, ports by their identifiers. -/
inductive VtepOperation where
  | updateInterface (name : String) (columns : InterfaceColumns)
  | createInterface (row : Interface)
  | createPort (row : Port)
  | insertPort (bridge port : String)
  | updatePort (port : String) (interfaces : List String)

def VtepOperation.apply (database : Vswitch) : VtepOperation → Vswitch
  | .updateInterface name columns =>
      { database with interfaces := database.interfaces.map fun row =>
          if row.name = name then columns.write row else row }
  | .createInterface row =>
      { database with interfaces := database.interfaces ++ [row] }
  | .createPort row => { database with ports := database.ports ++ [row] }
  | .insertPort bridge port =>
      { database with bridges := database.bridges.map fun row =>
          if row.name = bridge then
            { row with ports := Vswitch.insertReference port row.ports }
          else row }
  | .updatePort port interfaces =>
      { database with ports := database.ports.map fun row =>
          if row.uuid = port then { row with interfaces := interfaces }
          else row }

inductive TransactError where
  | identicalValues
  | rejected
  deriving DecidableEq, Repr

def uniqueNames (database : Vswitch) : Bool :=
  decide ((database.bridges.map (·.name)).Nodup) &&
    decide ((database.ports.map (·.name)).Nodup) &&
    decide ((database.interfaces.map (·.name)).Nodup)

/-- A transaction, rolled back when it breaks a constraint. -/
def transactVtep (database : Vswitch) (operations : List VtepOperation) :
    Except TransactError Vswitch :=
  let next := (operations.foldl VtepOperation.apply database).collect
  if next.consistent then .ok next
  else if uniqueNames next then .error .rejected
  else .error .identicalValues

/-- A missing key reads as the empty text. -/
def entry (values : GoMap String) (key : String) : String :=
  (values.get key).getD ""

namespace VtepRequest

variable (request : VtepRequest) (listing : RowLists)

def options : GoMap String :=
  ((GoMap.empty.set "remote_ip" request.remoteIP).set "key" request.key).set
    "dst_port" request.dstPort

def ifaceIDs : GoMap String :=
  GoMap.empty.set "iface-id" request.lspName

/-- The options carry the remote address, the key and the port. -/
def carried (options : GoMap String) : Bool :=
  entry options "remote_ip" == request.remoteIP &&
    entry options "key" == request.key &&
    entry options "dst_port" == request.dstPort

/-- The columns of the named interface that need an update. -/
def neededColumns (iface : Interface) : InterfaceColumns :=
  { type := if iface.type = "vxlan" then none else some "vxlan"
    options :=
      if iface.options.size = 0 || !request.carried iface.options then
        some request.options
      else none
    externalIDs :=
      if iface.externalIDs.size = 0 ||
          entry iface.externalIDs "iface-id" != request.lspName then
        some request.ifaceIDs
      else none }

/-- The scan for the exact name. -/
def namedInterface (database : Vswitch) : Option Interface :=
  (listing.interfacesByName database.interfaces).find? fun iface =>
    iface.name == request.vxlanName

/-- The scan for the same tunnel under another name. -/
def reusedInterface (database : Vswitch) : Option Interface :=
  (listing.interfacesByTuple database.interfaces).find? fun iface =>
    iface.name == request.vxlanName || request.carried iface.options

/-- The interface that is there for the tunnel. -/
def resolvedInterface (database : Vswitch) : Option Interface :=
  (request.namedInterface listing database).or
    (request.reusedInterface listing database)

/-- The errors of these updates are only logged. -/
def attempt (database : Vswitch) (operation : VtepOperation) : Vswitch :=
  match transactVtep database [operation] with
  | .ok next => next
  | .error _ => database

/-- The updates of the interface that is there. -/
def reconcileInterface (database : Vswitch) : Vswitch :=
  match request.namedInterface listing database with
  | some iface =>
      let columns := request.neededColumns iface
      if columns.type.isNone && columns.options.isNone &&
          columns.externalIDs.isNone then database
      else attempt database (.updateInterface iface.name columns)
  | none =>
      match request.reusedInterface listing database with
      | some iface =>
          attempt database (.updateInterface iface.name
            ⟨none, none, some request.ifaceIDs⟩)
      | none => database

/-- A port has the name or refers to the interface. -/
def portExists (database : Vswitch) (resolved : Option Interface) : Bool :=
  ((listing.portsByName database.ports).any fun port =>
      port.name == request.vxlanName) ||
    match resolved with
    | none => false
    | some iface =>
        (listing.portsByInterface database.ports).any fun port =>
          port.interfaces.contains iface.uuid

def newInterface (uuid : String) : Interface :=
  { uuid := uuid
    name := request.vxlanName
    type := "vxlan"
    options := request.options
    externalIDs := request.ifaceIDs }

def newPort (uuid target : String) : Port :=
  { uuid := uuid
    name := request.vxlanName
    interfaces := [target]
    externalIDs := GoMap.empty }

/-- The operations for the port.  An existing port is taken to be the first
one of the listing. -/
def portOperations (database : Vswitch) (resolved : Option Interface)
    (target portUUID : String) : List VtepOperation :=
  if request.portExists listing database resolved then
    match (listing.portsByName database.ports).head? with
    | none => []
    | some existingPort =>
        if resolved.isSome && existingPort.interfaces.contains target then []
        else [.updatePort existingPort.uuid [target]]
  else
    [.createPort (request.newPort portUUID target),
      .insertPort "br-int" portUUID]

/-- The operations for the missing rows. -/
def createOperations (database : Vswitch) (resolved : Option Interface)
    (ifaceUUID portUUID : String) : List VtepOperation :=
  match resolved with
  | some iface =>
      request.portOperations listing database resolved iface.uuid portUUID
  | none =>
      .createInterface (request.newInterface ifaceUUID) ::
        request.portOperations listing database none ifaceUUID portUUID

/-- The part of `addVtep` that works on the database of the switch. -/
def ensureTunnel (ifaceUUID portUUID : String) (database : Vswitch) :
    Except GoError Unit × Vswitch :=
  let reconciled := request.reconcileInterface listing database
  let operations := request.createOperations listing reconciled
    (request.resolvedInterface listing database) ifaceUUID portUUID
  if operations.isEmpty then (.ok (), reconciled)
  else
    match transactVtep reconciled operations with
    | .ok next => (.ok (), next)
    | .error .identicalValues => (.ok (), reconciled)
    | .error .rejected =>
        (.error (.new "OVS op failed: " "constraint violation"), reconciled)

end VtepRequest

/-- The logical switch port of the tunnel, found or created, on its switch.
`seen` is the database that the lookup has seen.  When the port has been
created meanwhile, the call goes on with that port, attached if possible. -/
def ensurePort (seen nb : Northbound) (ls : LogicalSwitch)
    (lspName lspUUID : String) : Option Northbound :=
  match getVtep seen lspName with
  | some lsp => nb.transact [.attachPort ls.uuid lsp.uuid]
  | none =>
      match nb.transact [.createPort ⟨lspUUID, lspName, [], GoMap.empty⟩,
          .attachPort ls.uuid lspUUID] with
      | some next => some next
      | none => (getVtep nb lspName).map fun found =>
          (nb.transact [.attachPort ls.uuid found.uuid]).getD nb

/-- The identifiers of new rows. -/
structure FreshUuids where
  lsp : String
  iface : String
  port : String

/-- The identifiers are not in use in the database of the switch. -/
structure FreshUuids.Unused (fresh : FreshUuids) (database : Vswitch) :
    Prop where
  iface : ∀ row ∈ database.interfaces, row.uuid ≠ fresh.iface
  port : ∀ row ∈ database.ports, row.uuid ≠ fresh.port

/-- The identifiers of new rows are not in use. -/
structure FreshUuids.New (fresh : FreshUuids) (databases : Databases) :
    Prop where
  lsp : ∀ row ∈ databases.nb.ports, row.uuid ≠ fresh.lsp
  ovs : fresh.Unused databases.ovs

def addVtep (seen : Northbound) (databases : Databases) (ls : LogicalSwitch)
    (request : VtepRequest) (listing : RowLists) (fresh : FreshUuids) :
    Except GoError LogicalSwitchPort × Databases :=
  match ensurePort seen databases.nb ls request.lspName fresh.lsp with
  | none =>
      (.error (.new "OVN NB op failed: " "constraint violation"), databases)
  | some nb =>
      match request.ensureTunnel listing fresh.iface fresh.port
          databases.ovs with
      | (.error reason, ovs) => (.error reason, ⟨nb, ovs⟩)
      | (.ok _, ovs) =>
          match getVtep nb request.lspName with
          | none =>
              (.error (.new "LSP not found after retries: "
                request.lspName), ⟨nb, ovs⟩)
          | some lsp => (.ok lsp, ⟨nb, ovs⟩)

end EvpnForOvn.OvsdbMgmt

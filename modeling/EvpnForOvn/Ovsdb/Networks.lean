import EvpnForOvn.Go.Text
import EvpnForOvn.Lib.Alone
import EvpnForOvn.Ovsdb.Vtep

/-!
# Networks as logical switches

`AddNetwork`, `GetNetwork`, `GetNetworks` and `DelNetwork` keep one logical
switch for each network name, and a map of the switches they have seen.
`AddNetwork` reads a whole row, completes its `other_config` and writes the
whole row back.
-/

namespace EvpnForOvn.OvsdbMgmt

open Go Endpoint Interactive

/-- A row of `Logical_Switch`. -/
structure NetworkRow where
  switch : LogicalSwitch
  otherConfig : GoMap String

/-- The northbound database with the column `other_config`, by the identifier
of the switch. -/
structure NetworkTable where
  nb : Northbound
  otherConfig : GoMap (GoMap String)

namespace NetworkTable

def config (table : NetworkTable) (uuid : String) : GoMap String :=
  (table.otherConfig.get uuid).getD GoMap.empty

def row (table : NetworkTable) (switch : LogicalSwitch) : NetworkRow :=
  ⟨switch, table.config switch.uuid⟩

def rows (table : NetworkTable) : List NetworkRow :=
  table.nb.switches.map table.row

end NetworkTable

/-- The operations on logical switches.  An update writes every column of the
row that carries a value. -/
inductive NetworkOperation where
  | create (row : NetworkRow)
  | update (row : NetworkRow)
  | delete (uuid : String)

/-- The columns of a switch after an update. -/
def NetworkRow.write (row : NetworkRow) (old : LogicalSwitch) :
    LogicalSwitch :=
  { old with
    name := if row.switch.name = "" then old.name else row.switch.name
    ports :=
      if row.switch.ports.isEmpty then old.ports else row.switch.ports }

namespace NetworkTable

def apply (table : NetworkTable) : NetworkOperation → NetworkTable
  | .create row =>
      { nb := { table.nb with switches := table.nb.switches ++ [row.switch] }
        otherConfig := table.otherConfig.set row.switch.uuid
          row.otherConfig }
  | .update row =>
      { nb := table.nb.updateSwitch row.switch.uuid row.write
        otherConfig :=
          if row.otherConfig.size = 0 then table.otherConfig
          else table.otherConfig.set row.switch.uuid row.otherConfig }
  | .delete uuid =>
      { table with nb :=
          { table.nb with switches := table.nb.switches.filter fun row =>
              row.uuid != uuid } }

/-- A transaction drops the ports that no switch refers to, and is rolled back
when it breaks a constraint. -/
def transact (table : NetworkTable) (operation : NetworkOperation) :
    Option NetworkTable :=
  let next := table.apply operation
  if next.nb.collect.Consistent then some { next with nb := next.nb.collect }
  else none

end NetworkTable

inductive NetworkFailure where
  | failed (reason : GoError)
  | rejected (error details : String)

inductive NetworkRequest where
  | listSwitches
  | newUUID
  | transact (operation : NetworkOperation)

def NetworkRequest.Reply : NetworkRequest → Type
  | .listSwitches => Except GoError (List NetworkRow)
  | .newUUID => String
  | .transact _ => Except NetworkFailure Unit

def networkSignature : Signature :=
  { Request := NetworkRequest
    Reply := NetworkRequest.Reply }

abbrev NetworkMethod (α : Type) : Type :=
  Method networkSignature GoError Unit α

def listSwitches (report : GoError → GoError) :
    NetworkMethod (List NetworkRow) := do
  let reply ← @Method.ask networkSignature GoError Unit .listSwitches
  Method.check (reply.mapError report)

def transactNetwork (report : NetworkFailure → GoError)
    (operation : NetworkOperation) : NetworkMethod Unit := do
  let reply ← @Method.ask networkSignature GoError Unit (.transact operation)
  Method.check (reply.mapError report)

/-- `logicalSwitchVni`, for the environment of the process. -/
def logicalSwitchVni (getenv : String → String) : String :=
  if trimSpace (getenv "DEFAULT_DYNAMIC_ROUTING_VNI") ≠ "" then
    trimSpace (getenv "DEFAULT_DYNAMIC_ROUTING_VNI")
  else if trimSpace (getenv "DYNAMIC_ROUTING_VNI") ≠ "" then
    trimSpace (getenv "DYNAMIC_ROUTING_VNI")
  else "1000"

/-- The five entries of `other_config` that every network has. -/
def requiredConfig (vni : String) : List (String × String) :=
  [("dynamic-routing-vni", vni),
    ("dynamic-routing-bridge-ifname", "br-evpn" ++ vni),
    ("dynamic-routing-vxlan-ifname", "vxlan" ++ vni),
    ("dynamic-routing-advertise-ifname", "evpnadv" ++ vni),
    ("dynamic-routing-redistribute", "fdb,ip")]

def newConfig (vni : String) : GoMap String :=
  (requiredConfig vni).foldl
    (fun config required => config.set required.1 required.2) GoMap.empty

def needsUpdate (vni : String) (config : GoMap String) : Bool :=
  (requiredConfig vni).any fun required =>
    entry config required.1 != required.2

def ensureEntry (config : GoMap String) (required : String × String) :
    GoMap String :=
  if entry config required.1 != required.2 then
    config.set required.1 required.2
  else config

/-- The configuration with the missing entries. -/
def completed (vni : String) (config : GoMap String) : GoMap String :=
  (requiredConfig vni).foldl ensureEntry config

section Calls

variable (getenv : String → String)

/-- A new switch, read back by its identifier. -/
def createNetwork (networkName : String) : NetworkMethod NetworkRow := do
  let uuid : String ← @Method.ask networkSignature GoError Unit .newUUID
  transactNetwork (fun
      | .failed reason => .extend "transact failed: " "" reason
      | .rejected error details =>
          .new "OVSDB error: " (error ++ " - " ++ details))
    (.create ⟨⟨uuid, networkName, []⟩, newConfig (logicalSwitchVni getenv)⟩)
  let rows ← listSwitches (.extend "failed to query networks: " "")
  Method.require (rows.find? fun row => row.switch.uuid == uuid)
    (.new "created network found in database but verification failed" "")

def findOrCreateNetwork (networkName : String) :
    Option NetworkRow → NetworkMethod NetworkRow
  | some existing => pure existing
  | none => createNetwork getenv networkName

/-- The switch with the required configuration, written back as a whole. -/
def configureNetwork (ls : NetworkRow) : NetworkMethod NetworkRow :=
  if needsUpdate (logicalSwitchVni getenv) ls.otherConfig then do
    let row : NetworkRow :=
      { ls with
        otherConfig := completed (logicalSwitchVni getenv) ls.otherConfig }
    transactNetwork (fun
        | .failed reason => .extend "transact update failed: " "" reason
        | .rejected error details =>
            .new "OVSDB update error: " (error ++ " - " ++ details))
      (.update row)
    return row
  else pure ls

/-- `OvsdbServer.AddNetwork`; returns the new map of networks. -/
def addNetwork (networks : GoMap NetworkRow) (name : String) :
    NetworkMethod (GoMap NetworkRow) := do
  let rows ← listSwitches
    (.extend "failed to query NB for LogicalSwitch list: " "")
  let ls ← findOrCreateNetwork getenv (truncateName name)
    (rows.find? fun row => row.switch.name == truncateName name)
  let configured ← configureNetwork getenv ls
  return networks.set (truncateName name) configured

end Calls

/-- The `Network` of a response. -/
structure Network where
  name : String
  uuid : String
  deriving DecidableEq, Repr

def NetworkRow.network (row : NetworkRow) : Network :=
  ⟨row.switch.name, row.switch.uuid⟩

/-- The lookup of `GetNetwork` in what has been listed. -/
def lookupNetwork (networks : GoMap NetworkRow) (networkName : String) :
    Except GoError (List NetworkRow) → Option Network × GoMap NetworkRow
  | .error _ => (none, networks)
  | .ok rows =>
      match rows.find? fun row => row.switch.name == networkName with
      | none => (none, networks)
      | some ls => (some ls.network, networks.set networkName ls)

def getNetwork (networks : GoMap NetworkRow) (name : String) :
    NetworkMethod (Option Network × GoMap NetworkRow) :=
  match networks.get (truncateName name) with
  | some ls => return (some ls.network, networks)
  | none => do
      let reply ← @Method.ask networkSignature GoError Unit .listSwitches
      return lookupNetwork networks (truncateName name) reply

def getNetworks (networks : GoMap NetworkRow) :
    NetworkMethod (List Network × GoMap NetworkRow) := do
  let reply ← @Method.ask networkSignature GoError Unit .listSwitches
  return match reply with
    | .error _ => ([], networks)
    | .ok rows => (rows.map NetworkRow.network,
        rows.foldl (fun networks row => networks.set row.switch.name row)
          networks)

def delNetwork (networks : GoMap NetworkRow) (name : String) :
    NetworkMethod (GoMap NetworkRow) := do
  let rows ← listSwitches (.extend "failed to query NB: " "")
  let ls ← Method.require
    (rows.find? fun row => row.switch.name == truncateName name)
    (.new "LogicalSwitch not found" "")
  transactNetwork (fun
      | .failed reason => .extend "transact failed: " "" reason
      | .rejected error details =>
          .new "OVSDB error: " (error ++ " - " ++ details))
    (.delete ls.switch.uuid)
  return networks.delete (truncateName name)

end EvpnForOvn.OvsdbMgmt

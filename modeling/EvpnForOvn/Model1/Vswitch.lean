import EvpnForOvn.Go.Error
import EvpnForOvn.Go.Map

/-!
# The Open vSwitch database

The tables that the programmer of the handler reads and writes, and the
transactions it sends.  A transaction applies its operations in order, drops
the rows that nothing refers to any more, and is committed only if names stay
unique and every reference leads to a row.
-/

namespace EvpnForOvn.Evpn

open Go

inductive FailMode where
  | standalone
  | secure
  deriving DecidableEq, Repr

/-- The row of `Open_vSwitch`. -/
structure OpenvSwitch where
  uuid : String
  bridges : List String
  externalIDs : GoMap String

structure Bridge where
  uuid : String
  name : String
  controller : List String
  failMode : Option FailMode
  ports : List String
  externalIDs : GoMap String

structure Port where
  uuid : String
  name : String
  interfaces : List String
  externalIDs : GoMap String

structure Interface where
  uuid : String
  name : String
  type : String
  options : GoMap String
  externalIDs : GoMap String

structure Vswitch where
  roots : List OpenvSwitch
  bridges : List Bridge
  ports : List Port
  interfaces : List Interface

inductive OvsOperation where
  | createInterface (row : Interface)
  | createPort (row : Port)
  | createBridge (row : Bridge)
  | updateExternalIDs (root : String) (externalIDs : GoMap String)
  | updateInterface (row : Interface)
  | updatePort (row : Port)
  | attachBridge (root bridge : String)
  | detachBridge (root bridge : String)
  | attachPort (bridge port : String)
  | detachPort (bridge port : String)
  | deleteBridge (bridge : String)
  | deletePort (port : String)
  | deleteInterface (interface : String)

namespace Vswitch

/-- Insert into a set of references. -/
def insertReference (reference : String) (references : List String) :
    List String :=
  if references.contains reference then references
  else references ++ [reference]

def removeReference (reference : String) (references : List String) :
    List String :=
  references.filter fun other => other != reference

theorem mem_insertReference {reference other : String}
    {references : List String} :
    other ∈ insertReference reference references ↔
      other ∈ references ∨ other = reference := by
  unfold insertReference
  by_cases listed : reference ∈ references
  · rw [if_pos (List.contains_iff_mem.mpr listed)]
    constructor
    · exact .inl
    · intro either
      rcases either with member | rfl
      · exact member
      · exact listed
  · rw [if_neg (fun contained => listed (List.contains_iff_mem.mp contained))]
    simp

theorem mem_removeReference {reference other : String}
    {references : List String} :
    other ∈ removeReference reference references ↔
      other ∈ references ∧ other ≠ reference := by
  simp [removeReference]

def updateRoot (database : Vswitch) (uuid : String)
    (change : OpenvSwitch → OpenvSwitch) : Vswitch :=
  { database with roots := database.roots.map fun row =>
      if row.uuid = uuid then change row else row }

def updateBridge (database : Vswitch) (uuid : String)
    (change : Bridge → Bridge) : Vswitch :=
  { database with bridges := database.bridges.map fun row =>
      if row.uuid = uuid then change row else row }

def apply (database : Vswitch) : OvsOperation → Vswitch
  | .createInterface row =>
      { database with interfaces := database.interfaces ++ [row] }
  | .createPort row => { database with ports := database.ports ++ [row] }
  | .createBridge row => { database with bridges := database.bridges ++ [row] }
  | .updateExternalIDs root externalIDs =>
      database.updateRoot root fun row => { row with externalIDs := externalIDs }
  | .updateInterface next =>
      { database with interfaces := database.interfaces.map fun row =>
          if row.uuid = next.uuid then
            { row with
              type := next.type
              options := next.options
              externalIDs := next.externalIDs }
          else row }
  | .updatePort next =>
      { database with ports := database.ports.map fun row =>
          if row.uuid = next.uuid then
            { row with
              interfaces := next.interfaces
              externalIDs := next.externalIDs }
          else row }
  | .attachBridge root bridge =>
      database.updateRoot root fun row =>
        { row with bridges := insertReference bridge row.bridges }
  | .detachBridge root bridge =>
      database.updateRoot root fun row =>
        { row with bridges := removeReference bridge row.bridges }
  | .attachPort bridge port =>
      database.updateBridge bridge fun row =>
        { row with ports := insertReference port row.ports }
  | .detachPort bridge port =>
      database.updateBridge bridge fun row =>
        { row with ports := removeReference port row.ports }
  | .deleteBridge bridge =>
      { database with
        bridges := database.bridges.filter fun row => row.uuid != bridge }
  | .deletePort port =>
      { database with
        ports := database.ports.filter fun row => row.uuid != port }
  | .deleteInterface interface =>
      { database with
        interfaces :=
          database.interfaces.filter fun row => row.uuid != interface }

/-- The update matches no row. -/
def unmatched (database : Vswitch) : OvsOperation → Bool
  | .updateExternalIDs root _ =>
      !(database.roots.any fun row => row.uuid == root)
  | .updateInterface next =>
      !(database.interfaces.any fun row => row.uuid == next.uuid)
  | .updatePort next =>
      !(database.ports.any fun row => row.uuid == next.uuid)
  | _ => false

/-- The rows that are referred to.  Bridges, ports and interfaces exist only
as long as a row above them refers to them. -/
def collect (database : Vswitch) : Vswitch :=
  let bridges := database.bridges.filter fun row =>
    database.roots.any fun root => root.bridges.contains row.uuid
  let ports := database.ports.filter fun row =>
    bridges.any fun bridge => bridge.ports.contains row.uuid
  let interfaces := database.interfaces.filter fun row =>
    ports.any fun port => port.interfaces.contains row.uuid
  { database with
    bridges := bridges
    ports := ports
    interfaces := interfaces }

/-- Names are unique and references lead to rows. -/
def consistent (database : Vswitch) : Bool :=
  decide ((database.bridges.map (·.name)).Nodup) &&
    decide ((database.ports.map (·.name)).Nodup) &&
    decide ((database.interfaces.map (·.name)).Nodup) &&
    (database.roots.all fun root => root.bridges.all fun uuid =>
      database.bridges.any fun bridge => bridge.uuid == uuid) &&
    (database.bridges.all fun bridge => bridge.ports.all fun uuid =>
      database.ports.any fun port => port.uuid == uuid) &&
    database.ports.all fun port => port.interfaces.all fun uuid =>
      database.interfaces.any fun interface => interface.uuid == uuid

def applyAll (database : Vswitch) (operations : List OvsOperation) : Vswitch :=
  operations.foldl apply database

/-- The position of the first update that matches no row. -/
def firstUnmatched (database : Vswitch) (position : Nat) :
    List OvsOperation → Option Nat
  | [] => none
  | operation :: rest =>
      if database.unmatched operation then some position
      else firstUnmatched (database.apply operation) (position + 1) rest

/-- `transactModel1` on a database that carries the transaction out.  One that
breaks a constraint is rolled back. -/
def transactModel1 (database : Vswitch) (operations : List OvsOperation) :
    Except GoError Unit × Vswitch :=
  if operations.isEmpty then (.ok (), database)
  else
    let next := (database.applyAll operations).collect
    if !next.consistent then
      (.error (.new "OVSDB operation failed: " "constraint violation"),
        database)
    else
      match database.firstUnmatched 0 operations with
      | some position =>
          (.error (.new "OVSDB update operation "
            (toString position ++ " matched no rows")), next)
      | none => (.ok (), next)

end Vswitch

end EvpnForOvn.Evpn

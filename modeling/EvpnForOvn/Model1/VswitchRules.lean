import EvpnForOvn.Model1.Vswitch
import Mathlib.Data.List.Nodup

/-!
# Databases between transactions

Between two transactions names and identifiers are unique, every reference
leads to a row, and no row is left that nothing refers to.  The lemmas say
which rows the collection keeps.
-/

namespace EvpnForOvn.Evpn

open Go

namespace Vswitch

variable {database : Vswitch}

/-- A new row keeps a column unique. -/
theorem nodup_map_snoc {α : Type} {rows : List α} {row : α}
    {column : α → String} (distinct : (rows.map column).Nodup)
    (new : ∀ other ∈ rows, column other ≠ column row) :
    ((rows ++ [row]).map column).Nodup := by
  rw [List.map_append, List.map_singleton, List.nodup_append]
  refine ⟨distinct, List.nodup_singleton _, ?_⟩
  intro first firstListed second secondListed same
  obtain ⟨other, otherListed, rfl⟩ := List.mem_map.mp firstListed
  rw [List.mem_singleton.mp secondListed] at same
  exact new other otherListed same

/-- What holds between two transactions. -/
structure WellFormed (database : Vswitch) : Prop where
  rootUuids : (database.roots.map (·.uuid)).Nodup
  bridgeUuids : (database.bridges.map (·.uuid)).Nodup
  portUuids : (database.ports.map (·.uuid)).Nodup
  interfaceUuids : (database.interfaces.map (·.uuid)).Nodup
  bridgeNames : (database.bridges.map (·.name)).Nodup
  portNames : (database.ports.map (·.name)).Nodup
  interfaceNames : (database.interfaces.map (·.name)).Nodup
  rootLeads : ∀ root ∈ database.roots, ∀ uuid ∈ root.bridges,
    ∃ bridge ∈ database.bridges, bridge.uuid = uuid
  bridgeLeads : ∀ bridge ∈ database.bridges, ∀ uuid ∈ bridge.ports,
    ∃ port ∈ database.ports, port.uuid = uuid
  portLeads : ∀ port ∈ database.ports, ∀ uuid ∈ port.interfaces,
    ∃ interface ∈ database.interfaces, interface.uuid = uuid
  bridgeReferred : ∀ bridge ∈ database.bridges,
    ∃ root ∈ database.roots, bridge.uuid ∈ root.bridges
  portReferred : ∀ port ∈ database.ports,
    ∃ bridge ∈ database.bridges, port.uuid ∈ bridge.ports
  interfaceReferred : ∀ interface ∈ database.interfaces,
    ∃ port ∈ database.ports, interface.uuid ∈ port.interfaces

theorem consistent_iff :
    database.consistent = true ↔
      (database.bridges.map (·.name)).Nodup ∧
      (database.ports.map (·.name)).Nodup ∧
      (database.interfaces.map (·.name)).Nodup ∧
      (∀ root ∈ database.roots, ∀ uuid ∈ root.bridges,
        ∃ bridge ∈ database.bridges, bridge.uuid = uuid) ∧
      (∀ bridge ∈ database.bridges, ∀ uuid ∈ bridge.ports,
        ∃ port ∈ database.ports, port.uuid = uuid) ∧
      ∀ port ∈ database.ports, ∀ uuid ∈ port.interfaces,
        ∃ interface ∈ database.interfaces, interface.uuid = uuid := by
  unfold consistent
  simp only [Bool.and_eq_true, decide_eq_true_eq, List.all_eq_true,
    List.any_eq_true, beq_iff_eq, and_assoc]

theorem WellFormed.consistent (wellFormed : database.WellFormed) :
    database.consistent = true :=
  consistent_iff.mpr ⟨wellFormed.bridgeNames, wellFormed.portNames,
    wellFormed.interfaceNames, wellFormed.rootLeads, wellFormed.bridgeLeads,
    wellFormed.portLeads⟩

theorem mem_bridges_collect {bridge : Bridge} :
    bridge ∈ database.collect.bridges ↔ bridge ∈ database.bridges ∧
      ∃ root ∈ database.roots, bridge.uuid ∈ root.bridges := by
  simp [collect]

theorem mem_ports_collect {port : Port} :
    port ∈ database.collect.ports ↔ port ∈ database.ports ∧
      ∃ bridge ∈ database.collect.bridges, port.uuid ∈ bridge.ports := by
  change port ∈ database.ports.filter (fun row =>
    database.collect.bridges.any fun bridge =>
      bridge.ports.contains row.uuid) ↔ _
  simp [List.mem_filter]

theorem mem_interfaces_collect {interface : Interface} :
    interface ∈ database.collect.interfaces ↔
      interface ∈ database.interfaces ∧
        ∃ port ∈ database.collect.ports,
          interface.uuid ∈ port.interfaces := by
  change interface ∈ database.interfaces.filter (fun row =>
    database.collect.ports.any fun port =>
      port.interfaces.contains row.uuid) ↔ _
  simp [List.mem_filter]

theorem bridges_collect_sublist :
    database.collect.bridges.Sublist database.bridges :=
  List.filter_sublist

theorem ports_collect_sublist :
    database.collect.ports.Sublist database.ports :=
  List.filter_sublist

theorem interfaces_collect_sublist :
    database.collect.interfaces.Sublist database.interfaces :=
  List.filter_sublist

/-- A committed transaction leaves a well-formed database. -/
theorem wellFormed_collect
    (rootUuids : (database.roots.map (·.uuid)).Nodup)
    (bridgeUuids : (database.bridges.map (·.uuid)).Nodup)
    (portUuids : (database.ports.map (·.uuid)).Nodup)
    (interfaceUuids : (database.interfaces.map (·.uuid)).Nodup)
    (consistent : database.collect.consistent = true) :
    database.collect.WellFormed := by
  obtain ⟨bridgeNames, portNames, interfaceNames, rootLeads, bridgeLeads,
    portLeads⟩ := consistent_iff.mp consistent
  exact
    { rootUuids := rootUuids
      bridgeUuids := bridgeUuids.sublist (bridges_collect_sublist.map _)
      portUuids := portUuids.sublist (ports_collect_sublist.map _)
      interfaceUuids :=
        interfaceUuids.sublist (interfaces_collect_sublist.map _)
      bridgeNames := bridgeNames
      portNames := portNames
      interfaceNames := interfaceNames
      rootLeads := rootLeads
      bridgeLeads := bridgeLeads
      portLeads := portLeads
      bridgeReferred := fun _ listed => (mem_bridges_collect.mp listed).2
      portReferred := fun _ listed => (mem_ports_collect.mp listed).2
      interfaceReferred := fun _ listed =>
        (mem_interfaces_collect.mp listed).2 }

/-- Nothing is collected while every row is referred to. -/
theorem collect_eq_self
    (bridgeReferred : ∀ bridge ∈ database.bridges,
      ∃ root ∈ database.roots, bridge.uuid ∈ root.bridges)
    (portReferred : ∀ port ∈ database.ports,
      ∃ bridge ∈ database.bridges, port.uuid ∈ bridge.ports)
    (interfaceReferred : ∀ interface ∈ database.interfaces,
      ∃ port ∈ database.ports, interface.uuid ∈ port.interfaces) :
    database.collect = database := by
  have bridges : (database.bridges.filter fun row =>
      database.roots.any fun root => root.bridges.contains row.uuid) =
        database.bridges := by
    rw [List.filter_eq_self]
    intro bridge listed
    simpa using bridgeReferred bridge listed
  have ports : (database.ports.filter fun row =>
      database.bridges.any fun bridge => bridge.ports.contains row.uuid) =
        database.ports := by
    rw [List.filter_eq_self]
    intro port listed
    simpa using portReferred port listed
  have interfaces : (database.interfaces.filter fun row =>
      database.ports.any fun port => port.interfaces.contains row.uuid) =
        database.interfaces := by
    rw [List.filter_eq_self]
    intro interface listed
    simpa using interfaceReferred interface listed
  simp only [collect, bridges, ports, interfaces]

theorem WellFormed.collect_eq (wellFormed : database.WellFormed) :
    database.collect = database :=
  collect_eq_self wellFormed.bridgeReferred wellFormed.portReferred
    wellFormed.interfaceReferred

section Rows

variable (wellFormed : database.WellFormed)

include wellFormed

theorem WellFormed.port_eq_of_uuid {first second : Port}
    (firstListed : first ∈ database.ports)
    (secondListed : second ∈ database.ports)
    (same : first.uuid = second.uuid) : first = second :=
  List.inj_on_of_nodup_map wellFormed.portUuids firstListed secondListed same

theorem WellFormed.interface_eq_of_uuid {first second : Interface}
    (firstListed : first ∈ database.interfaces)
    (secondListed : second ∈ database.interfaces)
    (same : first.uuid = second.uuid) : first = second :=
  List.inj_on_of_nodup_map wellFormed.interfaceUuids firstListed secondListed
    same

theorem WellFormed.interface_eq_of_name {first second : Interface}
    (firstListed : first ∈ database.interfaces)
    (secondListed : second ∈ database.interfaces)
    (same : first.name = second.name) : first = second :=
  List.inj_on_of_nodup_map wellFormed.interfaceNames firstListed secondListed
    same

theorem WellFormed.bridge_eq_of_name {first second : Bridge}
    (firstListed : first ∈ database.bridges)
    (secondListed : second ∈ database.bridges)
    (same : first.name = second.name) : first = second :=
  List.inj_on_of_nodup_map wellFormed.bridgeNames firstListed secondListed
    same

theorem WellFormed.bridge_eq_of_uuid {first second : Bridge}
    (firstListed : first ∈ database.bridges)
    (secondListed : second ∈ database.bridges)
    (same : first.uuid = second.uuid) : first = second :=
  List.inj_on_of_nodup_map wellFormed.bridgeUuids firstListed secondListed
    same

end Rows

/-- The database with a new interface under a new port of a bridge. -/
def grown (database : Vswitch) (bridge : String) (interface : Interface)
    (port : Port) : Vswitch :=
  { roots := database.roots
    bridges := database.bridges.map fun row =>
      if row.uuid = bridge then
        { row with ports := insertReference port.uuid row.ports }
      else row
    ports := database.ports ++ [port]
    interfaces := database.interfaces ++ [interface] }

section Grown

variable {bridge : Bridge} {interface : Interface} {port : Port}

theorem mem_ports_grown {row : Bridge} {selected uuid : String} :
    uuid ∈ (if row.uuid = selected then
        { row with ports := insertReference port.uuid row.ports }
      else row).ports ↔
      uuid ∈ row.ports ∨ row.uuid = selected ∧ uuid = port.uuid := by
  by_cases same : row.uuid = selected
  · rw [if_pos same]
    simp only [same, true_and]
    exact mem_insertReference
  · rw [if_neg same]
    simp [same]

theorem map_bridges_grown {selected : String} {column : Bridge → String}
    (kept : ∀ (row : Bridge) ports, column { row with ports := ports } =
      column row) :
    (grown database selected interface port).bridges.map column =
      database.bridges.map column := by
  change (database.bridges.map _).map column = _
  rw [List.map_map]
  apply List.map_congr_left
  intro row _
  by_cases same : row.uuid = selected
  · rw [Function.comp_apply, if_pos same]
    exact kept row _
  · rw [Function.comp_apply, if_neg same]

/-- A port may be added to a bridge that is there. -/
theorem wellFormed_grown (wellFormed : database.WellFormed)
    (only : port.interfaces = [interface.uuid])
    (freshInterface : ∀ row ∈ database.interfaces,
      row.uuid ≠ interface.uuid ∧ row.name ≠ interface.name)
    (freshPort : ∀ row ∈ database.ports,
      row.uuid ≠ port.uuid ∧ row.name ≠ port.name)
    (bridgeListed : bridge ∈ database.bridges) :
    (grown database bridge.uuid interface port).WellFormed := by
  have bridgeUuids : (grown database bridge.uuid interface port).bridges.map
      (·.uuid) = database.bridges.map (·.uuid) :=
    map_bridges_grown fun _ _ => rfl
  have bridgeNames : (grown database bridge.uuid interface port).bridges.map
      (·.name) = database.bridges.map (·.name) :=
    map_bridges_grown fun _ _ => rfl
  refine
    { rootUuids := wellFormed.rootUuids
      bridgeUuids := by rw [bridgeUuids]; exact wellFormed.bridgeUuids
      portUuids := nodup_map_snoc wellFormed.portUuids
        fun row listed => (freshPort row listed).1
      interfaceUuids := nodup_map_snoc wellFormed.interfaceUuids
        fun row listed => (freshInterface row listed).1
      bridgeNames := by rw [bridgeNames]; exact wellFormed.bridgeNames
      portNames := nodup_map_snoc wellFormed.portNames
        fun row listed => (freshPort row listed).2
      interfaceNames := nodup_map_snoc wellFormed.interfaceNames
        fun row listed => (freshInterface row listed).2
      rootLeads := ?_
      bridgeLeads := ?_
      portLeads := ?_
      bridgeReferred := ?_
      portReferred := ?_
      interfaceReferred := ?_ }
  · intro root listed uuid member
    obtain ⟨row, rowListed, same⟩ :=
      wellFormed.rootLeads root listed uuid member
    rw [← List.mem_map, bridgeUuids, ← same]
    exact List.mem_map_of_mem rowListed
  · intro changed listed uuid member
    obtain ⟨row, rowListed, rfl⟩ := List.mem_map.mp listed
    rcases mem_ports_grown.mp member with old | ⟨_, new⟩
    · obtain ⟨found, foundListed, same⟩ :=
        wellFormed.bridgeLeads row rowListed uuid old
      exact ⟨found, List.mem_append_left _ foundListed, same⟩
    · exact ⟨port, by simp [grown], new.symm⟩
  · intro row listed uuid member
    rcases List.mem_append.mp listed with old | new
    · obtain ⟨found, foundListed, same⟩ :=
        wellFormed.portLeads row old uuid member
      exact ⟨found, List.mem_append_left _ foundListed, same⟩
    · rw [List.mem_singleton.mp new, only] at member
      exact ⟨interface, by simp [grown],
        (List.mem_singleton.mp member).symm⟩
  · intro changed listed
    obtain ⟨row, rowListed, rfl⟩ := List.mem_map.mp listed
    obtain ⟨root, rootListed, member⟩ :=
      wellFormed.bridgeReferred row rowListed
    refine ⟨root, rootListed, ?_⟩
    by_cases same : row.uuid = bridge.uuid
    · rw [if_pos same]
      exact member
    · rw [if_neg same]
      exact member
  · intro row listed
    rcases List.mem_append.mp listed with old | new
    · obtain ⟨holder, holderListed, member⟩ :=
        wellFormed.portReferred row old
      exact ⟨_, List.mem_map_of_mem holderListed,
        mem_ports_grown.mpr (.inl member)⟩
    · refine ⟨_, List.mem_map_of_mem bridgeListed,
        mem_ports_grown.mpr (.inr ⟨rfl, ?_⟩)⟩
      rw [List.mem_singleton.mp new]
  · intro row listed
    rcases List.mem_append.mp listed with old | new
    · obtain ⟨holder, holderListed, member⟩ :=
        wellFormed.interfaceReferred row old
      exact ⟨holder, List.mem_append_left _ holderListed, member⟩
    · refine ⟨port, by simp [grown], ?_⟩
      rw [List.mem_singleton.mp new, only]
      exact .head _

end Grown

end Vswitch

end EvpnForOvn.Evpn

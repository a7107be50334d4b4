import EvpnForOvn.Ovsdb.Vtep

/-!
# The logical switch port of a tunnel

With nobody else at work the port is found or created, attached to its switch,
and nothing else changes.
-/

namespace EvpnForOvn.OvsdbMgmt

open Go Endpoint
open Evpn.Vswitch (insertReference)

variable {nb next : Northbound} {ls : LogicalSwitch}
  {lspName lspUUID : String}

/-- The database with a port attached to a switch. -/
def joined (nb : Northbound) (ports : List LogicalSwitchPort)
    (switch port : String) : Northbound :=
  { switches := nb.switches.map fun row =>
      if row.uuid = switch then
        { row with ports := insertReference port row.ports }
      else row
    ports := ports }

theorem mem_ports_attached {row : LogicalSwitch} {switch port uuid : String} :
    uuid ∈ (if row.uuid = switch then
        { row with ports := insertReference port row.ports }
      else row).ports ↔
      uuid ∈ row.ports ∨ row.uuid = switch ∧ uuid = port := by
  by_cases selected : row.uuid = switch
  · rw [if_pos selected]
    simp only [selected, true_and]
    exact Evpn.Vswitch.mem_insertReference
  · rw [if_neg selected]
    simp [selected]

theorem map_switches_joined {column : LogicalSwitch → String}
    {ports : List LogicalSwitchPort} {switch port : String}
    (kept : ∀ (row : LogicalSwitch) ports,
      column { row with ports := ports } = column row) :
    (joined nb ports switch port).switches.map column =
      nb.switches.map column := by
  change (nb.switches.map _).map column = _
  rw [List.map_map]
  apply List.map_congr_left
  intro row _
  by_cases selected : row.uuid = switch
  · rw [Function.comp_apply, if_pos selected]
    exact kept row _
  · rw [Function.comp_apply, if_neg selected]

/-- A port may be attached to a switch that is there. -/
theorem wellFormed_joined {ports : List LogicalSwitchPort}
    {row : LogicalSwitchPort} (wellFormed : nb.WellFormed)
    (switchListed : ls ∈ nb.switches)
    (uuids : (ports.map (·.uuid)).Nodup) (names : (ports.map (·.name)).Nodup)
    (kept : ∀ old ∈ nb.ports, old ∈ ports)
    (only : ∀ old ∈ ports, old ∈ nb.ports ∨ old = row)
    (listed : row ∈ ports) :
    (joined nb ports ls.uuid row.uuid).WellFormed := by
  have switchUuids : (joined nb ports ls.uuid row.uuid).switches.map
      (·.uuid) = nb.switches.map (·.uuid) :=
    map_switches_joined fun _ _ => rfl
  refine
    { switchUuids := by rw [switchUuids]; exact wellFormed.switchUuids
      uuids := uuids
      names := names
      leads := ?_
      referred := ?_ }
  · intro changed changedListed port member
    obtain ⟨switch, oldListed, rfl⟩ := List.mem_map.mp changedListed
    rcases mem_ports_attached.mp member with old | ⟨_, new⟩
    · obtain ⟨found, foundListed, same⟩ :=
        List.mem_map.mp (wellFormed.leads switch oldListed port old)
      exact List.mem_map.mpr ⟨found, kept found foundListed, same⟩
    · exact List.mem_map.mpr ⟨row, listed, new.symm⟩
  · intro old oldListed
    rw [Northbound.refers_iff]
    rcases only old oldListed with before | new
    · obtain ⟨switch, listed, member⟩ :=
        Northbound.refers_iff.mp (wellFormed.referred old before)
      exact ⟨_, List.mem_map_of_mem listed,
        mem_ports_attached.mpr (.inl member)⟩
    · exact ⟨_, List.mem_map_of_mem switchListed,
        mem_ports_attached.mpr (.inr ⟨rfl, by rw [new]⟩)⟩

/-- A new port is attached to a switch that is there. -/
theorem transact_create {new : LogicalSwitchPort}
    (wellFormed : nb.WellFormed) (switchListed : ls ∈ nb.switches)
    (fresh : ∀ row ∈ nb.ports, row.uuid ≠ new.uuid)
    (unnamed : ∀ row ∈ nb.ports, row.name ≠ new.name) :
    (joined nb (nb.ports ++ [new]) ls.uuid new.uuid).WellFormed ∧
      nb.transact [.createPort new, .attachPort ls.uuid new.uuid] =
        some (joined nb (nb.ports ++ [new]) ls.uuid new.uuid) := by
  have newListed : new ∈ nb.ports ++ [new] :=
    List.mem_append_right _ (.head _)
  have settled :
      (joined nb (nb.ports ++ [new]) ls.uuid new.uuid).WellFormed :=
    wellFormed_joined wellFormed switchListed
      (Evpn.Vswitch.nodup_map_snoc wellFormed.uuids fresh)
      (Evpn.Vswitch.nodup_map_snoc wellFormed.names unnamed)
      (fun _ old => List.mem_append_left _ old)
      (fun row listed => by simpa using listed) newListed
  exact ⟨settled, Northbound.transact_eq_some.mpr
    ⟨Northbound.collect_eq_self settled.referred, settled.toConsistent⟩⟩

/-- What the call does to the logical ports. -/
structure PortEnsured (lspName lspUUID : String) (before after : Northbound) :
    Prop where
  wellFormed : after.WellFormed
  switches : after.switches.map (·.name) = before.switches.map (·.name)
  ports : ∀ row : LogicalSwitchPort, row ∈ after.ports ↔
    row ∈ before.ports ∨ getVtep before lspName = none ∧
      row = ⟨lspUUID, lspName, [], GoMap.empty⟩
  found : (getVtep after lspName).isSome = true

theorem getVtep_eq_none :
    getVtep nb lspName = none ↔ ∀ row ∈ nb.ports, row.name ≠ lspName := by
  unfold getVtep
  rw [List.find?_eq_none]
  simp

/-- The port is found or created. -/
theorem ensurePort_ensured (wellFormed : nb.WellFormed)
    (switchListed : ls ∈ nb.switches)
    (fresh : ∀ row ∈ nb.ports, row.uuid ≠ lspUUID) :
    ∃ next, ensurePort nb nb ls lspName lspUUID = some next ∧
      PortEnsured lspName lspUUID nb next := by
  unfold ensurePort
  cases found : getVtep nb lspName with
  | some lsp =>
      obtain ⟨listed, named⟩ := (getVtep_eq_some wellFormed).mp found
      have settled : (joined nb nb.ports ls.uuid lsp.uuid).WellFormed :=
        wellFormed_joined wellFormed switchListed wellFormed.uuids
          wellFormed.names (fun _ old => old) (fun _ old => .inl old) listed
      have committed : nb.transact [.attachPort ls.uuid lsp.uuid] =
          some (joined nb nb.ports ls.uuid lsp.uuid) :=
        Northbound.transact_eq_some.mpr
          ⟨Northbound.collect_eq_self settled.referred,
            settled.toConsistent⟩
      refine ⟨_, committed,
        { wellFormed := settled
          switches := map_switches_joined fun _ _ => rfl
          ports := ?_
          found := ?_ }⟩
      · intro row
        simp [joined, found]
      · rw [(getVtep_eq_some settled).mpr ⟨listed, named⟩]
        rfl
  | none =>
      have unnamed := getVtep_eq_none.mp found
      let new : LogicalSwitchPort := ⟨lspUUID, lspName, [], GoMap.empty⟩
      have newListed : new ∈ nb.ports ++ [new] :=
        List.mem_append_right _ (.head _)
      obtain ⟨settled, committed⟩ := @transact_create nb ls new wellFormed
        switchListed fresh unnamed
      refine ⟨joined nb (nb.ports ++ [new]) ls.uuid new.uuid, ?_,
        { wellFormed := settled
          switches := map_switches_joined fun _ _ => rfl
          ports := ?_
          found := ?_ }⟩
      · dsimp only
        rw [committed]
      · intro row
        simp [joined, found, new]
      · rw [(getVtep_eq_some settled).mpr ⟨newListed, rfl⟩]
        rfl

end EvpnForOvn.OvsdbMgmt

import EvpnForOvn.Ovsdb.NetworkUpdates
import EvpnForOvn.Ovsdb.PortDeletion

/-!
# Effects of the calls on the switches

With nobody else at work, `AddNetwork` takes the switch of the name or creates
it, `DelNetwork` deletes it, and a call that adds a port keeps the identifiers
and the names of all switches.
-/

namespace EvpnForOvn.OvsdbMgmt

open Go Endpoint Evpn Interactive

section Effects

variable {getenv : String → String} {networks : GoMap NetworkRow}
  {name : String} {table after : NetworkTable}

inductive NetworkAdded (networks : GoMap NetworkRow) (networkName : String)
    (before after : NetworkTable) :
    Except GoError (GoMap NetworkRow) → Prop where
  | reused {row : NetworkRow} :
      row.switch ∈ before.nb.switches → row.switch.name = networkName →
      after.nb = before.nb →
      NetworkAdded networks networkName before after
        (.ok (networks.set networkName row))
  | created {row : NetworkRow} :
      (∀ switch ∈ before.nb.switches, switch.name ≠ networkName) →
      row.switch.name = networkName →
      after.nb = { before.nb with
        switches := before.nb.switches ++ [row.switch] } →
      after.nb.WellFormed →
      NetworkAdded networks networkName before after
        (.ok (networks.set networkName row))
  | refused {reason : GoError} :
      (∀ switch ∈ before.nb.switches, switch.name ≠ networkName) →
      after = before →
      NetworkAdded networks networkName before after (.error reason)

theorem finishes_listSwitches {report : GoError → GoError}
    {ended : Except GoError (List NetworkRow)} :
    (listSwitches report).Finishes NetworkTable.Reliable table ended after ↔
      after = table ∧ ∃ rows, ended = .ok rows ∧
        rows.Perm table.rows := by
  refine Method.finishes_ask_check.trans ?_
  constructor
  · intro finishes
    obtain ⟨_, ⟨same, rows, rfl, permuted⟩, rfl⟩ := finishes
    exact ⟨same, rows, rfl, permuted⟩
  · intro finishes
    obtain ⟨same, rows, rfl, permuted⟩ := finishes
    exact ⟨.ok rows, ⟨same, rows, rfl, permuted⟩, rfl⟩

theorem finishes_transactNetwork {report : NetworkFailure → GoError}
    {operation : NetworkOperation} {ended : Except GoError Unit}
    (finishes : (transactNetwork report operation).Finishes
      NetworkTable.Reliable table ended after) :
    ended = .ok () ∧ table.transact operation = some after ∨
      (∃ reason, ended = .error reason) ∧ after = table ∧
        table.transact operation = none := by
  obtain ⟨reply, answered, rfl⟩ := Method.finishes_ask_check.mp finishes
  rcases answered with ⟨committed, rfl⟩ | ⟨rejected, same, _, _, rfl⟩
  · exact .inl ⟨rfl, committed⟩
  · exact .inr ⟨⟨_, rfl⟩, same, rejected⟩

/-- The configuration is written without a change to the switches. -/
theorem finishes_configureNetwork {row : NetworkRow}
    {ended : Except GoError NetworkRow} (wellFormed : table.nb.WellFormed)
    (listed : row.switch ∈ table.nb.switches)
    (finishes : (configureNetwork getenv row).Finishes NetworkTable.Reliable
      table ended after) :
    ∃ config, ended = .ok ⟨row.switch, config⟩ ∧ after.nb = table.nb := by
  unfold configureNetwork at finishes
  by_cases stale : needsUpdate (logicalSwitchVni getenv) row.otherConfig
  · rw [if_pos stale] at finishes
    have committed := @transact_writeBack table row
      (completed (logicalSwitchVni getenv) row.otherConfig) wellFormed listed
      size_completed
    rcases Method.finishes_bind.mp finishes with
      ⟨_, middle, written, last⟩ | ⟨_, failed, _⟩
    · obtain ⟨rfl, rfl⟩ := Method.finishes_pure.mp last
      rcases finishes_transactNetwork written with
        ⟨_, next⟩ | ⟨_, _, rejected⟩
      · cases committed.symm.trans next
        exact ⟨_, rfl, rfl⟩
      · cases committed.symm.trans rejected
    · rcases finishes_transactNetwork failed with
        ⟨impossible, _⟩ | ⟨_, _, rejected⟩
      · cases impossible
      · cases committed.symm.trans rejected
  · rw [if_neg stale] at finishes
    obtain ⟨rfl, rfl⟩ := Method.finishes_pure.mp finishes
    exact ⟨row.otherConfig, rfl, rfl⟩

/-- A new switch does not affect the ports. -/
theorem transact_createSwitch {row : NetworkRow}
    (wellFormed : table.nb.WellFormed)
    (committed : table.transact (.create row) = some after) :
    after.nb = { table.nb with
        switches := table.nb.switches ++ [row.switch] } ∧
      after.nb.WellFormed ∧ row ∈ after.rows := by
  obtain ⟨rfl, consistent⟩ := NetworkTable.transact_eq_some.mp committed
  have referred : ∀ port ∈ table.nb.ports, Northbound.refers { table.nb with
      switches := table.nb.switches ++ [row.switch] } port.uuid = true := by
    intro port listed
    obtain ⟨switch, switchListed, member⟩ :=
      Northbound.refers_iff.mp (wellFormed.referred port listed)
    exact Northbound.refers_iff.mpr
      ⟨switch, List.mem_append_left _ switchListed, member⟩
  have collected : (table.apply (.create row)).nb.collect =
      { table.nb with switches := table.nb.switches ++ [row.switch] } :=
    Northbound.collect_eq_self referred
  rw [collected] at consistent ⊢
  refine ⟨rfl, { consistent with referred := referred }, ?_⟩
  apply NetworkTable.mem_rows.mpr
  refine ⟨List.mem_append_right _ (.head _), ?_⟩
  dsimp only [NetworkTable.config, NetworkTable.apply]
  rw [GoMap.get_set_self]
  rfl

theorem finishes_createNetwork {networkName : String}
    {ended : Except GoError NetworkRow} (wellFormed : table.nb.WellFormed)
    (finishes : (createNetwork getenv networkName).Finishes
      NetworkTable.Reliable table ended after) :
    (∃ row, ended = .ok row ∧ row.switch.name = networkName ∧
      after.nb = { table.nb with
        switches := table.nb.switches ++ [row.switch] } ∧
      after.nb.WellFormed) ∨
    (∃ reason, ended = .error reason) ∧ after = table := by
  unfold createNetwork at finishes
  rcases Method.finishes_bind.mp finishes with
    ⟨uuid, _, asked, second⟩ | ⟨_, failed, _⟩
  swap
  · obtain ⟨_, impossible, _⟩ := Method.finishes_ask.mp failed
    cases impossible
  obtain ⟨_, _, rfl⟩ := Method.finishes_ask.mp asked
  rcases Method.finishes_bind.mp second with
    ⟨_, middle, written, third⟩ | ⟨reason, failed, rfl⟩
  swap
  · rcases finishes_transactNetwork failed with
      ⟨impossible, _⟩ | ⟨_, same, _⟩
    · cases impossible
    · exact .inr ⟨⟨reason, rfl⟩, same⟩
  rcases finishes_transactNetwork written with ⟨_, committed⟩ | ⟨failed, _⟩
  swap
  · obtain ⟨_, impossible⟩ := failed
    cases impossible
  obtain ⟨nb, settled, created⟩ := transact_createSwitch wellFormed committed
  rcases Method.finishes_bind.mp third with
    ⟨rows, _, listing, last⟩ | ⟨_, failed, _⟩
  swap
  · obtain ⟨_, _, impossible, _⟩ := finishes_listSwitches.mp failed
    cases impossible
  obtain ⟨rfl, _, same, permuted⟩ := finishes_listSwitches.mp listing
  cases same
  obtain ⟨rfl, rfl⟩ := Method.finishes_require.mp last
  cases found : rows.find? fun row => row.switch.uuid == uuid with
  | none =>
      have missing := List.find?_eq_none.mp found _
        (permuted.mem_iff.mpr created)
      simp at missing
  | some row =>
      have listed := permuted.mem_iff.mp (List.mem_of_find?_eq_some found)
      have selected : row.switch.uuid = uuid := by
        simpa using List.find?_some found
      obtain rfl := network_eq_of_uuid settled listed created selected
      exact .inl ⟨_, rfl, rfl, nb, settled⟩

theorem absent_of_find {rows : List NetworkRow}
    (permuted : rows.Perm table.rows)
    (missing : (rows.find? fun row =>
      row.switch.name == truncateName name) = none) :
    ∀ switch ∈ table.nb.switches, switch.name ≠ truncateName name := by
  intro switch listed named
  have different := List.find?_eq_none.mp missing (table.row switch)
    (permuted.mem_iff.mpr (List.mem_map_of_mem listed))
  simp [NetworkTable.row, named] at different

theorem networkAdded_of_finishes
    {outcome : Except GoError (GoMap NetworkRow)}
    (wellFormed : table.nb.WellFormed)
    (finishes : (addNetwork getenv networks name).Finishes
      NetworkTable.Reliable table outcome after) :
    NetworkAdded networks (truncateName name) table after outcome := by
  unfold addNetwork at finishes
  rcases Method.finishes_bind.mp finishes with
    ⟨rows, start, listing, second⟩ | ⟨_, failed, _⟩
  swap
  · obtain ⟨_, _, impossible, _⟩ := finishes_listSwitches.mp failed
    cases impossible
  obtain ⟨rfl, _, same, permuted⟩ := finishes_listSwitches.mp listing
  cases same
  cases found : rows.find? fun row =>
      row.switch.name == truncateName name with
  | some row =>
      rw [found] at second
      have listed := (NetworkTable.mem_rows.mp (permuted.mem_iff.mp
        (List.mem_of_find?_eq_some found))).1
      have named : row.switch.name = truncateName name := by
        simpa using List.find?_some found
      rcases Method.finishes_bind.mp second with
        ⟨_, _, located, third⟩ | ⟨_, failed, _⟩
      swap
      · cases (Method.finishes_pure.mp failed).1
      obtain ⟨same, rfl⟩ := Method.finishes_pure.mp located
      cases same
      rcases Method.finishes_bind.mp third with
        ⟨_, _, configured, last⟩ | ⟨_, failed, _⟩
      swap
      · obtain ⟨_, impossible, _⟩ :=
          finishes_configureNetwork wellFormed listed failed
        cases impossible
      obtain ⟨_, same, nb⟩ :=
        finishes_configureNetwork wellFormed listed configured
      cases same
      obtain ⟨rfl, rfl⟩ := Method.finishes_pure.mp last
      exact .reused listed named nb
  | none =>
      rw [found] at second
      have absent := absent_of_find permuted found
      rcases Method.finishes_bind.mp second with
        ⟨row, middle, located, third⟩ | ⟨reason, failed, rfl⟩
      swap
      · rcases finishes_createNetwork wellFormed failed with
          ⟨_, impossible, _⟩ | ⟨_, same⟩
        · cases impossible
        · exact .refused absent same
      rcases finishes_createNetwork wellFormed located with
        ⟨_, same, named, nb, settled⟩ | ⟨⟨_, impossible⟩, _⟩
      swap
      · cases impossible
      cases same
      have listed : row.switch ∈ middle.nb.switches := by
        rw [nb]
        exact List.mem_append_right _ (.head _)
      rcases Method.finishes_bind.mp third with
        ⟨_, _, configured, last⟩ | ⟨_, failed, _⟩
      swap
      · obtain ⟨_, impossible, _⟩ :=
          finishes_configureNetwork settled listed failed
        cases impossible
      obtain ⟨_, same, kept⟩ :=
        finishes_configureNetwork settled listed configured
      cases same
      obtain ⟨rfl, rfl⟩ := Method.finishes_pure.mp last
      exact .created absent named (kept.trans nb) (kept ▸ settled)

inductive NetworkDeleted (networks : GoMap NetworkRow) (networkName : String)
    (before after : NetworkTable) :
    Except GoError (GoMap NetworkRow) → Prop where
  | deleted {switch : LogicalSwitch} :
      switch ∈ before.nb.switches → switch.name = networkName →
      after.nb.switches = (before.nb.switches.filter fun row =>
        row.uuid != switch.uuid) →
      after.nb.WellFormed →
      NetworkDeleted networks networkName before after
        (.ok (networks.delete networkName))
  | refused {reason : GoError} :
      (∀ switch ∈ before.nb.switches, switch.name ≠ networkName) →
      after = before →
      NetworkDeleted networks networkName before after (.error reason)

/-- The deletion of a switch that exists breaks no constraint. -/
theorem transact_delete {uuid : String}
    (wellFormed : table.nb.WellFormed) :
    table.transact (.delete uuid) ≠ none := by
  have kept : ∀ switch ∈ (table.apply (.delete uuid)).nb.switches,
      switch ∈ table.nb.switches :=
    fun switch listed => (List.mem_filter.mp listed).1
  have consistent : (table.apply (.delete uuid)).nb.collect.Consistent :=
    { switchUuids := wellFormed.switchUuids.sublist
        (List.filter_sublist.map _)
      uuids := wellFormed.uuids.sublist (List.filter_sublist.map _)
      names := wellFormed.names.sublist (List.filter_sublist.map _)
      leads := by
        intro switch listed port member
        obtain ⟨row, rowListed, rfl⟩ := List.mem_map.mp
          (wellFormed.leads switch (kept switch listed) port member)
        refine List.mem_map_of_mem (List.mem_filter.mpr ⟨rowListed, ?_⟩)
        exact Northbound.refers_iff.mpr ⟨switch, listed, member⟩ }
  unfold NetworkTable.transact
  rw [if_pos consistent]
  nofun

theorem networkDeleted_of_finishes
    {outcome : Except GoError (GoMap NetworkRow)}
    (wellFormed : table.nb.WellFormed)
    (finishes : (delNetwork networks name).Finishes NetworkTable.Reliable
      table outcome after) :
    NetworkDeleted networks (truncateName name) table after outcome := by
  unfold delNetwork at finishes
  rcases Method.finishes_bind.mp finishes with
    ⟨rows, start, listing, second⟩ | ⟨_, failed, _⟩
  swap
  · obtain ⟨_, _, impossible, _⟩ := finishes_listSwitches.mp failed
    cases impossible
  obtain ⟨rfl, _, same, permuted⟩ := finishes_listSwitches.mp listing
  cases same
  rcases Method.finishes_bind.mp second with
    ⟨row, _, required, third⟩ | ⟨_, failed, rfl⟩
  swap
  · obtain ⟨refused, same⟩ := Method.finishes_require.mp failed
    refine .refused (absent_of_find permuted ?_) same
    cases found : rows.find? fun row =>
        row.switch.name == truncateName name with
    | none => rfl
    | some row =>
        rw [found] at refused
        cases refused
  obtain ⟨found, rfl⟩ := Method.returns_require.mp required
  have listed := (NetworkTable.mem_rows.mp (permuted.mem_iff.mp
    (List.mem_of_find?_eq_some found))).1
  have named : row.switch.name = truncateName name := by
    simpa using List.find?_some found
  rcases Method.finishes_bind.mp third with
    ⟨_, _, written, last⟩ | ⟨_, failed, rfl⟩
  swap
  · rcases finishes_transactNetwork failed with
      ⟨impossible, _⟩ | ⟨_, _, rejected⟩
    · cases impossible
    · cases transact_delete wellFormed rejected
  obtain ⟨rfl, rfl⟩ := Method.finishes_pure.mp last
  rcases finishes_transactNetwork written with
    ⟨_, committed⟩ | ⟨⟨_, impossible⟩, _⟩
  swap
  · cases impossible
  obtain ⟨rfl, consistent⟩ := NetworkTable.transact_eq_some.mp committed
  refine .deleted listed named rfl { consistent with referred := ?_ }
  intro port portListed
  exact (List.mem_filter.mp portListed).2

inductive NetworkFound (networks : GoMap NetworkRow) (networkName : String)
    (table : NetworkTable) : Option Network × GoMap NetworkRow → Prop where
  | cached {row : NetworkRow} : networks.get networkName = some row →
      NetworkFound networks networkName table (some row.network, networks)
  | listed {row : NetworkRow} : row.switch ∈ table.nb.switches →
      row.switch.name = networkName →
      NetworkFound networks networkName table
        (some row.network, networks.set networkName row)
  | missing : (∀ switch ∈ table.nb.switches, switch.name ≠ networkName) →
      NetworkFound networks networkName table (none, networks)

/-- The lookup in what has been listed. -/
theorem networkFound_lookupNetwork {rows : List NetworkRow}
    {networkName : String} (permuted : rows.Perm table.rows) :
    NetworkFound networks networkName table
      (lookupNetwork networks networkName (.ok rows)) := by
  dsimp only [lookupNetwork]
  cases found : rows.find? fun row => row.switch.name == networkName with
  | none =>
      apply NetworkFound.missing
      intro switch listed
      have missing := List.find?_eq_none.mp found (table.row switch)
        (permuted.mem_iff.mpr (List.mem_map_of_mem listed))
      simpa [NetworkTable.row] using missing
  | some row =>
      exact .listed (NetworkTable.mem_rows.mp (permuted.mem_iff.mp
        (List.mem_of_find?_eq_some found))).1
        (by simpa using List.find?_some found)

theorem networkFound_of_returns {value : Option Network × GoMap NetworkRow}
    (returns : (getNetwork networks name).Returns NetworkTable.Reliable table
      value after) :
    after = table ∧ NetworkFound networks (truncateName name) table value := by
  unfold getNetwork at returns
  cases cached : networks.get (truncateName name) with
  | some row =>
      rw [cached] at returns
      obtain ⟨rfl, same⟩ := Method.returns_pure.mp returns
      exact ⟨same, .cached cached⟩
  | none =>
      rw [cached] at returns
      obtain ⟨_, _, asked, last⟩ := Method.returns_bind.mp returns
      obtain ⟨rfl, rows, rfl, permuted⟩ := Method.returns_ask.mp asked
      obtain ⟨rfl, same⟩ := Method.returns_pure.mp last
      exact ⟨same, networkFound_lookupNetwork permuted⟩

/-- `GetNetwork` always answers. -/
theorem getNetwork_returns : ∃ value,
    (getNetwork networks name).Returns NetworkTable.Reliable table value
      table := by
  unfold getNetwork
  cases networks.get (truncateName name) with
  | some row => exact ⟨_, Method.returns_pure.mpr ⟨rfl, rfl⟩⟩
  | none =>
      refine ⟨_, Method.returns_bind.mpr ⟨.ok table.rows, table,
        Method.returns_ask.mpr ⟨rfl, _, rfl, .refl _⟩,
        Method.returns_pure.mpr ⟨rfl, rfl⟩⟩⟩

/-- What `GetNetworks` keeps of the listing. -/
theorem get_foldl_set {rows : List NetworkRow} {key : String}
    {row : NetworkRow}
    (found : (rows.foldl (fun networks row =>
      networks.set row.switch.name row) networks).get key = some row) :
    networks.get key = some row ∨ row ∈ rows ∧ row.switch.name = key := by
  induction rows generalizing networks with
  | nil => exact .inl found
  | cons first rest induction =>
      rcases induction found with earlier | ⟨listed, named⟩
      · by_cases selected : key = first.switch.name
        · rw [selected, GoMap.get_set_self] at earlier
          cases earlier
          exact .inr ⟨.head _, selected.symm⟩
        · rw [GoMap.get_set_of_ne selected] at earlier
          exact .inl earlier
      · exact .inr ⟨.tail _ listed, named⟩

theorem getNetworks_of_returns {value : List Network × GoMap NetworkRow}
    (returns : (getNetworks networks).Returns NetworkTable.Reliable table
      value after) :
    after = table ∧ ∀ key row, value.2.get key = some row →
      networks.get key = some row ∨
        row.switch ∈ table.nb.switches ∧ row.switch.name = key := by
  unfold getNetworks at returns
  obtain ⟨_, _, asked, last⟩ := Method.returns_bind.mp returns
  obtain ⟨rfl, rows, rfl, permuted⟩ := Method.returns_ask.mp asked
  obtain ⟨rfl, same⟩ := Method.returns_pure.mp last
  refine ⟨same, fun key row found => ?_⟩
  rcases get_foldl_set found with earlier | ⟨listed, named⟩
  · exact .inl earlier
  · exact .inr ⟨(NetworkTable.mem_rows.mp
      (permuted.mem_iff.mp listed)).1, named⟩

end Effects

def identities (nb : Northbound) : List (String × String) :=
  nb.switches.map fun switch => (switch.uuid, switch.name)

/-- No switch is created, deleted or renamed. -/
structure SameSwitches (before after : Northbound) : Prop where
  wellFormed : after.WellFormed
  same : identities after = identities before

section Names

variable {nb next : Northbound} {name uuid : String}

theorem mem_identities : (uuid, name) ∈ identities nb ↔
    ∃ switch ∈ nb.switches, switch.uuid = uuid ∧ switch.name = name := by
  simp [identities]

theorem SameSwitches.refl (wellFormed : nb.WellFormed) :
    SameSwitches nb nb :=
  ⟨wellFormed, rfl⟩

theorem identities_updateSwitch {change : LogicalSwitch → LogicalSwitch}
    (kept : ∀ row, (change row).uuid = row.uuid ∧
      (change row).name = row.name) :
    identities (nb.updateSwitch uuid change) = identities nb := by
  unfold identities Northbound.updateSwitch
  rw [List.map_map]
  apply List.map_congr_left
  intro row _
  obtain ⟨sameUuid, sameName⟩ := kept row
  by_cases selected : row.uuid = uuid
  · rw [Function.comp_apply, if_pos selected, sameUuid, sameName]
  · rw [Function.comp_apply, if_neg selected]

theorem identities_apply (operation : NbOperation) :
    identities (nb.apply operation) = identities nb := by
  cases operation with
  | attachPort switch port =>
      exact identities_updateSwitch fun _ => ⟨rfl, rfl⟩
  | detachPort switch port =>
      exact identities_updateSwitch fun _ => ⟨rfl, rfl⟩
  | createPort row => rfl
  | updatePort port addresses externalIDs => rfl
  | deletePort port => rfl

theorem identities_applyAll (operations : List NbOperation) :
    identities (nb.applyAll operations) = identities nb := by
  induction operations generalizing nb with
  | nil => rfl
  | cons operation rest induction =>
      exact (@induction (nb.apply operation)).trans
        (identities_apply operation)

theorem sameSwitches_of_transact {operations : List NbOperation}
    (committed : nb.transact operations = some next) :
    SameSwitches nb next := by
  refine ⟨Northbound.wellFormed_of_transact committed, ?_⟩
  obtain ⟨rfl, _⟩ := Northbound.transact_eq_some.mp committed
  exact identities_applyAll operations

end Names

/-- The port of the name is in the switch. -/
def Attached (nb : Northbound) (uuid portName : String) : Prop :=
  ∃ switch ∈ nb.switches, switch.uuid = uuid ∧
    ∃ port ∈ nb.ports, port.name = portName ∧ port.uuid ∈ switch.ports

section Ports

variable {nb : Northbound} {ls : LogicalSwitch} {host : Host}
  {networks : GoMap NetworkRow} {databases : Databases}

theorem attached_joined {ports : List LogicalSwitchPort}
    {port : LogicalSwitchPort} (switchListed : ls ∈ nb.switches)
    (listed : port ∈ ports) :
    Attached (joined nb ports ls.uuid port.uuid) ls.uuid port.name := by
  refine ⟨_, List.mem_map_of_mem switchListed, ?_, port, listed, rfl,
    mem_ports_attached.mpr (.inr ⟨rfl, rfl⟩)⟩
  rw [if_pos rfl]

/-- The port of a tunnel is attached, whether it was there or not. -/
theorem ensurePort_attached {switch : LogicalSwitch}
    {lspName lspUUID : String} (wellFormed : nb.WellFormed)
    (switchListed : switch ∈ nb.switches) (same : switch.uuid = ls.uuid)
    (fresh : ∀ row ∈ nb.ports, row.uuid ≠ lspUUID) :
    ∃ next, ensurePort nb nb ls lspName lspUUID = some next ∧
      Attached next ls.uuid lspName := by
  unfold ensurePort
  rw [← same]
  cases found : getVtep nb lspName with
  | some lsp =>
      obtain ⟨listed, rfl⟩ := (getVtep_eq_some wellFormed).mp found
      have settled : (joined nb nb.ports switch.uuid lsp.uuid).WellFormed :=
        wellFormed_joined wellFormed switchListed wellFormed.uuids
          wellFormed.names (fun _ old => old) (fun _ old => .inl old) listed
      exact ⟨_, Northbound.transact_eq_some.mpr
        ⟨Northbound.collect_eq_self settled.referred, settled.toConsistent⟩,
        attached_joined switchListed listed⟩
  | none =>
      let new : LogicalSwitchPort := ⟨lspUUID, lspName, [], GoMap.empty⟩
      obtain ⟨_, committed⟩ := @transact_create nb switch new wellFormed
        switchListed fresh (getVtep_eq_none.mp found)
      refine ⟨joined nb (nb.ports ++ [new]) switch.uuid new.uuid, ?_,
        attached_joined switchListed (List.mem_append_right _ (.head _))⟩
      dsimp only
      rw [committed]

theorem ensurePort_sameSwitches {seen next : Northbound}
    {lspName lspUUID : String} (wellFormed : nb.WellFormed)
    (ensured : ensurePort seen nb ls lspName lspUUID = some next) :
    SameSwitches nb next := by
  unfold ensurePort at ensured
  split at ensured
  · exact sameSwitches_of_transact ensured
  · split at ensured
    next created committed =>
      cases ensured
      exact sameSwitches_of_transact committed
    next =>
      obtain ⟨found, _, rfl⟩ := Option.map_eq_some_iff.mp ensured
      cases attached : nb.transact [.attachPort ls.uuid found.uuid] with
      | none => exact .refl wellFormed
      | some after => exact sameSwitches_of_transact attached

/-- The part of the call on the integration bridge does not matter. -/
theorem nb_addVtep {request : VtepRequest} {listing : Listing}
    {fresh : FreshUuids} {seen : Northbound} :
    (addVtep seen databases ls request listing fresh).2.nb =
      (ensurePort seen databases.nb ls request.lspName fresh.lsp).getD
        databases.nb := by
  unfold addVtep
  cases ensurePort seen databases.nb ls request.lspName fresh.lsp with
  | none => rfl
  | some nb =>
      dsimp only
      split
      · rfl
      · split <;> rfl

theorem nb_addVtepCall {request : AddVtepRequest} {listing : Listing} :
    (addVtepCall host networks listing request databases).2.nb =
      match host.connected, host.resolveSwitch networks databases.nb
          request.lsName with
      | .ok _, some ls => (ensurePort databases.nb databases.nb ls
          (truncateName request.lspName) host.fresh.lsp).getD databases.nb
      | _, _ => databases.nb := by
  unfold addVtepCall
  cases host.connected with
  | error reason => rfl
  | ok value =>
      cases host.resolveSwitch networks databases.nb request.lsName with
      | none => rfl
      | some ls =>
          dsimp only
          rw [← @nb_addVtep ls databases
            { request.toVtepRequest with
              lspName := truncateName request.lspName
              vxlanName := truncateName request.vxlanName }
            listing host.fresh databases.nb]
          split
          next failed => rw [failed]
          next added => rw [added]

theorem addVtepCall_sameSwitches {request : AddVtepRequest}
    {listing : Listing} (wellFormed : databases.nb.WellFormed) :
    SameSwitches databases.nb
      (addVtepCall host networks listing request databases).2.nb := by
  rw [nb_addVtepCall]
  split
  next ls _ _ =>
    cases ensured : ensurePort databases.nb databases.nb ls
        (truncateName request.lspName) host.fresh.lsp with
    | none => exact .refl wellFormed
    | some nb => exact ensurePort_sameSwitches wellFormed ensured
  next => exact .refl wellFormed

/-- The call for a port that exists adds addresses to it and changes nothing
else. -/
theorem mergeAddresses_served {lspName : String} {row : LogicalSwitchPort}
    {addresses : List String} (wellFormed : nb.WellFormed)
    (found : getVtep nb lspName = some row) :
    ∃ merged, row.addresses ⊆ merged ∧
      Served row merged nb (mergeAddresses nb lspName addresses).2 := by
  induction addresses generalizing nb row with
  | nil =>
      have listed := ((getVtep_eq_some wellFormed).mp found).1
      exact ⟨row.addresses, List.Subset.refl _, .refl wellFormed listed⟩
  | cons address rest induction =>
      unfold mergeAddresses
      split
      · exact induction wellFormed found
      next mac ip _ =>
        have served := (serve_found wellFormed found (.addClient mac ip)).1
        have kept : row.addresses ⊆
            (ClientCall.addClient mac ip).perform row.addresses :=
          fun _ member => mem_perform_addClient.mpr (.inl member)
        split
        next failed =>
          rw [failed] at served
          exact ⟨_, kept, served⟩
        next after answered =>
          rw [answered] at served
          have named := ((getVtep_eq_some wellFormed).mp found).2
          obtain ⟨merged, more, later⟩ := induction served.wellFormed
            (named ▸ served.getVtep)
          exact ⟨merged, List.Subset.trans kept more, served.trans later⟩

theorem Served.sameSwitches {row : LogicalSwitchPort}
    {addresses : List String} {next : Northbound}
    (served : Served row addresses nb next) : SameSwitches nb next where
  wellFormed := served.wellFormed
  same := by
    unfold identities
    rw [served.switches]

theorem createPort_sameSwitches {request : PortRequest} {lspUUID : String}
    (wellFormed : nb.WellFormed) :
    SameSwitches nb (createPort nb ls request lspUUID).2 := by
  unfold createPort
  split
  · split <;> exact .refl wellFormed
  next committed =>
    have same := sameSwitches_of_transact committed
    split <;> exact same

/-- A port of a new name is created on its switch. -/
theorem createPort_attached {switch : LogicalSwitch} {request : PortRequest}
    {lspUUID : String} (wellFormed : nb.WellFormed)
    (switchListed : switch ∈ nb.switches) (same : switch.uuid = ls.uuid)
    (fresh : ∀ row ∈ nb.ports, row.uuid ≠ lspUUID)
    (unused : ∀ row ∈ nb.ports, row.name ≠ request.name) :
    Attached (createPort nb ls request lspUUID).2 ls.uuid request.name := by
  let new : LogicalSwitchPort :=
    ⟨lspUUID, request.name, request.addresses, GoMap.empty⟩
  obtain ⟨_, committed⟩ := @transact_create nb switch new wellFormed
    switchListed fresh unused
  have attached : Attached (joined nb (nb.ports ++ [new]) switch.uuid
      new.uuid) switch.uuid request.name :=
    attached_joined switchListed (List.mem_append_right _ (.head _))
  unfold createPort
  rw [← same, committed]
  dsimp only
  split <;> exact attached

theorem ensureLogicalPort_sameSwitches {request : PortRequest}
    {lspUUID : String} (wellFormed : nb.WellFormed) :
    SameSwitches nb (ensureLogicalPort nb ls request lspUUID).2 := by
  unfold ensureLogicalPort
  split
  next found =>
    obtain ⟨merged, _, served⟩ := mergeAddresses_served wellFormed found
    exact served.sameSwitches
  · exact createPort_sameSwitches wellFormed

/-- The part of the call on the integration bridge does not matter. -/
theorem nb_addPortOn {sha1 : String → String} {request : PortRequest} :
    (addPortOn sha1 host request databases ls).2.nb =
      (ensureLogicalPort databases.nb ls request host.fresh.lsp).2 := by
  unfold addPortOn
  cases ensureLogicalPort databases.nb ls request host.fresh.lsp with
  | mk outcome nb =>
      cases outcome with
      | error reason => rfl
      | ok value =>
          dsimp only
          split <;> rfl

theorem addLogicalSwitchPort_sameSwitches {sha1 : String → String}
    {request : PortRequest} (wellFormed : databases.nb.WellFormed) :
    SameSwitches databases.nb
      (addLogicalSwitchPort sha1 host networks request databases).2.nb := by
  unfold addLogicalSwitchPort
  split
  · exact .refl wellFormed
  · split
    · exact .refl wellFormed
    · split
      · exact .refl wellFormed
      · rw [nb_addPortOn]
        exact ensureLogicalPort_sameSwitches wellFormed

/-- A port that is there stays where it is. -/
theorem addLogicalSwitchPort_served {sha1 : String → String}
    {request : PortRequest} {row : LogicalSwitchPort}
    (wellFormed : databases.nb.WellFormed)
    (found : getVtep databases.nb request.name = some row) :
    ∃ merged, row.addresses ⊆ merged ∧ Served row merged databases.nb
      (addLogicalSwitchPort sha1 host networks request databases).2.nb := by
  have listed := ((getVtep_eq_some wellFormed).mp found).1
  have unchanged : ∃ merged, row.addresses ⊆ merged ∧
      Served row merged databases.nb databases.nb :=
    ⟨row.addresses, List.Subset.refl _, .refl wellFormed listed⟩
  unfold addLogicalSwitchPort
  split
  · exact unchanged
  · split
    · exact unchanged
    · split
      · exact unchanged
      · rw [nb_addPortOn]
        unfold ensureLogicalPort
        rw [found]
        exact mergeAddresses_served wellFormed found

end Ports

end EvpnForOvn.OvsdbMgmt

import EvpnForOvn.Ovsdb.Networks

/-!
# Concurrent changes to a network

`AddNetwork` writes back the whole row that it has read.  What other clients
have written to the row in the meantime survives exactly when there is nothing
to write: the switch already has the required configuration.
-/

namespace EvpnForOvn.OvsdbMgmt

open Go Endpoint Interactive

namespace NetworkTable

/-- Listings are accurate, in any order, and a transaction is committed unless
it breaks a constraint. -/
def Reliable : Answering networkSignature NetworkTable
  | before, .listSwitches, reply, after => after = before ∧
      ∃ rows, reply = .ok rows ∧ rows.Perm before.rows
  | before, .newUUID, _, after => after = before
  | before, .transact operation, reply, after =>
      (before.transact operation = some after ∧ reply = .ok ()) ∨
        (before.transact operation = none ∧ after = before ∧
          ∃ error details, reply = .error (.rejected error details))

theorem transact_eq_some {table next : NetworkTable}
    {operation : NetworkOperation} :
    table.transact operation = some next ↔
      next = { table.apply operation with
        nb := (table.apply operation).nb.collect } ∧
      next.nb.Consistent := by
  unfold transact
  constructor
  · intro committed
    simp only [Option.ite_none_right_eq_some, Option.some.injEq] at committed
    obtain ⟨consistent, rfl⟩ := committed
    exact ⟨rfl, consistent⟩
  · intro committed
    obtain ⟨rfl, consistent⟩ := committed
    exact if_pos consistent

theorem mem_rows {table : NetworkTable} {row : NetworkRow} :
    row ∈ table.rows ↔ row.switch ∈ table.nb.switches ∧
      row.otherConfig = table.config row.switch.uuid := by
  constructor
  · intro listed
    obtain ⟨switch, switchListed, rfl⟩ := List.mem_map.mp listed
    exact ⟨switchListed, rfl⟩
  · intro listed
    obtain ⟨switch, config⟩ := row
    obtain ⟨switchListed, same⟩ := listed
    refine List.mem_map.mpr ⟨switch, switchListed, ?_⟩
    unfold NetworkTable.row
    rw [← same]

def reconfigured (table : NetworkTable) (uuid : String)
    (new : GoMap String) : NetworkTable :=
  { table with otherConfig := table.otherConfig.set uuid new }

theorem config_reconfigured {table : NetworkTable} {uuid other : String}
    {new : GoMap String} :
    (table.reconfigured uuid new).config other =
      if other = uuid then new else table.config other := by
  unfold NetworkTable.config reconfigured
  rw [GoMap.get_set]
  split <;> rfl

end NetworkTable

theorem network_eq_of_uuid {table : NetworkTable}
    (wellFormed : table.nb.WellFormed)
    {first second : NetworkRow} (firstListed : first ∈ table.rows)
    (secondListed : second ∈ table.rows)
    (same : first.switch.uuid = second.switch.uuid) : first = second := by
  obtain ⟨switch, switchListed, rfl⟩ := List.mem_map.mp firstListed
  obtain ⟨other, otherListed, rfl⟩ := List.mem_map.mp secondListed
  rw [List.inj_on_of_nodup_map wellFormed.switchUuids switchListed
    otherListed same]

section Config

variable {vni key : String} {config : GoMap String}

def requiredKeys : List String :=
  (requiredConfig "").map Prod.fst

theorem requiredConfig_keys : (requiredConfig vni).map Prod.fst =
    requiredKeys := rfl

theorem get_completed_of_not_mem (other : key ∉ requiredKeys) :
    (completed vni config).get key = config.get key := by
  unfold completed
  rw [← @requiredConfig_keys vni] at other
  generalize requiredConfig vni = required at other
  induction required generalizing config with
  | nil => rfl
  | cons first rest induction =>
      rw [List.map_cons, List.mem_cons, not_or] at other
      rw [List.foldl_cons, induction other.2]
      unfold ensureEntry
      split
      · exact GoMap.get_set_of_ne other.1
      · rfl

theorem entry_ensureEntry {required : String × String} :
    entry (ensureEntry config required) required.1 = required.2 := by
  unfold ensureEntry
  split
  · unfold entry
    rw [GoMap.get_set_self]
    rfl
  · rename_i same
    simpa using same

/-- The last entry is there in any case. -/
theorem size_completed : (completed vni config).size ≠ 0 := by
  intro empty
  have last : entry (completed vni config) "dynamic-routing-redistribute" =
      "fdb,ip" := by
    unfold completed requiredConfig
    rw [List.foldl_cons, List.foldl_cons, List.foldl_cons, List.foldl_cons,
      List.foldl_cons, List.foldl_nil]
    exact @entry_ensureEntry _ ("dynamic-routing-redistribute", "fdb,ip")
  unfold entry at last
  rw [GoMap.get_eq_none_of_size_eq_zero empty] at last
  revert last
  decide

theorem needsUpdate_eq_false : needsUpdate vni config = false ↔
    ∀ required ∈ requiredConfig vni,
      entry config required.1 = required.2 := by
  unfold needsUpdate
  rw [List.any_eq_false]
  simp

theorem needsUpdate_congr {other : GoMap String}
    (same : ∀ key ∈ requiredKeys, other.get key = config.get key) :
    needsUpdate vni other = needsUpdate vni config := by
  have read : ∀ required ∈ requiredConfig vni,
      entry other required.1 = entry config required.1 := by
    intro required listed
    unfold entry
    have key : required.1 ∈ (requiredConfig vni).map Prod.fst :=
      List.mem_map_of_mem listed
    rw [same required.1 key]
  rw [Bool.eq_iff_iff]
  unfold needsUpdate
  rw [List.any_eq_true, List.any_eq_true]
  apply exists_congr
  intro required
  apply and_congr_right
  intro listed
  rw [read required listed]

end Config

/-- The same network, with the same required configuration. -/
structure SameNetwork (before after : NetworkRow) : Prop where
  uuid : after.switch.uuid = before.switch.uuid
  name : after.switch.name = before.switch.name
  config : ∀ key ∈ requiredKeys,
    after.otherConfig.get key = before.otherConfig.get key

/-- What other clients may have committed.  They neither create nor delete a
network of the name, nor write its required configuration. -/
structure Foreign (name : String) (before after : NetworkTable) :
    Prop where
  wellFormed : after.nb.WellFormed
  kept : ∀ row ∈ before.rows, row.switch.name = name →
    ∃ next ∈ after.rows, SameNetwork row next
  only : ∀ next ∈ after.rows, next.switch.name = name →
    ∃ row ∈ before.rows, SameNetwork row next

/-- The ports and the other configuration that other clients have written to a
network of the name are still there. -/
def Preserved (name : String) (after : Shared NetworkTable) : Prop :=
  ∀ row ∈ after.theirs.rows, row.switch.name = name →
    ∃ next ∈ after.current.rows, next.switch.uuid = row.switch.uuid ∧
      (∀ port ∈ row.switch.ports, port ∈ next.switch.ports ∧
        ∀ lsp ∈ after.theirs.nb.ports, lsp.uuid = port →
          lsp ∈ after.current.nb.ports) ∧
      ∀ key, key ∉ requiredKeys →
        next.otherConfig.get key = row.otherConfig.get key

/-- The networks of the name have the required configuration. -/
def Configured (vni name : String) (table : NetworkTable) : Prop :=
  ∀ row ∈ table.rows, row.switch.name = name →
    ∀ required ∈ requiredConfig vni,
      entry row.otherConfig required.1 = required.2

/-- Requests with the commits of other clients before each of them. -/
def interleaved (name : String) :
    Answering networkSignature (Shared NetworkTable) :=
  NetworkTable.Reliable.beside (Foreign name)

section Updates

variable {getenv : String → String} {name : String}
  {networks after : GoMap NetworkRow} {table theirs : NetworkTable}
  {world : Shared NetworkTable}

theorem SameNetwork.refl (row : NetworkRow) : SameNetwork row row :=
  { uuid := rfl
    name := rfl
    config := fun _ _ => rfl }

theorem Foreign.refl (wellFormed : table.nb.WellFormed) :
    Foreign name table table :=
  { wellFormed := wellFormed
    kept := fun row listed _ => ⟨row, listed, .refl row⟩
    only := fun row listed _ => ⟨row, listed, .refl row⟩ }

theorem Foreign.configured {vni : String} (foreign : Foreign name table theirs)
    (configured : Configured vni name table) :
    Configured vni name theirs := by
  intro next listed named
  obtain ⟨row, rowListed, same⟩ := foreign.only next listed named
  have current := needsUpdate_eq_false.mpr
    (configured row rowListed (same.name.symm.trans named))
  rw [← needsUpdate_congr same.config] at current
  exact needsUpdate_eq_false.mp current

theorem preserved_of_same (same : world.current = world.theirs) :
    Preserved name world := by
  intro row listed _
  rw [same]
  exact ⟨row, listed, rfl, fun port member => ⟨member, fun _ listed _ =>
    listed⟩, fun _ _ => rfl⟩

theorem returns_listSwitches {World : Type} {before reached : World}
    {answers : Answering networkSignature World}
    {report : GoError → GoError} {rows : List NetworkRow} :
    (listSwitches report).Returns answers before rows reached ↔
      answers before .listSwitches (.ok rows) reached :=
  Method.returns_ask_mapError.trans exists_eq_right

theorem returns_transactNetwork {World : Type} {before reached : World}
    {answers : Answering networkSignature World}
    {report : NetworkFailure → GoError} {operation : NetworkOperation}
    {value : Unit} :
    (transactNetwork report operation).Returns answers before value
        reached ↔
      answers before (.transact operation) (.ok ()) reached :=
  Method.returns_ask_mapError.trans exists_eq_right

theorem reliable_list {before reached : NetworkTable}
    {rows : List NetworkRow} :
    NetworkTable.Reliable before .listSwitches (.ok rows) reached ↔
      reached = before ∧ rows.Perm before.rows := by
  constructor
  · intro answered
    obtain ⟨same, listed, replied, permuted⟩ := answered
    cases replied
    exact ⟨same, permuted⟩
  · intro answered
    exact ⟨answered.1, rows, rfl, answered.2⟩

theorem reliable_transact {before reached : NetworkTable}
    {operation : NetworkOperation} :
    NetworkTable.Reliable before (.transact operation) (.ok ()) reached ↔
      before.transact operation = some reached := by
  constructor
  · intro answered
    rcases answered with ⟨committed, _⟩ | ⟨_, _, _, _, replied⟩
    · exact committed
    · cases replied
  · intro committed
    exact .inl ⟨committed, rfl⟩

/-- What a listing between the commits of other clients has seen. -/
theorem listed_interleaved {before reached : Shared NetworkTable}
    {report : GoError → GoError} {rows : List NetworkRow}
    (returns : (listSwitches report).Returns (interleaved name) before rows
      reached) :
    Foreign name before.current reached.theirs ∧
      reached.current = reached.theirs ∧
      rows.Perm reached.theirs.rows := by
  obtain ⟨foreign, answered⟩ := returns_listSwitches.mp returns
  exact ⟨foreign, reliable_list.mp answered⟩

/-- A switch with the required configuration is not written. -/
theorem returns_configureNetwork {World : Type} {before reached : World}
    {answers : Answering networkSignature World} {ls configured : NetworkRow}
    (current : needsUpdate (logicalSwitchVni getenv) ls.otherConfig = false)
    (returns : (configureNetwork getenv ls).Returns answers before configured
      reached) : reached = before := by
  unfold configureNetwork at returns
  rw [current] at returns
  exact (Method.returns_pure.mp returns).2

theorem needsUpdate_newConfig (vni : String) :
    needsUpdate vni (newConfig vni) = false := by
  simp [needsUpdate, newConfig, requiredConfig, entry, GoMap.get_set]

/-- A new network has been read back with the required configuration. -/
theorem created_interleaved {before reached : Shared NetworkTable}
    {ls : NetworkRow}
    (returns : (createNetwork getenv name).Returns (interleaved name) before
      ls reached) :
    reached.current = reached.theirs ∧
      needsUpdate (logicalSwitchVni getenv) ls.otherConfig = false := by
  unfold createNetwork at returns
  obtain ⟨uuid, started, _, second⟩ := Method.returns_bind.mp returns
  obtain ⟨_, created, committed, third⟩ := Method.returns_bind.mp second
  obtain ⟨rows, listed, listing, required⟩ := Method.returns_bind.mp third
  obtain ⟨found, rfl⟩ := Method.returns_require.mp required
  obtain ⟨foreign, same, permuted⟩ := listed_interleaved listing
  refine ⟨same, ?_⟩
  have inserted := reliable_transact.mp
    (returns_transactNetwork.mp committed).2
  obtain ⟨next, _⟩ := NetworkTable.transact_eq_some.mp inserted
  let row : NetworkRow :=
    ⟨⟨uuid, name, []⟩, newConfig (logicalSwitchVni getenv)⟩
  have rowListed : row ∈ created.current.rows := by
    rw [next]
    apply NetworkTable.mem_rows.mpr
    refine ⟨List.mem_append_right _ (.head _), ?_⟩
    unfold NetworkTable.config NetworkTable.apply
    rw [GoMap.get_set_self]
    rfl
  obtain ⟨moved, movedListed, sameNetwork⟩ :=
    foreign.kept row rowListed rfl
  have lsListed := permuted.mem_iff.mp (List.mem_of_find?_eq_some found)
  have lsUuid : ls.switch.uuid = uuid := by
    simpa using List.find?_some found
  have unique := network_eq_of_uuid foreign.wellFormed lsListed movedListed
    (lsUuid.trans sameNetwork.uuid.symm)
  rw [unique, needsUpdate_congr sameNetwork.config]
  exact needsUpdate_newConfig _

theorem preserved_of_configured
    (configured : Configured (logicalSwitchVni getenv) (truncateName name)
      table)
    (returns : (addNetwork getenv networks name).Returns
      (interleaved (truncateName name)) ⟨table, table⟩ after world) :
    Preserved (truncateName name) world := by
  unfold addNetwork at returns
  obtain ⟨rows, listed, listing, second⟩ := Method.returns_bind.mp returns
  obtain ⟨ls, found, located, third⟩ := Method.returns_bind.mp second
  obtain ⟨row, reached, written, last⟩ := Method.returns_bind.mp third
  obtain ⟨_, rfl⟩ := Method.returns_pure.mp last
  obtain ⟨foreign, same, permuted⟩ := listed_interleaved listing
  cases first : rows.find? fun row =>
      row.switch.name == truncateName name with
  | none =>
      rw [first] at located
      obtain ⟨unchanged, current⟩ := created_interleaved located
      rw [returns_configureNetwork current written]
      exact preserved_of_same unchanged
  | some existing =>
      rw [first] at located
      obtain ⟨rfl, rfl⟩ := Method.returns_pure.mp located
      have existingListed := permuted.mem_iff.mp
        (List.mem_of_find?_eq_some first)
      have named : existing.switch.name = truncateName name := by
        simpa using List.find?_some first
      have current := needsUpdate_eq_false.mpr
        (foreign.configured configured existing existingListed named)
      rw [returns_configureNetwork current written]
      exact preserved_of_same same

theorem foreign_reconfigured {uuid key value : String}
    (wellFormed : table.nb.WellFormed) (outside : key ∉ requiredKeys) :
    Foreign name table
      (table.reconfigured uuid ((table.config uuid).set key value)) := by
  have same : ∀ switch, SameNetwork (table.row switch)
      ((table.reconfigured uuid ((table.config uuid).set key value)).row
        switch) := by
    intro switch
    refine
      { uuid := rfl
        name := rfl
        config := ?_ }
    intro other required
    change ((table.reconfigured uuid _).config switch.uuid).get other =
      (table.config switch.uuid).get other
    rw [NetworkTable.config_reconfigured]
    split
    · rename_i selected
      rw [selected]
      apply GoMap.get_set_of_ne
      intro equal
      exact outside (equal ▸ required)
    · rfl
  refine
    { wellFormed := wellFormed
      kept := ?_
      only := ?_ }
  · intro row listed _
    obtain ⟨switch, switchListed, rfl⟩ := List.mem_map.mp listed
    exact ⟨_, List.mem_map_of_mem switchListed, same switch⟩
  · intro row listed _
    obtain ⟨switch, switchListed, rfl⟩ := List.mem_map.mp listed
    exact ⟨_, List.mem_map_of_mem switchListed, same switch⟩

/-- A row that is written back as it was read changes only the
configuration. -/
theorem transact_writeBack {row : NetworkRow} {config : GoMap String}
    (wellFormed : table.nb.WellFormed)
    (listed : row.switch ∈ table.nb.switches) (given : config.size ≠ 0) :
    table.transact (.update { row with otherConfig := config }) =
      some (table.reconfigured row.switch.uuid config) := by
  have kept : ∀ old ∈ table.nb.switches, (if old.uuid = row.switch.uuid then
      NetworkRow.write { row with otherConfig := config } old
      else old) = old := by
    intro old oldListed
    split
    · rename_i same
      obtain rfl := List.inj_on_of_nodup_map wellFormed.switchUuids
        oldListed listed same
      simp [NetworkRow.write]
    · rfl
  have switches : table.nb.updateSwitch row.switch.uuid
      (NetworkRow.write { row with otherConfig := config }) = table.nb := by
    unfold Northbound.updateSwitch
    rw [List.map_congr_left kept, List.map_id']
  have applied : table.apply (.update { row with otherConfig := config }) =
      table.reconfigured row.switch.uuid config := by
    dsimp only [NetworkTable.apply]
    rw [switches, if_neg given]
    rfl
  have collected : (table.reconfigured row.switch.uuid config).nb.collect =
      table.nb := Northbound.collect_eq_self wellFormed.referred
  apply NetworkTable.transact_eq_some.mpr
  rw [applied, collected]
  exact ⟨rfl, wellFormed.toConsistent⟩

/-- The call can take any network of the name for the existing one, and can
write it back over what another client has written. -/
theorem returns_overwriting {row : NetworkRow} {key value : String}
    (wellFormed : table.nb.WellFormed) (listed : row ∈ table.rows)
    (named : row.switch.name = truncateName name)
    (stale : needsUpdate (logicalSwitchVni getenv) row.otherConfig = true)
    (outside : key ∉ requiredKeys) :
    let theirs := table.reconfigured row.switch.uuid
      (row.otherConfig.set key value)
    ∃ after, (addNetwork getenv networks name).Returns
      (interleaved (truncateName name)) ⟨table, table⟩ after
        ⟨theirs.reconfigured row.switch.uuid
          (completed (logicalSwitchVni getenv) row.otherConfig),
        theirs⟩ := by
  intro theirs
  obtain ⟨switchListed, config⟩ := NetworkTable.mem_rows.mp listed
  obtain ⟨order, permuted, found⟩ := @exists_perm_find_eq_some _ table.rows
    (fun row => row.switch.name == truncateName name) row listed
    (by simpa using named)
  have foreign : Foreign (truncateName name) table theirs := by
    have changed := @foreign_reconfigured (truncateName name) table
      row.switch.uuid key value wellFormed outside
    rw [← config] at changed
    exact changed
  have committed := @transact_writeBack theirs row
    (completed (logicalSwitchVni getenv) row.otherConfig) wellFormed
    switchListed size_completed
  refine ⟨networks.set (truncateName name) { row with
      otherConfig := completed (logicalSwitchVni getenv) row.otherConfig },
    Method.returns_bind.mpr ⟨order, ⟨table, table⟩, ?_,
    Method.returns_bind.mpr ⟨row, ⟨table, table⟩, ?_,
    Method.returns_bind.mpr ⟨_, _, ?_,
      Method.returns_pure.mpr ⟨rfl, rfl⟩⟩⟩⟩⟩
  · exact returns_listSwitches.mpr ⟨.refl wellFormed,
      reliable_list.mpr ⟨rfl, permuted⟩⟩
  · rw [found]
    exact Method.returns_pure.mpr ⟨rfl, rfl⟩
  · unfold configureNetwork
    rw [stale, if_pos rfl]
    exact Method.returns_bind.mpr ⟨(), _, returns_transactNetwork.mpr
      ⟨foreign, reliable_transact.mpr committed⟩,
      Method.returns_pure.mpr ⟨rfl, rfl⟩⟩

theorem configured_of_preserved (wellFormed : table.nb.WellFormed)
    (preserved : ∀ after world, (addNetwork getenv networks name).Returns
      (interleaved (truncateName name)) ⟨table, table⟩ after world →
        Preserved (truncateName name) world) :
    Configured (logicalSwitchVni getenv) (truncateName name) table := by
  intro row listed named
  apply needsUpdate_eq_false.mp
  by_contra stale
  rw [Bool.not_eq_false] at stale
  -- Another client writes a value that the row did not have when it was read.
  obtain ⟨value, different⟩ : ∃ value, row.otherConfig.get "mcast_snoop" ≠
      some value := by
    by_cases on : row.otherConfig.get "mcast_snoop" = some "true"
    · exact ⟨"false", by rw [on]; decide⟩
    · exact ⟨"true", on⟩
  have outside : "mcast_snoop" ∉ requiredKeys := by decide
  obtain ⟨after, returns⟩ := @returns_overwriting getenv name networks table
    row _ value wellFormed listed named stale outside
  obtain ⟨next, nextListed, uuid, _, kept⟩ := preserved after _ returns
    (NetworkTable.row _ row.switch)
    (List.mem_map_of_mem (NetworkTable.mem_rows.mp listed).1) named
  have written := kept _ outside
  have selected : next.switch.uuid = row.switch.uuid := uuid
  rw [(NetworkTable.mem_rows.mp nextListed).2,
    NetworkTable.config_reconfigured, if_pos selected,
    get_completed_of_not_mem outside] at written
  apply different
  rw [written]
  change (NetworkTable.config _ row.switch.uuid).get _ = _
  rw [NetworkTable.config_reconfigured, if_pos rfl, GoMap.get_set_self]

/-- Every interleaved call keeps what other clients have written to the
network exactly when the network has the required configuration before. -/
theorem addNetwork_preserves_iff (wellFormed : table.nb.WellFormed) :
    (∀ after world, (addNetwork getenv networks name).Returns
      (interleaved (truncateName name)) ⟨table, table⟩ after world →
        Preserved (truncateName name) world) ↔
      Configured (logicalSwitchVni getenv) (truncateName name) table := by
  constructor
  · exact configured_of_preserved wellFormed
  · intro configured after world returns
    exact preserved_of_configured configured returns

end Updates

/-- One network with the ports. -/
def samplePorts (names : List String) : Northbound :=
  { switches := [⟨"switch-1", "net", names⟩]
    ports := names.map fun name => ⟨name, name, [], GoMap.empty⟩ }

theorem addNetwork_preserves_iff_sample :
    (samplePorts ["vm-1"]).WellFormed ∧
    ∀ after world, (addNetwork (fun _ => "") GoMap.empty "net").Returns
      (interleaved (truncateName "net"))
      ⟨⟨samplePorts ["vm-1"], GoMap.empty.set "switch-1" (newConfig "1000")⟩,
        ⟨samplePorts ["vm-1"],
          GoMap.empty.set "switch-1" (newConfig "1000")⟩⟩ after world →
        Preserved (truncateName "net") world := by
  have wellFormed : (samplePorts ["vm-1"]).WellFormed :=
    { toConsistent := by decide
      referred := by decide }
  refine ⟨wellFormed, (addNetwork_preserves_iff wellFormed).mpr ?_⟩
  · intro row listed _
    obtain rfl := List.mem_singleton.mp listed
    exact needsUpdate_eq_false.mp (needsUpdate_newConfig "1000")

/-- Another client attaches a port between the listing and the update; the
port is gone when the call returns. -/
theorem attached_port_lost : ∃ after world,
    (samplePorts ["vm-1"]).WellFormed ∧
      (addNetwork (fun _ => "") GoMap.empty "net").Returns
        (interleaved (truncateName "net"))
        ⟨⟨samplePorts ["vm-1"], GoMap.empty⟩,
          ⟨samplePorts ["vm-1"], GoMap.empty⟩⟩ after world ∧
      (∃ port ∈ world.theirs.nb.ports, port.name = "vm-2") ∧
      (∀ port ∈ world.current.nb.ports, port.name ≠ "vm-2") ∧
      ¬ Preserved (truncateName "net") world := by
  have name : truncateName "net" = "net" := by decide +kernel
  have wellFormed : (samplePorts ["vm-1"]).WellFormed :=
    { toConsistent := by decide
      referred := by decide }
  let theirs : NetworkTable := ⟨samplePorts ["vm-1", "vm-2"], GoMap.empty⟩
  let config := completed "1000" GoMap.empty
  have foreign : Foreign "net" ⟨samplePorts ["vm-1"], GoMap.empty⟩
      theirs := by
    refine
      { wellFormed :=
          { toConsistent := by decide
            referred := by decide }
        kept := ?_
        only := ?_ }
    · intro row listed _
      obtain rfl := List.mem_singleton.mp listed
      exact ⟨_, .head _, rfl, rfl, fun _ _ => rfl⟩
    · intro row listed _
      obtain rfl := List.mem_singleton.mp listed
      exact ⟨_, .head _, rfl, rfl, fun _ _ => rfl⟩
  have committed : theirs.transact
      (.update ⟨⟨"switch-1", "net", ["vm-1"]⟩, config⟩) =
        some ⟨samplePorts ["vm-1"], GoMap.empty.set "switch-1" config⟩ :=
    NetworkTable.transact_eq_some.mpr ⟨rfl, wellFormed.toConsistent⟩
  refine ⟨GoMap.empty.set "net" ⟨⟨"switch-1", "net", ["vm-1"]⟩, config⟩,
    ⟨⟨samplePorts ["vm-1"], GoMap.empty.set "switch-1" config⟩, theirs⟩,
    wellFormed, ?_, ?_, ?_, ?_⟩
  · unfold addNetwork
    rw [name]
    refine Method.returns_bind.mpr
      ⟨[⟨⟨"switch-1", "net", ["vm-1"]⟩, GoMap.empty⟩], ⟨_, _⟩,
        returns_listSwitches.mpr ⟨.refl wellFormed,
          reliable_list.mpr ⟨rfl, .refl _⟩⟩, ?_⟩
    refine Method.returns_bind.mpr ⟨_, _,
      Method.returns_pure.mpr ⟨rfl, rfl⟩, ?_⟩
    refine Method.returns_bind.mpr ⟨_, _,
      Method.returns_bind.mpr ⟨(), _, returns_transactNetwork.mpr
        ⟨foreign, reliable_transact.mpr committed⟩,
        Method.returns_pure.mpr ⟨rfl, rfl⟩⟩,
      Method.returns_pure.mpr ⟨rfl, rfl⟩⟩
  · decide
  · decide
  · intro preserved
    obtain ⟨next, listed, _, ports, _⟩ := preserved _ (.head _) name.symm
    obtain rfl := List.mem_singleton.mp listed
    have lost := (ports "vm-2" (by decide)).1
    revert lost
    decide

end EvpnForOvn.OvsdbMgmt

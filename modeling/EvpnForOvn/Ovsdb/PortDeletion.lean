import EvpnForOvn.Ovsdb.PortCalls
import EvpnForOvn.Ovsdb.TransitPort
import EvpnForOvn.Ovsdb.VtepSpec

/-!
# Deleting the port of a local client

A row that another row refers to cannot be deleted.  The port that a call has
created is in its switch, so its deletion is refused, and nothing is undone.
-/

namespace EvpnForOvn.OvsdbMgmt

open Go Endpoint Evpn

section Referred

variable {nb : Northbound} {database : Vswitch}

/-- A port that is in a switch cannot be deleted. -/
theorem transact_deletePort (wellFormed : nb.WellFormed)
    {lsp : LogicalSwitchPort} (listed : lsp ∈ nb.ports) :
    nb.transact [.deletePort lsp.uuid] = none := by
  by_contra committed
  obtain ⟨next, committed⟩ := Option.ne_none_iff_exists'.mp committed
  obtain ⟨rfl, consistent⟩ := Northbound.transact_eq_some.mp committed
  obtain ⟨switch, switchListed, member⟩ :=
    Northbound.refers_iff.mp (wellFormed.referred lsp listed)
  obtain ⟨row, rowListed, same⟩ := List.mem_map.mp
    (consistent.leads switch switchListed lsp.uuid member)
  have remains := (List.mem_filter.mp (List.mem_filter.mp rowListed).1).2
  rw [same] at remains
  simp at remains

theorem attemptChange_of_inconsistent {change : Vswitch → Vswitch}
    (refused : (change database).collect.consistent = false) :
    attemptChange database change = database := by
  unfold attemptChange
  rw [refused]
  rfl

theorem attemptChange_of_eq {change : Vswitch → Vswitch}
    (wellFormed : database.WellFormed) (same : change database = database) :
    attemptChange database change = database := by
  unfold attemptChange
  rw [same, wellFormed.collect_eq]
  split <;> rfl

/-- Nothing happens to a port that is in a bridge. -/
theorem attempt_deletePort (wellFormed : database.WellFormed)
    (uuid : String) :
    attemptChange database (·.apply (.deletePort uuid)) = database := by
  by_cases present : ∃ port ∈ database.ports, port.uuid = uuid
  · apply attemptChange_of_inconsistent
    obtain ⟨port, listed, rfl⟩ := present
    obtain ⟨bridge, bridgeListed, member⟩ :=
      wellFormed.portReferred port listed
    rw [Bool.eq_false_iff]
    intro consistent
    obtain ⟨_, _, _, _, leads, _⟩ := Vswitch.consistent_iff.mp consistent
    obtain ⟨row, rowListed, same⟩ := leads bridge
      (Vswitch.mem_bridges_collect.mpr
        ⟨bridgeListed, wellFormed.bridgeReferred bridge bridgeListed⟩)
      port.uuid member
    have remains := (List.mem_filter.mp
      (Vswitch.mem_ports_collect.mp rowListed).1).2
    rw [same] at remains
    simp at remains
  · apply attemptChange_of_eq wellFormed
    have kept : (database.ports.filter fun row => row.uuid != uuid) =
        database.ports := by
      rw [List.filter_eq_self]
      intro row listed
      simpa using fun same => present ⟨row, listed, same⟩
    dsimp only [Vswitch.apply]
    rw [kept]

/-- Nothing happens to an interface that a port refers to. -/
theorem attempt_deleteInterface (wellFormed : database.WellFormed)
    (uuid : String) :
    attemptChange database (·.apply (.deleteInterface uuid)) = database := by
  by_cases present : ∃ row ∈ database.interfaces, row.uuid = uuid
  · apply attemptChange_of_inconsistent
    obtain ⟨interface, listed, rfl⟩ := present
    obtain ⟨port, portListed, member⟩ :=
      wellFormed.interfaceReferred interface listed
    obtain ⟨bridge, bridgeListed, attached⟩ :=
      wellFormed.portReferred port portListed
    have root := wellFormed.bridgeReferred bridge bridgeListed
    rw [Bool.eq_false_iff]
    intro consistent
    obtain ⟨_, _, _, _, _, leads⟩ := Vswitch.consistent_iff.mp consistent
    obtain ⟨row, rowListed, same⟩ := leads port
      (Vswitch.mem_ports_collect.mpr ⟨portListed, bridge,
        Vswitch.mem_bridges_collect.mpr ⟨bridgeListed, root⟩, attached⟩)
      interface.uuid member
    have remains := (List.mem_filter.mp
      (Vswitch.mem_interfaces_collect.mp rowListed).1).2
    rw [same] at remains
    simp at remains
  · apply attemptChange_of_eq wellFormed
    have kept : (database.interfaces.filter fun row => row.uuid != uuid) =
        database.interfaces := by
      rw [List.filter_eq_self]
      intro row listed
      simpa using fun same => present ⟨row, listed, same⟩
    dsimp only [Vswitch.apply]
    rw [kept]

theorem removePort_eq_self (wellFormed : database.WellFormed)
    (name : String) : removePort database name = database := by
  unfold removePort
  split
  · rfl
  · exact attempt_deletePort wellFormed _

/-- No stale interface is ever removed. -/
theorem removeStale_eq_self {host : Host} {lspName hostIfaceName : String}
    (wellFormed : database.WellFormed) (candidates : List Interface) :
    removeStale host lspName hostIfaceName database candidates =
      database := by
  induction candidates with
  | nil => rfl
  | cons candidate rest induction =>
      unfold removeStale
      split
      · rw [removePort_eq_self wellFormed,
          attempt_deleteInterface wellFormed]
        exact induction
      · exact induction

end Referred

/-- Nothing has the name of the port, nor the name of its interface. -/
structure Unused (sha1 : String → String) (name : String)
    (databases : Databases) : Prop where
  lsp : ∀ lsp ∈ databases.nb.ports, lsp.name ≠ name
  interface : ∀ row ∈ databases.ovs.interfaces, row.name ≠ name ∧
    row.name ≠ ovnK8sIfaceName sha1 name ∧
    row.externalIDs.get "iface-id" ≠ some name
  port : ∀ port ∈ databases.ovs.ports, port.name ≠ name ∧
    port.name ≠ ovnK8sIfaceName sha1 name

/-- The service is connected to both databases, and the name of the network
leads to a switch that is there. -/
structure Addable (host : Host) (networks : GoMap NetworkRow)
    (request : PortRequest) (nb : Northbound) : Prop where
  connected : ∃ value, host.connected = .ok value
  given : truncateName request.lsName ≠ ""
  found : ∃ ls, host.resolveSwitch networks nb
    (truncateName request.lsName) = some ls ∧
      ∃ row ∈ nb.switches, row.uuid = ls.uuid
  ovsClient : host.ovsClient = true

section Add

variable {sha1 : String → String} {host : Host}
  {networks : GoMap NetworkRow} {request : PortRequest}
  {databases : Databases} {ls : LogicalSwitch}

/-- A new port without a switch is dropped again. -/
theorem transact_create_unattached {nb : Northbound}
    {new : LogicalSwitchPort} (wellFormed : nb.WellFormed)
    (fresh : ∀ row ∈ nb.ports, row.uuid ≠ new.uuid) {switch : String}
    (missing : ∀ row ∈ nb.switches, row.uuid ≠ switch) :
    nb.transact [.createPort new, .attachPort switch new.uuid] =
      some nb := by
  have switches : (nb.switches.map fun row => if row.uuid = switch then
      { row with ports := Vswitch.insertReference new.uuid row.ports }
      else row) = nb.switches := by
    rw [List.map_congr_left fun row listed => if_neg (missing row listed),
      List.map_id']
  have applied : nb.applyAll [.createPort new,
      .attachPort switch new.uuid] =
        { nb with ports := nb.ports ++ [new] } := by
    change Northbound.mk (nb.switches.map _) (nb.ports ++ [new]) = _
    rw [switches]
  have collected : (Northbound.mk nb.switches
      (nb.ports ++ [new])).collect = nb := by
    unfold Northbound.collect
    have dropped : nb.refers new.uuid = false := by
      rw [Bool.eq_false_iff]
      intro referred
      obtain ⟨row, listed, member⟩ := Northbound.refers_iff.mp referred
      obtain ⟨old, oldListed, same⟩ := List.mem_map.mp
        (wellFormed.leads row listed new.uuid member)
      exact fresh old oldListed same
    have kept : (nb.ports ++ [new]).filter (fun row =>
        nb.refers row.uuid) = nb.ports := by
      rw [List.filter_append, List.filter_eq_self.mpr wellFormed.referred,
        List.filter_cons_of_neg (by simp [dropped]), List.filter_nil,
        List.append_nil]
    change Northbound.mk nb.switches ((nb.ports ++ [new]).filter fun row =>
      nb.refers row.uuid) = nb
    rw [kept]
  apply Northbound.transact_eq_some.mpr
  rw [applied, collected]
  exact ⟨rfl, wellFormed.toConsistent⟩

theorem ensureInterface_ok (wellFormed : databases.ovs.WellFormed)
    (unused : Unused sha1 request.name databases)
    (fresh : host.fresh.New databases) :
    ∃ message after, ensureInterface host request
      (ovnK8sIfaceName sha1 request.name) databases.ovs =
        (.ok message, after) := by
  have unnamed : interfaceNamed databases.ovs
      (ovnK8sIfaceName sha1 request.name) = none := by
    apply List.find?_eq_none.mpr
    intro row listed
    simpa using (unused.interface row listed).2.1
  have committed : ∃ next, transactVtep databases.ovs
      [.createInterface (newClientInterface request host.fresh.iface
          (ovnK8sIfaceName sha1 request.name)),
        .createPort (newClientPort host.fresh.port
          (ovnK8sIfaceName sha1 request.name) host.fresh.iface),
        .insertPort "br-int" host.fresh.port] = .ok next := by
    by_cases integration : ∃ bridge ∈ databases.ovs.bridges,
        bridge.name = "br-int"
    · have settled := @wellFormed_installed databases.ovs
        (newClientInterface request host.fresh.iface
          (ovnK8sIfaceName sha1 request.name))
        (newClientPort host.fresh.port
          (ovnK8sIfaceName sha1 request.name) host.fresh.iface)
        wellFormed rfl
        (fun row listed => ⟨fresh.ovs.iface row listed,
          (unused.interface row listed).2.1⟩)
        (fun row listed => ⟨fresh.ovs.port row listed,
          (unused.port row listed).2⟩) integration
      exact ⟨_, transactVtep_eq_ok settled.collect_eq settled⟩
    · have dropped := @collect_installed databases.ovs
        (newClientInterface request host.fresh.iface
          (ovnK8sIfaceName sha1 request.name))
        (newClientPort host.fresh.port
          (ovnK8sIfaceName sha1 request.name) host.fresh.iface)
        wellFormed fresh.ovs.iface fresh.ovs.port
        (fun bridge listed named => integration ⟨bridge, listed, named⟩)
      exact ⟨_, transactVtep_eq_ok dropped wellFormed⟩
  obtain ⟨next, committed⟩ := committed
  unfold ensureInterface
  rw [removeStale_eq_self wellFormed]
  dsimp only
  rw [unnamed]
  unfold createInterface
  rw [committed]
  exact ⟨_, _, rfl⟩

theorem ensureLogicalPort_ok (wellFormed : databases.nb.WellFormed)
    (unused : Unused sha1 request.name databases)
    (fresh : host.fresh.New databases)
    (listed : ∃ row ∈ databases.nb.switches, row.uuid = ls.uuid) :
    ∃ after, ensureLogicalPort databases.nb ls request host.fresh.lsp =
        (.ok (), after) ∧ after.WellFormed ∧
      ∃ lsp, getVtep after request.name = some lsp := by
  let new : LogicalSwitchPort :=
    ⟨host.fresh.lsp, request.name, request.addresses, GoMap.empty⟩
  obtain ⟨row, rowListed, same⟩ := listed
  obtain ⟨settled, committed⟩ := @transact_create databases.nb row new
    wellFormed rowListed fresh.lsp unused.lsp
  rw [same] at settled committed
  have found : getVtep (joined databases.nb (databases.nb.ports ++ [new])
      ls.uuid new.uuid) request.name = some new :=
    (getVtep_eq_some settled).mpr
      ⟨List.mem_append_right _ (.head _), rfl⟩
  refine ⟨_, ?_, settled, new, found⟩
  unfold ensureLogicalPort createPort
  rw [getVtep_eq_none.mpr unused.lsp]
  dsimp only
  rw [committed]
  dsimp only
  rw [found]

theorem ensureLogicalPort_missing (wellFormed : databases.nb.WellFormed)
    (unused : Unused sha1 request.name databases)
    (fresh : host.fresh.New databases)
    (missing : ¬ ∃ row ∈ databases.nb.switches, row.uuid = ls.uuid) :
    ∃ reason, ensureLogicalPort databases.nb ls request host.fresh.lsp =
      (.error reason, databases.nb) := by
  let new : LogicalSwitchPort :=
    ⟨host.fresh.lsp, request.name, request.addresses, GoMap.empty⟩
  have committed := @transact_create_unattached databases.nb new wellFormed
    fresh.lsp ls.uuid fun row listed same => missing ⟨row, listed, same⟩
  have absent := getVtep_eq_none.mpr unused.lsp
  refine ⟨.new "created LSP " (request.name ++
    " but not found in NB after transact"), ?_⟩
  unfold ensureLogicalPort createPort
  rw [absent]
  dsimp only
  rw [committed]
  dsimp only
  rw [absent]

/-- A call that has not been refused had everything it needs. -/
theorem addable_of_ok {message : String} {after : Databases}
    (wellFormed : databases.nb.WellFormed)
    (unused : Unused sha1 request.name databases)
    (fresh : host.fresh.New databases)
    (added : addLogicalSwitchPort sha1 host networks request databases =
      (.ok message, after)) : Addable host networks request databases.nb := by
  unfold addLogicalSwitchPort at added
  cases connected : host.connected with
  | error reason =>
      rw [connected] at added
      cases added
  | ok value =>
      rw [connected] at added
      dsimp only at added
      by_cases given : truncateName request.lsName = ""
      · rw [if_pos given] at added
        cases added
      · rw [if_neg given] at added
        cases found : host.resolveSwitch networks databases.nb
            (truncateName request.lsName) with
        | none =>
            rw [found] at added
            cases added
        | some ls =>
            rw [found] at added
            dsimp only at added
            unfold addPortOn at added
            by_cases listed : ∃ row ∈ databases.nb.switches,
                row.uuid = ls.uuid
            · obtain ⟨nb, ensured, _⟩ := ensureLogicalPort_ok wellFormed
                unused fresh listed
              rw [ensured] at added
              dsimp only at added
              refine ⟨⟨value, connected⟩, given, ⟨ls, found, listed⟩, ?_⟩
              by_contra missing
              rw [if_neg missing] at added
              cases added
            · obtain ⟨reason, refused⟩ := ensureLogicalPort_missing
                wellFormed unused fresh listed
              rw [refused] at added
              cases added

/-- The port of a call that had everything it needs is there. -/
theorem added_of_addable (wellFormed : databases.nb.WellFormed)
    (ovsdb : databases.ovs.WellFormed)
    (unused : Unused sha1 request.name databases)
    (fresh : host.fresh.New databases)
    (addable : Addable host networks request databases.nb) :
    ∃ message after,
      addLogicalSwitchPort sha1 host networks request databases =
        (.ok message, after) ∧ after.nb.WellFormed ∧
      ∃ lsp, getVtep after.nb request.name = some lsp := by
  obtain ⟨value, connected⟩ := addable.connected
  obtain ⟨ls, found, listed⟩ := addable.found
  obtain ⟨nb, ensured, settled, created⟩ :=
    ensureLogicalPort_ok wellFormed unused fresh listed
  obtain ⟨message, ovs, installed⟩ :=
    ensureInterface_ok ovsdb unused fresh
  refine ⟨message, ⟨nb, ovs⟩, ?_, settled, created⟩
  unfold addLogicalSwitchPort
  rw [connected]
  dsimp only
  rw [if_neg addable.given, found]
  dsimp only
  unfold addPortOn
  rw [ensured]
  dsimp only
  rw [if_pos addable.ovsClient, installed]

end Add

section Delete

variable {sha1 : String → String} {databases : Databases}

/-- A port that is there is not deleted. -/
theorem delLogicalSwitchPort_refused (later : Host) {name : String}
    {lsp : LogicalSwitchPort} (wellFormed : databases.nb.WellFormed)
    (found : getVtep databases.nb name = some lsp) :
    delLogicalSwitchPort sha1 later name databases =
      (.error (.new "OVSDB error" ": referential integrity violation"),
        databases) := by
  have listed := ((getVtep_eq_some wellFormed).mp found).1
  unfold delLogicalSwitchPort
  rw [found]
  dsimp only
  rw [transact_deletePort wellFormed listed]

variable {host : Host} {networks : GoMap NetworkRow} {request : PortRequest}

/-- A deletion undoes a successful call exactly when there is no successful
call to undo; the deletion of a new port is always refused. -/
theorem del_undoes_add_iff (wellFormed : databases.nb.WellFormed)
    (ovsdb : databases.ovs.WellFormed)
    (unused : Unused sha1 request.name databases)
    (fresh : host.fresh.New databases) (later : Host) :
    ((∀ message after,
        addLogicalSwitchPort sha1 host networks request databases =
          (.ok message, after) →
        ∃ deleted, delLogicalSwitchPort sha1 later request.name after =
          (.ok deleted, databases)) ↔
      ¬ Addable host networks request databases.nb) ∧
    (Addable host networks request databases.nb → ∃ message after,
      addLogicalSwitchPort sha1 host networks request databases =
        (.ok message, after) ∧
      delLogicalSwitchPort sha1 later request.name after =
        (.error (.new "OVSDB error" ": referential integrity violation"),
          after)) := by
  have refused : Addable host networks request databases.nb →
      ∃ message after,
        addLogicalSwitchPort sha1 host networks request databases =
          (.ok message, after) ∧
        delLogicalSwitchPort sha1 later request.name after =
          (.error (.new "OVSDB error" ": referential integrity violation"),
            after) := by
    intro addable
    obtain ⟨message, after, added, settled, lsp, found⟩ :=
      added_of_addable wellFormed ovsdb unused fresh addable
    exact ⟨message, after, added,
      delLogicalSwitchPort_refused later settled found⟩
  refine ⟨⟨?_, ?_⟩, refused⟩
  · intro undone addable
    obtain ⟨message, after, added, error⟩ := refused addable
    obtain ⟨deleted, ok⟩ := undone message after added
    rw [error] at ok
    cases ok
  · intro missing message after added
    exact absurd (addable_of_ok wellFormed unused fresh added) missing

end Delete

def emptyNetwork : Databases :=
  { nb := { switches := [⟨"switch-1", "net", []⟩], ports := [] }
    ovs :=
      { roots := [⟨"root", ["bridge-1"], GoMap.empty⟩]
        bridges := [⟨"bridge-1", "br-int", [], none, [], GoMap.empty⟩]
        ports := []
        interfaces := [] } }

def sampleHost : Host :=
  { connected := .ok ()
    ovsClient := true
    interfaceByName := fun _ => true
    fresh := ⟨"lsp-1", "iface-1", "port-1"⟩
    switches := id
    interfaces := id
    switches_perm := perm_id
    interfaces_perm := perm_id }

def sampleClient : PortRequest :=
  ⟨"k8s-10-0-0-1", "net", ["00:00:00:00:00:01 10.0.0.1"]⟩

/-- The SHA-1 digest of the name of the port. -/
def sampleSha1 (text : String) : String :=
  if text = sampleClient.name then "d21e270b9c38bcd68626272b9f2328d6628bb41f"
  else ""

theorem northbound_emptyNetwork : emptyNetwork.nb.WellFormed :=
  { toConsistent := by decide
    referred := nofun }

theorem ovsdb_emptyNetwork : emptyNetwork.ovs.WellFormed := by
  constructor <;> decide

theorem addable_sample : Addable sampleHost GoMap.empty sampleClient
    emptyNetwork.nb :=
  { connected := ⟨(), rfl⟩
    given := by decide +kernel
    found := ⟨⟨"switch-1", "net", []⟩, by rfl, _, .head _, rfl⟩
    ovsClient := rfl }

theorem unused_sample : Unused sampleSha1 sampleClient.name emptyNetwork :=
  { lsp := nofun
    interface := nofun
    port := nofun }

theorem new_sample : sampleHost.fresh.New emptyNetwork :=
  { lsp := nofun
    ovs := ⟨nofun, nofun⟩ }

theorem del_undoes_add_iff_sample : ∃ message after,
    addLogicalSwitchPort sampleSha1 sampleHost GoMap.empty sampleClient
      emptyNetwork = (.ok message, after) ∧
    delLogicalSwitchPort sampleSha1 sampleHost sampleClient.name after =
      (.error (.new "OVSDB error" ": referential integrity violation"),
        after) :=
  (del_undoes_add_iff northbound_emptyNetwork ovsdb_emptyNetwork
    unused_sample new_sample sampleHost).2 addable_sample

/-- The port that has been added cannot be deleted. -/
theorem added_port_stays : ∃ message after,
    addLogicalSwitchPort sampleSha1 sampleHost GoMap.empty sampleClient
      emptyNetwork = (.ok message, after) ∧
    (∀ deleted, delLogicalSwitchPort sampleSha1 sampleHost sampleClient.name
      after ≠ (.ok deleted, emptyNetwork)) ∧
    getVtep (delLogicalSwitchPort sampleSha1 sampleHost sampleClient.name
      after).2.nb sampleClient.name ≠ none := by
  obtain ⟨message, after, added, settled, lsp, found⟩ := added_of_addable
    northbound_emptyNetwork ovsdb_emptyNetwork unused_sample new_sample
    addable_sample
  have refused : delLogicalSwitchPort sampleSha1 sampleHost sampleClient.name
      after = _ := delLogicalSwitchPort_refused sampleHost settled found
  refine ⟨message, after, added, ?_, ?_⟩
  · intro deleted undone
    rw [refused] at undone
    cases undone
  · rw [refused, found]
    exact Option.some_ne_none lsp

end EvpnForOvn.OvsdbMgmt

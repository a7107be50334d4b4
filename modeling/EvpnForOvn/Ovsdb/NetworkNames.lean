import EvpnForOvn.Ovsdb.NetworkEffects

/-!
# What a network name denotes

A server that is the only writer keeps at most one logical switch for the first
thirteen characters of a name.  From the call that adds a network to the one
that deletes it, the name leads to the same switch in every call that shortens
it.
-/

namespace EvpnForOvn.OvsdbMgmt

open Go Endpoint Evpn Interactive

/-- The databases of the server, and its map of networks. -/
structure OvsdbServer where
  table : NetworkTable
  ovs : Vswitch
  networks : GoMap NetworkRow

def OvsdbServer.databases (server : OvsdbServer) : Databases :=
  ⟨server.table.nb, server.ovs⟩

inductive NetworkCall where
  | addNetwork (name : String)
  | getNetwork (name : String)
  | getNetworks
  | delNetwork (name : String)
  | addVtep (request : AddVtepRequest)
  | addLogicalSwitchPort (request : PortRequest)

inductive NetworkReply where
  | status (success : Bool)
  | network (found : Option Network)
  | networks (listed : List Network)

namespace OvsdbServer

def settle (server : OvsdbServer) (databases : Databases) : OvsdbServer :=
  { server with
    table := { server.table with nb := databases.nb }
    ovs := databases.ovs }

/-- A call with its reply, with nobody else at work. -/
def Serves (getenv sha1 : String → String) (before : OvsdbServer) :
    NetworkCall → NetworkReply → OvsdbServer → Prop
  | .addNetwork name, reply, after => ∃ outcome table,
      (addNetwork getenv before.networks name).Finishes
        NetworkTable.Reliable before.table outcome table ∧
      reply = .status outcome.isOk ∧
      after = ⟨table, before.ovs, outcome.toOption.getD before.networks⟩
  | .getNetwork name, reply, after => ∃ found networks table,
      (getNetwork before.networks name).Returns NetworkTable.Reliable
        before.table (found, networks) table ∧
      reply = .network found ∧ after = ⟨table, before.ovs, networks⟩
  | .getNetworks, reply, after => ∃ listed networks table,
      (getNetworks before.networks).Returns NetworkTable.Reliable
        before.table (listed, networks) table ∧
      reply = .networks listed ∧ after = ⟨table, before.ovs, networks⟩
  | .delNetwork name, reply, after => ∃ outcome table,
      (delNetwork before.networks name).Finishes NetworkTable.Reliable
        before.table outcome table ∧
      reply = .status outcome.isOk ∧
      after = ⟨table, before.ovs, outcome.toOption.getD before.networks⟩
  | .addVtep request, reply, after => ∃ host listing,
      host.fresh.New before.databases ∧
      let result := addVtepCall host before.networks listing request
        before.databases
      reply = .status result.1.isOk ∧ after = before.settle result.2
  | .addLogicalSwitchPort request, reply, after => ∃ host,
      host.fresh.New before.databases ∧
      let result := addLogicalSwitchPort sha1 host before.networks request
        before.databases
      reply = .status result.1.isOk ∧ after = before.settle result.2

/-- Calls one after the other, each with its reply. -/
inductive Run (getenv sha1 : String → String) :
    OvsdbServer → List (NetworkCall × NetworkReply) → OvsdbServer → Prop where
  | nil {server : OvsdbServer} : Run getenv sha1 server [] server
  | cons {before middle after : OvsdbServer} {call : NetworkCall}
      {reply : NetworkReply} {rest : List (NetworkCall × NetworkReply)} :
      before.Serves getenv sha1 call reply middle →
      Run getenv sha1 middle rest after →
      Run getenv sha1 before ((call, reply) :: rest) after

def identities (server : OvsdbServer) : List (String × String) :=
  OvsdbMgmt.identities server.table.nb

/-- Names are unique, and the map of networks agrees with the database. -/
structure Ready (server : OvsdbServer) : Prop where
  wellFormed : server.table.nb.WellFormed
  names : (server.identities.map Prod.snd).Nodup
  cached : ∀ name row, server.networks.get name = some row →
    row.switch.name = name ∧ (row.switch.uuid, name) ∈ server.identities

/-- The switch with the identifier has the shortened name. -/
def Denotes (server : OvsdbServer) (name uuid : String) : Prop :=
  (uuid, truncateName name) ∈ server.identities

/-- What a call may do to the switches and to the map of networks. -/
inductive Changed (before : OvsdbServer) (call : NetworkCall)
    (reply : NetworkReply) (after : OvsdbServer) : Prop where
  | kept : SameSwitches before.table.nb after.table.nb →
      (∀ name row, after.networks.get name = some row →
        before.networks.get name = some row ∨ row.switch.name = name ∧
          (row.switch.uuid, name) ∈ before.identities) →
      Changed before call reply after
  | created {row : NetworkRow} :
      (∀ pair ∈ before.identities, pair.2 ≠ row.switch.name) →
      after.table.nb.WellFormed →
      after.identities =
        before.identities ++ [(row.switch.uuid, row.switch.name)] →
      after.networks = before.networks.set row.switch.name row →
      Changed before call reply after
  | deleted {name uuid : String} :
      call = .delNetwork name → reply = .status true →
      before.Denotes name uuid → after.table.nb.WellFormed →
      after.identities = (before.identities.filter fun pair =>
        pair.1 != uuid) →
      after.networks = before.networks.delete (truncateName name) →
      Changed before call reply after

section Step

variable {getenv sha1 : String → String} {before after : OvsdbServer}
  {call : NetworkCall} {reply : NetworkReply} {name uuid : String}

theorem name_unique {other : String} (ready : before.Ready)
    (first : (uuid, name) ∈ before.identities)
    (second : (uuid, other) ∈ before.identities) : name = other := by
  obtain ⟨left, leftListed, rfl, rfl⟩ := mem_identities.mp first
  obtain ⟨right, rightListed, same, rfl⟩ := mem_identities.mp second
  rw [List.inj_on_of_nodup_map ready.wellFormed.switchUuids leftListed
    rightListed same.symm]

theorem uuid_unique {other : String} (ready : before.Ready)
    (first : (uuid, name) ∈ before.identities)
    (second : (other, name) ∈ before.identities) : uuid = other :=
  congrArg Prod.fst
    (List.inj_on_of_nodup_map ready.names first second rfl)

theorem mem_identities_of_listed {switch : LogicalSwitch}
    (listed : switch ∈ before.table.nb.switches)
    (named : switch.name = name) :
    (switch.uuid, name) ∈ before.identities :=
  mem_identities.mpr ⟨switch, listed, rfl, named⟩

theorem changed_addNetwork (ready : before.Ready)
    (serves : before.Serves getenv sha1 (.addNetwork name) reply after) :
    before.Changed (.addNetwork name) reply after ∧
      (reply = .status true → ∃ uuid, after.Denotes name uuid) := by
  obtain ⟨outcome, table, finishes, rfl, rfl⟩ := serves
  cases networkAdded_of_finishes ready.wellFormed finishes with
  | @reused row listed named same =>
      have member := mem_identities_of_listed listed named
      have kept : SameSwitches before.table.nb table.nb := by
        rw [same]
        exact .refl ready.wellFormed
      refine ⟨.kept kept ?_, fun _ => ⟨row.switch.uuid, ?_⟩⟩
      · intro key found foundAt
        change GoMap.get (before.networks.set _ row) key = _ at foundAt
        by_cases selected : key = truncateName name
        · rw [selected, GoMap.get_set_self] at foundAt
          cases foundAt
          exact .inr ⟨named.trans selected.symm, selected ▸ member⟩
        · rw [GoMap.get_set_of_ne selected] at foundAt
          exact .inl foundAt
      · unfold Denotes identities
        rw [kept.same]
        exact member
  | @created row absent named same settled =>
      have extended : OvsdbMgmt.identities table.nb = before.identities ++
          [(row.switch.uuid, row.switch.name)] := by
        rw [same]
        exact List.map_append
      refine ⟨.created ?_ settled extended ?_,
        fun _ => ⟨row.switch.uuid, ?_⟩⟩
      · intro pair listed
        obtain ⟨switch, switchListed, rfl⟩ := List.mem_map.mp listed
        rw [named]
        exact absent switch switchListed
      · rw [named]
        rfl
      · unfold Denotes identities
        rw [extended, named]
        exact List.mem_append_right _ (.head _)
  | refused _ same =>
      refine ⟨.kept ?_ fun _ _ found => .inl found, nofun⟩
      rw [same]
      exact .refl ready.wellFormed

theorem changed_delNetwork (ready : before.Ready)
    (serves : before.Serves getenv sha1 (.delNetwork name) reply after) :
    before.Changed (.delNetwork name) reply after ∧
      ∀ switch ∈ before.table.nb.switches,
        switch.name ≠ truncateName name →
          switch ∈ after.table.nb.switches := by
  obtain ⟨outcome, table, finishes, rfl, rfl⟩ := serves
  cases networkDeleted_of_finishes ready.wellFormed finishes with
  | @deleted gone listed named filtered settled =>
      refine ⟨.deleted rfl rfl (mem_identities_of_listed listed named)
        settled ?_ rfl, ?_⟩
      · unfold identities OvsdbMgmt.identities
        rw [filtered, List.filter_map]
        rfl
      · intro switch switchListed other
        rw [filtered]
        refine List.mem_filter.mpr ⟨switchListed, ?_⟩
        simp only [bne_iff_ne, ne_eq]
        intro same
        apply other
        rw [List.inj_on_of_nodup_map ready.wellFormed.switchUuids
          switchListed listed same, named]
  | refused _ same =>
      rw [same]
      exact ⟨.kept (.refl ready.wellFormed) fun _ _ found => .inl found,
        fun _ listed _ => listed⟩

theorem changed_getNetwork (ready : before.Ready)
    (serves : before.Serves getenv sha1 (.getNetwork name) reply after) :
    before.Changed (.getNetwork name) reply after ∧
      ∀ uuid, before.Denotes name uuid →
        reply = .network (some ⟨truncateName name, uuid⟩) := by
  obtain ⟨found, networks, table, returns, rfl, rfl⟩ := serves
  obtain ⟨rfl, answer⟩ := networkFound_of_returns returns
  cases answer with
  | @cached row cached =>
      obtain ⟨named, member⟩ := ready.cached _ row cached
      refine ⟨.kept (.refl ready.wellFormed) fun _ _ found => .inl found,
        fun uuid denotes => ?_⟩
      unfold NetworkRow.network
      rw [named, uuid_unique ready member denotes]
  | @listed row listed named =>
      have member := mem_identities_of_listed listed named
      refine ⟨.kept (.refl ready.wellFormed) ?_, fun uuid denotes => ?_⟩
      · intro key found foundAt
        change GoMap.get (before.networks.set _ row) key = _ at foundAt
        by_cases selected : key = truncateName name
        · rw [selected, GoMap.get_set_self] at foundAt
          cases foundAt
          exact .inr ⟨named.trans selected.symm, selected ▸ member⟩
        · rw [GoMap.get_set_of_ne selected] at foundAt
          exact .inl foundAt
      · unfold NetworkRow.network
        rw [named, uuid_unique ready member denotes]
  | missing absent =>
      refine ⟨.kept (.refl ready.wellFormed) fun _ _ found => .inl found,
        fun uuid denotes => ?_⟩
      obtain ⟨switch, listed, _, named⟩ := mem_identities.mp denotes
      cases absent switch listed named

/-- Every call of the server changes the switches in one of the three
ways. -/
theorem changed_of_serves (ready : before.Ready)
    (serves : before.Serves getenv sha1 call reply after) :
    before.Changed call reply after := by
  cases call with
  | addNetwork name => exact (changed_addNetwork ready serves).1
  | getNetwork name => exact (changed_getNetwork ready serves).1
  | delNetwork name => exact (changed_delNetwork ready serves).1
  | getNetworks =>
      obtain ⟨listed, networks, table, returns, rfl, rfl⟩ := serves
      obtain ⟨rfl, kept⟩ := getNetworks_of_returns returns
      refine .kept (.refl ready.wellFormed) fun key row found => ?_
      rcases kept key row found with earlier | ⟨present, named⟩
      · exact .inl earlier
      · exact .inr ⟨named, mem_identities_of_listed present named⟩
  | addVtep request =>
      obtain ⟨host, listing, _, _, rfl⟩ := serves
      exact .kept (@addVtepCall_sameSwitches host before.networks
        before.databases request listing ready.wellFormed)
        fun _ _ found => .inl found
  | addLogicalSwitchPort request =>
      obtain ⟨host, _, _, rfl⟩ := serves
      exact .kept (@addLogicalSwitchPort_sameSwitches host before.networks
        before.databases sha1 request ready.wellFormed)
        fun _ _ found => .inl found

theorem Changed.ready (changed : before.Changed call reply after)
    (ready : before.Ready) : after.Ready := by
  cases changed with
  | kept same networks =>
      have identities : after.identities = before.identities := same.same
      refine
        { wellFormed := same.wellFormed
          names := identities ▸ ready.names
          cached := ?_ }
      intro key row found
      rw [identities]
      rcases networks key row found with earlier | listed
      · exact ready.cached key row earlier
      · exact listed
  | @created row absent settled identities networks =>
      refine
        { wellFormed := settled
          names := ?_
          cached := ?_ }
      · rw [identities]
        exact Evpn.Vswitch.nodup_map_snoc ready.names absent
      · intro key found foundAt
        rw [networks] at foundAt
        rw [identities]
        by_cases selected : key = row.switch.name
        · rw [selected, GoMap.get_set_self] at foundAt
          cases foundAt
          rw [selected]
          exact ⟨rfl, List.mem_append_right _ (.head _)⟩
        · rw [GoMap.get_set_of_ne selected] at foundAt
          obtain ⟨named, member⟩ := ready.cached key found foundAt
          exact ⟨named, List.mem_append_left _ member⟩
  | @deleted gone uuid _ _ denotes settled identities networks =>
      refine
        { wellFormed := settled
          names := ?_
          cached := ?_ }
      · rw [identities]
        exact ready.names.sublist (List.filter_sublist.map _)
      · intro key found foundAt
        rw [networks] at foundAt
        by_cases selected : key = truncateName gone
        · rw [selected, GoMap.get_delete_self] at foundAt
          cases foundAt
        · rw [GoMap.get_delete_of_ne selected] at foundAt
          obtain ⟨named, member⟩ := ready.cached key found foundAt
          refine ⟨named, ?_⟩
          rw [identities]
          refine List.mem_filter.mpr ⟨member, ?_⟩
          simp only [bne_iff_ne, ne_eq]
          intro same
          exact selected (name_unique ready (same ▸ member) denotes)

/-- A successful deletion of a name that is shortened in the same way. -/
def Deletes (name : String) (event : NetworkCall × NetworkReply) : Prop :=
  ∃ other, truncateName other = truncateName name ∧
    event = (.delNetwork other, .status true)

/-- Only a deletion takes the switch of a name away. -/
theorem Changed.denotes (changed : before.Changed call reply after)
    (ready : before.Ready) (denotes : before.Denotes name uuid)
    (undeleted : ¬ Deletes name (call, reply)) :
    after.Denotes name uuid := by
  unfold Denotes at denotes ⊢
  cases changed with
  | kept same networks =>
      have identities : after.identities = before.identities := same.same
      rw [identities]
      exact denotes
  | created absent settled identities networks =>
      rw [identities]
      exact List.mem_append_left _ denotes
  | @deleted gone deleted called replied other settled identities networks =>
      rw [identities]
      refine List.mem_filter.mpr ⟨denotes, ?_⟩
      simp only [bne_iff_ne, ne_eq]
      intro same
      apply undeleted
      exact ⟨gone, name_unique ready other (same ▸ denotes),
        by rw [called, replied]⟩

end Step

section Runs

variable {getenv sha1 : String → String} {before after : OvsdbServer}
  {events : List (NetworkCall × NetworkReply)} {name uuid : String}

theorem Run.ready (run : before.Run getenv sha1 events after)
    (ready : before.Ready) : after.Ready := by
  induction run with
  | nil => exact ready
  | cons serves _ induction =>
      exact induction ((changed_of_serves ready serves).ready ready)

theorem Run.denotes (run : before.Run getenv sha1 events after)
    (ready : before.Ready) (denotes : before.Denotes name uuid)
    (undeleted : ∀ event ∈ events, ¬ Deletes name event) :
    after.Denotes name uuid := by
  induction run with
  | nil => exact denotes
  | cons serves _ induction =>
      have changed := changed_of_serves ready serves
      exact induction (changed.ready ready)
        (changed.denotes ready denotes (undeleted _ (.head _)))
        fun event listed => undeleted event (.tail _ listed)

end Runs

/-- The name leads to the switch with the identifier, and no name with another
beginning does. -/
structure Faithful (getenv sha1 : String → String) (server : OvsdbServer)
    (name uuid : String) : Prop where
  answered : ∃ reply next,
    server.Serves getenv sha1 (.getNetwork name) reply next
  found : ∀ reply next,
    server.Serves getenv sha1 (.getNetwork name) reply next →
      reply = .network (some ⟨truncateName name, uuid⟩)
  vtep : ∀ host listing request, host.fresh.New server.databases →
    (∃ value, host.connected = .ok value) → request.lsName = name →
    truncateName name = name →
      Attached (addVtepCall host server.networks listing request
        server.databases).2.nb uuid (truncateName request.lspName)
  port : ∀ host request, host.fresh.New server.databases →
    (∃ value, host.connected = .ok value) →
    truncateName request.lsName = truncateName name →
    (∀ port ∈ server.table.nb.ports, port.name ≠ request.name) →
      Attached (addLogicalSwitchPort sha1 host server.networks request
        server.databases).2.nb uuid request.name
  -- A port that is there gets addresses and is attached to no other switch.
  existing : ∀ host request row,
    getVtep server.table.nb request.name = some row →
      ∃ merged, row.addresses ⊆ merged ∧ Served row merged server.table.nb
        (addLogicalSwitchPort sha1 host server.networks request
          server.databases).2.nb
  distinct : ∀ other, server.Denotes other uuid →
    truncateName other = truncateName name
  deletion : ∀ other reply next,
    server.Serves getenv sha1 (.delNetwork other) reply next →
      ∀ switch ∈ server.table.nb.switches,
        switch.name ≠ truncateName other → switch ∈ next.table.nb.switches

section Names

variable {getenv sha1 : String → String} {server : OvsdbServer}
  {name uuid : String} {host : Host}

theorem resolveSwitch_eq_some (ready : server.Ready)
    (member : (uuid, name) ∈ server.identities) :
    ∃ ls, host.resolveSwitch server.networks server.databases.nb name =
      some ls ∧ ls.uuid = uuid := by
  unfold Host.resolveSwitch
  cases cached : server.networks.get name with
  | some row =>
      exact ⟨row.switch, rfl,
        uuid_unique ready (ready.cached name row cached).2 member⟩
  | none =>
      obtain ⟨switch, listed, rfl, rfl⟩ := mem_identities.mp member
      refine ⟨switch, find_of_perm (host.switches_perm _) listed
        (beq_self_eq_true _) ?_, rfl⟩
      intro other otherListed named
      have same : other.name = switch.name := by simpa using named
      have uuids := uuid_unique ready
        (mem_identities_of_listed otherListed same) member
      exact List.inj_on_of_nodup_map ready.wellFormed.switchUuids
        otherListed listed uuids

theorem attached_addVtepCall {listing : Listing} {request : AddVtepRequest}
    (ready : server.Ready) (fresh : host.fresh.New server.databases)
    (connected : ∃ value, host.connected = .ok value)
    (member : (uuid, request.lsName) ∈ server.identities) :
    Attached (addVtepCall host server.networks listing request
      server.databases).2.nb uuid (truncateName request.lspName) := by
  obtain ⟨value, connected⟩ := connected
  obtain ⟨ls, resolved, rfl⟩ := @resolveSwitch_eq_some server request.lsName
    uuid host ready member
  obtain ⟨switch, listed, same, _⟩ := mem_identities.mp member
  obtain ⟨next, ensured, attached⟩ := @ensurePort_attached
    server.databases.nb ls switch (truncateName request.lspName)
    host.fresh.lsp ready.wellFormed listed same fresh.lsp
  rw [nb_addVtepCall, connected, resolved]
  dsimp only
  rw [ensured]
  exact attached

theorem truncateName_ne_empty (given : name ≠ "") :
    truncateName name ≠ "" := by
  unfold truncateName
  intro empty
  apply given
  have letters : name.toList.take 13 = [] := by
    simpa using congrArg String.toList empty
  rcases List.take_eq_nil_iff.mp letters with impossible | none
  · cases impossible
  · exact String.toList_injective none

theorem attached_addLogicalSwitchPort {request : PortRequest}
    (ready : server.Ready) (fresh : host.fresh.New server.databases)
    (connected : ∃ value, host.connected = .ok value)
    (given : truncateName request.lsName ≠ "")
    (member : (uuid, truncateName request.lsName) ∈ server.identities)
    (unused : ∀ port ∈ server.table.nb.ports, port.name ≠ request.name) :
    Attached (addLogicalSwitchPort sha1 host server.networks request
      server.databases).2.nb uuid request.name := by
  obtain ⟨value, connected⟩ := connected
  obtain ⟨ls, resolved, rfl⟩ := @resolveSwitch_eq_some server
    (truncateName request.lsName) uuid host ready member
  obtain ⟨switch, listed, same, _⟩ := mem_identities.mp member
  have created := @createPort_attached server.databases.nb ls switch request
    host.fresh.lsp ready.wellFormed listed same fresh.lsp unused
  unfold addLogicalSwitchPort
  rw [connected]
  dsimp only
  rw [if_neg given, resolved]
  dsimp only
  rw [nb_addPortOn]
  have absent : getVtep server.databases.nb request.name = none :=
    getVtep_eq_none.mpr unused
  unfold ensureLogicalPort
  rw [absent]
  exact created

theorem faithful_of_denotes (given : name ≠ "") (ready : server.Ready)
    (denotes : server.Denotes name uuid) :
    server.Faithful getenv sha1 name uuid where
  answered := by
    obtain ⟨value, returns⟩ :=
      @getNetwork_returns server.networks name server.table
    exact ⟨_, _, value.1, value.2, _, returns, rfl, rfl⟩
  found := fun _ _ serves => (changed_getNetwork ready serves).2 uuid denotes
  vtep := by
    intro host listing request fresh connected named short
    apply attached_addVtepCall ready fresh connected
    rw [named, ← short]
    exact denotes
  port := by
    intro host request fresh connected named unused
    have nonempty := truncateName_ne_empty given
    rw [← named] at nonempty
    apply attached_addLogicalSwitchPort ready fresh connected nonempty _
      unused
    rw [named]
    exact denotes
  existing := fun host request row present =>
    @addLogicalSwitchPort_served host server.networks server.databases sha1
      request row ready.wellFormed present
  distinct := fun _ other => name_unique ready other denotes
  deletion := fun _ _ _ serves => (changed_delNetwork ready serves).2

end Names

end OvsdbServer

section Result

open OvsdbServer

variable {getenv sha1 : String → String} {started before after : OvsdbServer}
  {earlier : List (NetworkCall × NetworkReply)} {name : String}

end Result

/-- A service that has just been started, without networks. -/
def blankServer : OvsdbServer :=
  { table := ⟨⟨[], []⟩, GoMap.empty⟩
    ovs := emptyNetwork.ovs
    networks := GoMap.empty }

def firstNetwork (networkName : String) : NetworkRow :=
  ⟨⟨"switch-1", networkName, []⟩, newConfig "1000"⟩

def firstServer (networkName : String) : OvsdbServer :=
  { table := ⟨⟨[⟨"switch-1", networkName, []⟩], []⟩,
      GoMap.empty.set "switch-1" (newConfig "1000")⟩
    ovs := emptyNetwork.ovs
    networks := GoMap.empty.set networkName (firstNetwork networkName) }

section Sample

variable {sha1 : String → String} {name networkName : String}

theorem wellFormed_firstServer :
    (firstServer networkName).table.nb.WellFormed :=
  { switchUuids := List.nodup_singleton _
    uuids := List.nodup_nil
    names := List.nodup_nil
    leads := by
      intro switch listed
      obtain rfl := List.mem_singleton.mp listed
      nofun
    referred := nofun }

theorem configure_firstNetwork {table : NetworkTable} :
    (configureNetwork (fun _ => "") (firstNetwork networkName)).Returns
      NetworkTable.Reliable table (firstNetwork networkName) table := by
  have vni : logicalSwitchVni (fun _ => "") = "1000" := by decide +kernel
  have current : needsUpdate (logicalSwitchVni fun _ => "")
      (firstNetwork networkName).otherConfig = false := by
    rw [vni]
    exact needsUpdate_newConfig "1000"
  unfold configureNetwork
  rw [current]
  exact Method.returns_pure.mpr ⟨rfl, rfl⟩

theorem wellFormed_blankServer : blankServer.table.nb.WellFormed :=
  { switchUuids := List.nodup_nil
    uuids := List.nodup_nil
    names := List.nodup_nil
    leads := nofun
    referred := nofun }

theorem serves_first (shortened : truncateName name = networkName) :
    blankServer.Serves (fun _ => "") sha1 (.addNetwork name) (.status true)
      (firstServer networkName) := by
  have committed : blankServer.table.transact
      (.create (firstNetwork networkName)) =
        some (firstServer networkName).table :=
    NetworkTable.transact_eq_some.mpr
      ⟨rfl, wellFormed_firstServer.toConsistent⟩
  refine ⟨.ok _, (firstServer networkName).table, ?_, rfl, rfl⟩
  unfold addNetwork
  rw [shortened]
  refine Method.returns_bind.mpr ⟨[], _, returns_listSwitches.mpr
    (reliable_list.mpr ⟨rfl, .refl _⟩), ?_⟩
  refine Method.returns_bind.mpr ⟨firstNetwork networkName,
    (firstServer networkName).table, ?_, ?_⟩
  · refine Method.returns_bind.mpr ⟨"switch-1", _,
      Method.returns_ask.mpr rfl, ?_⟩
    refine Method.returns_bind.mpr ⟨(), _, returns_transactNetwork.mpr
      (reliable_transact.mpr committed), ?_⟩
    refine Method.returns_bind.mpr ⟨[firstNetwork networkName], _,
      returns_listSwitches.mpr (reliable_list.mpr ⟨rfl, .refl _⟩), ?_⟩
    exact Method.returns_require.mpr ⟨rfl, rfl⟩
  · exact Method.returns_bind.mpr ⟨_, _, configure_firstNetwork,
      Method.returns_pure.mpr ⟨rfl, rfl⟩⟩

/-- A network that is there with its configuration is only remembered. -/
theorem serves_again {server : OvsdbServer}
    (shortened : truncateName name = networkName)
    (found : server.table.rows.find?
      (·.switch.name == networkName) = some (firstNetwork networkName)) :
    server.Serves (fun _ => "") sha1 (.addNetwork name) (.status true)
      { server with
        networks := server.networks.set networkName
          (firstNetwork networkName) } := by
  refine ⟨.ok _, server.table, ?_, rfl, rfl⟩
  unfold addNetwork
  rw [shortened]
  refine Method.returns_bind.mpr ⟨server.table.rows, _,
    returns_listSwitches.mpr (reliable_list.mpr ⟨rfl, .refl _⟩), ?_⟩
  rw [found]
  exact Method.returns_bind.mpr ⟨_, _, Method.returns_pure.mpr ⟨rfl, rfl⟩,
    Method.returns_bind.mpr ⟨_, _, configure_firstNetwork,
      Method.returns_pure.mpr ⟨rfl, rfl⟩⟩⟩

theorem serves_get {server : OvsdbServer} (row : NetworkRow)
    (shortened : truncateName name = networkName)
    (cached : server.networks.get networkName = some row) :
    server.Serves (fun _ => "") sha1 (.getNetwork name)
      (.network (some row.network)) server := by
  refine ⟨_, server.networks, _, ?_, rfl, rfl⟩
  unfold getNetwork
  rw [shortened, cached]
  exact Method.returns_pure.mpr ⟨rfl, rfl⟩

/-- The service after the deletion of its first network. -/
def emptiedServer (networkName : String) (networks : GoMap NetworkRow) :
    OvsdbServer :=
  { table := ⟨⟨[], []⟩, (firstServer networkName).table.otherConfig⟩
    ovs := emptyNetwork.ovs
    networks := networks.delete networkName }

theorem serves_delete {networks : GoMap NetworkRow}
    (shortened : truncateName name = networkName) :
    OvsdbServer.Serves (fun _ => "") sha1
      { firstServer networkName with networks := networks }
      (.delNetwork name) (.status true)
      (emptiedServer networkName networks) := by
  have committed : (firstServer networkName).table.transact
      (.delete "switch-1") = some (emptiedServer networkName networks).table :=
    NetworkTable.transact_eq_some.mpr ⟨rfl, wellFormed_blankServer.toConsistent⟩
  refine ⟨.ok _, (emptiedServer networkName networks).table, ?_, rfl, rfl⟩
  unfold delNetwork
  rw [shortened]
  refine Method.returns_bind.mpr ⟨[firstNetwork networkName], _,
    returns_listSwitches.mpr (reliable_list.mpr ⟨rfl, .refl _⟩), ?_⟩
  refine Method.returns_bind.mpr ⟨firstNetwork networkName, _,
    Method.returns_require.mpr ⟨by simp [firstNetwork], rfl⟩, ?_⟩
  exact Method.returns_bind.mpr ⟨(), _, returns_transactNetwork.mpr
    (reliable_transact.mpr committed), Method.returns_pure.mpr ⟨rfl, rfl⟩⟩

theorem serves_missing {networks : GoMap NetworkRow}
    (shortened : truncateName name = networkName) :
    (emptiedServer networkName networks).Serves (fun _ => "") sha1
      (.getNetwork name) (.network none)
      (emptiedServer networkName networks) := by
  refine ⟨none, networks.delete networkName, _, ?_, rfl, rfl⟩
  unfold getNetwork
  rw [shortened]
  dsimp only [emptiedServer]
  rw [GoMap.get_delete_self]
  exact Method.returns_bind.mpr ⟨.ok [], _,
    Method.returns_ask.mpr (reliable_list.mpr ⟨rfl, .refl _⟩),
    Method.returns_pure.mpr ⟨rfl, rfl⟩⟩

end Sample

/-- A service on databases where the client has a port on another switch. -/
def occupiedServer : OvsdbServer :=
  { table := ⟨⟨[⟨"switch-1", "net", []⟩, ⟨"switch-0", "old", ["lsp-0"]⟩],
        [⟨"lsp-0", sampleClient.name, [], GoMap.empty⟩]⟩,
      GoMap.empty.set "switch-1" (newConfig "1000")⟩
    ovs := emptyNetwork.ovs
    networks := GoMap.empty }

theorem wellFormed_occupiedServer : occupiedServer.table.nb.WellFormed :=
  { toConsistent := by decide
    referred := by decide }

/-- The port that is there is not attached to the switch of the network. -/
theorem occupied_port_stays {networks : GoMap NetworkRow} :
    ¬ Attached (addLogicalSwitchPort sampleSha1 sampleHost networks
      sampleClient occupiedServer.databases).2.nb "switch-1"
      sampleClient.name := by
  intro attached
  obtain ⟨merged, _, served⟩ := @addLogicalSwitchPort_served sampleHost
    networks occupiedServer.databases sampleSha1 sampleClient
    ⟨"lsp-0", sampleClient.name, [], GoMap.empty⟩
    wellFormed_occupiedServer rfl
  obtain ⟨switch, listed, called, port, _, _, member⟩ := attached
  have unchanged : switch ∈ occupiedServer.table.nb.switches := by
    rw [← show _ = occupiedServer.table.nb.switches from served.switches]
    exact listed
  have empty : ∀ switch ∈ occupiedServer.table.nb.switches,
      switch.uuid = "switch-1" → switch.ports = [] := by
    decide
  rw [empty switch unchanged called] at member
  cases member

end EvpnForOvn.OvsdbMgmt

import EvpnForOvn.Ovsdb.RemotePaths

/-!
# The tunnels of remote routes

In a run the tunnels match their routes as long as every route distinguisher
has an IP address, the routes that share a port come from one speaker and have
one identifier, and the rows of the switch that carry the name of the tunnel
belong to it.  A client that monitors nothing cannot change them any more, so
there they have to be right already.
-/

namespace EvpnForOvn.OvsdbMgmt

open Go Endpoint Evpn Vswitch

section Interfaces

variable {request : VtepRequest} {listing : Listing} {database : Vswitch}
  {ifaceUUID portUUID : String}

/-- The rows that carry the name of the tunnel belong to it, and it is not
there under another name. -/
structure NamedRowsOwn (request : VtepRequest) (database : Vswitch) :
    Prop where
  interfaces : (∀ row ∈ database.interfaces,
      row.name ≠ request.vxlanName) →
    ∀ row ∈ database.interfaces, request.carried row.options = false
  ports : ∀ port ∈ database.ports, port.name = request.vxlanName →
    ∀ row ∈ database.interfaces, row.uuid ∈ port.interfaces →
      row.name = request.vxlanName

theorem NamedRowsOwn.name {iface : Interface}
    (own : NamedRowsOwn request database)
    (found : request.resolvedInterface listing database = some iface) :
    iface.name = request.vxlanName := by
  obtain ⟨listed, named | ⟨unnamed, carried⟩⟩ := resolved_some found
  · exact named
  · rw [own.interfaces unnamed iface listed] at carried
    cases carried

/-- The candidates of the last transaction hold the interface of the tunnel
and those of other names as they were. -/
theorem candidates_named (wellFormed : database.WellFormed)
    (own : NamedRowsOwn request database) :
    (∃ row ∈ request.candidates (request.resolvedInterface listing database)
        ifaceUUID (request.reconcileInterface listing database),
      row.uuid = VtepRequest.target
          (request.resolvedInterface listing database) ifaceUUID ∧
        row.name = request.vxlanName ∧ UpToDate request row) ∧
      ∀ row ∈ database.interfaces, row.name ≠ request.vxlanName →
        row ∈ request.candidates
          (request.resolvedInterface listing database) ifaceUUID
          (request.reconcileInterface listing database) := by
  cases found : request.resolvedInterface listing database with
  | some iface =>
      have named := own.name found
      have columns : request.resolvedColumns iface =
          request.neededColumns iface := if_pos named
      rw [reconcileInterface_some wellFormed found, columns]
      constructor
      · exact ⟨(request.neededColumns iface).write iface,
          mem_interfaces_rewrite.mpr
            ⟨iface, (resolved_some found).1, if_pos rfl⟩,
          rfl, named, upToDate_written iface⟩
      · intro row listed other
        refine mem_interfaces_rewrite.mpr ⟨row, listed, if_neg ?_⟩
        rw [named]
        exact other
  | none =>
      rw [reconcileInterface_none found]
      exact ⟨⟨request.newInterface ifaceUUID,
          List.mem_append_right _ (.head _), rfl, rfl,
          upToDate_newInterface ifaceUUID⟩,
        fun row listed _ => List.mem_append_left _ listed⟩

/-- A call leaves the interface of the tunnel up to date and the interfaces of
other names as they were. -/
theorem interfaces_ensured {after : Vswitch}
    (wellFormed : database.WellFormed)
    (ownFirst : OwnFirst request listing database)
    (own : NamedRowsOwn request database)
    (ensured : Ensured request listing ifaceUUID portUUID database
      (request.reconcileInterface listing database) after) :
    (∃ row ∈ after.interfaces, row.name = request.vxlanName ∧
        UpToDate request row) ∧
      ∀ row ∈ database.interfaces, row.name ≠ request.vxlanName →
        row ∈ after.interfaces := by
  have spec : Reconciled database
      (request.reconcileInterface listing database) := reconciled wellFormed
  obtain ⟨⟨row, listed, target, named, upToDate⟩, others⟩ :=
    @candidates_named request listing database ifaceUUID wellFormed own
  cases ensured with
  | settled found head member =>
      rw [found] at listed others
      exact ⟨⟨row, listed, named, upToDate⟩, others⟩
  | relinked some head lacks =>
      rename_i first
      have firstListed := mem_of_head head
      have changed := @mem_collect_relinked_first database _ first
        (request.candidates (request.resolvedInterface listing database)
          ifaceUUID (request.reconcileInterface listing database))
        (VtepRequest.target (request.resolvedInterface listing database)
          ifaceUUID) spec firstListed
      constructor
      · refine ⟨row, mem_interfaces_collect.mpr ⟨listed, _, changed, ?_⟩,
          named, upToDate⟩
        rw [target]
        exact .head _
      · intro other otherListed different
        obtain ⟨holder, holderListed, holds⟩ :=
          wellFormed.interfaceReferred other otherListed
        -- The first listed port is the own one and lacks the interface, so
        -- it has the name of the tunnel and holds no other interface.
        have apart : holder ≠ first := by
          intro same
          rw [same] at holds
          obtain ⟨head', headSame, firstOwn⟩ := ownFirst.first some
          cases head.symm.trans headSame
          rcases firstOwn with firstNamed | ⟨iface, found, member⟩
          · exact different
              (own.ports first firstListed firstNamed other otherListed holds)
          · exact lacks iface found member
        have kept : holder ∈ (relinked
            (request.reconcileInterface listing database)
            (request.candidates (request.resolvedInterface listing database)
              ifaceUUID (request.reconcileInterface listing database))
            first.uuid (VtepRequest.target
              (request.resolvedInterface listing database)
              ifaceUUID)).collect.ports := by
          rw [mem_ports_collect_relinked spec.wellFormed]
          apply mem_relinked_of_ne
          · rw [spec.ports]
            exact holderListed
          · intro same
            exact apart
              (wellFormed.port_eq_of_uuid holderListed firstListed same)
        exact mem_interfaces_collect.mpr
          ⟨others other otherListed different, holder, kept, holds⟩
  | installed missing unnamed bridgeListed bridgeNamed =>
      rw [missing, reconcileInterface_none missing] at listed others
      exact ⟨⟨row, listed, named, upToDate⟩, others⟩
  | dropped missing unnamed noBridge =>
      obtain ⟨bridge, bridgeListed, bridgeNamed⟩ :=
        ownFirst.bridge (not_own missing unnamed)
      exact absurd bridgeNamed (noBridge bridge bridgeListed)

/-- There is neither an interface nor a port of the name, and the integration
bridge is there. -/
structure Vacant (request : VtepRequest) (database : Vswitch) : Prop where
  interfaces : ∀ row ∈ database.interfaces, row.name ≠ request.vxlanName
  ports : ∀ port ∈ database.ports, port.name ≠ request.vxlanName
  bridge : ∃ bridge ∈ database.bridges, bridge.name = "br-int"

/-- What the client lists lets the call bring the tunnel up to date. -/
inductive Manageable (request : VtepRequest) (database : Vswitch) :
    RowLists → Prop where
  | listed {listing : Listing} :
      OwnFirst request listing database → NamedRowsOwn request database →
      Manageable request database listing
  | vacant : Vacant request database →
      Manageable request database .unmonitored
  | current {row : Interface} :
      row ∈ database.interfaces → row.name = request.vxlanName →
      UpToDate request row → Manageable request database .unmonitored

/-- The rows that a call creates when it finds none of the name stay while
there is an integration bridge. -/
theorem collect_installed_eq_self {interface : Interface} {port : Port}
    (wellFormed : database.WellFormed)
    (only : port.interfaces = [interface.uuid])
    (integration : ∃ bridge ∈ database.bridges, bridge.name = "br-int") :
    (installed database interface port).collect =
      installed database interface port := by
  have grows : ∀ bridge ∈ database.bridges,
      ∃ next ∈ (installed database interface port).bridges,
        ∀ uuid, uuid ∈ bridge.ports → uuid ∈ next.ports := by
    intro bridge listed
    refine ⟨_, List.mem_map_of_mem listed, ?_⟩
    intro uuid member
    split
    · exact mem_insertReference.mpr (.inl member)
    · exact member
  apply collect_eq_self
  · intro next listed
    obtain ⟨bridge, bridgeListed, rfl⟩ := List.mem_map.mp listed
    obtain ⟨root, rootListed, member⟩ :=
      wellFormed.bridgeReferred bridge bridgeListed
    refine ⟨root, rootListed, ?_⟩
    split
    · exact member
    · exact member
  · intro row listed
    rcases List.mem_append.mp listed with old | new
    · obtain ⟨bridge, bridgeListed, member⟩ :=
        wellFormed.portReferred row old
      obtain ⟨next, nextListed, kept⟩ := grows bridge bridgeListed
      exact ⟨next, nextListed, kept _ member⟩
    · obtain ⟨bridge, bridgeListed, named⟩ := integration
      refine ⟨_, List.mem_map_of_mem bridgeListed, ?_⟩
      rw [if_pos named, List.mem_singleton.mp new]
      exact mem_insertReference.mpr (.inr rfl)
  · intro row listed
    rcases List.mem_append.mp listed with old | new
    · obtain ⟨holder, holderListed, member⟩ :=
        wellFormed.interfaceReferred row old
      exact ⟨holder, List.mem_append_left _ holderListed, member⟩
    · refine ⟨port, List.mem_append_right _ (.head _), ?_⟩
      rw [only, List.mem_singleton.mp new]
      exact .head _

/-- A client that lists nothing tries to create the rows. -/
theorem ensureTunnel_unmonitored :
    request.ensureTunnel .unmonitored ifaceUUID portUUID database =
      match transactVtep database
        [.createInterface (request.newInterface ifaceUUID),
          .createPort (request.newPort portUUID ifaceUUID),
          .insertPort "br-int" portUUID] with
      | .ok next => (.ok (), next)
      | .error .identicalValues => (.ok (), database)
      | .error .rejected =>
          (.error (.new "OVS op failed: " "constraint violation"),
            database) :=
  rfl

/-- A name that is taken counts as success. -/
theorem ensureTunnel_taken {row : Interface}
    (wellFormed : database.WellFormed)
    (freshIface : ∀ row ∈ database.interfaces, row.uuid ≠ ifaceUUID)
    (freshPort : ∀ row ∈ database.ports, row.uuid ≠ portUUID)
    (listed : row ∈ database.interfaces)
    (named : row.name = request.vxlanName) :
    request.ensureTunnel .unmonitored ifaceUUID portUUID database =
      (.ok (), database) := by
  rw [ensureTunnel_unmonitored]
  by_cases integration : ∃ bridge ∈ database.bridges, bridge.name = "br-int"
  · have repeated : ¬ ((installed database (request.newInterface ifaceUUID)
        (request.newPort portUUID ifaceUUID)).interfaces.map
          (·.name)).Nodup := by
      intro distinct
      simp only [installed, List.map_append, List.nodup_append] at distinct
      exact distinct.2.2 _ (List.mem_map_of_mem listed) _ (.head _) named
    have kept := @collect_installed_eq_self database
      (request.newInterface ifaceUUID) (request.newPort portUUID ifaceUUID)
      wellFormed rfl integration
    have refused : transactVtep database
        [.createInterface (request.newInterface ifaceUUID),
          .createPort (request.newPort portUUID ifaceUUID),
          .insertPort "br-int" portUUID] = .error .identicalValues :=
      transactVtep_repeated kept repeated
    rw [refused]
  · rw [transactVtep_dropped wellFormed freshIface freshPort
      fun bridge bridgeListed bridgeNamed =>
        integration ⟨bridge, bridgeListed, bridgeNamed⟩]

/-- The call succeeds, leaves the interface of the tunnel up to date and the
interfaces of other names as they were. -/
theorem ensureTunnel_manageable {lists : RowLists}
    (wellFormed : database.WellFormed)
    (freshIface : ∀ row ∈ database.interfaces, row.uuid ≠ ifaceUUID)
    (freshPort : ∀ row ∈ database.ports, row.uuid ≠ portUUID)
    (manageable : Manageable request database lists) :
    ∃ after, request.ensureTunnel lists ifaceUUID portUUID database =
        (.ok (), after) ∧ after.WellFormed ∧
      (∃ row ∈ after.interfaces, row.name = request.vxlanName ∧
        UpToDate request row) ∧
      ∀ row ∈ database.interfaces, row.name ≠ request.vxlanName →
        row ∈ after.interfaces := by
  cases manageable with
  | listed ownFirst own =>
      obtain ⟨after, result, ensured, settled⟩ :=
        ensureTunnel_ensured wellFormed freshIface freshPort
      exact ⟨after, result, settled,
        interfaces_ensured wellFormed ownFirst own ensured⟩
  | current listed named upToDate =>
      exact ⟨database, ensureTunnel_taken wellFormed freshIface freshPort
        listed named, wellFormed, ⟨_, listed, named, upToDate⟩,
        fun _ listed _ => listed⟩
  | vacant vacant =>
      obtain ⟨committed, settled⟩ := transactVtep_installed wellFormed
        (fun row listed =>
          ⟨freshIface row listed, vacant.interfaces row listed⟩)
        (fun row listed => ⟨freshPort row listed, vacant.ports row listed⟩)
        vacant.bridge
      rw [ensureTunnel_unmonitored, committed]
      exact ⟨_, rfl, settled,
        ⟨request.newInterface ifaceUUID, List.mem_append_right _ (.head _),
          rfl, upToDate_newInterface ifaceUUID⟩,
        fun _ listed _ => List.mem_append_left _ listed⟩

end Interfaces

section Addresses

variable {nb : Northbound} {name lspName mac ip address : String}

def HasAddress (nb : Northbound) (name address : String) : Prop :=
  ∃ lsp, getVtep nb name = some lsp ∧ address ∈ lsp.addresses

theorem getVtep_name {row : LogicalSwitchPort}
    (found : getVtep nb name = some row) : row.name = name := by
  simpa using List.find?_some found

/-- A call takes away no address that its own port keeps. -/
theorem hasAddress_serve {call : ClientCall} (wellFormed : nb.WellFormed)
    (has : HasAddress nb name address)
    (kept : name = lspName → ∀ addresses, address ∈ addresses →
      address ∈ call.perform addresses) :
    HasAddress (call.serve lspName nb).2 name address := by
  obtain ⟨lsp, lspFound, member⟩ := has
  cases found : getVtep nb lspName with
  | none =>
      unfold ClientCall.serve
      rw [found]
      exact ⟨lsp, lspFound, member⟩
  | some row =>
      have spec := (serve_found wellFormed found call).1
      have listed := ((getVtep_eq_some wellFormed).mp found).1
      have named := getVtep_name found
      by_cases same : name = lspName
      · rw [same] at lspFound
        cases found.symm.trans lspFound
        refine ⟨withAddresses lsp (call.perform lsp.addresses), ?_,
          kept same lsp.addresses member⟩
        have read := spec.getVtep
        rw [named] at read
        rw [same]
        exact read
      · refine ⟨lsp, ?_, member⟩
        rw [spec.getVtep_of_ne wellFormed listed (by rw [named]; exact same)]
        exact lspFound

theorem mem_perform_delClient {addresses : List String}
    (member : address ∈ addresses) (other : address ≠ addressText mac ip) :
    address ∈ (ClientCall.delClient mac ip).perform addresses := by
  rw [perform_delClient]
  split
  · exact member
  · exact List.mem_filter.mpr ⟨member, by simpa using other⟩

theorem hasAddress_withdrawAddress {networkName : String}
    (wellFormed : nb.WellFormed) (has : HasAddress nb name address)
    (other : name = lspName ∨ name = networkName →
      address ≠ addressText mac ip) :
    HasAddress (withdrawAddress nb networkName lspName mac ip) name
      address := by
  have first : HasAddress ((ClientCall.delClient mac ip).serve lspName nb).2
      name address :=
    hasAddress_serve wellFormed has fun same _ member =>
      mem_perform_delClient member (other (.inl same))
  unfold withdrawAddress
  dsimp only
  split
  · exact first
  · exact hasAddress_serve (serve_frame _ _ wellFormed).1 first
      fun same _ member => mem_perform_delClient member (other (.inr same))

theorem switches_withdrawAddress {networkName : String}
    (wellFormed : nb.WellFormed) :
    (withdrawAddress nb networkName lspName mac ip).switches =
      nb.switches := by
  have first := serve_frame (.delClient mac ip) lspName wellFormed
  unfold withdrawAddress
  dsimp only
  split
  · exact first.2
  · exact ((serve_frame (.delClient mac ip) networkName first.1).2).trans
      first.2

end Addresses

/-- A port of the switch is never deleted, because its bridge refers to
it. -/
theorem deletePortNamed_eq {database : Vswitch}
    (wellFormed : database.WellFormed) (name : String) :
    (deletePortNamed database name).2 = database := by
  unfold deletePortNamed
  dsimp only
  split
  · rename_i consistent
    obtain ⟨_, _, _, _, leads, _⟩ := consistent_iff.mp consistent
    have unnamed : ∀ port ∈ database.ports, port.name ≠ name := by
      intro port listed named
      obtain ⟨bridge, bridgeListed, member⟩ :=
        wellFormed.portReferred port listed
      obtain ⟨kept, keptListed, same⟩ := leads bridge
        (mem_bridges_collect.mpr
          ⟨bridgeListed, wellFormed.bridgeReferred bridge bridgeListed⟩)
        port.uuid member
      obtain ⟨keptListed, keptNamed⟩ :=
        List.mem_filter.mp (mem_ports_collect.mp keptListed).1
      rw [wellFormed.port_eq_of_uuid keptListed listed same] at keptNamed
      simp [named] at keptNamed
    have whole : (database.ports.filter fun row => row.name != name) =
        database.ports := by
      rw [List.filter_eq_self]
      intro port listed
      simpa using unnamed port listed
    change { database with ports := _ }.collect = database
    rw [whole]
    exact wellFormed.collect_eq
  · rfl

theorem map_names_of_frame {port : String}
    {before after : List LogicalSwitch}
    (framed : List.Forall₂ (Northbound.SwitchFrame port) before after) :
    after.map (·.name) = before.map (·.name) := by
  induction framed with
  | nil => rfl
  | cons head _ induction =>
      rw [List.map_cons, List.map_cons, head.name, induction]

section Removal

variable {databases : Databases} {networkName lspName vxlanName : String}

/-- Removing a port leaves the addresses of the other ports. -/
theorem serveDelVtep_keeps {lsp : LogicalSwitchPort}
    (wellFormed : databases.nb.WellFormed)
    (ovsWellFormed : databases.ovs.WellFormed)
    (found : getVtep databases.nb lspName = some lsp) :
    (serveDelVtep databases networkName lspName vxlanName).2.ovs =
        databases.ovs ∧
      (serveDelVtep databases networkName lspName
        vxlanName).2.nb.WellFormed ∧
      (serveDelVtep databases networkName lspName
        vxlanName).2.nb.switches.map (·.name) =
          databases.nb.switches.map (·.name) ∧
      ∀ name address, name ≠ lspName →
        HasAddress databases.nb name address →
        HasAddress (serveDelVtep databases networkName lspName
          vxlanName).2.nb name address := by
  unfold serveDelVtep
  cases switchNamed databases.nb networkName with
  | none => exact ⟨rfl, wellFormed, rfl, fun _ _ _ has => has⟩
  | some ls =>
      unfold delVtep
      dsimp only
      rw [found]
      dsimp only
      cases committed : databases.nb.transact
          [.detachPort ls.uuid lsp.uuid, .deletePort lsp.uuid] with
      | none => exact ⟨rfl, wellFormed, rfl, fun _ _ _ has => has⟩
      | some next =>
          have about : ∀ operation ∈ [NbOperation.detachPort ls.uuid lsp.uuid,
              .deletePort lsp.uuid], operation.port = lsp.uuid := by
            intro operation member
            simp only [List.mem_cons, List.not_mem_nil, or_false] at member
            rcases member with rfl | rfl
            · rfl
            · rfl
          have frame := wellFormed.frame_transact about committed
          have settled := Northbound.wellFormed_of_transact committed
          refine ⟨deletePortNamed_eq ovsWellFormed vxlanName, settled,
            map_names_of_frame frame.switches, ?_⟩
          intro name address different has
          obtain ⟨row, rowFound, member⟩ := has
          obtain ⟨listed, named⟩ := (getVtep_eq_some wellFormed).mp rowFound
          obtain ⟨lspListed, lspNamed⟩ :=
            (getVtep_eq_some wellFormed).mp found
          have apart : row.uuid ≠ lsp.uuid := by
            intro same
            rw [wellFormed.row_eq_of_uuid listed lspListed same] at named
            exact different (named.symm.trans lspNamed)
          exact ⟨row, (getVtep_eq_some settled).mpr
            ⟨(frame.ports row apart).mpr listed, named⟩, member⟩

end Removal

/-- The condition on a path that takes a route away: another route has its
address neither on the same port nor on the port of the network. -/
def RemovesOwn (networkName : String) (routes : List Route) (route : Route) :
    Prop :=
  ∀ other ∈ routes, other ≠ route →
    other.portName = route.portName ∨ other.portName = networkName →
    other.address ≠ route.address

/-- The condition on a path that brings a route. -/
structure AddsOwn (received : Received) (exchange : Exchange) : Prop where
  neighbor : (parseIP received.path.neighborIp).isSome = true
  speaker : ∀ other ∈ exchange.routes,
    other.portName = received.path.route.portName →
    other.sourceId = received.path.sourceId ∧
      other.neighborIp = received.path.neighborIp ∧
      other.vni = received.path.vniValue
  rows : Manageable
    (received.path.route.request received.path.tunnelRemoteIP)
    exchange.databases.ovs received.listing

/-- The condition on a step. -/
def Handler.Distinct (handler : Handler) (received : Received)
    (exchange : Exchange) : Prop :=
  handler.accepts received.path = true →
    if received.path.isWithdraw ||
        reflected exchange.databases.nb received.path.route then
      RemovesOwn handler.networkName exchange.routes received.path.route
    else AddsOwn received exchange

/-- A path of a remote speaker, on the condition. -/
inductive Handler.Step (handler : Handler) (localRouterID : String) :
    Exchange → Exchange → Prop where
  | receive {exchange next : Exchange} {received : Received} :
      received.path.IsRemoteSpeaker localRouterID →
      received.path.rd.isSome = true →
      received.fresh.New exchange.databases →
      handler.Distinct received exchange →
      handler.receive received exchange = some next →
      Handler.Step handler localRouterID exchange next

/-- What every step keeps. -/
structure Matched (networkName : String) (exchange : Exchange) : Prop where
  nb : exchange.databases.nb.WellFormed
  ovs : exchange.databases.ovs.WellFormed
  network : networkName ∈
    exchange.databases.nb.switches.map (·.name)
  tunnels : ∀ route ∈ exchange.routes, Tunnelled exchange.databases route
  unshared : Unshared exchange.routes

section Steps

variable {handler : Handler} {received : Received} {exchange : Exchange}

theorem Tunnelled.of_keeps {before after : Databases} {route : Route}
    (tunnelled : Tunnelled before route) (ovs : after.ovs = before.ovs)
    (address : HasAddress after.nb route.portName route.address) :
    Tunnelled after route where
  address := address
  tunnel := by
    rw [ovs]
    exact tunnelled.tunnel

theorem Unshared.sublist {routes fewer : List Route}
    (unshared : Unshared routes) (subset : fewer ⊆ routes) :
    Unshared fewer :=
  fun first firstListed second secondListed =>
    unshared first (subset firstListed) second (subset secondListed)

/-- Taking the address of a route away keeps the tunnels of the others. -/
theorem matched_removed {after : Databases} {route : Route}
    (matched : Matched handler.networkName exchange)
    (nb : after.nb.WellFormed)
    (switches : after.nb.switches.map (·.name) =
      exchange.databases.nb.switches.map (·.name))
    (ovs : after.ovs = exchange.databases.ovs)
    (keeps : ∀ other ∈ exchange.routes, other ≠ route →
      HasAddress after.nb other.portName other.address) :
    Matched handler.networkName
      ⟨after, exchange.routes.filter fun other => other != route⟩ := by
  have listed : ∀ other ∈ exchange.routes.filter (fun other =>
      other != route), other ∈ exchange.routes ∧ other ≠ route := by
    intro other member
    obtain ⟨member, different⟩ := List.mem_filter.mp member
    exact ⟨member, by simpa using different⟩
  exact
    { nb := nb
      ovs := by
        rw [ovs]
        exact matched.ovs
      network := by
        rw [switches]
        exact matched.network
      tunnels := fun other member =>
        (matched.tunnels other (listed other member).1).of_keeps ovs
          (keeps other (listed other member).1 (listed other member).2)
      unshared := matched.unshared.sublist
        fun other member => (listed other member).1 }

theorem matched_withdrawAddress {route : Route}
    (matched : Matched handler.networkName exchange)
    (own : RemovesOwn handler.networkName exchange.routes route) :
    ∀ other ∈ exchange.routes, other ≠ route →
      HasAddress (withdrawAddress exchange.databases.nb handler.networkName
        route.portName route.mac route.ip) other.portName other.address := by
  intro other listed different
  exact hasAddress_withdrawAddress matched.nb
    (matched.tunnels other listed).address (own other listed different)

/-- A withdrawal keeps the tunnels of the other routes. -/
theorem matched_withdrawn {route : Route}
    (matched : Matched handler.networkName exchange)
    (own : RemovesOwn handler.networkName exchange.routes route) :
    Matched handler.networkName
      ⟨(withdrawRemoteOVSDBRoute exchange.databases handler.networkName
          route.portName route.portName route.mac route.ip).2,
        exchange.routes.filter fun other => other != route⟩ := by
  have wellFormed : (withdrawAddress exchange.databases.nb
      handler.networkName route.portName route.mac route.ip).WellFormed :=
    wellFormed_withdrawAddress matched.nb
  have switches : (withdrawAddress exchange.databases.nb handler.networkName
      route.portName route.mac route.ip).switches =
        exchange.databases.nb.switches :=
    switches_withdrawAddress matched.nb
  have keeps := matched_withdrawAddress matched own
  unfold withdrawRemoteOVSDBRoute
  dsimp only
  cases found : getVtep (withdrawAddress exchange.databases.nb
      handler.networkName route.portName route.mac route.ip)
      route.portName with
  | none =>
      exact matched_removed matched wellFormed (by rw [switches]) rfl keeps
  | some lsp =>
      dsimp only
      by_cases empty : lsp.addresses.isEmpty = true
      · rw [if_pos empty]
        obtain ⟨ovs, settled, names, others⟩ :=
          @serveDelVtep_keeps ⟨withdrawAddress exchange.databases.nb
            handler.networkName route.portName route.mac route.ip,
            exchange.databases.ovs⟩ handler.networkName route.portName
            route.portName lsp wellFormed matched.ovs found
        refine matched_removed matched settled
          (names.trans (by rw [switches])) ovs ?_
        intro other listed different
        have has := keeps other listed different
        refine others _ _ ?_ has
        intro same
        obtain ⟨row, rowFound, member⟩ := has
        rw [same, found] at rowFound
        cases rowFound
        rw [List.isEmpty_iff.mp empty] at member
        cases member
      · rw [if_neg empty]
        exact matched_removed matched wellFormed (by rw [switches]) rfl keeps

theorem exists_switchNamed {nb : Northbound} {name : String}
    (listed : name ∈ nb.switches.map (·.name)) :
    ∃ ls ∈ nb.switches, switchNamed nb name = some ls := by
  obtain ⟨row, rowListed, named⟩ := List.mem_map.mp listed
  have present : (switchNamed nb name).isSome = true := by
    unfold switchNamed
    rw [List.find?_isSome]
    exact ⟨row, rowListed, by simp [named]⟩
  obtain ⟨ls, found⟩ := Option.isSome_iff_exists.mp present
  exact ⟨ls, List.mem_of_find?_eq_some found, found⟩

/-- What a call for a tunnel leaves behind. -/
structure VtepAdded (request : VtepRequest) (before after : Databases) :
    Prop where
  nb : after.nb.WellFormed
  ovs : after.ovs.WellFormed
  switches : after.nb.switches.map (·.name) =
    before.nb.switches.map (·.name)
  rows : ∀ row ∈ before.nb.ports, row ∈ after.nb.ports
  port : (getVtep after.nb request.lspName).isSome = true
  tunnel : ∃ row ∈ after.ovs.interfaces, row.name = request.vxlanName ∧
    UpToDate request row
  others : ∀ row ∈ before.ovs.interfaces, row.name ≠ request.vxlanName →
    row ∈ after.ovs.interfaces

theorem serveAddVtep_added {databases : Databases} {networkName : String}
    {request : VtepRequest} {listing : RowLists} {fresh : FreshUuids}
    (nb : databases.nb.WellFormed) (ovs : databases.ovs.WellFormed)
    (network : networkName ∈ databases.nb.switches.map (·.name))
    (new : fresh.New databases)
    (rows : Manageable request databases.ovs listing) :
    ∃ lsp after, serveAddVtep databases networkName request listing fresh =
        (.ok lsp, after) ∧
      VtepAdded request databases after := by
  obtain ⟨ls, switchListed, found⟩ := exists_switchNamed network
  obtain ⟨next, ported, port⟩ := @ensurePort_ensured databases.nb ls
    request.lspName fresh.lsp nb switchListed new.lsp
  obtain ⟨after, tunnel, settled, row, others⟩ :=
    ensureTunnel_manageable ovs new.ovs.iface new.ovs.port rows
  obtain ⟨lsp, lspFound⟩ := Option.isSome_iff_exists.mp port.found
  refine ⟨lsp, ⟨next, after⟩, ?_,
    { nb := port.wellFormed
      ovs := settled
      switches := port.switches
      rows := fun row listed => (port.ports row).mpr (.inl listed)
      port := port.found
      tunnel := row
      others := others }⟩
  unfold serveAddVtep addVtep
  rw [found]
  dsimp only
  rw [ported]
  dsimp only
  rw [tunnel]
  dsimp only
  rw [lspFound]

theorem VtepAdded.hasAddress {request : VtepRequest}
    {before after : Databases} {name address : String}
    (added : VtepAdded request before after) (nb : before.nb.WellFormed)
    (has : HasAddress before.nb name address) :
    HasAddress after.nb name address := by
  obtain ⟨lsp, found, member⟩ := has
  obtain ⟨listed, named⟩ := (getVtep_eq_some nb).mp found
  exact ⟨lsp, (getVtep_eq_some added.nb).mpr
    ⟨added.rows lsp listed, named⟩, member⟩

theorem hasAddress_addClient {nb : Northbound} {lspName mac ip : String}
    (wellFormed : nb.WellFormed)
    (found : (getVtep nb lspName).isSome = true) :
    HasAddress ((ClientCall.addClient mac ip).serve lspName nb).2 lspName
      (addressText mac ip) := by
  obtain ⟨row, found⟩ := Option.isSome_iff_exists.mp found
  have spec := (serve_found wellFormed found (.addClient mac ip)).1
  have named := getVtep_name found
  refine ⟨withAddresses row ((ClientCall.addClient mac ip).perform
    row.addresses), ?_, mem_perform_addClient.mpr (.inr rfl)⟩
  have read := spec.getVtep
  rw [named] at read
  exact read

/-- The tunnel of a request is the one of every route with its port, its
neighbor and its identifier. -/
theorem tunnel_of_upToDate {route other : Route} {row : Interface}
    (named : row.name = route.portName)
    (upToDate : UpToDate (route.request route.neighborIp) row)
    (port : other.portName = route.portName)
    (neighbor : other.neighborIp = route.neighborIp)
    (vni : other.vni = route.vni) :
    row.name = other.portName ∧ row.type = "vxlan" ∧
      entry row.externalIDs "iface-id" = other.portName ∧
      entry row.options "remote_ip" = other.neighborIp ∧
      entry row.options "key" = toString other.vni := by
  obtain ⟨_, carried⟩ := upToDate.options
  unfold VtepRequest.carried at carried
  simp only [Bool.and_eq_true, beq_iff_eq] at carried
  rw [port, neighbor, vni]
  refine ⟨named, upToDate.type, ?_, carried.1.1, carried.1.2⟩
  rw [upToDate.externalIDs.2]
  exact route.lspName_request _

/-- A new route has its tunnel, and the others keep theirs. -/
theorem matched_added {route : Route} {after : Databases}
    (matched : Matched handler.networkName exchange)
    (added : VtepAdded (route.request route.neighborIp) exchange.databases
      after)
    (speaker : ∀ other ∈ exchange.routes,
      other.portName = route.portName → other.sourceId = route.sourceId ∧
        other.neighborIp = route.neighborIp ∧ other.vni = route.vni) :
    Matched handler.networkName
      ⟨⟨((ClientCall.addClient route.mac route.ip).serve route.portName
          after.nb).2, after.ovs⟩,
        route :: exchange.routes.filter fun other => other != route⟩ := by
  have frame := serve_frame (.addClient route.mac route.ip) route.portName
    added.nb
  have speakerToo : ∀ other ∈ route :: exchange.routes.filter (fun other =>
      other != route), other.portName = route.portName →
        other.sourceId = route.sourceId ∧
          other.neighborIp = route.neighborIp ∧ other.vni = route.vni := by
    intro other listed same
    rcases List.mem_cons.mp listed with rfl | old
    · exact ⟨rfl, rfl, rfl⟩
    · exact speaker other (List.mem_filter.mp old).1 same
  have port : (getVtep after.nb route.portName).isSome = true := by
    have there := added.port
    rwa [route.lspName_request] at there
  obtain ⟨row, rowListed, named, upToDate⟩ := added.tunnel
  rw [route.vxlanName_request] at named
  refine
    { nb := frame.1
      ovs := added.ovs
      network := by
        rw [frame.2, added.switches]
        exact matched.network
      tunnels := ?_
      unshared := ?_ }
  · intro other listed
    refine { address := ?_, tunnel := ?_ }
    · rcases List.mem_cons.mp listed with rfl | old
      · exact hasAddress_addClient added.nb port
      · apply hasAddress_serve added.nb
        · exact added.hasAddress matched.nb
            (matched.tunnels other (List.mem_filter.mp old).1).address
        · intro _ addresses member
          exact mem_perform_addClient.mpr (.inl member)
    · by_cases same : other.portName = route.portName
      · obtain ⟨_, neighbor, vni⟩ := speakerToo other listed same
        exact ⟨row, rowListed,
          tunnel_of_upToDate named upToDate same neighbor vni⟩
      · rcases List.mem_cons.mp listed with rfl | old
        · exact absurd rfl same
        · obtain ⟨iface, ifaceListed, ifaceNamed, columns⟩ :=
            (matched.tunnels other (List.mem_filter.mp old).1).tunnel
          refine ⟨iface, added.others iface ifaceListed ?_, ifaceNamed,
            columns⟩
          rw [ifaceNamed, route.vxlanName_request]
          exact same
  · intro first firstListed second secondListed same
    by_cases shared : first.portName = route.portName
    · obtain ⟨source, neighbor, vni⟩ := speakerToo first firstListed shared
      obtain ⟨source', neighbor', vni'⟩ :=
        speakerToo second secondListed (same.symm.trans shared)
      exact ⟨source.trans source'.symm, neighbor.trans neighbor'.symm,
        vni.trans vni'.symm⟩
    · rcases List.mem_cons.mp firstListed with rfl | firstOld
      · exact absurd rfl shared
      rcases List.mem_cons.mp secondListed with rfl | secondOld
      · exact absurd same shared
      exact matched.unshared first (List.mem_filter.mp firstOld).1 second
        (List.mem_filter.mp secondOld).1 same

theorem tunnelRemoteIP_eq {path : RemotePath}
    (parsed : (parseIP path.neighborIp).isSome = true) :
    path.tunnelRemoteIP = path.neighborIp := by
  obtain ⟨ip, same⟩ := Option.isSome_iff_exists.mp parsed
  unfold RemotePath.tunnelRemoteIP
  rw [same]
  rfl

theorem importPath_added (accepted : handler.accepts received.path = true)
    (brings : (received.path.isWithdraw ||
      reflected exchange.databases.nb received.path.route) = false)
    (served : (serveAddVtep exchange.databases handler.networkName
      (received.path.route.request received.path.tunnelRemoteIP)
      received.listing received.fresh).1.isOk = true) :
    handler.importPath received exchange.databases =
      ⟨((ClientCall.addClient received.path.route.mac
          received.path.route.ip).serve received.path.route.portName
          (serveAddVtep exchange.databases handler.networkName
            (received.path.route.request received.path.tunnelRemoteIP)
            received.listing received.fresh).2.nb).2,
        (serveAddVtep exchange.databases handler.networkName
          (received.path.route.request received.path.tunnelRemoteIP)
          received.listing received.fresh).2.ovs⟩ := by
  rw [Bool.or_eq_false_iff] at brings
  obtain ⟨lsp, success⟩ := exists_of_isOk served
  unfold Handler.importPath
  dsimp only
  rw [accepted, brings.1, brings.2]
  generalize serveAddVtep exchange.databases handler.networkName
    (received.path.route.request received.path.tunnelRemoteIP)
    received.listing received.fresh = result at success ⊢
  obtain ⟨outcome, after⟩ := result
  cases success
  rfl

theorem record_added
    (accepted : handler.accepts received.path = true)
    (brings : (received.path.isWithdraw ||
      reflected exchange.databases.nb received.path.route) = false) :
    handler.record received.path exchange =
      received.path.route :: exchange.routes.filter fun route =>
        route != received.path.route := by
  unfold Handler.record
  rw [accepted, brings]
  rfl

/-- The handler carries on with a route distinguisher that it can read. -/
theorem receive_eq_some (readable : received.path.rd.isSome = true) :
    handler.receive received exchange =
      some ⟨handler.importPath received exchange.databases,
        handler.record received.path exchange⟩ := by
  obtain ⟨parts, given⟩ := Option.isSome_iff_exists.mp readable
  unfold Handler.receive handlePathOVSDB
  rw [given]
  rfl

/-- Every step on the condition keeps the tunnels of the routes. -/
theorem matched_step {localRouterID : String} {next : Exchange}
    (matched : Matched handler.networkName exchange)
    (step : handler.Step localRouterID exchange next) :
    Matched handler.networkName next := by
  cases step with
  | receive remote readable new distinct handled =>
      rename_i received
      obtain rfl := Option.some.inj
        ((receive_eq_some readable).symm.trans handled)
      unfold Handler.importPath Handler.record
      dsimp only
      by_cases accepted : handler.accepts received.path = true
      · have condition := distinct accepted
        rw [accepted]
        by_cases withdrawn : received.path.isWithdraw = true
        · rw [withdrawn, Bool.true_or, if_pos rfl] at condition
          rw [withdrawn]
          exact matched_withdrawn matched condition
        · rw [Bool.not_eq_true] at withdrawn
          rw [withdrawn, Bool.false_or] at condition
          rw [withdrawn, Bool.false_or]
          by_cases known : reflected exchange.databases.nb
              received.path.route = true
          · rw [if_pos known] at condition
            rw [known]
            exact matched_removed matched
              (wellFormed_withdrawAddress matched.nb)
              (congrArg (List.map (·.name))
                (switches_withdrawAddress matched.nb)) rfl
              (matched_withdrawAddress matched condition)
          · rw [if_neg known] at condition
            rw [Bool.not_eq_true] at known
            rw [known]
            obtain ⟨lsp, after, served, added⟩ := serveAddVtep_added
              matched.nb matched.ovs matched.network new condition.rows
            rw [served]
            rw [tunnelRemoteIP_eq condition.neighbor] at added
            exact matched_added matched added condition.speaker
      · rw [Bool.not_eq_true] at accepted
        rw [accepted]
        exact matched

/-- In a run whose steps all meet the condition the tunnels match their routes
in every state. -/
theorem remote_tunnels_match {localRouterID : String}
    {start exchange : Exchange} (nb : start.databases.nb.WellFormed)
    (ovs : start.databases.ovs.WellFormed)
    (network : handler.networkName ∈
      start.databases.nb.switches.map (·.name))
    (none : start.routes = [])
    (run : Relation.ReflTransGen (handler.Step localRouterID) start
      exchange) :
    (∀ route ∈ exchange.routes, Tunnelled exchange.databases route) ∧
      Unshared exchange.routes := by
  have matched : Matched handler.networkName exchange := by
    induction run with
    | refl =>
        refine
          { nb := nb
            ovs := ovs
            network := network
            tunnels := ?_
            unshared := ?_ }
        · rw [none]
          exact fun _ listed => nomatch listed
        · rw [none]
          exact fun _ listed => nomatch listed
    | tail _ step induction => exact matched_step induction step
  exact ⟨matched.tunnels, matched.unshared⟩

end Steps

def sampleHandler : Handler where
  networkName := "net"
  isVniProvisioned := fun vni => vni == 100

/-- A network without ports on a switch with an uplink. -/
def sampleStart : Exchange where
  databases := ⟨⟨[⟨"s", "net", []⟩], []⟩, uplinkSwitch⟩
  routes := []

theorem sampleStart_wellFormed :
    sampleStart.databases.nb.WellFormed where
  switchUuids := by decide
  uuids := by decide
  names := by decide
  leads := by decide
  referred := by decide

def samplePath (route : Route) (isWithdraw : Bool) : RemotePath where
  rd := some (route.neighborIp, route.vni)
  macAddress := route.mac
  ipAddress := route.ip
  labels := [route.vni]
  nextHop := ""
  neighborIp := route.neighborIp
  sourceId := route.sourceId
  isWithdraw := isWithdraw

/-- A path of a route, for a client that lists nothing. -/
def sampleReceived (route : Route) (isWithdraw : Bool) (fresh : FreshUuids) :
    Received :=
  ⟨samplePath route isWithdraw, .unmonitored, fresh⟩

def laterFresh : FreshUuids := ⟨"x", "y", "z"⟩

def firstRoute : Route :=
  ⟨"10.0.0.1", "192.0.2.1", 100, "m", "10.1.0.1"⟩

def againRoute : Route :=
  ⟨"10.0.0.1", "192.0.2.1", 100, "n", "10.1.0.2"⟩

/-- A host behind a speaker whose router identifier begins like the one of the
first. -/
def otherRoute : Route :=
  ⟨"10.0.0.10", "192.0.2.2", 100, "n", "10.1.0.2"⟩

def sharedRequest (remoteIP : String) : VtepRequest :=
  ⟨"rt-10-0-0-1", "rt-10-0-0-1", remoteIP, "100", "4789"⟩

/-- What the handler reads from the path of a route. -/
structure Reads (route : Route) : Prop where
  ip : (split '/' route.ip).headD "" = route.ip
  name : route.portName = "rt-10-0-0-1"
  request : route.request route.neighborIp = sharedRequest route.neighborIp
  neighbor : (parseIP (samplePath route false).neighborIp).isSome = true
  accepted (isWithdraw : Bool) :
    sampleHandler.accepts (samplePath route isWithdraw) = true

theorem firstRoute_reads : Reads firstRoute := by
  constructor <;> decide +kernel

theorem againRoute_reads : Reads againRoute := by
  constructor <;> decide +kernel

theorem otherRoute_reads : Reads otherRoute := by
  constructor <;> decide +kernel

/-- A call of `AddVtep` followed by a call of `AddClient`. -/
def tunnelAdded (databases : Databases) (route : Route)
    (fresh : FreshUuids) : Databases :=
  let added := (serveAddVtep databases "net"
    (sharedRequest route.neighborIp) .unmonitored fresh).2
  ⟨((ClientCall.addClient route.mac route.ip).serve "rt-10-0-0-1"
    added.nb).2, added.ovs⟩

section Samples

variable {route : Route} {exchange : Exchange} {fresh : FreshUuids}

theorem Reads.read (reads : Reads route) (isWithdraw : Bool) :
    (sampleReceived route isWithdraw fresh).path.route = route := by
  unfold RemotePath.route RemotePath.ip
  dsimp only [sampleReceived, samplePath]
  rw [reads.ip]
  rfl

theorem Reads.reads_request (reads : Reads route) :
    route.request (sampleReceived route false fresh).path.tunnelRemoteIP =
      sharedRequest route.neighborIp :=
  (congrArg route.request (tunnelRemoteIP_eq reads.neighbor)).trans
    reads.request

theorem Reads.receive (reads : Reads route)
    (foreign : reflected exchange.databases.nb route = false)
    (served : (serveAddVtep exchange.databases "net"
      (sharedRequest route.neighborIp) .unmonitored fresh).1.isOk = true) :
    sampleHandler.receive (sampleReceived route false fresh) exchange =
      some ⟨tunnelAdded exchange.databases route fresh,
        route :: exchange.routes.filter (· != route)⟩ := by
  have accepted : sampleHandler.accepts
      (sampleReceived route false fresh).path = true :=
    reads.accepted false
  have brings : ((sampleReceived route false fresh).path.isWithdraw ||
      reflected exchange.databases.nb
        (sampleReceived route false fresh).path.route) = false := by
    rw [reads.read, foreign]
    rfl
  have added := importPath_added accepted brings
    (by rw [reads.read, reads.reads_request]; exact served)
  rw [receive_eq_some rfl, added, record_added accepted brings, reads.read,
    reads.reads_request, reads.name]
  rfl

/-- The path of a host whose port is free or its own is a step. -/
theorem Reads.step (reads : Reads route)
    (remote : route.neighborIp ≠ "" ∧ route.sourceId ≠ "9.9.9.9")
    (new : fresh.New exchange.databases)
    (speaker : ∀ other ∈ exchange.routes,
      other.sourceId = route.sourceId ∧
        other.neighborIp = route.neighborIp ∧ other.vni = route.vni)
    (rows : Manageable (sharedRequest route.neighborIp)
      exchange.databases.ovs .unmonitored)
    (foreign : reflected exchange.databases.nb route = false)
    (served : (serveAddVtep exchange.databases "net"
      (sharedRequest route.neighborIp) .unmonitored fresh).1.isOk = true) :
    sampleHandler.Step "9.9.9.9" exchange
      ⟨tunnelAdded exchange.databases route fresh,
        route :: exchange.routes.filter (· != route)⟩ := by
  refine @Handler.Step.receive _ _ _ _ (sampleReceived route false fresh)
    remote rfl new ?_ (reads.receive foreign served)
  intro _
  rw [reads.read, foreign]
  exact
    { neighbor := reads.neighbor
      speaker := fun other listed _ => speaker other listed
      rows := by
        rw [reads.read, reads.reads_request]
        exact rows }

end Samples

def firstAdded : Exchange :=
  ⟨tunnelAdded sampleStart.databases firstRoute sampleFresh, [firstRoute]⟩

/-- The second speaker is given the tunnel of the first one, and a route
distinguisher without an IP address ends the handler. -/
theorem speakers_share_tunnel :
    (∃ exchange,
      (sampleHandler.receive (sampleReceived firstRoute false sampleFresh)
        sampleStart).bind (sampleHandler.receive
          (sampleReceived otherRoute false laterFresh)) = some exchange ∧
      exchange.routes = [otherRoute, firstRoute] ∧
      firstRoute.portName = otherRoute.portName ∧
      ¬ Tunnelled exchange.databases otherRoute) ∧
    sampleHandler.receive
      { sampleReceived otherRoute false laterFresh with
        path := { (sampleReceived otherRoute false laterFresh).path with
          rd := none } } sampleStart = none := by
  have first : sampleHandler.receive
      (sampleReceived firstRoute false sampleFresh) sampleStart =
        some firstAdded :=
    firstRoute_reads.receive (by decide +kernel) (by decide +kernel)
  have second : sampleHandler.receive
      (sampleReceived otherRoute false laterFresh) firstAdded = some
        ⟨tunnelAdded firstAdded.databases otherRoute laterFresh,
          [otherRoute, firstRoute]⟩ :=
    otherRoute_reads.receive (by decide +kernel) (by decide +kernel)
  refine ⟨⟨_, by rw [first]; exact second, rfl, ?_, ?_⟩, rfl⟩
  · rw [firstRoute_reads.name, otherRoute_reads.name]
  · intro tunnelled
    have kept : ∀ iface ∈ (tunnelAdded firstAdded.databases otherRoute
        laterFresh).ovs.interfaces,
        entry iface.options "remote_ip" ≠ "192.0.2.2" := by
      decide +kernel
    obtain ⟨iface, listed, _, _, _, remote, _⟩ := tunnelled.tunnel
    exact kept iface listed remote

/-- The second host is added to the tunnel that is there. -/
def againAdded : Exchange :=
  ⟨tunnelAdded firstAdded.databases againRoute laterFresh,
    [againRoute, firstRoute]⟩

theorem first_step : sampleHandler.Step "9.9.9.9" sampleStart firstAdded := by
  refine firstRoute_reads.step (by decide) ⟨by decide, sampleFresh_unused⟩
    (by simp [sampleStart]) (.vacant ⟨?_, ?_, ?_⟩) ?_ ?_
  all_goals decide +kernel

theorem again_step : sampleHandler.Step "9.9.9.9" firstAdded againAdded := by
  have tunnel : ∃ row ∈ firstAdded.databases.ovs.interfaces,
      row.name = (sharedRequest "192.0.2.1").vxlanName ∧
        UpToDate (sharedRequest "192.0.2.1") row := by
    decide +kernel
  obtain ⟨row, listed, named, upToDate⟩ := tunnel
  refine againRoute_reads.step (by decide) ⟨?_, ?_, ?_⟩ (by decide)
    (.current listed named upToDate) ?_ ?_
  all_goals decide +kernel

theorem withdraw_step : sampleHandler.Step "9.9.9.9" againAdded
    ⟨sampleHandler.importPath
      (sampleReceived firstRoute true ⟨"u", "v", "w"⟩) againAdded.databases,
      [againRoute]⟩ := by
  refine @Handler.Step.receive _ _ _ _
    (sampleReceived firstRoute true ⟨"u", "v", "w"⟩)
    ⟨by decide, by decide⟩ rfl ⟨?_, ?_, ?_⟩ ?_ ?_
  · decide +kernel
  · decide +kernel
  · decide +kernel
  · intro _
    rw [firstRoute_reads.read]
    exact (if_pos rfl).mpr (by unfold RemovesOwn; decide +kernel)
  · have accepted : sampleHandler.accepts
        (sampleReceived firstRoute true ⟨"u", "v", "w"⟩).path = true :=
      firstRoute_reads.accepted true
    rw [receive_eq_some rfl]
    unfold Handler.record
    rw [accepted, firstRoute_reads.read]
    rfl

/-- Two hosts of one speaker are advertised and the first is withdrawn. -/
theorem remote_tunnels_match_sample :
    ∃ exchange,
      Relation.ReflTransGen (sampleHandler.Step "9.9.9.9") sampleStart
        exchange ∧
      exchange.routes = [againRoute] ∧
      Tunnelled exchange.databases againRoute := by
  have run := ((Relation.ReflTransGen.single first_step).tail
    again_step).tail withdraw_step
  exact ⟨_, run, rfl, (remote_tunnels_match sampleStart_wellFormed
    uplinkSwitch_wellFormed (by decide) rfl run).1 _
      (List.mem_singleton_self _)⟩

end EvpnForOvn.OvsdbMgmt

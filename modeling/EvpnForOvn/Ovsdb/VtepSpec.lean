import EvpnForOvn.Ovsdb.Vtep

/-!
# What a call for a tunnel does to the switch

The transactions of the call on a database between two transactions: an
interface is rewritten, a port is linked to another interface, or a new
interface is installed under a new port.  `Ensured` lists the ways in which a
call ends.
-/

namespace EvpnForOvn.OvsdbMgmt

open Go Endpoint Evpn Vswitch

theorem find_of_perm {α : Type} {listed rows : List α} {accept : α → Bool}
    {row : α} (permuted : listed.Perm rows) (member : row ∈ rows)
    (accepted : accept row = true)
    (only : ∀ other ∈ rows, accept other = true → other = row) :
    listed.find? accept = some row := by
  have present : (listed.find? accept).isSome := by
    rw [List.find?_isSome]
    exact ⟨row, permuted.mem_iff.mpr member, accepted⟩
  obtain ⟨found, same⟩ := Option.isSome_iff_exists.mp present
  rw [same, only found
    (permuted.mem_iff.mp (List.mem_of_find?_eq_some same))
    (List.find?_some same)]

theorem mem_of_find_perm {α : Type} {listed rows : List α}
    {accept : α → Bool} {row : α} (permuted : listed.Perm rows)
    (found : listed.find? accept = some row) :
    row ∈ rows ∧ accept row = true :=
  ⟨permuted.mem_iff.mp (List.mem_of_find?_eq_some found),
    List.find?_some found⟩

theorem find_none_of_perm {α : Type} {listed rows : List α}
    {accept : α → Bool} (permuted : listed.Perm rows) :
    listed.find? accept = none ↔ ∀ row ∈ rows, accept row = false := by
  rw [List.find?_eq_none]
  constructor
  · intro none row member
    simpa using none row (permuted.mem_iff.mpr member)
  · intro none row member
    simpa using none row (permuted.mem_iff.mp member)

section Transactions

variable {database next : Vswitch}

theorem transactVtep_eq_ok {operations : List VtepOperation}
    (applied : (operations.foldl VtepOperation.apply database).collect = next)
    (wellFormed : next.WellFormed) :
    transactVtep database operations = .ok next := by
  unfold transactVtep
  simp only [applied, wellFormed.consistent, if_true]

theorem transactVtep_repeated {operations : List VtepOperation}
    (applied : (operations.foldl VtepOperation.apply database).collect = next)
    (repeated : ¬ (next.interfaces.map (·.name)).Nodup) :
    transactVtep database operations = .error .identicalValues := by
  unfold transactVtep
  simp only [applied]
  simp [consistent, uniqueNames, repeated]

/-- The database with an interface rewritten. -/
def rewriteInterface (database : Vswitch) (name : String)
    (columns : InterfaceColumns) : Vswitch :=
  VtepOperation.apply database (.updateInterface name columns)

theorem map_interfaces_rewrite (name : String) (columns : InterfaceColumns)
    {column : Interface → String}
    (kept : ∀ row, column (columns.write row) = column row) :
    (rewriteInterface database name columns).interfaces.map column =
      database.interfaces.map column := by
  change (database.interfaces.map _).map column = _
  rw [List.map_map]
  apply List.map_congr_left
  intro row _
  by_cases selected : row.name = name
  · simp [selected, kept]
  · simp [selected]

theorem mem_interfaces_rewrite {name : String} {columns : InterfaceColumns}
    {row : Interface} :
    row ∈ (rewriteInterface database name columns).interfaces ↔
      ∃ old ∈ database.interfaces,
        (if old.name = name then columns.write old else old) = row :=
  List.mem_map

theorem wellFormed_rewriteInterface (wellFormed : database.WellFormed)
    (name : String) (columns : InterfaceColumns) :
    (rewriteInterface database name columns).WellFormed := by
  have uuids : (rewriteInterface database name
      columns).interfaces.map (·.uuid) =
        database.interfaces.map (·.uuid) :=
    map_interfaces_rewrite name columns fun _ => rfl
  have names : (rewriteInterface database name
      columns).interfaces.map (·.name) =
        database.interfaces.map (·.name) :=
    map_interfaces_rewrite name columns fun _ => rfl
  have uuid_mem : ∀ uuid, (∃ row ∈ (rewriteInterface database name
      columns).interfaces, row.uuid = uuid) ↔
        ∃ row ∈ database.interfaces, row.uuid = uuid := by
    intro uuid
    rw [← List.mem_map, ← List.mem_map, uuids]
  exact
    { wellFormed with
      interfaceUuids := uuids ▸ wellFormed.interfaceUuids
      interfaceNames := names ▸ wellFormed.interfaceNames
      portLeads := fun port listed uuid member =>
        (uuid_mem uuid).mpr (wellFormed.portLeads port listed uuid member)
      interfaceReferred := by
        intro row listed
        obtain ⟨old, oldListed, same⟩ := (uuid_mem row.uuid).mp
          ⟨row, listed, rfl⟩
        rw [← same]
        exact wellFormed.interfaceReferred old oldListed }

theorem attempt_rewrite (wellFormed : database.WellFormed) (name : String)
    (columns : InterfaceColumns) :
    VtepRequest.attempt database (.updateInterface name columns) =
      rewriteInterface database name columns := by
  have kept := wellFormed_rewriteInterface wellFormed name columns
  have committed : transactVtep database [.updateInterface name columns] =
      .ok (rewriteInterface database name columns) :=
    transactVtep_eq_ok kept.collect_eq kept
  unfold VtepRequest.attempt
  rw [committed]

theorem rewriteInterface_none (database : Vswitch) (name : String) :
    rewriteInterface database name ⟨none, none, none⟩ = database := by
  have same : (database.interfaces.map fun row =>
      if row.name = name then InterfaceColumns.write ⟨none, none, none⟩ row
      else row) = database.interfaces := by
    rw [List.map_congr_left (g := id), List.map_id]
    intro row _
    by_cases selected : row.name = name
    · rw [if_pos selected]
      rfl
    · rw [if_neg selected]
      rfl
  unfold rewriteInterface VtepOperation.apply
  dsimp only
  rw [same]

/-- The database with another interface under a port. -/
def relinked (database : Vswitch) (interfaces : List Interface)
    (port target : String) : Vswitch :=
  { database with
    interfaces := interfaces
    ports := database.ports.map fun row =>
      if row.uuid = port then { row with interfaces := [target] } else row }

section Relinked

variable {interfaces : List Interface} {port target : String}

theorem map_ports_relinked {column : Port → String}
    (kept : ∀ row : Port, column { row with interfaces := [target] } =
      column row) :
    (relinked database interfaces port target).ports.map column =
      database.ports.map column := by
  change (database.ports.map _).map column = _
  rw [List.map_map]
  apply List.map_congr_left
  intro row _
  by_cases selected : row.uuid = port
  · rw [Function.comp_apply, if_pos selected]
    exact kept row
  · rw [Function.comp_apply, if_neg selected]

/-- Every bridge and every port stays. -/
theorem mem_ports_collect_relinked (wellFormed : database.WellFormed)
    {row : Port} :
    row ∈ (relinked database interfaces port target).collect.ports ↔
      row ∈ (relinked database interfaces port target).ports := by
  rw [mem_ports_collect]
  constructor
  · exact fun both => both.1
  · intro listed
    refine ⟨listed, ?_⟩
    have uuids : (relinked database interfaces port target).ports.map
        (·.uuid) = database.ports.map (·.uuid) :=
      map_ports_relinked fun _ => rfl
    have uuid : row.uuid ∈ database.ports.map (·.uuid) := by
      rw [← uuids]
      exact List.mem_map_of_mem listed
    obtain ⟨old, oldListed, same⟩ := List.mem_map.mp uuid
    obtain ⟨bridge, bridgeListed, member⟩ :=
      wellFormed.portReferred old oldListed
    rw [same] at member
    exact ⟨bridge, mem_bridges_collect.mpr
      ⟨bridgeListed, wellFormed.bridgeReferred bridge bridgeListed⟩, member⟩

/-- A port may be linked to an interface that is there. -/
theorem wellFormed_relinked (wellFormed : database.WellFormed)
    (uuids : (interfaces.map (·.uuid)).Nodup)
    (names : (interfaces.map (·.name)).Nodup)
    (kept : ∀ row ∈ database.interfaces, row ∈ interfaces)
    (leads : ∃ row ∈ interfaces, row.uuid = target) :
    (relinked database interfaces port target).collect.WellFormed := by
  have portUuids : (relinked database interfaces port target).ports.map
      (·.uuid) = database.ports.map (·.uuid) :=
    map_ports_relinked fun _ => rfl
  have portNames : (relinked database interfaces port target).ports.map
      (·.name) = database.ports.map (·.name) :=
    map_ports_relinked fun _ => rfl
  have distinctUuids := wellFormed.portUuids
  have distinctNames := wellFormed.portNames
  rw [← portUuids] at distinctUuids
  rw [← portNames] at distinctNames
  refine wellFormed_collect wellFormed.rootUuids wellFormed.bridgeUuids
    distinctUuids uuids (consistent_iff.mpr ?_)
  refine ⟨wellFormed.bridgeNames.sublist (bridges_collect_sublist.map _),
    distinctNames.sublist (ports_collect_sublist.map _),
    names.sublist (interfaces_collect_sublist.map _), ?_, ?_, ?_⟩
  · intro root listed uuid member
    obtain ⟨bridge, bridgeListed, same⟩ :=
      wellFormed.rootLeads root listed uuid member
    exact ⟨bridge, mem_bridges_collect.mpr
      ⟨bridgeListed, root, listed, same ▸ member⟩, same⟩
  · intro bridge listed uuid member
    obtain ⟨old, oldListed, same⟩ := wellFormed.bridgeLeads bridge
      (mem_bridges_collect.mp listed).1 uuid member
    have there : uuid ∈ (relinked database interfaces port target).ports.map
        (·.uuid) := by
      rw [portUuids, ← same]
      exact List.mem_map_of_mem oldListed
    obtain ⟨row, rowListed, rowSame⟩ := List.mem_map.mp there
    exact ⟨row, (mem_ports_collect_relinked wellFormed).mpr rowListed,
      rowSame⟩
  · intro row listed uuid member
    have stays : ∀ interface ∈ interfaces, interface.uuid = uuid →
        ∃ interface ∈ (relinked database interfaces port
          target).collect.interfaces, interface.uuid = uuid :=
      fun interface interfaceListed same =>
        ⟨interface, mem_interfaces_collect.mpr
          ⟨interfaceListed, row, listed, same ▸ member⟩, same⟩
    obtain ⟨old, oldListed, same⟩ := List.mem_map.mp
      ((mem_ports_collect_relinked wellFormed).mp listed)
    by_cases selected : old.uuid = port
    · rw [if_pos selected] at same
      rw [← same] at member
      obtain ⟨interface, interfaceListed, is⟩ := leads
      exact stays interface interfaceListed
        (is.trans (List.mem_singleton.mp member).symm)
    · rw [if_neg selected] at same
      rw [← same] at member
      obtain ⟨interface, interfaceListed, is⟩ :=
        wellFormed.portLeads old oldListed uuid member
      exact stays interface (kept interface interfaceListed) is

end Relinked

/-- The database with a new interface under a new port of the integration
bridge. -/
def installed (database : Vswitch) (interface : Interface) (port : Port) :
    Vswitch :=
  { roots := database.roots
    bridges := database.bridges.map fun row =>
      if row.name = "br-int" then
        { row with ports := insertReference port.uuid row.ports }
      else row
    ports := database.ports ++ [port]
    interfaces := database.interfaces ++ [interface] }

section Installed

variable {interface : Interface} {port : Port}

theorem installed_eq_grown {bridge : Bridge}
    (wellFormed : database.WellFormed) (listed : bridge ∈ database.bridges)
    (named : bridge.name = "br-int") :
    installed database interface port =
      grown database bridge.uuid interface port := by
  have bridges : (installed database interface port).bridges =
      (grown database bridge.uuid interface port).bridges := by
    apply List.map_congr_left
    intro row rowListed
    have same : row.name = "br-int" ↔ row.uuid = bridge.uuid := by
      constructor
      · intro rowNamed
        rw [wellFormed.bridge_eq_of_name rowListed listed
          (rowNamed.trans named.symm)]
      · intro sameUuid
        rw [wellFormed.bridge_eq_of_uuid rowListed listed sameUuid]
        exact named
    simp only [same]
  unfold installed grown at *
  simp only [Vswitch.mk.injEq, and_true, true_and]
  exact bridges

/-- A tunnel may be installed on an integration bridge that is there. -/
theorem wellFormed_installed (wellFormed : database.WellFormed)
    (only : port.interfaces = [interface.uuid])
    (freshInterface : ∀ row ∈ database.interfaces,
      row.uuid ≠ interface.uuid ∧ row.name ≠ interface.name)
    (freshPort : ∀ row ∈ database.ports,
      row.uuid ≠ port.uuid ∧ row.name ≠ port.name)
    (integration : ∃ bridge ∈ database.bridges, bridge.name = "br-int") :
    (installed database interface port).WellFormed := by
  obtain ⟨bridge, listed, named⟩ := integration
  rw [installed_eq_grown wellFormed listed named]
  exact wellFormed_grown wellFormed only freshInterface freshPort listed

/-- Without an integration bridge the new rows are dropped again. -/
theorem collect_installed (wellFormed : database.WellFormed)
    (freshInterface : ∀ row ∈ database.interfaces,
      row.uuid ≠ interface.uuid)
    (freshPort : ∀ row ∈ database.ports, row.uuid ≠ port.uuid)
    (none : ∀ bridge ∈ database.bridges, bridge.name ≠ "br-int") :
    (installed database interface port).collect = database := by
  have bridges : (installed database interface port).bridges =
      database.bridges := by
    change database.bridges.map _ = _
    rw [List.map_congr_left (g := id), List.map_id]
    intro bridge listed
    rw [if_neg (none bridge listed)]
    rfl
  have keptBridges : (database.bridges.filter fun row =>
      database.roots.any fun root => root.bridges.contains row.uuid) =
        database.bridges := by
    rw [List.filter_eq_self]
    intro bridge listed
    simpa using wellFormed.bridgeReferred bridge listed
  have keptPorts : ((database.ports ++ [port]).filter fun row =>
      database.bridges.any fun bridge => bridge.ports.contains row.uuid) =
        database.ports := by
    rw [List.filter_append, List.filter_eq_self.mpr, List.filter_eq_nil_iff.mpr,
      List.append_nil]
    · intro row listed
      rw [List.mem_singleton.mp listed]
      simp only [List.any_eq_true, List.contains_iff_mem, not_exists, not_and]
      intro bridge bridgeListed member
      obtain ⟨old, oldListed, same⟩ :=
        wellFormed.bridgeLeads bridge bridgeListed port.uuid member
      exact freshPort old oldListed same
    · intro row listed
      simpa using wellFormed.portReferred row listed
  have keptInterfaces : ((database.interfaces ++ [interface]).filter fun row =>
      database.ports.any fun port => port.interfaces.contains row.uuid) =
        database.interfaces := by
    rw [List.filter_append, List.filter_eq_self.mpr, List.filter_eq_nil_iff.mpr,
      List.append_nil]
    · intro row listed
      rw [List.mem_singleton.mp listed]
      simp only [List.any_eq_true, List.contains_iff_mem, not_exists, not_and]
      intro holder holderListed member
      obtain ⟨old, oldListed, same⟩ :=
        wellFormed.portLeads holder holderListed interface.uuid member
      exact freshInterface old oldListed same
    · intro row listed
      simpa using wellFormed.interfaceReferred row listed
  unfold collect
  rw [bridges]
  simp only [installed, keptBridges, keptPorts, keptInterfaces]

end Installed

end Transactions

section Request

variable {request : VtepRequest} {listing : Listing} {database : Vswitch}
  {resolved : Option Interface} {iface : Interface}

/-- The port of the tunnel: it has its name or refers to its interface. -/
def VtepRequest.Own (request : VtepRequest) (resolved : Option Interface)
    (port : Port) : Prop :=
  port.name = request.vxlanName ∨
    ∃ iface, resolved = some iface ∧ iface.uuid ∈ port.interfaces

theorem portExists_iff :
    request.portExists listing database resolved = true ↔
      ∃ port ∈ database.ports, request.Own resolved port := by
  unfold VtepRequest.portExists VtepRequest.Own
  rw [Bool.or_eq_true, List.any_eq_true]
  have named : (∃ port ∈ listing.portsByName database.ports,
      (port.name == request.vxlanName) = true) ↔
        ∃ port ∈ database.ports, port.name = request.vxlanName := by
    simp [(listing.portsByName_perm database.ports).mem_iff]
  rw [named]
  cases resolved with
  | none => simp
  | some iface =>
      simp only [List.any_eq_true, List.contains_iff_mem, Option.some.injEq,
        (listing.portsByInterface_perm database.ports).mem_iff]
      constructor
      · intro found
        rcases found with ⟨port, listed, named⟩ | ⟨port, listed, member⟩
        · exact ⟨port, listed, .inl named⟩
        · exact ⟨port, listed, .inr ⟨iface, rfl, member⟩⟩
      · intro found
        obtain ⟨port, listed, named | ⟨_, rfl, member⟩⟩ := found
        · exact .inl ⟨port, listed, named⟩
        · exact .inr ⟨port, listed, member⟩

theorem namedInterface_none :
    request.namedInterface listing database = none ↔
      ∀ row ∈ database.interfaces, row.name ≠ request.vxlanName := by
  unfold VtepRequest.namedInterface
  rw [find_none_of_perm (listing.interfacesByName_perm _)]
  simp

/-- The interface is there under the name of the tunnel or, when no interface
has this name, with its options. -/
theorem resolved_some
    (found : request.resolvedInterface listing database = some iface) :
    iface ∈ database.interfaces ∧
      (iface.name = request.vxlanName ∨
        (∀ row ∈ database.interfaces, row.name ≠ request.vxlanName) ∧
          request.carried iface.options = true) := by
  unfold VtepRequest.resolvedInterface at found
  rcases Option.or_eq_some_iff.mp found with named | ⟨none, reused⟩
  · obtain ⟨listed, accepted⟩ :=
      mem_of_find_perm (listing.interfacesByName_perm _) named
    exact ⟨listed, .inl (by simpa using accepted)⟩
  · rw [namedInterface_none] at none
    obtain ⟨listed, accepted⟩ :=
      mem_of_find_perm (listing.interfacesByTuple_perm _) reused
    rw [Bool.or_eq_true, beq_iff_eq] at accepted
    rcases accepted with named | carried
    · exact absurd named (none iface listed)
    · exact ⟨listed, .inr ⟨none, carried⟩⟩

theorem resolved_none
    (missing : request.resolvedInterface listing database = none) :
    ∀ row ∈ database.interfaces, row.name ≠ request.vxlanName :=
  namedInterface_none.mp (Option.or_eq_none_iff.mp missing).1

/-- What is written to the interface that is there. -/
def VtepRequest.resolvedColumns (request : VtepRequest) (iface : Interface) :
    InterfaceColumns :=
  if iface.name = request.vxlanName then request.neededColumns iface
  else ⟨none, none, some request.ifaceIDs⟩

theorem reconcileInterface_some (wellFormed : database.WellFormed)
    (found : request.resolvedInterface listing database = some iface) :
    request.reconcileInterface listing database =
      rewriteInterface database iface.name
        (request.resolvedColumns iface) := by
  unfold VtepRequest.reconcileInterface
  unfold VtepRequest.resolvedInterface at found
  rcases Option.or_eq_some_iff.mp found with named | ⟨none, reused⟩
  · have same : iface.name = request.vxlanName := by
      simpa using (mem_of_find_perm (listing.interfacesByName_perm _) named).2
    rw [named]
    unfold VtepRequest.resolvedColumns
    rw [if_pos same]
    dsimp only
    generalize request.neededColumns iface = columns
    obtain ⟨type, options, externalIDs⟩ := columns
    split
    · rename_i nothing
      simp only [Bool.and_eq_true, Option.isNone_iff_eq_none] at nothing
      obtain ⟨⟨rfl, rfl⟩, rfl⟩ := nothing
      rw [rewriteInterface_none]
    · exact attempt_rewrite wellFormed _ _
  · have other : iface.name ≠ request.vxlanName :=
      namedInterface_none.mp none iface
        (mem_of_find_perm (listing.interfacesByTuple_perm _) reused).1
    rw [none, reused]
    unfold VtepRequest.resolvedColumns
    rw [if_neg other]
    exact attempt_rewrite wellFormed _ _

theorem reconcileInterface_none
    (missing : request.resolvedInterface listing database = none) :
    request.reconcileInterface listing database = database := by
  unfold VtepRequest.resolvedInterface at missing
  obtain ⟨named, reused⟩ := Option.or_eq_none_iff.mp missing
  unfold VtepRequest.reconcileInterface
  rw [named, reused]

/-- The identifier of the interface of the tunnel. -/
def VtepRequest.target (resolved : Option Interface) (ifaceUUID : String) :
    String :=
  (resolved.map (·.uuid)).getD ifaceUUID

/-- The interfaces before the last transaction is collected. -/
def VtepRequest.candidates (request : VtepRequest)
    (resolved : Option Interface) (ifaceUUID : String)
    (reconciled : Vswitch) : List Interface :=
  match resolved with
  | some _ => reconciled.interfaces
  | none => reconciled.interfaces ++ [request.newInterface ifaceUUID]

inductive Ensured (request : VtepRequest) (listing : Listing)
    (ifaceUUID portUUID : String) (before reconciled : Vswitch) :
    Vswitch → Prop where
  | settled {first : Port} {iface : Interface} :
      request.resolvedInterface listing before = some iface →
      (listing.portsByName before.ports).head? = some first →
      iface.uuid ∈ first.interfaces →
      Ensured request listing ifaceUUID portUUID before reconciled reconciled
  | relinked {first : Port} :
      (∃ port ∈ before.ports,
        request.Own (request.resolvedInterface listing before) port) →
      (listing.portsByName before.ports).head? = some first →
      (∀ iface, request.resolvedInterface listing before = some iface →
        iface.uuid ∉ first.interfaces) →
      Ensured request listing ifaceUUID portUUID before reconciled
        (OvsdbMgmt.relinked reconciled
          (request.candidates (request.resolvedInterface listing before)
            ifaceUUID reconciled) first.uuid
          (VtepRequest.target (request.resolvedInterface listing before)
            ifaceUUID)).collect
  | installed {bridge : Bridge} :
      request.resolvedInterface listing before = none →
      (∀ port ∈ before.ports, port.name ≠ request.vxlanName) →
      bridge ∈ before.bridges → bridge.name = "br-int" →
      Ensured request listing ifaceUUID portUUID before reconciled
        (OvsdbMgmt.installed before (request.newInterface ifaceUUID)
          (request.newPort portUUID ifaceUUID))
  | dropped :
      request.resolvedInterface listing before = none →
      (∀ port ∈ before.ports, port.name ≠ request.vxlanName) →
      (∀ bridge ∈ before.bridges, bridge.name ≠ "br-int") →
      Ensured request listing ifaceUUID portUUID before reconciled before

/-- The updates of the interface touch nothing else. -/
structure Reconciled (before after : Vswitch) : Prop where
  wellFormed : after.WellFormed
  roots : after.roots = before.roots
  bridges : after.bridges = before.bridges
  ports : after.ports = before.ports
  uuids : after.interfaces.map (·.uuid) = before.interfaces.map (·.uuid)
  names : after.interfaces.map (·.name) = before.interfaces.map (·.name)

theorem reconciled (wellFormed : database.WellFormed) :
    Reconciled database (request.reconcileInterface listing database) := by
  cases found : request.resolvedInterface listing database with
  | none =>
      rw [reconcileInterface_none found]
      exact
        { wellFormed := wellFormed
          roots := rfl
          bridges := rfl
          ports := rfl
          uuids := rfl
          names := rfl }
  | some iface =>
      rw [reconcileInterface_some wellFormed found]
      exact
        { wellFormed := wellFormed_rewriteInterface wellFormed _ _
          roots := rfl
          bridges := rfl
          ports := rfl
          uuids := map_interfaces_rewrite _ _ fun _ => rfl
          names := map_interfaces_rewrite _ _ fun _ => rfl }

variable {ifaceUUID portUUID : String}

/-- An interface that is there belongs to some port. -/
theorem resolvedInterface_eq_none (wellFormed : database.WellFormed)
    (none : ¬ ∃ port ∈ database.ports,
      request.Own (request.resolvedInterface listing database) port) :
    request.resolvedInterface listing database = .none := by
  cases found : request.resolvedInterface listing database with
  | none => rfl
  | some iface =>
      obtain ⟨port, listed, member⟩ :=
        wellFormed.interfaceReferred iface (resolved_some found).1
      exact absurd ⟨port, listed, .inr ⟨iface, found, member⟩⟩ none

/-- The candidates of the last transaction are well formed. -/
theorem candidates_ready (wellFormed : database.WellFormed)
    (fresh : ∀ row ∈ database.interfaces, row.uuid ≠ ifaceUUID) :
    ((request.candidates (request.resolvedInterface listing database)
        ifaceUUID (request.reconcileInterface listing database)).map
          (·.uuid)).Nodup ∧
      ((request.candidates (request.resolvedInterface listing database)
        ifaceUUID (request.reconcileInterface listing database)).map
          (·.name)).Nodup ∧
      (∀ row ∈ (request.reconcileInterface listing database).interfaces,
        row ∈ request.candidates (request.resolvedInterface listing database)
          ifaceUUID (request.reconcileInterface listing database)) ∧
      ∃ row ∈ request.candidates (request.resolvedInterface listing database)
          ifaceUUID (request.reconcileInterface listing database),
        row.uuid = VtepRequest.target
          (request.resolvedInterface listing database) ifaceUUID := by
  have spec : Reconciled database
      (request.reconcileInterface listing database) := reconciled wellFormed
  cases found : request.resolvedInterface listing database with
  | some iface =>
      refine ⟨spec.wellFormed.interfaceUuids, spec.wellFormed.interfaceNames,
        fun _ listed => listed, ?_⟩
      have there : iface.uuid ∈ (request.reconcileInterface listing
          database).interfaces.map (·.uuid) := by
        rw [spec.uuids]
        exact List.mem_map_of_mem (resolved_some found).1
      exact List.mem_map.mp there
  | none =>
      have names := resolved_none found
      rw [reconcileInterface_none found]
      unfold VtepRequest.candidates
      dsimp only
      exact ⟨nodup_map_snoc wellFormed.interfaceUuids fresh,
        nodup_map_snoc wellFormed.interfaceNames names,
        fun _ listed => List.mem_append_left _ listed,
        request.newInterface ifaceUUID, by simp, rfl⟩

/-- The operations when the first listed port lacks the interface. -/
theorem createOperations_relinked {first : Port}
    (present : request.portExists listing database resolved = true)
    (head : (listing.portsByName database.ports).head? = some first)
    (lacks : ∀ iface, resolved = some iface →
      iface.uuid ∉ first.interfaces) :
    (request.createOperations listing database resolved ifaceUUID
        portUUID).isEmpty = false ∧
      (request.createOperations listing database resolved ifaceUUID
        portUUID).foldl VtepOperation.apply database =
        relinked database (request.candidates resolved ifaceUUID database)
          first.uuid (VtepRequest.target resolved ifaceUUID) := by
  cases resolved with
  | some iface =>
      have missing : iface.uuid ∉ first.interfaces := lacks iface rfl
      have operations : request.createOperations listing database
          (some iface) ifaceUUID portUUID =
            [.updatePort first.uuid [iface.uuid]] := by
        unfold VtepRequest.createOperations VtepRequest.portOperations
        simp [present, head, missing]
      rw [operations]
      exact ⟨rfl, rfl⟩
  | none =>
      have operations : request.createOperations listing database none
          ifaceUUID portUUID =
            [.createInterface (request.newInterface ifaceUUID),
              .updatePort first.uuid [ifaceUUID]] := by
        unfold VtepRequest.createOperations VtepRequest.portOperations
        simp [present, head]
      rw [operations]
      exact ⟨rfl, rfl⟩

/-- The operations when there is neither an interface nor a port. -/
theorem createOperations_installed {listing : RowLists}
    (absent : request.portExists listing database none = false) :
    request.createOperations listing database none ifaceUUID portUUID =
      [.createInterface (request.newInterface ifaceUUID),
        .createPort (request.newPort portUUID ifaceUUID),
        .insertPort "br-int" portUUID] := by
  unfold VtepRequest.createOperations VtepRequest.portOperations
  simp [absent]

/-- The new rows are committed when their names are free and the integration
bridge is there. -/
theorem transactVtep_installed (wellFormed : database.WellFormed)
    (freshIface : ∀ row ∈ database.interfaces,
      row.uuid ≠ ifaceUUID ∧ row.name ≠ request.vxlanName)
    (freshPort : ∀ row ∈ database.ports,
      row.uuid ≠ portUUID ∧ row.name ≠ request.vxlanName)
    (integration : ∃ bridge ∈ database.bridges, bridge.name = "br-int") :
    transactVtep database
        [.createInterface (request.newInterface ifaceUUID),
          .createPort (request.newPort portUUID ifaceUUID),
          .insertPort "br-int" portUUID] =
        .ok (installed database (request.newInterface ifaceUUID)
          (request.newPort portUUID ifaceUUID)) ∧
      (installed database (request.newInterface ifaceUUID)
        (request.newPort portUUID ifaceUUID)).WellFormed := by
  have settled : (installed database (request.newInterface ifaceUUID)
      (request.newPort portUUID ifaceUUID)).WellFormed :=
    wellFormed_installed wellFormed rfl freshIface freshPort integration
  exact ⟨transactVtep_eq_ok settled.collect_eq settled, settled⟩

/-- Without an integration bridge the new rows are dropped. -/
theorem transactVtep_dropped (wellFormed : database.WellFormed)
    (freshIface : ∀ row ∈ database.interfaces, row.uuid ≠ ifaceUUID)
    (freshPort : ∀ row ∈ database.ports, row.uuid ≠ portUUID)
    (none : ∀ bridge ∈ database.bridges, bridge.name ≠ "br-int") :
    transactVtep database
        [.createInterface (request.newInterface ifaceUUID),
          .createPort (request.newPort portUUID ifaceUUID),
          .insertPort "br-int" portUUID] = .ok database := by
  have dropped : (installed database (request.newInterface ifaceUUID)
      (request.newPort portUUID ifaceUUID)).collect = database :=
    collect_installed wellFormed freshIface freshPort none
  exact transactVtep_eq_ok dropped wellFormed

/-- The call succeeds, in one of these ways. -/
theorem ensureTunnel_ensured (wellFormed : database.WellFormed)
    (freshIface : ∀ row ∈ database.interfaces, row.uuid ≠ ifaceUUID)
    (freshPort : ∀ row ∈ database.ports, row.uuid ≠ portUUID) :
    ∃ after, request.ensureTunnel listing ifaceUUID portUUID database =
        (.ok (), after) ∧
      Ensured request listing ifaceUUID portUUID database
        (request.reconcileInterface listing database) after ∧
      after.WellFormed := by
  have spec : Reconciled database
      (request.reconcileInterface listing database) := reconciled wellFormed
  unfold VtepRequest.ensureTunnel
  dsimp only
  by_cases own : ∃ port ∈ database.ports,
      request.Own (request.resolvedInterface listing database) port
  · obtain ⟨port, listed, _⟩ := id own
    have present : request.portExists listing
        (request.reconcileInterface listing database)
        (request.resolvedInterface listing database) = true := by
      rw [portExists_iff, spec.ports]
      exact own
    obtain ⟨first, head⟩ : ∃ first,
        (listing.portsByName database.ports).head? = some first := by
      have member := (listing.portsByName_perm database.ports).mem_iff.mpr
        listed
      cases rows : listing.portsByName database.ports with
      | nil =>
          rw [rows] at member
          cases member
      | cons first rest => exact ⟨first, rfl⟩
    have reconciledHead := head
    rw [← spec.ports] at reconciledHead
    by_cases lacks : ∀ iface,
        request.resolvedInterface listing database = some iface →
          iface.uuid ∉ first.interfaces
    · obtain ⟨some, applied⟩ := @createOperations_relinked request listing _
        _ ifaceUUID portUUID first present reconciledHead lacks
      obtain ⟨uuids, names, kept, leads⟩ := @candidates_ready request listing
        database ifaceUUID wellFormed freshIface
      have settled := @wellFormed_relinked _ _ first.uuid _ spec.wellFormed
        uuids names kept leads
      rw [some, transactVtep_eq_ok (by rw [applied]) settled]
      exact ⟨_, rfl, .relinked own head lacks, settled⟩
    · simp only [not_forall, not_not] at lacks
      obtain ⟨iface, found, member⟩ := lacks
      have nothing : request.createOperations listing
          (request.reconcileInterface listing database) (some iface)
          ifaceUUID portUUID = [] := by
        rw [found] at present
        unfold VtepRequest.createOperations VtepRequest.portOperations
        simp [present, reconciledHead, member]
      rw [found, nothing]
      exact ⟨_, rfl, .settled found head member, spec.wellFormed⟩
  · have missing := resolvedInterface_eq_none wellFormed own
    have noPort : ∀ port ∈ database.ports,
        port.name ≠ request.vxlanName :=
      fun port listed named => own ⟨port, listed, .inl named⟩
    have absent : request.portExists listing database none = false := by
      rw [← missing, Bool.eq_false_iff]
      exact fun present => own (portExists_iff.mp present)
    rw [missing, reconcileInterface_none missing,
      createOperations_installed absent]
    by_cases integration : ∃ bridge ∈ database.bridges,
        bridge.name = "br-int"
    · obtain ⟨committed, settled⟩ := transactVtep_installed wellFormed
        (fun row listed =>
          ⟨freshIface row listed, resolved_none missing row listed⟩)
        (fun row listed => ⟨freshPort row listed, noPort row listed⟩)
        integration
      obtain ⟨bridge, bridgeListed, named⟩ := integration
      rw [committed]
      exact ⟨_, rfl, .installed missing noPort bridgeListed named, settled⟩
    · have none : ∀ bridge ∈ database.bridges, bridge.name ≠ "br-int" :=
        fun bridge listed named => integration ⟨bridge, listed, named⟩
      rw [transactVtep_dropped wellFormed freshIface freshPort none]
      exact ⟨_, rfl, .dropped missing noPort none, wellFormed⟩

end Request

end EvpnForOvn.OvsdbMgmt

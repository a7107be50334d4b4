import EvpnForOvn.Ovsdb.OwnPorts
import EvpnForOvn.Ovsdb.TransitPort

/-!
# A tunnel that is in place

A second call for the same tunnel finds the interface that the first one has
left and has nothing to write, unless several rows compete for the tunnel.
-/

namespace EvpnForOvn.OvsdbMgmt

open Go Endpoint Evpn Vswitch

section Request

variable {request : VtepRequest} {listing : Listing} {database : Vswitch}
  {ifaceUUID portUUID : String}

theorem size_set_ne_zero {V : Type} (map : GoMap V) (key : String)
    (value : V) : (map.set key value).size ≠ 0 := by
  rw [GoMap.size_eq_length_sortedKeys]
  have member : key ∈ (map.set key value).sortedKeys :=
    GoMap.mem_sortedKeys.mpr (by simp)
  exact Nat.ne_of_gt (List.length_pos_of_mem member)

theorem carried_options : request.carried request.options = true := by
  simp [VtepRequest.carried, VtepRequest.options, entry, GoMap.get_set]

theorem entry_ifaceIDs :
    entry request.ifaceIDs "iface-id" = request.lspName := by
  simp [entry, VtepRequest.ifaceIDs]

/-- An interface that has what it needs. -/
structure UpToDate (request : VtepRequest) (row : Interface) : Prop where
  type : row.type = "vxlan"
  options : row.options.size ≠ 0 ∧ request.carried row.options = true
  externalIDs : row.externalIDs.size ≠ 0 ∧
    entry row.externalIDs "iface-id" = request.lspName

instance instDecidableUpToDate (row : Interface) :
    Decidable (UpToDate request row) :=
  decidable_of_iff (row.type = "vxlan" ∧
      (row.options.size ≠ 0 ∧ request.carried row.options = true) ∧
      row.externalIDs.size ≠ 0 ∧
        entry row.externalIDs "iface-id" = request.lspName)
    ⟨fun has => ⟨has.1, has.2.1, has.2.2⟩,
      fun has => ⟨has.type, has.options, has.externalIDs⟩⟩

theorem UpToDate.neededColumns {row : Interface}
    (upToDate : UpToDate request row) :
    request.neededColumns row = ⟨none, none, none⟩ := by
  unfold VtepRequest.neededColumns
  simp [upToDate.type, upToDate.options, upToDate.externalIDs]

theorem upToDate_written (row : Interface) :
    UpToDate request ((request.neededColumns row).write row) where
  type := by
    unfold VtepRequest.neededColumns InterfaceColumns.write
    dsimp only
    split
    · assumption
    · rfl
  options := by
    unfold VtepRequest.neededColumns InterfaceColumns.write
    dsimp only
    split
    · exact ⟨size_set_ne_zero _ _ _, carried_options⟩
    · rename_i fine
      simpa using fine
  externalIDs := by
    unfold VtepRequest.neededColumns InterfaceColumns.write
    dsimp only
    split
    · exact ⟨size_set_ne_zero _ _ _, entry_ifaceIDs⟩
    · rename_i fine
      simpa using fine

theorem upToDate_newInterface (uuid : String) :
    UpToDate request (request.newInterface uuid) where
  type := rfl
  options := ⟨size_set_ne_zero _ _ _, carried_options⟩
  externalIDs := ⟨size_set_ne_zero _ _ _, entry_ifaceIDs⟩

/-- The interface of the tunnel is the only one that a lookup can find, and
nothing is left to write to it. -/
def Recognised (request : VtepRequest) (interfaces : List Interface)
    (row : Interface) : Prop :=
  (row.name = request.vxlanName ∧ UpToDate request row) ∨
    (∀ other ∈ interfaces, other.name ≠ request.vxlanName) ∧
      row.externalIDs = request.ifaceIDs ∧
      request.carried row.options = true ∧
      ∀ other ∈ interfaces, request.carried other.options = true →
        other = row

theorem Recognised.subset {interfaces fewer : List Interface}
    {row : Interface} (recognised : Recognised request interfaces row)
    (subset : fewer ⊆ interfaces) : Recognised request fewer row := by
  rcases recognised with named | ⟨unnamed, ids, carried, only⟩
  · exact .inl named
  · exact .inr ⟨fun other listed => unnamed other (subset listed), ids,
      carried, fun other listed => only other (subset listed)⟩

/-- The tunnel is in place. -/
structure TunnelReady (request : VtepRequest) (database : Vswitch)
    (row : Interface) : Prop where
  wellFormed : database.WellFormed
  listed : row ∈ database.interfaces
  recognised : Recognised request database.interfaces row
  ports : ∀ port ∈ database.ports, port.name = request.vxlanName →
    row.uuid ∈ port.interfaces

theorem TunnelReady.found {row : Interface}
    (ready : TunnelReady request database row) :
    request.resolvedInterface listing database = some row := by
  unfold VtepRequest.resolvedInterface
  rcases ready.recognised with ⟨named, _⟩ | ⟨unnamed, _, carried, only⟩
  · have found : request.namedInterface listing database = some row :=
      find_of_perm (listing.interfacesByName_perm _) ready.listed
        (by simpa using named)
        (fun other otherListed same =>
          ready.wellFormed.interface_eq_of_name otherListed ready.listed
            ((by simpa using same : other.name = _).trans named.symm))
    rw [found, Option.some_or]
  · rw [namedInterface_none.mpr unnamed, Option.none_or]
    apply find_of_perm (listing.interfacesByTuple_perm _) ready.listed
    · simp [carried]
    · intro other otherListed accepted
      rw [Bool.or_eq_true, beq_iff_eq] at accepted
      rcases accepted with named | carriedToo
      · exact absurd named (unnamed other otherListed)
      · exact only other otherListed carriedToo

/-- A call finds the tunnel in place: the interface that it looks up has what
it needs and belongs to the first listed port.  Without any row of the tunnel
and without an integration bridge there is nothing to do either. -/
inductive InPlace (request : VtepRequest) (listing : Listing)
    (database : Vswitch) : Prop where
  | upToDate {iface : Interface} {first : Port} :
      request.resolvedInterface listing database = some iface →
      (iface.name = request.vxlanName ∧ UpToDate request iface ∨
        iface.name ≠ request.vxlanName ∧
          iface.externalIDs = request.ifaceIDs) →
      (listing.portsByName database.ports).head? = some first →
      iface.uuid ∈ first.interfaces →
      InPlace request listing database
  | idle :
      request.resolvedInterface listing database = none →
      (∀ port ∈ database.ports, port.name ≠ request.vxlanName) →
      (∀ bridge ∈ database.bridges, bridge.name ≠ "br-int") →
      InPlace request listing database

theorem TunnelReady.inPlace {row : Interface}
    (ready : TunnelReady request database row)
    (ownFirst : OwnFirst request listing database) :
    InPlace request listing database := by
  have found : request.resolvedInterface listing database = some row :=
    ready.found
  obtain ⟨holder, holderListed, holds⟩ :=
    ready.wellFormed.interfaceReferred row ready.listed
  obtain ⟨first, head, firstOwn⟩ := ownFirst.first
    ⟨holder, holderListed, .inr ⟨row, found, holds⟩⟩
  refine .upToDate found ?_ head ?_
  · rcases ready.recognised with named | ⟨unnamed, ids, _, _⟩
    · exact .inl named
    · exact .inr ⟨unnamed row ready.listed, ids⟩
  · rcases firstOwn with named | ⟨iface, same, member⟩
    · exact ready.ports first (mem_of_head head) named
    · cases found.symm.trans same
      exact member

theorem rewriteInterface_eq_self_iff {row : Interface}
    {columns : InterfaceColumns} (wellFormed : database.WellFormed)
    (listed : row ∈ database.interfaces) :
    rewriteInterface database row.name columns = database ↔
      columns.write row = row := by
  constructor
  · intro same
    have written : columns.write row ∈
        (rewriteInterface database row.name columns).interfaces :=
      mem_interfaces_rewrite.mpr ⟨row, listed, if_pos rfl⟩
    rw [same] at written
    exact wellFormed.interface_eq_of_uuid written listed rfl
  · intro same
    have interfaces : (database.interfaces.map fun other =>
        if other.name = row.name then columns.write other else other) =
          database.interfaces := by
      rw [List.map_congr_left (g := id), List.map_id]
      intro other otherListed
      by_cases selected : other.name = row.name
      · rw [if_pos selected, wellFormed.interface_eq_of_name otherListed
          listed selected, same]
        rfl
      · rw [if_neg selected]
        rfl
    unfold rewriteInterface VtepOperation.apply
    dsimp only
    rw [interfaces]

theorem write_resolvedColumns_eq_self_iff {row : Interface} :
    (request.resolvedColumns row).write row = row ↔
      row.name = request.vxlanName ∧ UpToDate request row ∨
        row.name ≠ request.vxlanName ∧
          row.externalIDs = request.ifaceIDs := by
  unfold VtepRequest.resolvedColumns
  by_cases named : row.name = request.vxlanName
  · rw [if_pos named]
    simp only [named, true_and, ne_eq, not_true, false_and, or_false]
    constructor
    · intro same
      have written := @upToDate_written request row
      rw [same] at written
      exact written
    · intro upToDate
      rw [upToDate.neededColumns]
      rfl
  · rw [if_neg named]
    simp only [named, false_and, ne_eq, not_false_iff, true_and, false_or]
    constructor
    · intro same
      exact (congrArg Interface.externalIDs same).symm
    · intro same
      rw [← same]
      rfl

/-- A call leaves the database as it is exactly when it finds the tunnel in
place. -/
theorem ensureTunnel_unchanged_iff (wellFormed : database.WellFormed)
    (freshIface : ∀ row ∈ database.interfaces, row.uuid ≠ ifaceUUID)
    (freshPort : ∀ row ∈ database.ports, row.uuid ≠ portUUID) :
    (request.ensureTunnel listing ifaceUUID portUUID database).2 =
        database ↔
      InPlace request listing database := by
  obtain ⟨after, result, ensured, settled⟩ :=
    @ensureTunnel_ensured request listing database ifaceUUID portUUID
      wellFormed freshIface freshPort
  rw [result]
  change after = database ↔ _
  cases ensured with
  | settled found head member =>
      rename_i first iface
      rw [reconcileInterface_some wellFormed found,
        rewriteInterface_eq_self_iff wellFormed (resolved_some found).1,
        write_resolvedColumns_eq_self_iff]
      constructor
      · intro upToDate
        exact .upToDate found upToDate head member
      · intro inPlace
        cases inPlace with
        | upToDate same upToDate _ _ =>
            cases found.symm.trans same
            exact upToDate
        | idle missing _ _ => cases found.symm.trans missing
  | relinked own head lacks =>
      rename_i first
      have listed := mem_of_head head
      have spec : Reconciled database
          (request.reconcileInterface listing database) :=
        reconciled wellFormed
      refine iff_of_false ?_ ?_
      · intro same
        have changed := @mem_collect_relinked_first database _ first
          (request.candidates (request.resolvedInterface listing database)
            ifaceUUID (request.reconcileInterface listing database))
          (VtepRequest.target (request.resolvedInterface listing database)
            ifaceUUID) spec listed
        rw [same] at changed
        have unchanged := wellFormed.port_eq_of_uuid changed listed rfl
        apply target_not_mem wellFormed freshIface listed lacks
        rw [← unchanged]
        exact .head _
      · intro inPlace
        cases inPlace with
        | upToDate found _ sameHead member =>
            cases head.symm.trans sameHead
            exact lacks _ found member
        | idle missing unnamed _ => exact not_own missing unnamed own
  | installed missing unnamed bridgeListed named =>
      refine iff_of_false ?_ ?_
      · intro same
        have new : request.newInterface ifaceUUID ∈ (installed database
            (request.newInterface ifaceUUID)
            (request.newPort portUUID ifaceUUID)).interfaces :=
          List.mem_append_right _ (.head _)
        rw [same] at new
        exact freshIface _ new rfl
      · intro inPlace
        cases inPlace with
        | upToDate found _ _ _ => cases missing.symm.trans found
        | idle _ _ noBridge => exact noBridge _ bridgeListed named
  | dropped missing unnamed noBridge =>
      exact iff_of_true rfl (.idle missing unnamed noBridge)

/-- The rows that a lookup of the tunnel may find do not compete. -/
structure Unambiguous (request : VtepRequest) (listing : Listing)
    (database : Vswitch) : Prop where
  interfaces : (∀ row ∈ database.interfaces,
      row.name ≠ request.vxlanName) →
    ∀ row ∈ database.interfaces, request.carried row.options = true →
      request.resolvedInterface listing database = some row
  ports : ∀ port ∈ database.ports, port.name = request.vxlanName →
    (listing.portsByName database.ports).head? = some port ∨
      ∃ iface, request.resolvedInterface listing database = some iface ∧
        iface.uuid ∈ port.interfaces

theorem recognised_written {iface : Interface}
    (unambiguous : Unambiguous request listing database)
    (found : request.resolvedInterface listing database = some iface) :
    Recognised request (rewriteInterface database iface.name
        (request.resolvedColumns iface)).interfaces
      ((request.resolvedColumns iface).write iface) := by
  obtain ⟨listed, named | ⟨unnamed, carried⟩⟩ := resolved_some found
  · left
    unfold VtepRequest.resolvedColumns
    rw [if_pos named]
    exact ⟨named, upToDate_written iface⟩
  · right
    have columns : request.resolvedColumns iface =
        ⟨none, none, some request.ifaceIDs⟩ :=
      if_neg (unnamed iface listed)
    rw [columns]
    refine ⟨?_, rfl, carried, ?_⟩
    · intro other otherListed
      have member := List.mem_map_of_mem otherListed (f := (·.name))
      rw [map_interfaces_rewrite _ _ fun _ => rfl] at member
      obtain ⟨old, oldListed, same⟩ := List.mem_map.mp member
      rw [← same]
      exact unnamed old oldListed
    · intro other otherListed otherCarried
      obtain ⟨old, oldListed, rfl⟩ := mem_interfaces_rewrite.mp otherListed
      have oldCarried : request.carried old.options = true := by
        by_cases selected : old.name = iface.name
        · rw [if_pos selected] at otherCarried
          exact otherCarried
        · rw [if_neg selected] at otherCarried
          exact otherCarried
      have same := unambiguous.interfaces unnamed old oldListed oldCarried
      cases found.symm.trans same
      rw [if_pos rfl]

/-- The interface of the tunnel is among the candidates of the last
transaction. -/
theorem recognised_candidate (wellFormed : database.WellFormed)
    (unambiguous : Unambiguous request listing database) :
    ∃ row ∈ request.candidates (request.resolvedInterface listing database)
        ifaceUUID (request.reconcileInterface listing database),
      row.uuid = VtepRequest.target
          (request.resolvedInterface listing database) ifaceUUID ∧
        Recognised request (request.candidates
          (request.resolvedInterface listing database) ifaceUUID
          (request.reconcileInterface listing database)) row := by
  cases found : request.resolvedInterface listing database with
  | some iface =>
      rw [reconcileInterface_some wellFormed found]
      refine ⟨(request.resolvedColumns iface).write iface, ?_, rfl,
        recognised_written unambiguous found⟩
      exact mem_interfaces_rewrite.mpr
        ⟨iface, (resolved_some found).1, if_pos rfl⟩
  | none =>
      exact ⟨request.newInterface ifaceUUID,
        List.mem_append_right _ (.head _), rfl,
        .inl ⟨rfl, upToDate_newInterface ifaceUUID⟩⟩

/-- A call on unambiguous rows leaves the tunnel in place. -/
theorem tunnelReady_of_ensured {after : Vswitch}
    (wellFormed : database.WellFormed)
    (unambiguous : Unambiguous request listing database)
    (ownFirst : OwnFirst request listing database)
    (ensured : Ensured request listing ifaceUUID portUUID database
      (request.reconcileInterface listing database) after)
    (settled : after.WellFormed) :
    ∃ row, TunnelReady request after row := by
  have spec : Reconciled database
      (request.reconcileInterface listing database) := reconciled wellFormed
  obtain ⟨row, listed, target, recognised⟩ :=
    @recognised_candidate request listing database ifaceUUID wellFormed
      unambiguous
  cases ensured with
  | settled found head member =>
      rename_i first iface
      rw [found] at listed target recognised
      refine ⟨row,
        { wellFormed := settled
          listed := listed
          recognised := recognised
          ports := ?_ }⟩
      intro port portListed named
      rw [spec.ports] at portListed
      rw [target]
      rcases unambiguous.ports port portListed named with
        same | ⟨other, otherFound, member⟩
      · cases head.symm.trans same
        exact member
      · cases found.symm.trans otherFound
        exact member
  | relinked own head lacks =>
      rename_i first
      have changed := @mem_collect_relinked_first database _ first
        (request.candidates (request.resolvedInterface listing database)
          ifaceUUID (request.reconcileInterface listing database))
        (VtepRequest.target (request.resolvedInterface listing database)
          ifaceUUID) spec (mem_of_head head)
      refine ⟨row,
        { wellFormed := settled
          listed := mem_interfaces_collect.mpr ⟨listed, _, changed, ?_⟩
          recognised := recognised.subset
            interfaces_collect_sublist.subset
          ports := ?_ }⟩
      · rw [target]
        exact .head _
      · intro port portListed named
        rw [mem_ports_collect_relinked spec.wellFormed] at portListed
        obtain ⟨old, oldListed, rfl⟩ := List.mem_map.mp portListed
        rw [spec.ports] at oldListed
        rw [target]
        by_cases selected : old.uuid = first.uuid
        · rw [if_pos selected]
          exact .head _
        · rw [if_neg selected] at named ⊢
          rcases unambiguous.ports old oldListed named with
            same | ⟨iface, found, member⟩
          · cases head.symm.trans same
            exact absurd rfl selected
          · rw [found]
            exact member
  | installed missing unnamed bridgeListed bridgeNamed =>
      rw [missing, reconcileInterface_none missing] at listed recognised
      refine ⟨row,
        { wellFormed := settled
          listed := listed
          recognised := recognised
          ports := ?_ }⟩
      intro port portListed named
      rcases List.mem_append.mp portListed with old | new
      · exact absurd named (unnamed port old)
      · rw [List.mem_singleton.mp new, target, missing]
        exact .head _
  | dropped missing unnamed noBridge =>
      obtain ⟨bridge, bridgeListed, named⟩ :=
        ownFirst.bridge (not_own missing unnamed)
      exact absurd named (noBridge bridge bridgeListed)

end Request

section Call

variable {seen nb : Northbound} {ovs : Vswitch} {ls : LogicalSwitch}
  {request : VtepRequest} {listing : Listing} {fresh : FreshUuids}

/-- A call leaves foreign ports alone, and when it succeeds its own port
refers to the interface of the tunnel. -/
structure OwnRowsOnly (request : VtepRequest) (listing : Listing)
    (fresh : FreshUuids) (before : Vswitch)
    (result : Except GoError LogicalSwitchPort × Databases) : Prop where
  foreign : ∀ old ∈ before.ports, ∀ port ∈ result.2.ovs.ports,
    port.uuid = old.uuid → port.interfaces ≠ old.interfaces →
      request.Own (request.resolvedInterface listing before) old
  kept : ∀ old ∈ before.ports,
    ¬ request.Own (request.resolvedInterface listing before) old →
      old ∈ result.2.ovs.ports
  refers : ∀ lsp, result.1 = .ok lsp →
    TouchesOwn request (request.resolvedInterface listing before)
      (VtepRequest.target (request.resolvedInterface listing before)
        fresh.iface) before result.2.ovs

/-- The call either stops at the logical port or brings in the tunnel. -/
theorem addVtep_cases (seen nb : Northbound) (ls : LogicalSwitch)
    (listing : Listing) (wellFormed : ovs.WellFormed)
    (unused : fresh.Unused ovs) :
    (∃ reason, addVtep seen ⟨nb, ovs⟩ ls request listing fresh =
        (.error reason, ⟨nb, ovs⟩)) ∨
      ∃ outcome next after,
        ensurePort seen nb ls request.lspName fresh.lsp = some next ∧
        request.ensureTunnel listing fresh.iface fresh.port ovs =
          (.ok (), after) ∧
        addVtep seen ⟨nb, ovs⟩ ls request listing fresh =
          (outcome, ⟨next, after⟩) ∧
        (∀ lsp, outcome = .ok lsp ↔
          getVtep next request.lspName = some lsp) := by
  unfold addVtep
  cases ported : ensurePort seen nb ls request.lspName fresh.lsp with
  | none => exact .inl ⟨_, rfl⟩
  | some next =>
      obtain ⟨after, result, _, _⟩ := @ensureTunnel_ensured request listing
        ovs fresh.iface fresh.port wellFormed unused.iface unused.port
      right
      dsimp only
      rw [result]
      cases found : getVtep next request.lspName with
      | none => exact ⟨_, next, after, rfl, rfl, rfl,
          by simp [found]⟩
      | some lsp => exact ⟨_, next, after, rfl, rfl, rfl,
          by simp [found]⟩

theorem ownRowsOnly_of_ownFirst (wellFormed : ovs.WellFormed)
    (unused : fresh.Unused ovs) (ownFirst : OwnFirst request listing ovs) :
    OwnRowsOnly request listing fresh ovs
      (addVtep seen ⟨nb, ovs⟩ ls request listing fresh) := by
  rcases @addVtep_cases ovs request fresh seen nb ls listing wellFormed unused
    with ⟨reason, stopped⟩ |
      ⟨outcome, next, after, _, tunnel, result, _⟩
  · rw [stopped]
    exact
      { foreign := by
          intro old oldListed port portListed same different
          exact absurd (congrArg Port.interfaces (wellFormed.port_eq_of_uuid
            portListed oldListed same)) different
        kept := fun old oldListed _ => oldListed
        refers := by
          intro lsp success
          cases success }
  · obtain ⟨same, tunnelSame, ensured, settled⟩ :=
      @ensureTunnel_ensured request listing ovs fresh.iface fresh.port
        wellFormed unused.iface unused.port
    cases tunnel.symm.trans tunnelSame
    have touches := (touchesOwn_iff wellFormed unused.iface ensured
      settled).mpr ownFirst
    rw [result]
    exact
      { foreign := touches.foreign
        kept := touches.kept
        refers := fun _ _ => touches }

theorem ownFirst_of_ownRowsOnly {lsp : LogicalSwitchPort}
    (wellFormed : ovs.WellFormed) (unused : fresh.Unused ovs)
    (success : (addVtep seen ⟨nb, ovs⟩ ls request listing fresh).1 =
      .ok lsp)
    (own : OwnRowsOnly request listing fresh ovs
      (addVtep seen ⟨nb, ovs⟩ ls request listing fresh)) :
    OwnFirst request listing ovs := by
  have touches := own.refers lsp success
  rcases @addVtep_cases ovs request fresh seen nb ls listing wellFormed unused
    with ⟨reason, stopped⟩ |
      ⟨outcome, next, after, _, tunnel, result, _⟩
  · rw [stopped] at success
    cases success
  · obtain ⟨same, tunnelSame, ensured, settled⟩ :=
      @ensureTunnel_ensured request listing ovs fresh.iface fresh.port
        wellFormed unused.iface unused.port
    cases tunnel.symm.trans tunnelSame
    rw [result] at touches
    exact (touchesOwn_iff wellFormed unused.iface ensured settled).mp touches

/-- With nobody else at work in the northbound database, a call for a switch
that is there succeeds. -/
theorem addVtep_succeeds (wellFormed : ovs.WellFormed)
    (unused : fresh.Unused ovs) (nbWellFormed : nb.WellFormed)
    (switchListed : ls ∈ nb.switches)
    (freshPort : ∀ row ∈ nb.ports, row.uuid ≠ fresh.lsp) :
    ∃ lsp, (addVtep nb ⟨nb, ovs⟩ ls request listing fresh).1 = .ok lsp := by
  obtain ⟨next, ported, ensured⟩ :=
    @ensurePort_ensured nb ls request.lspName fresh.lsp nbWellFormed
      switchListed freshPort
  obtain ⟨after, tunnel, _, _⟩ := @ensureTunnel_ensured request listing ovs
    fresh.iface fresh.port wellFormed unused.iface unused.port
  obtain ⟨lsp, found⟩ := Option.isSome_iff_exists.mp ensured.found
  refine ⟨lsp, ?_⟩
  unfold addVtep
  dsimp only
  rw [ported]
  dsimp only
  rw [tunnel]
  dsimp only
  rw [found]

/-- A second call on the databases of the first one. -/
theorem addVtep_again_iff {databases : Databases} {lsp : LogicalSwitchPort}
    (wellFormed : databases.ovs.WellFormed)
    (unused : fresh.Unused databases.ovs)
    (success : (addVtep seen databases ls request listing fresh).1 =
      .ok lsp) :
    (addVtep seen databases ls request listing fresh).2.ovs =
        databases.ovs ↔
      InPlace request listing databases.ovs := by
  rw [← @ensureTunnel_unchanged_iff request listing databases.ovs fresh.iface
    fresh.port wellFormed unused.iface unused.port]
  rcases @addVtep_cases databases.ovs request fresh seen databases.nb ls
    listing wellFormed unused with ⟨reason, stopped⟩ |
      ⟨outcome, next, after, _, tunnel, result, _⟩
  · rw [stopped] at success
    cases success
  · rw [result, tunnel]

theorem inPlace_after {first : Databases} {lsp : LogicalSwitchPort}
    {again : Listing} (wellFormed : ovs.WellFormed)
    (unused : fresh.Unused ovs)
    (result : addVtep seen ⟨nb, ovs⟩ ls request listing fresh =
      (.ok lsp, first)) :
    first.ovs.WellFormed ∧
      (OwnFirst request listing ovs → Unambiguous request listing ovs →
        OwnFirst request again first.ovs →
        InPlace request again first.ovs) := by
  rcases @addVtep_cases ovs request fresh seen nb ls listing wellFormed unused
    with ⟨reason, stopped⟩ |
      ⟨outcome, next, after, _, tunnel, completed, _⟩
  · cases result.symm.trans stopped
  · cases result.symm.trans completed
    obtain ⟨same, tunnelSame, ensured, settled⟩ :=
      @ensureTunnel_ensured request listing ovs fresh.iface fresh.port
        wellFormed unused.iface unused.port
    cases tunnel.symm.trans tunnelSame
    refine ⟨settled, ?_⟩
    intro ownFirst unambiguous ownAgain
    obtain ⟨row, ready⟩ := tunnelReady_of_ensured wellFormed unambiguous
      ownFirst ensured settled
    exact ready.inPlace ownAgain

/-- A call that succeeds touches only its own rows exactly when its own port
is listed first.  A second call changes nothing exactly when it finds the
tunnel in place, and it does so when both calls list the own port first and no
other rows compete for the tunnel. -/
theorem addVtep_own_rows_iff (wellFormed : ovs.WellFormed)
    (unused : fresh.Unused ovs) :
    (OwnFirst request listing ovs → ∀ seen nb ls,
      OwnRowsOnly request listing fresh ovs
        (addVtep seen ⟨nb, ovs⟩ ls request listing fresh)) ∧
    (∀ (nb : Northbound) (ls : LogicalSwitch), nb.WellFormed →
      ls ∈ nb.switches → (∀ row ∈ nb.ports, row.uuid ≠ fresh.lsp) →
      (∃ lsp, (addVtep nb ⟨nb, ovs⟩ ls request listing fresh).1 =
        .ok lsp) ∧
      (OwnRowsOnly request listing fresh ovs
          (addVtep nb ⟨nb, ovs⟩ ls request listing fresh) ↔
        OwnFirst request listing ovs)) ∧
    ∀ seen nb ls lsp first,
      addVtep seen ⟨nb, ovs⟩ ls request listing fresh = (.ok lsp, first) →
      ∀ again : Listing,
        (OwnFirst request listing ovs → Unambiguous request listing ovs →
          OwnFirst request again first.ovs →
          InPlace request again first.ovs) ∧
        ∀ seenAgain (freshAgain : FreshUuids) lspAgain,
          freshAgain.Unused first.ovs →
          (addVtep seenAgain first ls request again freshAgain).1 =
            .ok lspAgain →
          ((addVtep seenAgain first ls request again freshAgain).2.ovs =
              first.ovs ↔
            InPlace request again first.ovs) := by
  refine ⟨?_, ?_, ?_⟩
  · intro ownFirst seen nb ls
    exact ownRowsOnly_of_ownFirst wellFormed unused ownFirst
  · intro nb ls nbWellFormed switchListed freshPort
    obtain ⟨lsp, success⟩ := @addVtep_succeeds nb ovs ls request listing fresh
      wellFormed unused nbWellFormed switchListed freshPort
    exact ⟨⟨lsp, success⟩, ownFirst_of_ownRowsOnly wellFormed unused success,
      ownRowsOnly_of_ownFirst wellFormed unused⟩
  · intro seen nb ls lsp first result again
    obtain ⟨settled, _⟩ := @inPlace_after seen nb ovs ls request listing fresh
      first lsp again wellFormed unused result
    refine ⟨(inPlace_after wellFormed unused result).2, ?_⟩
    intro seenAgain freshAgain lspAgain unusedAgain success
    exact addVtep_again_iff settled unusedAgain success

end Call

def inOrder : Listing where
  interfacesByName := id
  interfacesByTuple := id
  portsByName := id
  portsByInterface := id
  interfacesByName_perm := perm_id
  interfacesByTuple_perm := perm_id
  portsByName_perm := perm_id
  portsByInterface_perm := perm_id

/-- The same with the ports listed backwards. -/
def backwards : Listing :=
  { inOrder with
    portsByName := List.reverse
    portsByName_perm := fun rows => rows.reverse_perm }

def uplinkSwitch : Vswitch :=
  { roots := [⟨"o", ["b"], GoMap.empty⟩]
    bridges := [⟨"b", "br-int", [], none, ["p"], GoMap.empty⟩]
    ports := [⟨"p", "eth0", ["i"], GoMap.empty⟩]
    interfaces := [⟨"i", "eth0", "", GoMap.empty, GoMap.empty⟩] }

theorem uplinkSwitch_wellFormed : uplinkSwitch.WellFormed where
  rootUuids := by decide
  bridgeUuids := by decide
  portUuids := by decide
  interfaceUuids := by decide
  bridgeNames := by decide
  portNames := by decide
  interfaceNames := by decide
  rootLeads := by simp [uplinkSwitch]
  bridgeLeads := by simp [uplinkSwitch]
  portLeads := by simp [uplinkSwitch]
  bridgeReferred := by simp [uplinkSwitch]
  portReferred := by simp [uplinkSwitch]
  interfaceReferred := by simp [uplinkSwitch]

def sampleSwitchRow : LogicalSwitch := ⟨"s", "net", ["l"]⟩

def sampleRequest : VtepRequest :=
  ⟨"rt-1", "rt-1", "10.0.0.2", "100", "4789"⟩

def sampleFresh : FreshUuids := ⟨"m", "j", "q"⟩

/-- A first call on the switch with the uplink. -/
def firstCall : Except GoError LogicalSwitchPort × Databases :=
  addVtep (sampleNb []) ⟨sampleNb [], uplinkSwitch⟩ sampleSwitchRow
    sampleRequest inOrder sampleFresh

/-- A second one, after which the databases may differ. -/
def secondCall (listing : Listing) :
    Except GoError LogicalSwitchPort × Databases :=
  addVtep firstCall.2.nb firstCall.2 sampleSwitchRow sampleRequest listing
    ⟨"m", "k", "r"⟩

/-- The second call of the same tunnel puts the interface of the tunnel under
the uplink, whose own interface is lost. -/
theorem uplink_relinked :
    (firstCall.2.ovs.ports.map fun port => (port.name, port.interfaces)) =
        [("eth0", ["i"]), ("rt-1", ["j"])] ∧
      ((sampleRequest.resolvedInterface inOrder firstCall.2.ovs).map
        (·.uuid)) = some "j" ∧
      (secondCall inOrder).1.isOk = true ∧
      ((secondCall inOrder).2.ovs.ports.map fun port =>
        (port.name, port.interfaces)) =
          [("eth0", ["j"]), ("rt-1", ["j"])] ∧
      ((secondCall inOrder).2.ovs.interfaces.map (·.name)) = ["rt-1"] := by
  decide +kernel

theorem sampleFresh_unused : sampleFresh.Unused uplinkSwitch where
  iface := by simp [uplinkSwitch, sampleFresh]
  port := by simp [uplinkSwitch, sampleFresh]

theorem uplink_missing :
    sampleRequest.resolvedInterface inOrder uplinkSwitch = none ∧
      ∀ port ∈ uplinkSwitch.ports, port.name ≠ sampleRequest.vxlanName :=
  ⟨by rfl, by simp [uplinkSwitch, sampleRequest]⟩

theorem uplink_ownFirst : OwnFirst sampleRequest inOrder uplinkSwitch where
  first := fun own => absurd own (not_own uplink_missing.1 uplink_missing.2)
  bridge := fun _ => by simp [uplinkSwitch]

theorem uplink_unambiguous :
    Unambiguous sampleRequest inOrder uplinkSwitch where
  interfaces := by
    intro _ row listed carried
    have none : sampleRequest.carried GoMap.empty = false := by
      decide +kernel
    rw [List.mem_singleton.mp listed, none] at carried
    cases carried
  ports := by simp [uplinkSwitch, sampleRequest]

theorem exists_of_isOk {ε α : Type} {outcome : Except ε α}
    (ok : outcome.isOk = true) : ∃ value, outcome = .ok value := by
  cases outcome with
  | ok value => exact ⟨value, rfl⟩
  | error reason => cases ok

theorem firstCall_head :
    (backwards.portsByName firstCall.2.ovs.ports).head?.map (·.name) =
      some sampleRequest.vxlanName := by
  decide +kernel

theorem firstCall_ownFirst :
    OwnFirst sampleRequest backwards firstCall.2.ovs where
  first := by
    intro _
    obtain ⟨port, head, named⟩ := Option.map_eq_some_iff.mp firstCall_head
    exact ⟨port, head, .inl named⟩
  bridge := by
    intro none
    obtain ⟨port, head, named⟩ := Option.map_eq_some_iff.mp firstCall_head
    exact absurd ⟨port, mem_of_head head, .inl named⟩ none

theorem addVtep_own_rows_sample :
    OwnRowsOnly sampleRequest inOrder sampleFresh uplinkSwitch firstCall ∧
      (secondCall backwards).2.ovs = firstCall.2.ovs := by
  obtain ⟨own, _, twice⟩ := @addVtep_own_rows_iff uplinkSwitch sampleRequest
    inOrder sampleFresh uplinkSwitch_wellFormed sampleFresh_unused
  refine ⟨own uplink_ownFirst _ _ _, ?_⟩
  obtain ⟨lsp, success⟩ : ∃ lsp, firstCall.1 = .ok lsp :=
    exists_of_isOk (by decide +kernel)
  have whole : firstCall = (.ok lsp, firstCall.2) := Prod.ext success rfl
  obtain ⟨inPlace, unchanged⟩ := twice _ _ _ lsp firstCall.2 whole backwards
  obtain ⟨again, successAgain⟩ : ∃ lsp, (secondCall backwards).1 = .ok lsp :=
    exists_of_isOk (by decide +kernel)
  have unused : FreshUuids.Unused ⟨"m", "k", "r"⟩ firstCall.2.ovs :=
    ⟨by decide +kernel, by decide +kernel⟩
  exact (unchanged _ _ again unused successAgain).mpr
    (inPlace uplink_ownFirst uplink_unambiguous firstCall_ownFirst)

end EvpnForOvn.OvsdbMgmt

import EvpnForOvn.Ovsdb.VtepSpec

/-!
# The ports of a tunnel and the others

An existing port is taken to be the first one of a listing.  The call leaves
foreign ports alone, and its own port refers to the interface of the tunnel,
exactly when the first listed port is its own, or when it has no port yet and
the integration bridge exists.
-/

namespace EvpnForOvn.OvsdbMgmt

open Go Endpoint Evpn Vswitch

section Request

variable {request : VtepRequest} {listing : Listing} {database : Vswitch}
  {resolved : Option Interface} {ifaceUUID portUUID : String}

/-- The call has left foreign ports alone, and its own port refers to the
interface of the tunnel. -/
structure TouchesOwn (request : VtepRequest) (resolved : Option Interface)
    (target : String) (before after : Vswitch) : Prop where
  foreign : ∀ old ∈ before.ports, ∀ port ∈ after.ports,
    port.uuid = old.uuid → port.interfaces ≠ old.interfaces →
      request.Own resolved old
  kept : ∀ old ∈ before.ports, ¬ request.Own resolved old →
    old ∈ after.ports
  refers : ∃ port ∈ after.ports,
    (port.name = request.vxlanName ∨
      ∃ old ∈ before.ports, old.uuid = port.uuid ∧
        request.Own resolved old) ∧
      target ∈ port.interfaces ∧
      ∃ interface ∈ after.interfaces, interface.uuid = target

/-- The first listed port is the own one if there is one, and otherwise there
is an integration bridge. -/
structure OwnFirst (request : VtepRequest) (listing : Listing)
    (database : Vswitch) : Prop where
  first : (∃ port ∈ database.ports,
      request.Own (request.resolvedInterface listing database) port) →
    ∃ first, (listing.portsByName database.ports).head? = some first ∧
      request.Own (request.resolvedInterface listing database) first
  bridge : (¬ ∃ port ∈ database.ports,
      request.Own (request.resolvedInterface listing database) port) →
    ∃ bridge ∈ database.bridges, bridge.name = "br-int"

theorem mem_of_head {first : Port}
    (head : (listing.portsByName database.ports).head? = some first) :
    first ∈ database.ports :=
  (listing.portsByName_perm _).mem_iff.mp (List.mem_of_head? head)

theorem not_own (missing : request.resolvedInterface listing database = none)
    (unnamed : ∀ port ∈ database.ports, port.name ≠ request.vxlanName) :
    ¬ ∃ port ∈ database.ports,
      request.Own (request.resolvedInterface listing database) port := by
  intro own
  obtain ⟨port, listed, named | ⟨_, found, _⟩⟩ := own
  · exact unnamed port listed named
  · rw [missing] at found
    cases found

/-- A port that is not the first is as it was. -/
theorem mem_relinked_of_ne {interfaces : List Interface}
    {port target : String} {row : Port} (listed : row ∈ database.ports)
    (other : row.uuid ≠ port) :
    row ∈ (relinked database interfaces port target).ports :=
  List.mem_map.mpr ⟨row, listed, if_neg other⟩

theorem mem_relinked_first {interfaces : List Interface} {target : String}
    {row : Port} (listed : row ∈ database.ports) :
    { row with interfaces := [target] } ∈
      (relinked database interfaces row.uuid target).ports :=
  List.mem_map.mpr ⟨row, listed, if_pos rfl⟩

theorem mem_collect_relinked_first {reconciled : Vswitch} {first : Port}
    {candidates : List Interface} {target : String}
    (spec : Reconciled database reconciled)
    (listed : first ∈ database.ports) :
    { first with interfaces := [target] } ∈
      (relinked reconciled candidates first.uuid target).collect.ports := by
  rw [mem_ports_collect_relinked spec.wellFormed]
  apply mem_relinked_first
  rw [spec.ports]
  exact listed

/-- The interface of the tunnel is missing from a port that refers neither to
the one that is there nor to an identifier not given yet. -/
theorem target_not_mem {first : Port} (wellFormed : database.WellFormed)
    (fresh : ∀ row ∈ database.interfaces, row.uuid ≠ ifaceUUID)
    (listed : first ∈ database.ports)
    (lacks : ∀ iface, resolved = some iface →
      iface.uuid ∉ first.interfaces) :
    VtepRequest.target resolved ifaceUUID ∉ first.interfaces := by
  cases resolved with
  | some iface => exact lacks iface rfl
  | none =>
      intro member
      obtain ⟨row, rowListed, same⟩ :=
        wellFormed.portLeads first listed _ member
      exact fresh row rowListed same

/-- A call that relinks the first listed port is right when this port is the
own one. -/
theorem touchesOwn_relinked {reconciled : Vswitch} {first : Port}
    {candidates : List Interface} {target : String}
    (wellFormed : database.WellFormed) (spec : Reconciled database reconciled)
    (listed : first ∈ database.ports) (lacks : target ∉ first.interfaces)
    (settled : (relinked reconciled candidates first.uuid
      target).collect.WellFormed) :
    TouchesOwn request resolved target database
        (relinked reconciled candidates first.uuid target).collect ↔
      request.Own resolved first := by
  have changed : { first with interfaces := [target] } ∈
      (relinked reconciled candidates first.uuid target).collect.ports :=
    mem_collect_relinked_first spec listed
  have others : ∀ old ∈ database.ports, old ≠ first → old ∈
      (relinked reconciled candidates first.uuid target).collect.ports := by
    intro old oldListed different
    rw [mem_ports_collect_relinked spec.wellFormed]
    apply mem_relinked_of_ne
    · rw [spec.ports]
      exact oldListed
    · intro same
      exact different (wellFormed.port_eq_of_uuid oldListed listed same)
  constructor
  · intro touches
    apply touches.foreign first listed _ changed rfl
    intro same
    apply lacks
    rw [← same]
    exact .head _
  · intro own
    refine
      { foreign := ?_
        kept := ?_
        refers := ⟨_, changed, .inr ⟨first, listed, rfl, own⟩, .head _,
          settled.portLeads _ changed target (.head _)⟩ }
    · intro old oldListed port portListed same different
      by_cases is : old = first
      · rw [is]
        exact own
      · have unchanged := settled.port_eq_of_uuid portListed
          (others old oldListed is) same
        exact absurd (congrArg Port.interfaces unchanged) different
    · intro old oldListed foreign
      apply others old oldListed
      intro is
      exact foreign (is ▸ own)

/-- The call does what it should to the ports exactly when its own port is
listed first. -/
theorem touchesOwn_iff {after : Vswitch}
    (wellFormed : database.WellFormed)
    (fresh : ∀ row ∈ database.interfaces, row.uuid ≠ ifaceUUID)
    (ensured : Ensured request listing ifaceUUID portUUID database
      (request.reconcileInterface listing database) after)
    (settled : after.WellFormed) :
    TouchesOwn request (request.resolvedInterface listing database)
        (VtepRequest.target (request.resolvedInterface listing database)
          ifaceUUID) database after ↔
      OwnFirst request listing database := by
  have spec : Reconciled database
      (request.reconcileInterface listing database) := reconciled wellFormed
  cases ensured with
  | settled found head member =>
      rename_i first iface
      have listed := mem_of_head head
      have own : request.Own (request.resolvedInterface listing database)
          first := .inr ⟨iface, found, member⟩
      have sameRow : ∀ port ∈ (request.reconcileInterface listing
          database).ports, port ∈ database.ports := by
        rw [spec.ports]
        exact fun _ listed => listed
      refine iff_of_true ?_ ⟨fun _ => ⟨first, head, own⟩,
        fun none => absurd ⟨first, listed, own⟩ none⟩
      refine
        { foreign := ?_
          kept := ?_
          refers := ?_ }
      · intro old oldListed port portListed same different
        exact absurd (congrArg Port.interfaces (wellFormed.port_eq_of_uuid
          (sameRow port portListed) oldListed same)) different
      · intro old oldListed _
        rw [spec.ports]
        exact oldListed
      · have listedToo : first ∈ (request.reconcileInterface listing
            database).ports := by
          rw [spec.ports]
          exact listed
        rw [found]
        exact ⟨first, listedToo, .inr ⟨first, listed, rfl, found ▸ own⟩,
          member, settled.portLeads first listedToo iface.uuid member⟩
  | relinked own head lacks =>
      rename_i first
      have listed := mem_of_head head
      have missing := target_not_mem wellFormed fresh listed lacks
      rw [touchesOwn_relinked wellFormed spec listed missing settled]
      constructor
      · intro first_own
        exact ⟨fun _ => ⟨first, head, first_own⟩,
          fun none => absurd own none⟩
      · intro ownFirst
        obtain ⟨other, otherHead, otherOwn⟩ := ownFirst.first own
        cases head.symm.trans otherHead
        exact otherOwn
  | installed missing unnamed bridgeListed named =>
      rename_i bridge
      have none : ¬ ∃ port ∈ database.ports, request.Own
          (request.resolvedInterface listing database) port :=
        not_own missing unnamed
      refine iff_of_true ?_ ⟨fun own => absurd own none,
        fun _ => ⟨bridge, bridgeListed, named⟩⟩
      refine
        { foreign := ?_
          kept := fun old oldListed _ => List.mem_append_left _ oldListed
          refers := ?_ }
      · intro old oldListed port portListed same different
        have unchanged := settled.port_eq_of_uuid portListed
          (List.mem_append_left _ oldListed) same
        exact absurd (congrArg Port.interfaces unchanged) different
      · rw [missing]
        exact ⟨request.newPort portUUID ifaceUUID, by simp [installed],
          .inl rfl, .head _, request.newInterface ifaceUUID,
          by simp [installed], rfl⟩
  | dropped missing unnamed noBridge =>
      have none : ¬ ∃ port ∈ database.ports, request.Own
          (request.resolvedInterface listing database) port :=
        not_own missing unnamed
      refine iff_of_false ?_ ?_
      · intro touches
        obtain ⟨port, listed, named | ⟨old, oldListed, _, own⟩, _⟩ :=
          touches.refers
        · exact unnamed port listed named
        · exact none ⟨old, oldListed, own⟩
      · intro ownFirst
        obtain ⟨bridge, listed, named⟩ := ownFirst.bridge none
        exact noBridge bridge listed named

end Request

end EvpnForOvn.OvsdbMgmt

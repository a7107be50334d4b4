import EvpnForOvn.Endpoint.OvnBackend
import EvpnForOvn.Lib.Interleave

/-!
# A deletion of an older incarnation beside an ensure of a newer one

`DeleteLogicalSwitchPort` checks the incarnation of the row it has listed and
deletes, in a later transaction, whatever row has the identifier by then.
`EnsureLogicalSwitchPort` keeps the identifier when it takes a row over.  So a
deletion that has passed its check removes the newer port.

The port survives in every interleaving in which each transaction is committed
while the row it was decided on is still the row of its name.
-/

namespace EvpnForOvn.Endpoint

open Go Interactive Northbound

/-- The port of the spec exists with its incarnation, and its switch refers to
it. -/
def Northbound.Holds (database : Northbound) (spec : OVNPortSpec) : Prop :=
  ∃ row ∈ database.ports, row.name = trimSpace spec.logicalSwitchPort ∧
    row.externalIDs.get ovnExternalIDIncarnation =
      some (trimSpace spec.incarnation) ∧
    ∃ switch ∈ database.switches,
      switch.name = trimSpace spec.logicalSwitch ∧ row.uuid ∈ switch.ports

/-- The calls on one endpoint, one for each incarnation. -/
def ensureBesideDelete (spec : OVNPortSpec) (stale : String)
    (database : Northbound) :
    Pair nbSignature Northbound (Except GoError OVNPortStatus × Unit)
      (Except GoError Unit × Unit) :=
  { world := database
    left := (ensureLogicalSwitchPort spec).start ()
    right := (deleteLogicalSwitchPort
      { spec with incarnation := stale }).start () }

/-- Besides listings, the deletion sends one transaction.  It is decided on a
row of the name that carries the older incarnation, and deletes that row. -/
def DeletesStale (spec : OVNPortSpec) (stale : String) : NbRequest → Prop
  | .transact basis operations => ∃ row switches,
      basis = .listed (trimSpace spec.logicalSwitchPort) (some row) ∧
        validateOVNIncarnation row.externalIDs stale = .ok () ∧
        operations = detachOperations switches row ++ [.deletePort row.uuid]
  | _ => True

theorem delete_asks (spec : OVNPortSpec) (stale : String) :
    (deleteLogicalSwitchPort { spec with incarnation := stale }).Asks
      (DeletesStale spec stale) := by
  unfold deleteLogicalSwitchPort
  refine Method.Asks.refuse_bind ?_
  intro _
  unfold getLogicalSwitchPortByName listLogicalSwitchPorts
  apply Method.Asks.bind
  · exact ((Method.Asks.ask trivial).bind fun _ => .check).bind
      fun _ => .pure
  · intro found
    cases found with
    | none => exact .pure
    | some row =>
        change (deleteExisting _ row).Asks _
        unfold deleteExisting
        apply Method.Asks.check_bind
        intro _ _
        apply Method.Asks.check_bind
        intro _ current
        unfold listLogicalSwitches
        apply Method.Asks.bind
        · exact (Method.Asks.ask trivial).bind fun _ => .check
        · intro switches
          unfold transactNoErr
          exact (Method.Asks.ask ⟨row, switches, rfl, current, rfl⟩).bind
            fun _ => .check

section Moves

variable {spec : OVNPortSpec} {stale : String} {before after : Northbound}

/-- How the deletion moves the database when its transaction is timely. -/
def Moves (spec : OVNPortSpec) (stale : String) :
    Northbound → Northbound → Prop :=
  ((environment Timely).beside (DeletesStale spec stale)).drifts

/-- The deletion removes a row of the name that carries the older
incarnation, and nothing else. -/
structure Removes (spec : OVNPortSpec) (stale : String)
    (row : LogicalSwitchPort) (before after : Northbound) : Prop where
  found : before.portNamed (trimSpace spec.logicalSwitchPort) = some row
  older : validateOVNIncarnation row.externalIDs stale = .ok ()
  frame : Frame row.uuid before after
  wellFormed : after.WellFormed
  gone : ∀ other ∈ after.ports, other.uuid ≠ row.uuid

theorem port_of_mem_detachOperations {switches : List LogicalSwitch}
    {row : LogicalSwitchPort} {operation : NbOperation}
    (member : operation ∈
      detachOperations switches row ++ [.deletePort row.uuid]) :
    operation.port = row.uuid := by
  rcases List.mem_append.mp member with detached | deleted
  · obtain ⟨switch, _, rfl⟩ := List.mem_map.mp detached
    rfl
  · obtain rfl := List.mem_singleton.mp deleted
    rfl

theorem Moves.cases (wellFormed : before.WellFormed)
    (moved : Moves spec stale before after) :
    after = before ∨ ∃ row, Removes spec stale row before after := by
  rcases moved with impossible | ⟨message, reply, permitted, answered⟩
  · exact impossible.elim
  · cases message with
    | listSwitches => exact .inl answered.1
    | listPorts => exact .inl answered.1
    | newUUID => exact .inl answered
    | transact basis operations =>
        rcases answered with ⟨timely, committed⟩ | ⟨same, _⟩
        · obtain ⟨row, switches, rfl, older, rfl⟩ := permitted
          exact .inr ⟨row,
            { found := timely
              older := older
              frame := wellFormed.frame_transact
                (fun _ member => port_of_mem_detachOperations member)
                committed
              wellFormed := wellFormed_of_transact committed
              gone := fun _ listed => uuid_ne_of_delete committed listed }⟩
        · exact .inl same

theorem Moves.wellFormed (wellFormed : before.WellFormed)
    (moved : Moves spec stale before after) : after.WellFormed := by
  rcases moved.cases wellFormed with rfl | ⟨row, removes⟩
  · exact wellFormed
  · exact removes.wellFormed

/-- A given incarnation that passes the check is the one of the row. -/
theorem externalID_of_validateOVNIncarnation {ids : GoMap String}
    (given : trimSpace stale ≠ "")
    (valid : validateOVNIncarnation ids stale = .ok ()) :
    externalID ids ovnExternalIDIncarnation = trimSpace stale := by
  unfold validateOVNIncarnation at valid
  rw [if_neg given] at valid
  split at valid
  · cases valid
  · split at valid
    · cases valid
    · rename_i same
      exact not_not.mp same

/-- The deletion does nothing to a database with the newer port. -/
theorem Moves.eq_of_newer (given : trimSpace stale ≠ "")
    (newer : trimSpace stale ≠ trimSpace spec.incarnation)
    (wellFormed : before.WellFormed) {row : LogicalSwitchPort}
    (listed : row ∈ before.ports)
    (named : row.name = trimSpace spec.logicalSwitchPort)
    (incarnation : row.externalIDs.get ovnExternalIDIncarnation =
      some (trimSpace spec.incarnation))
    (moved : Moves spec stale before after) : after = before := by
  rcases moved.cases wellFormed with same | ⟨other, removes⟩
  · exact same
  · obtain ⟨otherListed, otherNamed⟩ := find_name_eq_some removes.found
    obtain rfl := wellFormed.row_eq_of_name otherListed listed
      (otherNamed.trans named.symm)
    have carried := externalID_of_validateOVNIncarnation given removes.older
    unfold externalID at carried
    rw [incarnation, Option.getD_some, trimSpace_trimSpace] at carried
    exact absurd carried.symm newer

end Moves

/-- A listed switch is still there, and still refers to those of its listed
ports that exist. -/
structure Known (switch : LogicalSwitch) (here : Northbound) : Prop where
  wellFormed : here.WellFormed
  present : ∃ now ∈ here.switches, now.uuid = switch.uuid ∧
    now.name = switch.name ∧
    ∀ row ∈ here.ports, row.uuid ∈ switch.ports → row.uuid ∈ now.ports

/-- The row of the endpoint carries the newer metadata. -/
structure Taken (spec : OVNPortSpec) (uuid : String) (here : Northbound) :
    Prop where
  wellFormed : here.WellFormed
  row : ∃ row ∈ here.ports, row.uuid = uuid ∧
    row.name = trimSpace spec.logicalSwitchPort ∧
    row.externalIDs = ovnExternalIDsForSpec spec

theorem known_of_mem {switch : LogicalSwitch} {here : Northbound}
    (wellFormed : here.WellFormed) (listed : switch ∈ here.switches) :
    Known switch here :=
  { wellFormed := wellFormed
    present := ⟨switch, listed, rfl, rfl, fun _ _ member => member⟩ }

theorem Known.moves {spec : OVNPortSpec} {stale : String}
    {switch : LogicalSwitch} {before after : Northbound}
    (known : Known switch before) (moved : Moves spec stale before after) :
    Known switch after := by
  rcases moved.cases known.wellFormed with rfl | ⟨removed, removes⟩
  · exact known
  · obtain ⟨now, listed, uuid, name, refers⟩ := known.present
    obtain ⟨next, nextListed, framed⟩ := removes.frame.switch listed
    refine
      { wellFormed := removes.wellFormed
        present := ⟨next, nextListed, framed.uuid.trans uuid,
          framed.name.trans name, ?_⟩ }
    intro row rowListed member
    have different := removes.gone row rowListed
    have old := (removes.frame.ports row different).mp rowListed
    exact (framed.others row.uuid different).mpr (refers row old member)

section Kept

variable {spec : OVNPortSpec} {stale : String} {before after : Northbound}
  (given : trimSpace stale ≠ "")
  (newer : trimSpace stale ≠ trimSpace spec.incarnation)

include given newer

theorem Taken.moves {uuid : String} (taken : Taken spec uuid before)
    (moved : Moves spec stale before after) : after = before := by
  obtain ⟨row, listed, _, named, ids⟩ := taken.row
  refine moved.eq_of_newer given newer taken.wellFormed listed named ?_
  rw [ids]
  exact (get_ovnExternalIDsForSpec spec).2.2.2.2.2

theorem Northbound.Holds.moves (wellFormed : before.WellFormed)
    (holds : before.Holds spec) (moved : Moves spec stale before after) :
    after = before := by
  obtain ⟨row, listed, named, incarnation, _⟩ := holds
  exact moved.eq_of_newer given newer wellFormed listed named incarnation

end Kept

section Transactions

variable {spec : OVNPortSpec} {switch : LogicalSwitch}
  {here after : Northbound}

theorem Known.update {existing : LogicalSwitchPort}
    (known : Known switch here)
    (found : here.portNamed (trimSpace spec.logicalSwitchPort) =
      some existing)
    (committed : here.transact [.updatePort existing.uuid spec.addresses
      (ovnExternalIDsForSpec spec)] = some after) :
    Known switch after ∧ Taken spec existing.uuid after := by
  obtain ⟨listed, named⟩ := find_name_eq_some found
  have wellFormed := wellFormed_of_transact committed
  rw [known.wellFormed.transact_update] at committed
  obtain rfl := Option.some.inj committed
  obtain ⟨now, nowListed, uuid, name, refers⟩ := known.present
  constructor
  · refine
      { wellFormed := wellFormed
        present := ⟨now, nowListed, uuid, name, ?_⟩ }
    intro row rowListed member
    obtain ⟨old, oldListed, written⟩ := List.mem_map.mp rowListed
    have same : row.uuid = old.uuid := by
      rw [← written]
      split
      · exact uuid_write old
      · rfl
    rw [same] at member ⊢
    exact refers old oldListed member
  · exact
      { wellFormed := wellFormed
        row := ⟨_, mem_apply_update listed, uuid_write existing,
          named, externalIDs_write spec spec.addresses existing⟩ }

theorem holds_of_row {row : LogicalSwitchPort}
    (listed : row ∈ here.ports)
    (named : row.name = trimSpace spec.logicalSwitchPort)
    (ids : row.externalIDs = ovnExternalIDsForSpec spec)
    (attached : ∃ now ∈ here.switches,
      now.name = trimSpace spec.logicalSwitch ∧ row.uuid ∈ now.ports) :
    here.Holds spec := by
  refine ⟨row, listed, named, ?_, attached⟩
  rw [ids]
  exact (get_ovnExternalIDsForSpec spec).2.2.2.2.2

theorem Known.holds {uuid : String} (known : Known switch here)
    (taken : Taken spec uuid here)
    (switchNamed : switch.name = trimSpace spec.logicalSwitch)
    (member : uuid ∈ switch.ports) : here.Holds spec := by
  obtain ⟨row, listed, rfl, named, ids⟩ := taken.row
  obtain ⟨now, nowListed, _, name, refers⟩ := known.present
  exact holds_of_row listed named ids
    ⟨now, nowListed, name.trans switchNamed, refers row listed member⟩

theorem Known.attach {uuid : String} (known : Known switch here)
    (taken : Taken spec uuid here)
    (switchNamed : switch.name = trimSpace spec.logicalSwitch)
    (committed : here.transact [.attachPort switch.uuid uuid] =
      some after) : after.Holds spec := by
  obtain ⟨row, listed, rfl, named, ids⟩ := taken.row
  obtain ⟨now, nowListed, same, name, _⟩ := known.present
  rw [← same] at committed
  obtain ⟨kept, attached, attachedListed, attachedName, member⟩ :=
    attached_of_transact committed nowListed listed
  exact holds_of_row kept named ids ⟨attached, attachedListed,
    attachedName.trans (name.trans switchNamed), member⟩

theorem Known.create {uuid : String} (known : Known switch here)
    (switchNamed : switch.name = trimSpace spec.logicalSwitch)
    (committed : here.transact [.createPort (spec.row uuid),
      .attachPort switch.uuid uuid] = some after) : after.Holds spec := by
  obtain ⟨now, nowListed, same, name, _⟩ := known.present
  rw [← same] at committed
  obtain ⟨kept, attached, attachedListed, attachedName, member⟩ :=
    created_of_transact committed nowListed
  exact holds_of_row kept rfl rfl ⟨attached, attachedListed,
    attachedName.trans (name.trans switchNamed), member⟩

end Transactions

section Beside

variable {α : Type} {spec : OVNPortSpec} {stale : String}

/-- A successful outcome comes with the port in place. -/
abbrev Ensures (spec : OVNPortSpec) (stale : String)
    (method : NbMethod α) (here : Northbound) : Prop :=
  Method.Safe (amid Timely (Moves spec stale)) (fun _ => True)
    (fun outcome _ here => ∀ value, outcome = .ok value → here.Holds spec)
    method () here

/-- The ensure keeps its promise beside the deletion. -/
structure EnsuresBeside (spec : OVNPortSpec) (stale : String)
    (database : Northbound) : Prop where
  safe : Method.Safe ((environment Timely).beside (DeletesStale spec stale))
    (fun _ => True)
    (fun outcome _ here => ∀ value, outcome = .ok value → here.Holds spec)
    (ensureLogicalSwitchPort spec) () database

theorem ensures_throw {reason : GoError} {here : Northbound} :
    Ensures spec stale (throw reason : NbMethod α) here :=
  safe_throw (fun _ => True) (fun _ _ _ _ => trivial) (fun _ _ => trivial)
    trivial (fun _ _ _ impossible => by cases impossible)

variable (given : trimSpace stale ≠ "")
  (newer : trimSpace stale ≠ trimSpace spec.incarnation)

include given newer

theorem ensures_return {value : α} {here : Northbound}
    (wellFormed : here.WellFormed) (holds : here.Holds spec) :
    Ensures spec stale (pure value) here := by
  refine safe_return (fun now => now.WellFormed ∧ now.Holds spec) ?_
    (fun _ _ => trivial) ⟨wellFormed, holds⟩ (fun _ held _ _ => held.2)
  intro before after held moved
  rw [held.2.moves given newer held.1 moved]
  exact held

theorem ensureExisting_ensures {switch : LogicalSwitch}
    {existing : LogicalSwitchPort} {here : Northbound}
    (known : Known switch here)
    (switchNamed : switch.name = trimSpace spec.logicalSwitch) :
    Ensures spec stale (ensureExisting spec switch existing) here := by
  unfold ensureExisting
  apply Method.Safe.check_bind
  · intro reason _
    exact ensures_throw
  · intro _ _
    apply safe_transactNoErr_bind (Known switch)
      (fun _ _ known moved => known.moves moved) (fun _ _ => trivial) known
    · intro reason now _ _ impossible
      cases impossible
    · intro reason now after _ _ _
      exact ensures_throw
    · intro now after known timely committed
      obtain ⟨known, taken⟩ := known.update timely committed
      unfold attachExisting
      by_cases attached : switch.ports.contains existing.uuid = true
      · rw [if_pos attached]
        exact ensures_return given newer known.wellFormed (known.holds taken
          switchNamed (List.contains_iff_mem.mp attached))
      · rw [if_neg attached]
        apply safe_transactNoErr_bind
          (fun now => Known switch now ∧ Taken spec existing.uuid now) _
          (fun _ _ => trivial) ⟨known, taken⟩
        · intro reason now _ _ impossible
          cases impossible
        · intro reason now after _ _ _
          exact ensures_throw
        · intro now after held _ committed
          exact ensures_return given newer (wellFormed_of_transact committed)
            (held.1.attach held.2 switchNamed committed)
        · intro before after held moved
          rw [held.2.moves given newer moved]
          exact held

theorem ensureCreated_ensures {switch : LogicalSwitch} {here : Northbound}
    (known : Known switch here)
    (switchNamed : switch.name = trimSpace spec.logicalSwitch) :
    Ensures spec stale (ensureCreated spec switch) here := by
  unfold ensureCreated
  apply Interactive.Safe.ask (Known switch) known
    (fun _ _ known moved => known.moves moved) (fun _ _ => trivial)
  intro now (uuid : String) after known step
  obtain rfl : after = now := step
  change Ensures spec stale (do
    transactNoErr (.listed (trimSpace spec.logicalSwitchPort) none)
      [.createPort (spec.row uuid), .attachPort switch.uuid uuid]
    return spec.status) after
  apply safe_transactNoErr_bind (Known switch)
    (fun _ _ known moved => known.moves moved) (fun _ _ => trivial) known
  · intro reason now _ _ impossible
    cases impossible
  · intro reason now after _ _ _
    exact ensures_throw
  · intro now after known _ committed
    exact ensures_return given newer (wellFormed_of_transact committed)
      (known.create switchNamed committed)

theorem ensureGiven_ensures {database : Northbound}
    (wellFormed : database.WellFormed) :
    Ensures spec stale (do
      let switch ← getLogicalSwitchByName (trimSpace spec.logicalSwitch)
      let existing ← getLogicalSwitchPortByName
        (trimSpace spec.logicalSwitchPort)
      ensureFound spec switch existing) database := by
  unfold getLogicalSwitchByName
  apply Method.safe_bind_assoc.mpr
  apply safe_listLogicalSwitches_bind WellFormed
    (fun _ _ wellFormed moved => moved.wellFormed wellFormed)
    (fun _ _ => trivial) wellFormed
  · intro reason now _ _ impossible
    cases impossible
  · intro switches here wellFormed permuted
    apply Method.Safe.require_bind
    · intro _
      exact ensures_throw
    · intro switch found
      have switchNamed : switch.name = trimSpace spec.logicalSwitch := by
        simpa using List.find?_some found
      have known := known_of_mem wellFormed
        (permuted.mem_iff.mp (List.mem_of_find?_eq_some found))
      unfold getLogicalSwitchPortByName
      apply Method.safe_bind_assoc.mpr
      apply safe_listLogicalSwitchPorts_bind (Known switch)
        (fun _ _ known moved => known.moves moved) (fun _ _ => trivial) known
      · intro reason now _ _ impossible
        cases impossible
      · intro rows now known _
        apply Method.safe_pure_bind.mpr
        cases rows.find? (fun row =>
            row.name == trimSpace spec.logicalSwitchPort) with
        | none => exact ensureCreated_ensures given newer known switchNamed
        | some existing =>
            exact ensureExisting_ensures given newer known switchNamed

theorem ensure_ensures {database : Northbound}
    (wellFormed : database.WellFormed) :
    EnsuresBeside spec stale database := by
  constructor
  change Ensures spec stale (ensureLogicalSwitchPort spec) database
  unfold ensureLogicalSwitchPort
  generalize isBlank spec.logicalSwitch = switchMissing
  generalize isBlank spec.logicalSwitchPort = portMissing
  cases switchMissing with
  | true => exact ensures_throw
  | false =>
      cases portMissing with
      | true => exact ensures_throw
      | false =>
          apply Method.safe_pure_bind.mpr
          apply Method.safe_pure_bind.mpr
          exact ensureGiven_ensures given newer wellFormed

end Beside

/-- In every interleaving whose transactions are timely, the port that an
ensure has reported is in place once the ensure has returned, and stays in
place while the deletion of another incarnation goes on and returns. -/
theorem ensured_port_survives_timely_delete (spec : OVNPortSpec)
    (stale : String) (database : Northbound)
    (wellFormed : database.WellFormed)
    (given : trimSpace stale ≠ "")
    (newer : trimSpace stale ≠ trimSpace spec.incarnation)
    (final : Pair nbSignature Northbound
      (Except GoError OVNPortStatus × Unit) (Except GoError Unit × Unit))
    (steps : Pair.Steps (environment Timely)
      (ensureBesideDelete spec stale database) final)
    (status : OVNPortStatus)
    (ensured : final.left = .done (.ok status, ())) :
    final.world.Holds spec := by
  obtain ⟨safe⟩ := ensure_ensures given newer wellFormed
  have posted : ∀ value, (Except.ok status : Except GoError OVNPortStatus) =
      .ok value → final.world.Holds spec :=
    Method.outcome_of_steps safe (delete_asks spec stale) steps ensured
  exact posted status rfl

def sampleSpec : OVNPortSpec :=
  { endpointID := "net|eth0|uid"
    networkID := "net"
    attachmentID := "eth0"
    workloadUID := "uid"
    incarnation := "2"
    logicalSwitch := "tenant"
    logicalSwitchPort := "vm-1"
    addresses := ["00:00:00:00:00:01"] }

def olderDatabase : Northbound :=
  { switches := [{ uuid := "switch-1", name := "tenant", ports := ["port-1"] }]
    ports := [{ sampleSpec with incarnation := "1" }.row "port-1"] }

def emptyDatabase : Northbound :=
  { switches := [{ uuid := "switch-1", name := "tenant", ports := [] }]
    ports := [] }

private theorem nbSteps (condition : Northbound → Basis → Prop)
    [∀ database basis, Decidable (condition database basis)]
    (order : List Bool) (database : Northbound) :
    Pair.Steps (environment condition)
      (ensureBesideDelete sampleSpec "1" database)
      (Pair.schedule (fun database => database.answer condition) order
        (ensureBesideDelete sampleSpec "1" database)) :=
  Pair.steps_schedule (answers_answer condition) order _

/-- The ensure creates the port, and the deletion then finds the newer
incarnation. -/
def timelyRun : Pair nbSignature Northbound
    (Except GoError OVNPortStatus × Unit) (Except GoError Unit × Unit) :=
  Pair.schedule (fun database => database.answer Timely)
    [true, true, true, true, false] (ensureBesideDelete sampleSpec "1"
      emptyDatabase)

theorem ensured_port_survives_timely_delete_sample :
    timelyRun.world.Holds sampleSpec := by
  have ensured : timelyRun.left = .done (.ok sampleSpec.status, ()) := by
    rfl
  refine ensured_port_survives_timely_delete sampleSpec "1" emptyDatabase ?_
    (by decide) (by decide) timelyRun
    (nbSteps Timely [true, true, true, true, false] emptyDatabase)
    sampleSpec.status ensured
  have consistent : emptyDatabase.Consistent := by decide
  refine { consistent with referred := ?_ }
  simp [emptyDatabase]

/-- The deletion lists and checks the older port, the ensure takes the row
over and returns, and the deletion removes it. -/
theorem newer_port_deleted :
    olderDatabase.WellFormed ∧ ∃ final : Pair nbSignature Northbound
      (Except GoError OVNPortStatus × Unit) (Except GoError Unit × Unit),
      Pair.Steps (environment fun _ _ => True)
        (ensureBesideDelete sampleSpec "1" olderDatabase) final ∧
      final.left = .done (.ok sampleSpec.status, ()) ∧
      final.right = .done (.ok (), ()) ∧
      ¬ final.world.Holds sampleSpec := by
  constructor
  · have consistent : olderDatabase.Consistent := by decide +kernel
    refine { consistent with referred := ?_ }
    simp [olderDatabase, refers, OVNPortSpec.row]
  · refine ⟨_, nbSteps (fun _ _ => True)
      [false, false, true, true, true, false] olderDatabase, by rfl, by rfl,
      ?_⟩
    intro holds
    obtain ⟨row, listed, _⟩ := holds
    cases (show row ∈ [] from listed)

end EvpnForOvn.Endpoint

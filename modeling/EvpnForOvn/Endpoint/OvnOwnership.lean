import EvpnForOvn.Endpoint.OvnBackend

/-!
# Which ports the OVN backend touches

`validateOVNOwnership` skips a marker that is missing.  A port with metadata
of someone else and none of the markers passes it, and is then overwritten or
deleted.  The calls respect unmarked ports exactly in the databases in which
the metadata of each such port of the name protects it: there is none, or a
marker names another owner, or the calls end before they write.
-/

namespace EvpnForOvn.Endpoint

open Go Interactive Northbound

/-- The key is present, with the value up to surrounding space. -/
def Carries (ids : GoMap String) (key value : String) : Prop :=
  ∃ text, ids.get key = some text ∧ trimSpace text = value

/-- The markers of the owner of a port. -/
structure Marked (ids : GoMap String) (spec : OVNPortSpec) : Prop where
  managedBy : Carries ids ovnExternalIDManagedBy ovnOwnerValue
  endpoint : Carries ids ovnExternalIDEndpointID (trimSpace spec.endpointID)
  network : Carries ids ovnExternalIDNetworkID (trimSpace spec.networkID)
  attachment : Carries ids ovnExternalIDAttachID
    (trimSpace spec.attachmentID)
  workload : Carries ids ovnExternalIDWorkloadUID (trimSpace spec.workloadUID)

/-- The row is still there as it was, attached to the same switches. -/
structure Untouched (row : LogicalSwitchPort) (before after : Northbound) :
    Prop where
  kept : row ∈ after.ports
  attached : List.Forall₂ (fun switch next : LogicalSwitch =>
      next.uuid = switch.uuid ∧
        (row.uuid ∈ next.ports ↔ row.uuid ∈ switch.ports))
    before.switches after.switches

/-- A call leaves the row untouched at every point, and reports an error if
the row is the one it was called for. -/
structure LeavesAlone {α : Type} (spec : OVNPortSpec)
    (database : Northbound) (row : LogicalSwitchPort)
    (method : NbMethod α) : Prop where
  safe : Method.Safe (environment fun _ _ => True) (Untouched row database)
    (fun outcome _ _ => row.name = trimSpace spec.logicalSwitchPort →
      ∃ reason, outcome = .error reason) method () database

/-- Both calls leave alone every port without the markers of the spec. -/
def RespectsOwnership (spec : OVNPortSpec) (database : Northbound) : Prop :=
  ∀ row ∈ database.ports, ¬ Marked row.externalIDs spec →
    LeavesAlone spec database row (ensureLogicalSwitchPort spec) ∧
      LeavesAlone spec database row (deleteLogicalSwitchPort spec)

/-- `EnsureLogicalSwitchPort` gets as far as writing the row. -/
def EnsureAccepts (spec : OVNPortSpec) (database : Northbound)
    (row : LogicalSwitchPort) : Prop :=
  validateOVNOwnership row.externalIDs spec = .ok () ∧
    isBlank spec.logicalSwitch = false ∧
    ∃ switch ∈ database.switches,
      switch.name = trimSpace spec.logicalSwitch

/-- `DeleteLogicalSwitchPort` gets as far as deleting the row. -/
def DeleteAccepts (spec : OVNPortSpec) (row : LogicalSwitchPort) : Prop :=
  validateOVNOwnership row.externalIDs spec = .ok () ∧
    validateOVNIncarnation row.externalIDs spec.incarnation = .ok ()

/-- The markers in the order of `validateOVNOwnership`, with their values. -/
def ownerMarkers (spec : OVNPortSpec) : List (String × String) :=
  [(ovnExternalIDManagedBy, ovnOwnerValue),
    (ovnExternalIDEndpointID, trimSpace spec.endpointID),
    (ovnExternalIDNetworkID, trimSpace spec.networkID),
    (ovnExternalIDAttachID, trimSpace spec.attachmentID),
    (ovnExternalIDWorkloadUID, trimSpace spec.workloadUID)]

/-- The key is present, with another value than the given one. -/
def Contradicts (ids : GoMap String) (key value : String) : Prop :=
  ∃ text, ids.get key = some text ∧ trimSpace text ≠ "" ∧
    trimSpace text ≠ value

/-- The ways in which a port without the markers keeps clear of both calls. -/
inductive Protected (spec : OVNPortSpec) (database : Northbound)
    (ids : GoMap String) : Prop
  | bare (empty : ids.size = 0)
  | claimed {key value : String} (marker : (key, value) ∈ ownerMarkers spec)
      (other : Contradicts ids key value)
  | unreached
      (switchless : isBlank spec.logicalSwitch = true ∨
        ∀ switch ∈ database.switches,
          switch.name ≠ trimSpace spec.logicalSwitch)
      (given : trimSpace spec.incarnation ≠ "")
      (stale : ¬ Carries ids ovnExternalIDIncarnation
        (trimSpace spec.incarnation))

/-- Every port of the name that lacks a marker is protected. -/
def UnmarkedProtected (spec : OVNPortSpec) (database : Northbound) : Prop :=
  isBlank spec.logicalSwitchPort = false →
    ∀ row ∈ database.ports, row.name = trimSpace spec.logicalSwitchPort →
      ¬ Marked row.externalIDs spec →
        Protected spec database row.externalIDs

section Checks

variable {ids : GoMap String} {spec : OVNPortSpec} {key expected : String}

theorem validateOVNMarker_eq_ok_iff {reason : GoError} :
    validateOVNMarker ids key expected reason = .ok () ↔
      ¬ Contradicts ids key expected := by
  unfold validateOVNMarker externalID Contradicts
  rw [Evpn.LocalEndpoint.refuse_eq_ok]
  cases ids.get key with
  | none => simp [show trimSpace "" = "" from rfl]
  | some text => simp

/-- The check of the owner accepts metadata that no marker contradicts,
whichever of the markers are missing. -/
theorem validateOVNOwnership_eq_ok_iff :
    validateOVNOwnership ids spec = .ok () ↔ ids.size ≠ 0 ∧
      ∀ key value, (key, value) ∈ ownerMarkers spec →
        ¬ Contradicts ids key value := by
  unfold validateOVNOwnership
  simp [bind_eq_ok, Unique.exists_iff, Evpn.LocalEndpoint.refuse_eq_ok,
    validateOVNMarker_eq_ok_iff, ownerMarkers, or_imp, forall_and]

theorem validateOVNIncarnation_eq_ok_iff :
    validateOVNIncarnation ids expected = .ok () ↔
      trimSpace expected = "" ∨
        Carries ids ovnExternalIDIncarnation (trimSpace expected) := by
  unfold validateOVNIncarnation externalID Carries
  by_cases blank : trimSpace expected = ""
  · simp [blank]
  · cases ids.get ovnExternalIDIncarnation with
    | none => simp [blank, show trimSpace "" = "" from rfl]
    | some text => grind

theorem protected_iff {database : Northbound} {row : LogicalSwitchPort} :
    Protected spec database row.externalIDs ↔
      ¬ (EnsureAccepts spec database row ∨ DeleteAccepts spec row) := by
  unfold EnsureAccepts DeleteAccepts
  rw [validateOVNOwnership_eq_ok_iff, validateOVNIncarnation_eq_ok_iff]
  constructor
  · intro safe accepted
    cases safe with
    | bare empty => grind
    | claimed marker other => grind
    | unreached switchless given stale => grind
  · intro rejected
    by_cases empty : row.externalIDs.size = 0
    · exact .bare empty
    · by_cases claimed : ∃ key value, (key, value) ∈ ownerMarkers spec ∧
          Contradicts row.externalIDs key value
      · obtain ⟨key, value, marker, other⟩ := claimed
        exact .claimed marker other
      · refine .unreached ?_ ?_ ?_
        · grind
        · grind
        · grind

end Checks

theorem marked_ovnExternalIDsForSpec (spec : OVNPortSpec) :
    Marked (ovnExternalIDsForSpec spec) spec := by
  obtain ⟨managedBy, endpoint, network, attachment, workload, _⟩ :=
    get_ovnExternalIDsForSpec spec
  exact
    { managedBy := ⟨_, managedBy, by decide⟩
      endpoint := ⟨_, endpoint, trimSpace_trimSpace _⟩
      network := ⟨_, network, trimSpace_trimSpace _⟩
      attachment := ⟨_, attachment, trimSpace_trimSpace _⟩
      workload := ⟨_, workload, trimSpace_trimSpace _⟩ }

theorem untouched_of_frame {port : String} {row : LogicalSwitchPort}
    {before after : Northbound} (frame : Frame port before after)
    (listed : row ∈ before.ports) (different : row.uuid ≠ port) :
    Untouched row before after :=
  { kept := (frame.ports row different).mpr listed
    attached := frame.switches.imp
      fun _ _ framed => ⟨framed.uuid, framed.others row.uuid different⟩ }

theorem Untouched.refl {row : LogicalSwitchPort} {database : Northbound}
    (listed : row ∈ database.ports) : Untouched row database database :=
  { kept := listed
    attached := List.forall₂_same.mpr fun _ _ => ⟨rfl, Iff.rfl⟩ }

section LeftAlone

variable {α : Type} {spec : OVNPortSpec} {database : Northbound}
  {row : LogicalSwitchPort}

/-- The specification of `LeavesAlone`, from a later point of the call. -/
private abbrev StaysAlone (spec : OVNPortSpec) (database : Northbound)
    (row : LogicalSwitchPort) (method : NbMethod α) (here : Northbound) :
    Prop :=
  Method.Safe (amid (fun _ _ => True) (fun _ _ => False))
    (Untouched row database)
    (fun outcome _ _ => row.name = trimSpace spec.logicalSwitchPort →
      ∃ reason, outcome = .error reason) method () here

private theorem staysAlone_throw {reason : GoError} {here : Northbound}
    (untouched : Untouched row database here) :
    StaysAlone spec database row (throw reason : NbMethod α) here :=
  safe_throw (Untouched row database) (fun _ _ _ moved => moved.elim)
    (fun _ held => held) untouched (fun _ _ _ => ⟨reason, rfl⟩)

private theorem staysAlone_return {value : α} {here : Northbound}
    (other : row.name ≠ trimSpace spec.logicalSwitchPort)
    (untouched : Untouched row database here) :
    StaysAlone spec database row (pure value) here :=
  safe_return (Untouched row database) (fun _ _ _ moved => moved.elim)
    (fun _ held => held) untouched (fun _ _ same => absurd same other)

private theorem staysAlone_listLogicalSwitches
    {continuation : List LogicalSwitch → NbMethod α}
    (listed : row ∈ database.ports)
    (continues : ∀ rows : List LogicalSwitch,
      rows.Perm database.switches →
      StaysAlone spec database row (continuation rows) database) :
    StaysAlone spec database row (listLogicalSwitches >>= continuation)
      database := by
  apply safe_listLogicalSwitches_bind (fun here => here = database)
    (fun _ _ _ moved => moved.elim) _ rfl
  · intro reason here _ _
    exact ⟨reason, rfl⟩
  · intro rows here same permuted
    subst same
    exact continues rows permuted
  · intro here same
    subst same
    exact .refl listed

private theorem staysAlone_listLogicalSwitchPorts
    {continuation : List LogicalSwitchPort → NbMethod α}
    (listed : row ∈ database.ports)
    (continues : ∀ rows : List LogicalSwitchPort,
      rows.Perm database.ports →
      StaysAlone spec database row (continuation rows) database) :
    StaysAlone spec database row (listLogicalSwitchPorts >>= continuation)
      database := by
  apply safe_listLogicalSwitchPorts_bind (fun here => here = database)
    (fun _ _ _ moved => moved.elim) _ rfl
  · intro reason here _ _
    exact ⟨reason, rfl⟩
  · intro rows here same permuted
    subst same
    exact continues rows permuted
  · intro here same
    subst same
    exact .refl listed

private theorem staysAlone_transactNoErr {here : Northbound} {port : String}
    {basis : Basis} {operations : List NbOperation}
    {continuation : Unit → NbMethod α}
    (listed : row ∈ database.ports)
    (wellFormed : here.WellFormed) (frame : Frame port database here)
    (about : ∀ operation ∈ operations, operation.port = port)
    (different : ∀ after, here.transact operations = some after →
      row.uuid ≠ port)
    (untouched : Untouched row database here)
    (continues : ∀ after, after.WellFormed → Frame port database after →
      Untouched row database after →
      StaysAlone spec database row (continuation ()) after) :
    StaysAlone spec database row
      (transactNoErr basis operations >>= continuation) here := by
  have framed : ∀ after, here.transact operations = some after →
      Frame port database after ∧ Untouched row database after := by
    intro after committed
    have whole := frame.trans (wellFormed.frame_transact about committed)
    exact ⟨whole,
      untouched_of_frame whole listed (different after committed)⟩
  apply safe_transactNoErr_bind (fun now => now = here)
    (fun _ _ _ moved => moved.elim) _ rfl
  · intro reason now _ _
    exact ⟨reason, rfl⟩
  · intro reason now after same _ committed
    subst same
    exact staysAlone_throw (framed after committed).2
  · intro now after same _ committed
    subst same
    obtain ⟨whole, kept⟩ := framed after committed
    exact continues after (wellFormed_of_transact committed) whole kept
  · intro now same
    subst same
    exact untouched

/-- A port that the call has listed under the name, and that is not the row,
leaves the row with another name and another identifier. -/
private theorem other_of_ne {found : LogicalSwitchPort}
    (wellFormed : database.WellFormed) (listed : row ∈ database.ports)
    (foundListed : found ∈ database.ports)
    (named : found.name = trimSpace spec.logicalSwitchPort)
    (distinct : found ≠ row) :
    row.uuid ≠ found.uuid ∧ row.name ≠ trimSpace spec.logicalSwitchPort := by
  constructor
  · intro same
    exact distinct
      (wellFormed.row_eq_of_uuid foundListed listed same.symm)
  · intro same
    exact distinct
      (wellFormed.row_eq_of_name foundListed listed (named.trans same.symm))

private theorem ensureExisting_staysAlone {switch : LogicalSwitch}
    {existing : LogicalSwitchPort} (wellFormed : database.WellFormed)
    (listed : row ∈ database.ports)
    (existingListed : existing ∈ database.ports)
    (named : existing.name = trimSpace spec.logicalSwitchPort)
    (rejected : validateOVNOwnership existing.externalIDs spec = .ok () →
      existing ≠ row) :
    StaysAlone spec database row (ensureExisting spec switch existing)
      database := by
  have untouched := Untouched.refl listed
  unfold ensureExisting
  apply Method.Safe.check_bind
  · intro reason _
    exact staysAlone_throw untouched
  · intro _ valid
    obtain ⟨different, other⟩ := other_of_ne wellFormed listed
      existingListed named (rejected valid)
    apply staysAlone_transactNoErr listed wellFormed
      (Frame.refl existing.uuid database) (by simp [NbOperation.port])
      (fun _ _ => different) untouched
    intro after afterWellFormed framed kept
    unfold attachExisting
    by_cases attached : switch.ports.contains existing.uuid = true
    · rw [if_pos attached]
      exact staysAlone_return other kept
    · rw [if_neg attached]
      apply staysAlone_transactNoErr listed afterWellFormed framed
        (by simp [NbOperation.port]) (fun _ _ => different) kept
      intro last _ _ lastKept
      exact staysAlone_return other lastKept

private theorem ensureCreated_staysAlone {switch : LogicalSwitch}
    (wellFormed : database.WellFormed) (listed : row ∈ database.ports)
    (other : row.name ≠ trimSpace spec.logicalSwitchPort) :
    StaysAlone spec database row (ensureCreated spec switch) database := by
  have untouched := Untouched.refl listed
  unfold ensureCreated
  apply Interactive.Safe.ask (fun here => here = database) rfl
    (fun _ _ _ moved => False.elim moved)
  · intro here same
    subst same
    exact untouched
  · intro here (uuid : String) after same step
    obtain rfl : after = here := step
    subst same
    have about : ∀ operation ∈ [NbOperation.createPort (spec.row uuid),
        .attachPort switch.uuid uuid], operation.port = uuid := by
      simp [NbOperation.port, OVNPortSpec.row]
    have fresh : ∀ next, after.transact [.createPort (spec.row uuid),
        .attachPort switch.uuid uuid] = some next → row.uuid ≠ uuid := by
      intro next committed
      have distinct : row.uuid ≠ (spec.row uuid).uuid :=
        wellFormed.fresh_of_create committed listed
      exact distinct
    apply staysAlone_transactNoErr listed wellFormed (Frame.refl uuid after)
      about fresh untouched
    intro next _ _ kept
    exact staysAlone_return other kept

private theorem ensureGiven_staysAlone (wellFormed : database.WellFormed)
    (listed : row ∈ database.ports)
    (rejected : row.name = trimSpace spec.logicalSwitchPort →
      validateOVNOwnership row.externalIDs spec = .ok () →
      ¬ ∃ switch ∈ database.switches,
        switch.name = trimSpace spec.logicalSwitch) :
    StaysAlone spec database row (do
      let switch ← getLogicalSwitchByName (trimSpace spec.logicalSwitch)
      let existing ← getLogicalSwitchPortByName
        (trimSpace spec.logicalSwitchPort)
      ensureFound spec switch existing) database := by
  have untouched := Untouched.refl listed
  unfold getLogicalSwitchByName
  apply Method.safe_bind_assoc.mpr
  apply staysAlone_listLogicalSwitches listed
  intro switches switchesPermuted
  apply Method.Safe.require_bind
  · intro _
    exact staysAlone_throw untouched
  · intro switch found
    unfold getLogicalSwitchPortByName
    apply Method.safe_bind_assoc.mpr
    apply staysAlone_listLogicalSwitchPorts listed
    intro rows permuted
    apply Method.safe_pure_bind.mpr
    cases located : rows.find? (fun row =>
        row.name == trimSpace spec.logicalSwitchPort) with
    | none =>
        apply ensureCreated_staysAlone wellFormed listed
        intro named
        have same := wellFormed.find_name permuted listed
        rw [named, located] at same
        cases same
    | some existing =>
        obtain ⟨member, named⟩ := find_name_eq_some located
        apply ensureExisting_staysAlone wellFormed listed
          (permuted.mem_iff.mp member) named
        intro valid same
        subst same
        refine rejected named valid ⟨switch, switchesPermuted.mem_iff.mp
          (List.mem_of_find?_eq_some found), ?_⟩
        simpa using List.find?_some found

theorem ensure_leavesAlone (wellFormed : database.WellFormed)
    (listed : row ∈ database.ports)
    (rejected : isBlank spec.logicalSwitchPort = false →
      row.name = trimSpace spec.logicalSwitchPort →
      ¬ EnsureAccepts spec database row) :
    LeavesAlone spec database row (ensureLogicalSwitchPort spec) := by
  have untouched := Untouched.refl listed
  constructor
  change StaysAlone spec database row (ensureLogicalSwitchPort spec) database
  unfold ensureLogicalSwitchPort
  cases switchGiven : isBlank spec.logicalSwitch with
  | true => exact staysAlone_throw untouched
  | false =>
      cases portGiven : isBlank spec.logicalSwitchPort with
      | true => exact staysAlone_throw untouched
      | false =>
          apply Method.safe_pure_bind.mpr
          apply Method.safe_pure_bind.mpr
          exact ensureGiven_staysAlone wellFormed listed
            (fun named valid found =>
              rejected portGiven named ⟨valid, switchGiven, found⟩)

private theorem deleteExisting_staysAlone {port : LogicalSwitchPort}
    (wellFormed : database.WellFormed) (listed : row ∈ database.ports)
    (portListed : port ∈ database.ports)
    (named : port.name = trimSpace spec.logicalSwitchPort)
    (rejected : validateOVNOwnership port.externalIDs spec = .ok () →
      validateOVNIncarnation port.externalIDs spec.incarnation = .ok () →
      port ≠ row) :
    StaysAlone spec database row (deleteExisting spec port) database := by
  have untouched := Untouched.refl listed
  unfold deleteExisting
  apply Method.Safe.check_bind
  · intro reason _
    exact staysAlone_throw untouched
  · intro _ owned
    apply Method.Safe.check_bind
    · intro reason _
      exact staysAlone_throw untouched
    · intro _ current
      obtain ⟨different, other⟩ := other_of_ne wellFormed listed portListed
        named (rejected owned current)
      apply staysAlone_listLogicalSwitches listed
      intro switches _
      rw [← bind_pure (transactNoErr _ _)]
      apply staysAlone_transactNoErr listed wellFormed
        (Frame.refl port.uuid database) _ (fun _ _ => different) untouched
      · intro after _ _ kept
        exact staysAlone_return other kept
      · intro operation operationListed
        rcases List.mem_append.mp operationListed with detached | deleted
        · obtain ⟨switch, _, rfl⟩ := List.mem_map.mp detached
          rfl
        · obtain rfl := List.mem_singleton.mp deleted
          rfl

theorem delete_leavesAlone (wellFormed : database.WellFormed)
    (listed : row ∈ database.ports)
    (rejected : isBlank spec.logicalSwitchPort = false →
      row.name = trimSpace spec.logicalSwitchPort →
      ¬ DeleteAccepts spec row) :
    LeavesAlone spec database row (deleteLogicalSwitchPort spec) := by
  have untouched := Untouched.refl listed
  constructor
  change StaysAlone spec database row (deleteLogicalSwitchPort spec) database
  unfold deleteLogicalSwitchPort
  cases portGiven : isBlank spec.logicalSwitchPort with
  | true => exact staysAlone_throw untouched
  | false =>
      apply Method.safe_pure_bind.mpr
      unfold getLogicalSwitchPortByName
      apply Method.safe_bind_assoc.mpr
      apply staysAlone_listLogicalSwitchPorts listed
      intro rows permuted
      apply Method.safe_pure_bind.mpr
      cases located : rows.find? (fun row =>
          row.name == trimSpace spec.logicalSwitchPort) with
      | none =>
          apply staysAlone_return _ untouched
          intro named
          have same := wellFormed.find_name permuted listed
          rw [named, located] at same
          cases same
      | some port =>
          obtain ⟨member, named⟩ := find_name_eq_some located
          apply deleteExisting_staysAlone wellFormed listed
            (permuted.mem_iff.mp member) named
          intro owned current same
          subst same
          exact rejected portGiven named ⟨owned, current⟩

end LeftAlone

section Accepted

variable {spec : OVNPortSpec} {database : Northbound}
  {row : LogicalSwitchPort}

theorem marked_of_ensure_leavesAlone (wellFormed : database.WellFormed)
    (listed : row ∈ database.ports)
    (portGiven : isBlank spec.logicalSwitchPort = false)
    (named : row.name = trimSpace spec.logicalSwitchPort)
    (accepted : EnsureAccepts spec database row)
    (alone : LeavesAlone spec database row (ensureLogicalSwitchPort spec)) :
    Marked row.externalIDs spec := by
  obtain ⟨valid, switchGiven, switch, switchListed, switchNamed⟩ := accepted
  obtain ⟨called⟩ := alone
  unfold ensureLogicalSwitchPort at called
  rw [switchGiven, portGiven] at called
  have passed := Method.safe_pure_bind.mp (Method.safe_pure_bind.mp called)
  unfold getLogicalSwitchByName at passed
  have switches := follow_listLogicalSwitches
    (Method.safe_bind_assoc.mp passed)
  cases found : database.switches.find? (fun switch =>
      switch.name == trimSpace spec.logicalSwitch) with
  | none =>
      have missing := List.find?_eq_none.mp found switch switchListed
      simp [switchNamed] at missing
  | some holder =>
      rw [found] at switches
      have required := Method.safe_pure_bind.mp switches
      unfold getLogicalSwitchPortByName at required
      have ports := follow_listLogicalSwitchPorts
        (Method.safe_bind_assoc.mp required)
      have located := wellFormed.find_name (.refl _) listed
      rw [named] at located
      rw [located] at ports
      have existing := Method.safe_pure_bind.mp ports
      change Method.Safe _ _ _ (ensureExisting spec holder row) _ _
        at existing
      unfold ensureExisting at existing
      rw [valid] at existing
      have committed : database.transact [.updatePort row.uuid
          spec.addresses (ovnExternalIDsForSpec spec)] = some _ :=
        wellFormed.transact_update
      have written := follow_transactNoErr
        (Method.safe_pure_bind.mp existing) trivial committed
      have same := (wellFormed_of_transact committed).row_eq_of_uuid
        written.holds.kept (mem_apply_update listed) (uuid_write row).symm
      rw [same, externalIDs_write]
      exact marked_ovnExternalIDsForSpec spec

theorem not_delete_leavesAlone (wellFormed : database.WellFormed)
    (listed : row ∈ database.ports)
    (portGiven : isBlank spec.logicalSwitchPort = false)
    (named : row.name = trimSpace spec.logicalSwitchPort)
    (accepted : DeleteAccepts spec row) :
    ¬ LeavesAlone spec database row (deleteLogicalSwitchPort spec) := by
  intro alone
  obtain ⟨owned, current⟩ := accepted
  obtain ⟨called⟩ := alone
  unfold deleteLogicalSwitchPort at called
  rw [portGiven] at called
  have passed := Method.safe_pure_bind.mp called
  unfold getLogicalSwitchPortByName at passed
  have ports := follow_listLogicalSwitchPorts
    (Method.safe_bind_assoc.mp passed)
  have located := wellFormed.find_name (.refl _) listed
  rw [named] at located
  rw [located] at ports
  have existing := Method.safe_pure_bind.mp ports
  change Method.Safe _ _ _ (deleteExisting spec row) _ _ at existing
  unfold deleteExisting at existing
  rw [owned, current] at existing
  have checked := follow_listLogicalSwitches
    (Method.safe_pure_bind.mp (Method.safe_pure_bind.mp existing))
  have covers : ∀ switch ∈ database.switches, row.uuid ∈ switch.ports →
      switch.uuid ∈ (database.switches.filter fun switch =>
        switch.ports.contains row.uuid).map (·.uuid) := by
    intro switch switchListed member
    exact List.mem_map_of_mem (List.mem_filter.mpr
      ⟨switchListed, List.contains_iff_mem.mpr member⟩)
  obtain ⟨next, committed⟩ := wellFormed.commits_delete covers
  rw [List.map_map] at committed
  rw [← bind_pure (transactNoErr _ _)] at checked
  have deleted := follow_transactNoErr checked trivial committed
  exact uuid_ne_of_delete committed deleted.holds.kept rfl

end Accepted

/-- The calls respect the ownership of ports in exactly the databases in
which the metadata of every unmarked port of the name protects it. -/
theorem respectsOwnership_iff_unmarkedProtected (spec : OVNPortSpec)
    (database : Northbound) (wellFormed : database.WellFormed) :
    RespectsOwnership spec database ↔ UnmarkedProtected spec database := by
  constructor
  · intro respects portGiven row listed named unmarked
    apply protected_iff.mpr
    intro accepted
    obtain ⟨ensured, deleted⟩ := respects row listed unmarked
    rcases accepted with accepted | accepted
    · exact unmarked (marked_of_ensure_leavesAlone wellFormed listed
        portGiven named accepted ensured)
    · exact not_delete_leavesAlone wellFormed listed portGiven named
        accepted deleted
  · intro protects row listed unmarked
    constructor
    · refine ensure_leavesAlone wellFormed listed ?_
      intro portGiven named accepted
      exact protected_iff.mp (protects portGiven row listed named unmarked)
        (.inl accepted)
    · refine delete_leavesAlone wellFormed listed ?_
      intro portGiven named accepted
      exact protected_iff.mp (protects portGiven row listed named unmarked)
        (.inr accepted)

/-- A port of someone else: metadata, and none of the markers. -/
def foreignPort : LogicalSwitchPort :=
  { uuid := "port-1"
    name := "vm-1"
    addresses := ["dynamic"]
    externalIDs := GoMap.empty.set "owner" "someone-else" }

def databaseOf (port : LogicalSwitchPort) : Northbound :=
  { switches := [{ uuid := "switch-1", name := "tenant", ports := [port.uuid] }]
    ports := [port] }

def foreignSpec : OVNPortSpec :=
  { endpointID := "net|eth0|uid"
    networkID := "net"
    attachmentID := "eth0"
    workloadUID := "uid"
    incarnation := "1"
    logicalSwitch := "tenant"
    logicalSwitchPort := "vm-1"
    addresses := ["00:00:00:00:00:01"] }

private theorem databaseOf_wellFormed (port : LogicalSwitchPort) :
    (databaseOf port).WellFormed := by
  have consistent : (databaseOf port).Consistent :=
    ⟨by simp [databaseOf], by simp [databaseOf], by simp [databaseOf],
      by simp [databaseOf]⟩
  refine { consistent with referred := ?_ }
  simp [databaseOf, refers]

private theorem foreignPort_not_marked :
    ¬ Marked foreignPort.externalIDs foreignSpec := by
  intro marked
  obtain ⟨text, carried, _⟩ := marked.managedBy
  have missing : foreignPort.externalIDs.get ovnExternalIDManagedBy =
      none := by decide
  rw [missing] at carried
  cases carried

/-- A port whose metadata names its network, which is not the one asked for. -/
def neighborPort : LogicalSwitchPort :=
  { foreignPort with
    externalIDs := foreignPort.externalIDs.set ovnExternalIDNetworkID "blue" }

theorem respectsOwnership_iff_unmarkedProtected_sample :
    (databaseOf neighborPort).WellFormed ∧
      UnmarkedProtected foreignSpec (databaseOf neighborPort) ∧
      RespectsOwnership foreignSpec (databaseOf neighborPort) := by
  have wellFormed := databaseOf_wellFormed neighborPort
  have clear :
      UnmarkedProtected foreignSpec (databaseOf neighborPort) := by
    intro _ row listed _ _
    obtain rfl := List.mem_singleton.mp listed
    exact .claimed (.tail _ (.tail _ (.head _)))
      ⟨"blue", by decide, by decide, by decide⟩
  exact ⟨wellFormed, clear, (respectsOwnership_iff_unmarkedProtected
    foreignSpec _ wellFormed).mpr clear⟩

/-- The port of someone else is not left alone. -/
theorem foreign_port_overwritten :
    (databaseOf foreignPort).WellFormed ∧
      ¬ Marked foreignPort.externalIDs foreignSpec ∧
      ¬ RespectsOwnership foreignSpec (databaseOf foreignPort) := by
  have wellFormed := databaseOf_wellFormed foreignPort
  refine ⟨wellFormed, foreignPort_not_marked, ?_⟩
  intro respects
  have listed : foreignPort ∈ (databaseOf foreignPort).ports :=
    List.mem_singleton_self _
  have accepted : EnsureAccepts foreignSpec (databaseOf foreignPort)
      foreignPort :=
    ⟨by rfl, by decide, _, List.mem_singleton_self _, by decide⟩
  exact foreignPort_not_marked (marked_of_ensure_leavesAlone
    wellFormed listed (by decide) (by decide) accepted
    (respects foreignPort listed foreignPort_not_marked).1)

end EvpnForOvn.Endpoint

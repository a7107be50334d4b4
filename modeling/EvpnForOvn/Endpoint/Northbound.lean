import EvpnForOvn.Model1.Vswitch

/-!
# The OVN northbound database

The two tables that the endpoint backend reads and writes.  A port row exists
only as long as a logical switch refers to it.  A transaction applies its
operations in order, drops the ports that nothing refers to any more, and is
committed only if identifiers and port names stay unique and every reference
leads to a row.

`Frame` says what a transaction about one port leaves alone.
-/

namespace EvpnForOvn.Endpoint

open Go
open Evpn.Vswitch (insertReference removeReference mem_insertReference
  mem_removeReference)

structure LogicalSwitch where
  uuid : String
  name : String
  ports : List String

structure LogicalSwitchPort where
  uuid : String
  name : String
  addresses : List String
  externalIDs : GoMap String
  deriving DecidableEq

structure Northbound where
  switches : List LogicalSwitch
  ports : List LogicalSwitchPort

/-- The operations of a transaction.  Rows are selected by their identifier
only. -/
inductive NbOperation where
  | createPort (row : LogicalSwitchPort)
  | updatePort (port : String) (addresses : List String)
      (externalIDs : GoMap String)
  | deletePort (port : String)
  | attachPort (switch port : String)
  | detachPort (switch port : String)

def NbOperation.port : NbOperation → String
  | .createPort row => row.uuid
  | .updatePort port _ _ => port
  | .deletePort port => port
  | .attachPort _ port => port
  | .detachPort _ port => port

/-- The columns of an update that carry no value are not written. -/
def LogicalSwitchPort.write (addresses : List String)
    (externalIDs : GoMap String) (row : LogicalSwitchPort) :
    LogicalSwitchPort :=
  { row with
    addresses := if addresses.isEmpty then row.addresses else addresses
    externalIDs :=
      if externalIDs.size = 0 then row.externalIDs else externalIDs }

namespace Northbound

def updateSwitch (database : Northbound) (uuid : String)
    (change : LogicalSwitch → LogicalSwitch) : Northbound :=
  { database with switches := database.switches.map fun row =>
      if row.uuid = uuid then change row else row }

def apply (database : Northbound) : NbOperation → Northbound
  | .createPort row => { database with ports := database.ports ++ [row] }
  | .updatePort port addresses externalIDs =>
      { database with ports := database.ports.map fun row =>
          if row.uuid = port then (row.write addresses externalIDs)
          else row }
  | .deletePort port =>
      { database with
        ports := database.ports.filter fun row => row.uuid != port }
  | .attachPort switch port =>
      database.updateSwitch switch fun row =>
        { row with ports := insertReference port row.ports }
  | .detachPort switch port =>
      database.updateSwitch switch fun row =>
        { row with ports := removeReference port row.ports }

def applyAll (database : Northbound) (operations : List NbOperation) :
    Northbound :=
  operations.foldl apply database

def refers (database : Northbound) (port : String) : Bool :=
  database.switches.any fun switch => switch.ports.contains port

/-- Drop the ports that no switch refers to. -/
def collect (database : Northbound) : Northbound :=
  { database with
    ports := database.ports.filter fun row => database.refers row.uuid }

/-- Identifiers and port names are unique, and references lead to rows. -/
structure Consistent (database : Northbound) : Prop where
  switchUuids : (database.switches.map (·.uuid)).Nodup
  uuids : (database.ports.map (·.uuid)).Nodup
  names : (database.ports.map (·.name)).Nodup
  leads : ∀ switch ∈ database.switches, ∀ port ∈ switch.ports,
    port ∈ database.ports.map (·.uuid)

instance (database : Northbound) : Decidable database.Consistent :=
  decidable_of_iff
    ((database.switches.map (·.uuid)).Nodup ∧
      (database.ports.map (·.uuid)).Nodup ∧
      (database.ports.map (·.name)).Nodup ∧
      ∀ switch ∈ database.switches, ∀ port ∈ switch.ports,
        port ∈ database.ports.map (·.uuid))
    ⟨fun held => ⟨held.1, held.2.1, held.2.2.1, held.2.2.2⟩,
      fun held => ⟨held.switchUuids, held.uuids, held.names, held.leads⟩⟩

/-- A transaction, or nothing when it breaks a constraint and is rolled
back. -/
def transact (database : Northbound) (operations : List NbOperation) :
    Option Northbound :=
  let next := (database.applyAll operations).collect
  if next.Consistent then some next else none

/-- A database between two transactions: no port is left without a switch
that refers to it. -/
structure WellFormed (database : Northbound) : Prop
    extends Consistent database where
  referred : ∀ row ∈ database.ports, database.refers row.uuid = true

theorem refers_iff {database : Northbound} {port : String} :
    database.refers port = true ↔
      ∃ switch ∈ database.switches, port ∈ switch.ports := by
  simp [refers]

theorem transact_eq_some {database next : Northbound}
    {operations : List NbOperation} :
    database.transact operations = some next ↔
      (database.applyAll operations).collect = next ∧ next.Consistent := by
  unfold transact
  constructor
  · intro committed
    simp only [Option.ite_none_right_eq_some, Option.some.injEq] at committed
    obtain ⟨consistent, rfl⟩ := committed
    exact ⟨rfl, consistent⟩
  · intro committed
    obtain ⟨rfl, consistent⟩ := committed
    exact if_pos consistent

theorem wellFormed_of_transact {database next : Northbound}
    {operations : List NbOperation}
    (committed : database.transact operations = some next) :
    next.WellFormed := by
  obtain ⟨rfl, consistent⟩ := transact_eq_some.mp committed
  refine { consistent with referred := ?_ }
  intro row member
  exact (List.mem_filter.mp member).2

theorem collect_eq_self {database : Northbound}
    (referred : ∀ row ∈ database.ports, database.refers row.uuid = true) :
    database.collect = database := by
  unfold collect
  rw [List.filter_eq_self.mpr referred]

theorem WellFormed.row_eq_of_name {database : Northbound}
    (wellFormed : database.WellFormed) {first second : LogicalSwitchPort}
    (firstListed : first ∈ database.ports)
    (secondListed : second ∈ database.ports)
    (same : first.name = second.name) : first = second :=
  List.inj_on_of_nodup_map wellFormed.names firstListed secondListed same

theorem WellFormed.row_eq_of_uuid {database : Northbound}
    (wellFormed : database.WellFormed) {first second : LogicalSwitchPort}
    (firstListed : first ∈ database.ports)
    (secondListed : second ∈ database.ports)
    (same : first.uuid = second.uuid) : first = second :=
  List.inj_on_of_nodup_map wellFormed.uuids firstListed secondListed same

/-- One switch row before and after: only the reference to `port` may
differ. -/
structure SwitchFrame (port : String) (before after : LogicalSwitch) :
    Prop where
  uuid : after.uuid = before.uuid
  name : after.name = before.name
  others : ∀ other, other ≠ port →
    (other ∈ after.ports ↔ other ∈ before.ports)

/-- The switches stay, with their references to other ports, and so do the
rows of the other ports. -/
structure Frame (port : String) (before after : Northbound) : Prop where
  switches : List.Forall₂ (SwitchFrame port) before.switches after.switches
  ports : ∀ row : LogicalSwitchPort, row.uuid ≠ port →
    (row ∈ after.ports ↔ row ∈ before.ports)

theorem SwitchFrame.refl (port : String) (switch : LogicalSwitch) :
    SwitchFrame port switch switch :=
  { uuid := rfl
    name := rfl
    others := fun _ _ => Iff.rfl }

theorem SwitchFrame.trans {port : String}
    {first second third : LogicalSwitch}
    (before : SwitchFrame port first second)
    (after : SwitchFrame port second third) :
    SwitchFrame port first third :=
  { uuid := after.uuid.trans before.uuid
    name := after.name.trans before.name
    others := fun other different =>
      (after.others other different).trans (before.others other different) }

theorem Frame.refl (port : String) (database : Northbound) :
    Frame port database database :=
  { switches := List.forall₂_same.mpr
      fun switch _ => SwitchFrame.refl port switch
    ports := fun _ _ => Iff.rfl }

private theorem forall₂_switchFrame_trans {port : String}
    {first second third : List LogicalSwitch}
    (before : List.Forall₂ (SwitchFrame port) first second)
    (after : List.Forall₂ (SwitchFrame port) second third) :
    List.Forall₂ (SwitchFrame port) first third := by
  induction before generalizing third with
  | nil =>
      cases after
      exact .nil
  | cons head _ induction =>
      cases after with
      | cons next rest => exact .cons (head.trans next) (induction rest)

theorem Frame.trans {port : String} {first second third : Northbound}
    (before : Frame port first second) (after : Frame port second third) :
    Frame port first third :=
  { switches := forall₂_switchFrame_trans before.switches after.switches
    ports := fun row different =>
      (after.ports row different).trans (before.ports row different) }

theorem frame_updateSwitch {port uuid : String} (database : Northbound)
    {change : LogicalSwitch → LogicalSwitch}
    (framed : ∀ switch, SwitchFrame port switch (change switch)) :
    Frame port database (database.updateSwitch uuid change) := by
  refine { switches := ?_, ports := fun _ _ => Iff.rfl }
  apply List.forall₂_map_right_iff.mpr
  apply List.forall₂_same.mpr
  intro switch _
  by_cases selected : switch.uuid = uuid
  · rw [if_pos selected]
    exact framed switch
  · rw [if_neg selected]
    exact SwitchFrame.refl port switch

theorem frame_apply (database : Northbound) (operation : NbOperation) :
    Frame operation.port database (database.apply operation) := by
  cases operation with
  | createPort created =>
      refine { switches := (Frame.refl _ database).switches, ports := ?_ }
      intro row different
      have other : row ≠ created := by
        intro same
        exact different (congrArg LogicalSwitchPort.uuid same)
      simp [apply, other]
  | updatePort port addresses externalIDs =>
      refine { switches := (Frame.refl _ database).switches, ports := ?_ }
      intro row different
      change row.uuid ≠ port at different
      constructor
      · intro member
        obtain ⟨old, listed, written⟩ := List.mem_map.mp member
        by_cases selected : old.uuid = port
        · rw [if_pos selected] at written
          exact absurd (written ▸ selected) different
        · rw [if_neg selected] at written
          exact written ▸ listed
      · intro member
        exact List.mem_map.mpr ⟨row, member, if_neg different⟩
  | deletePort port =>
      refine { switches := (Frame.refl _ database).switches, ports := ?_ }
      intro row different
      change row.uuid ≠ port at different
      simp [apply, different]
  | attachPort switch port =>
      apply frame_updateSwitch database
      intro row
      refine { uuid := rfl, name := rfl, others := ?_ }
      intro other different
      change other ≠ port at different
      simp [mem_insertReference, different]
  | detachPort switch port =>
      apply frame_updateSwitch database
      intro row
      refine { uuid := rfl, name := rfl, others := ?_ }
      intro other different
      change other ≠ port at different
      simp [mem_removeReference, different]

theorem frame_applyAll {port : String} {operations : List NbOperation}
    (database : Northbound)
    (about : ∀ operation ∈ operations, operation.port = port) :
    Frame port database (database.applyAll operations) := by
  induction operations generalizing database with
  | nil => exact Frame.refl port database
  | cons operation rest induction =>
      have first := frame_apply database operation
      rw [about operation (by simp)] at first
      exact first.trans (induction (database.apply operation)
        (fun operation member => about operation (by simp [member])))

theorem Frame.switch {port : String} {before after : Northbound}
    (frame : Frame port before after) {switch : LogicalSwitch}
    (listed : switch ∈ before.switches) :
    ∃ next ∈ after.switches, SwitchFrame port switch next := by
  obtain ⟨position, bound, rfl⟩ := List.mem_iff_getElem.mp listed
  have lengths := frame.switches.length_eq
  exact ⟨after.switches[position], List.getElem_mem _,
    frame.switches.get _ (lengths ▸ bound)⟩

theorem Frame.refers {port other : String} {before after : Northbound}
    (frame : Frame port before after) (different : other ≠ port)
    (referred : before.refers other = true) : after.refers other = true := by
  obtain ⟨switch, listed, member⟩ := refers_iff.mp referred
  obtain ⟨next, nextListed, framed⟩ := frame.switch listed
  exact refers_iff.mpr
    ⟨next, nextListed, (framed.others other different).mpr member⟩

/-- A committed transaction about one port leaves the other ports alone:
their rows, and the switches that refer to them. -/
theorem WellFormed.frame_transact {database next : Northbound}
    (wellFormed : database.WellFormed) {port : String}
    {operations : List NbOperation}
    (about : ∀ operation ∈ operations, operation.port = port)
    (committed : database.transact operations = some next) :
    Frame port database next := by
  obtain ⟨rfl, _⟩ := transact_eq_some.mp committed
  have applied := frame_applyAll database about
  refine { switches := applied.switches, ports := ?_ }
  intro row different
  constructor
  · intro member
    exact (applied.ports row different).mp (List.mem_filter.mp member).1
  · intro member
    exact List.mem_filter.mpr ⟨(applied.ports row different).mpr member,
      applied.refers different (wellFormed.referred row member)⟩

section Update

variable {database next : Northbound} {port : String}
  {addresses : List String} {externalIDs : GoMap String}

theorem uuid_write (row : LogicalSwitchPort) :
    (row.write addresses externalIDs).uuid = row.uuid := rfl

theorem name_write (row : LogicalSwitchPort) :
    (row.write addresses externalIDs).name = row.name := rfl

private theorem map_update {column : LogicalSwitchPort → String}
    (kept : ∀ row : LogicalSwitchPort,
      column (row.write addresses externalIDs) = column row) :
    ((database.apply (.updatePort port addresses externalIDs)).ports.map
      column) = database.ports.map column := by
  change (database.ports.map _).map column = _
  rw [List.map_map]
  apply List.map_congr_left
  intro row _
  by_cases selected : row.uuid = port
  · simp [selected, kept]
  · simp [selected]

/-- An update of a port always commits, and touches no switch. -/
theorem WellFormed.transact_update (wellFormed : database.WellFormed) :
    database.transact [.updatePort port addresses externalIDs] =
      some (database.apply (.updatePort port addresses externalIDs)) := by
  have uuids : ((database.apply
      (.updatePort port addresses externalIDs)).ports.map (·.uuid)) =
      database.ports.map (·.uuid) := map_update uuid_write
  have names : ((database.apply
      (.updatePort port addresses externalIDs)).ports.map (·.name)) =
      database.ports.map (·.name) := map_update name_write
  refine transact_eq_some.mpr ⟨collect_eq_self ?_, ?_⟩
  · intro row member
    have listed : row.uuid ∈ database.ports.map (·.uuid) :=
      uuids ▸ List.mem_map_of_mem member
    obtain ⟨old, oldListed, same⟩ := List.mem_map.mp listed
    rw [← same]
    exact wellFormed.referred old oldListed
  · exact
      { switchUuids := wellFormed.switchUuids
        uuids := uuids ▸ wellFormed.uuids
        names := names ▸ wellFormed.names
        leads := fun switch listed port member =>
          uuids ▸ wellFormed.leads switch listed port member }

theorem mem_apply_update {row : LogicalSwitchPort}
    (listed : row ∈ database.ports) :
    row.write addresses externalIDs ∈
      (database.apply (.updatePort row.uuid addresses externalIDs)).ports :=
  List.mem_map.mpr ⟨row, listed, if_pos rfl⟩

end Update

section Attach

variable {database next : Northbound} {port : String}

private theorem mem_updateSwitch {uuid : String}
    {change : LogicalSwitch → LogicalSwitch} {switch : LogicalSwitch}
    (listed : switch ∈ database.switches) (selected : switch.uuid = uuid) :
    change switch ∈ (database.updateSwitch uuid change).switches :=
  List.mem_map.mpr ⟨switch, listed, if_pos selected⟩

/-- After an attachment the switch refers to the port, and the row of the
port is kept. -/
theorem attached_of_transact {switch : LogicalSwitch}
    {row : LogicalSwitchPort}
    (committed : database.transact [.attachPort switch.uuid row.uuid] =
      some next)
    (switchListed : switch ∈ database.switches)
    (rowListed : row ∈ database.ports) :
    row ∈ next.ports ∧ ∃ attached ∈ next.switches,
      attached.name = switch.name ∧ row.uuid ∈ attached.ports := by
  obtain ⟨rfl, _⟩ := transact_eq_some.mp committed
  let attached : LogicalSwitch :=
    { switch with ports := insertReference row.uuid switch.ports }
  have listed : attached ∈ (database.apply
      (.attachPort switch.uuid row.uuid)).switches :=
    mem_updateSwitch switchListed rfl
  have member : row.uuid ∈ attached.ports :=
    mem_insertReference.mpr (.inr rfl)
  exact ⟨List.mem_filter.mpr
    ⟨rowListed, refers_iff.mpr ⟨attached, listed, member⟩⟩,
    attached, listed, rfl, member⟩

/-- The same for a port that is created in the same transaction. -/
theorem created_of_transact {switch : LogicalSwitch}
    {row : LogicalSwitchPort}
    (committed : database.transact
      [.createPort row, .attachPort switch.uuid row.uuid] = some next)
    (switchListed : switch ∈ database.switches) :
    row ∈ next.ports ∧ ∃ attached ∈ next.switches,
      attached.name = switch.name ∧ row.uuid ∈ attached.ports := by
  have alone : (database.apply (.createPort row)).transact
      [.attachPort switch.uuid row.uuid] = some next := committed
  exact attached_of_transact alone switchListed (by simp [apply])

/-- A port is created under an identifier that no other port has. -/
theorem WellFormed.fresh_of_create (wellFormed : database.WellFormed)
    {switch : LogicalSwitch} {created row : LogicalSwitchPort}
    (committed : database.transact
      [.createPort created, .attachPort switch.uuid created.uuid] =
        some next)
    (listed : row ∈ database.ports) : row.uuid ≠ created.uuid := by
  obtain ⟨rfl, consistent⟩ := transact_eq_some.mp committed
  intro same
  let changed := database.applyAll
    [.createPort created, .attachPort switch.uuid created.uuid]
  have referred : changed.refers created.uuid = true := by
    obtain ⟨holder, holderListed, member⟩ :=
      refers_iff.mp (wellFormed.referred row listed)
    rw [same] at member
    refine refers_iff.mpr ⟨_, List.mem_map_of_mem holderListed, ?_⟩
    by_cases selected : holder.uuid = switch.uuid
    · rw [if_pos selected]
      exact mem_insertReference.mpr (.inl member)
    · rw [if_neg selected]
      exact member
  have kept : changed.collect.ports =
      (database.ports.filter fun row => changed.refers row.uuid) ++
        [created] := by
    change (database.ports ++ [created]).filter _ = _
    rw [List.filter_append]
    simp [referred]
  have uuids := consistent.uuids
  change (changed.collect.ports.map (·.uuid)).Nodup at uuids
  rw [kept, List.map_append, List.nodup_append] at uuids
  refine uuids.2.2 row.uuid ?_ created.uuid (by simp) same
  exact List.mem_map_of_mem
    (List.mem_filter.mpr ⟨listed, by rw [same]; exact referred⟩)

end Attach

section Delete

variable {database next : Northbound} {port : String}

theorem uuid_ne_of_delete {operations : List NbOperation}
    (committed : database.transact (operations ++ [.deletePort port]) =
      some next)
    {row : LogicalSwitchPort} (listed : row ∈ next.ports) :
    row.uuid ≠ port := by
  obtain ⟨rfl, _⟩ := transact_eq_some.mp committed
  have member := (List.mem_filter.mp listed).1
  rw [applyAll, List.foldl_append] at member
  simpa using (List.mem_filter.mp member).2

theorem applyAll_detach (uuids : List String) :
    database.applyAll (uuids.map fun uuid => .detachPort uuid port) =
      { database with switches := database.switches.map fun switch =>
          if switch.uuid ∈ uuids then
            { switch with ports := removeReference port switch.ports }
          else switch } := by
  induction uuids generalizing database with
  | nil => simp [applyAll]
  | cons uuid rest induction =>
      have step : database.applyAll
          ((uuid :: rest).map fun uuid => .detachPort uuid port) =
        (database.apply (.detachPort uuid port)).applyAll
          (rest.map fun uuid => .detachPort uuid port) := rfl
      rw [step, induction]
      simp only [apply, updateSwitch, List.map_map]
      congr 1
      apply List.map_congr_left
      intro switch _
      by_cases selected : switch.uuid = uuid
      · by_cases again : uuid ∈ rest
        · simp [selected, again, removeReference]
        · simp [selected, again]
      · simp [selected]

/-- What a deletion leaves. -/
private def without (database : Northbound) (uuids : List String)
    (port : String) : Northbound :=
  { switches := database.switches.map fun switch =>
      if switch.uuid ∈ uuids then
        { switch with ports := removeReference port switch.ports }
      else switch
    ports := database.ports.filter fun row => row.uuid != port }

private theorem applyAll_delete (uuids : List String) :
    database.applyAll ((uuids.map fun uuid => .detachPort uuid port) ++
      [.deletePort port]) = database.without uuids port := by
  have split : database.applyAll ((uuids.map fun uuid =>
      NbOperation.detachPort uuid port) ++ [.deletePort port]) =
      (database.applyAll (uuids.map fun uuid =>
        .detachPort uuid port)).apply (.deletePort port) := by
    rw [applyAll, List.foldl_append]
    rfl
  rw [split, applyAll_detach]
  rfl

private theorem mem_without_ports {uuids : List String} {other : String}
    {switch : LogicalSwitch} (different : other ≠ port) :
    other ∈ (if switch.uuid ∈ uuids then
      { switch with ports := removeReference port switch.ports }
      else switch).ports ↔ other ∈ switch.ports := by
  by_cases selected : switch.uuid ∈ uuids
  · simp [selected, mem_removeReference, different]
  · simp [selected]

/-- A deletion that detaches the port from every switch commits. -/
theorem WellFormed.commits_delete (wellFormed : database.WellFormed)
    {uuids : List String}
    (covers : ∀ switch ∈ database.switches, port ∈ switch.ports →
      switch.uuid ∈ uuids) :
    ∃ next, database.transact ((uuids.map fun uuid =>
      .detachPort uuid port) ++ [.deletePort port]) = some next := by
  refine ⟨database.without uuids port, transact_eq_some.mpr ⟨?_, ?_⟩⟩
  · rw [applyAll_delete]
    apply collect_eq_self
    intro row member
    obtain ⟨listed, different⟩ := List.mem_filter.mp member
    obtain ⟨switch, switchListed, referred⟩ :=
      refers_iff.mp (wellFormed.referred row listed)
    exact refers_iff.mpr ⟨_, List.mem_map_of_mem switchListed,
      (mem_without_ports (by simpa using different)).mpr referred⟩
  · have uuidsKept : (database.without uuids port).switches.map (·.uuid) =
        database.switches.map (·.uuid) := by
      change (database.switches.map _).map _ = _
      rw [List.map_map]
      apply List.map_congr_left
      intro switch _
      by_cases selected : switch.uuid ∈ uuids
      · simp [selected]
      · simp [selected]
    refine
      { switchUuids := uuidsKept ▸ wellFormed.switchUuids
        uuids := wellFormed.uuids.sublist (List.filter_sublist.map _)
        names := wellFormed.names.sublist (List.filter_sublist.map _)
        leads := ?_ }
    intro changed changedListed other member
    obtain ⟨switch, listed, rfl⟩ := List.mem_map.mp changedListed
    have different : other ≠ port := by
      rintro rfl
      by_cases selected : switch.uuid ∈ uuids
      · rw [if_pos selected] at member
        exact (mem_removeReference.mp member).2 rfl
      · rw [if_neg selected] at member
        exact selected (covers switch listed member)
    have old := (mem_without_ports different).mp member
    obtain ⟨row, rowListed, same⟩ :=
      List.mem_map.mp (wellFormed.leads switch listed other old)
    refine List.mem_map.mpr ⟨row, List.mem_filter.mpr ⟨rowListed, ?_⟩, same⟩
    simpa [same] using different

end Delete

end Northbound

end EvpnForOvn.Endpoint

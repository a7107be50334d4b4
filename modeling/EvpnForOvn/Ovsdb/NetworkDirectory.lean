import EvpnForOvn.Lib.Refinement
import EvpnForOvn.Ovsdb.NetworkNames

/-!
# The networks as a directory

What the network calls of the server are for: they keep a directory from
shortened names to switches.  The replies of a run of the server are replies
of that directory, whatever the calls and the order in which the rows of the
database are listed.
-/

namespace EvpnForOvn.OvsdbMgmt

open Go Endpoint Evpn Interactive

/-- The switch of each shortened name. -/
abbrev Directory : Type := String → Option String

/-- What the calls mean for a directory, and what they may reply. -/
inductive Directory.Step (directory : Directory) :
    NetworkCall × NetworkReply → Directory → Prop where
  | reused {name uuid : String} :
      directory (truncateName name) = some uuid →
      Step directory (.addNetwork name, .status true) directory
  | created {name uuid : String} :
      directory (truncateName name) = none →
      Step directory (.addNetwork name, .status true)
        (Function.update directory (truncateName name) (some uuid))
  | refused {name : String} :
      directory (truncateName name) = none →
      Step directory (.addNetwork name, .status false) directory
  | deleted {name uuid : String} :
      directory (truncateName name) = some uuid →
      Step directory (.delNetwork name, .status true)
        (Function.update directory (truncateName name) none)
  | missing {name : String} :
      directory (truncateName name) = none →
      Step directory (.delNetwork name, .status false) directory
  | found {name : String} :
      Step directory (.getNetwork name, .network
        ((directory (truncateName name)).map (⟨truncateName name, ·⟩)))
        directory
  | listed {networks : List Network} :
      (∀ name uuid, directory name = some uuid ↔ ⟨name, uuid⟩ ∈ networks) →
      networks.Nodup →
      Step directory (.getNetworks, .networks networks) directory
  | vtep {request : AddVtepRequest} {success : Bool} :
      (success = true → directory request.lsName ≠ none) →
      Step directory (.addVtep request, .status success) directory
  | port {request : PortRequest} {success : Bool} :
      (success = true → directory (truncateName request.lsName) ≠ none) →
      Step directory (.addLogicalSwitchPort request, .status success)
        directory

namespace OvsdbServer

def directory (server : OvsdbServer) : Directory := fun name =>
  (server.identities.find? fun pair => pair.2 == name).map Prod.fst

section Lookup

variable {before after : OvsdbServer} {name uuid : String}

theorem directory_eq_none :
    before.directory name = none ↔
      ∀ pair ∈ before.identities, pair.2 ≠ name := by
  simp [directory]

theorem directory_of_absent
    (absent : ∀ switch ∈ before.table.nb.switches, switch.name ≠ name) :
    before.directory name = none := by
  refine directory_eq_none.mpr fun pair listed => ?_
  obtain ⟨switch, switchListed, rfl⟩ := List.mem_map.mp listed
  exact absent switch switchListed

theorem directory_eq_some (ready : before.Ready) :
    before.directory name = some uuid ↔
      (uuid, name) ∈ before.identities := by
  constructor
  · intro found
    obtain ⟨⟨_, other⟩, selected, rfl⟩ := Option.map_eq_some_iff.mp found
    have named : other = name := by simpa using List.find?_some selected
    exact named ▸ List.mem_of_find?_eq_some selected
  · intro member
    cases looked : before.directory name with
    | none => cases directory_eq_none.mp looked _ member rfl
    | some other =>
        obtain ⟨⟨_, _⟩, selected, rfl⟩ := Option.map_eq_some_iff.mp looked
        have named := List.find?_some selected
        simp only [beq_iff_eq] at named
        rw [uuid_unique ready member
          (named ▸ List.mem_of_find?_eq_some selected)]

theorem directory_congr (same : after.identities = before.identities) :
    after.directory = before.directory := by
  unfold directory
  rw [same]

theorem directory_snoc (unused : before.directory name = none)
    (extended : after.identities = before.identities ++ [(uuid, name)]) :
    after.directory = Function.update before.directory name (some uuid) := by
  funext other
  unfold directory
  rw [extended, List.find?_append]
  by_cases selected : other = name
  · rw [selected, Option.map_eq_none_iff.mp unused, Function.update_self]
    simp
  · rw [Function.update_of_ne selected]
    have different : (name == other) = false := by
      simpa using fun same => selected same.symm
    simp [different]

theorem directory_filter (ready : before.Ready) (settled : after.Ready)
    (denoted : (uuid, name) ∈ before.identities)
    (filtered : after.identities = before.identities.filter fun pair =>
      pair.1 != uuid) :
    after.directory = Function.update before.directory name none := by
  funext other
  apply Option.ext
  intro found
  rw [directory_eq_some settled, filtered, List.mem_filter]
  by_cases selected : other = name
  · rw [selected, Function.update_self]
    constructor
    · rintro ⟨member, different⟩
      rw [uuid_unique ready member denoted] at different
      simp at different
    · nofun
  · rw [Function.update_of_ne selected, directory_eq_some ready]
    refine and_iff_left_of_imp fun member => ?_
    simp only [bne_iff_ne, ne_eq]
    intro same
    exact selected (name_unique ready (same ▸ member) denoted)

end Lookup

section Steps

variable {getenv sha1 : String → String} {before after : OvsdbServer}
  {reply : NetworkReply} {name : String}

theorem step_addNetwork (ready : before.Ready)
    (serves : before.Serves getenv sha1 (.addNetwork name) reply after) :
    before.directory.Step (.addNetwork name, reply) after.directory := by
  obtain ⟨outcome, table, finishes, rfl, reached⟩ := serves
  have shown : after.identities = OvsdbMgmt.identities table.nb := by
    rw [reached]
    rfl
  cases networkAdded_of_finishes ready.wellFormed finishes with
  | @reused row listed named same =>
      rw [same] at shown
      rw [directory_congr shown]
      exact .reused ((directory_eq_some ready).mpr
        (mem_identities_of_listed listed named))
  | refused absent same =>
      rw [same] at shown
      rw [directory_congr shown]
      exact .refused (directory_of_absent absent)
  | @created row absent named same _ =>
      have unused := directory_of_absent absent
      have extended : after.identities = before.identities ++
          [(row.switch.uuid, truncateName name)] := by
        rw [shown, same, ← named]
        exact List.map_append
      rw [directory_snoc unused extended]
      exact .created unused

theorem step_delNetwork (ready : before.Ready)
    (serves : before.Serves getenv sha1 (.delNetwork name) reply after) :
    before.directory.Step (.delNetwork name, reply) after.directory := by
  have settled := (changed_delNetwork ready serves).1.ready ready
  obtain ⟨outcome, table, finishes, rfl, reached⟩ := serves
  have shown : after.identities = OvsdbMgmt.identities table.nb := by
    rw [reached]
    rfl
  cases networkDeleted_of_finishes ready.wellFormed finishes with
  | @deleted gone listed named filtered _ =>
      have denoted := mem_identities_of_listed listed named
      have remaining : after.identities =
          before.identities.filter fun pair => pair.1 != gone.uuid := by
        rw [shown]
        unfold identities OvsdbMgmt.identities
        rw [filtered, List.filter_map]
        rfl
      rw [directory_filter ready settled denoted remaining]
      exact .deleted ((directory_eq_some ready).mpr denoted)
  | refused absent same =>
      rw [same] at shown
      rw [directory_congr shown]
      exact .missing (directory_of_absent absent)

theorem step_getNetwork (ready : before.Ready)
    (serves : before.Serves getenv sha1 (.getNetwork name) reply after) :
    before.directory.Step (.getNetwork name, reply) after.directory := by
  have answered := (changed_getNetwork ready serves).2
  obtain ⟨found, networks, table, returns, replied, reached⟩ := serves
  obtain ⟨same, answer⟩ := networkFound_of_returns returns
  have shown : after.identities = before.identities := by
    rw [reached, same]
    rfl
  rw [directory_congr shown]
  have expected : reply = .network
      ((before.directory (truncateName name)).map
        (⟨truncateName name, ·⟩)) := by
    cases looked : before.directory (truncateName name) with
    | some uuid => exact answered uuid ((directory_eq_some ready).mp looked)
    | none =>
        have absent := directory_eq_none.mp looked
        cases answer with
        | @cached row cached =>
            cases absent _ (ready.cached _ row cached).2 rfl
        | @listed row listed named =>
            cases absent _ (mem_identities_of_listed listed named) rfl
        | missing _ => exact replied
  rw [expected]
  exact .found

theorem step_getNetworks (ready : before.Ready)
    (serves : before.Serves getenv sha1 .getNetworks reply after) :
    before.directory.Step (.getNetworks, reply) after.directory := by
  obtain ⟨listed, networks, table, returns, rfl, reached⟩ := serves
  have shown : after.identities = before.identities := by
    rw [reached, (getNetworks_of_returns returns).1]
    rfl
  rw [directory_congr shown]
  unfold getNetworks at returns
  obtain ⟨_, _, asked, last⟩ := Method.returns_bind.mp returns
  obtain ⟨_, rows, rfl, permuted⟩ := Method.returns_ask.mp asked
  obtain ⟨same, _⟩ := Method.returns_pure.mp last
  obtain rfl : listed = rows.map NetworkRow.network :=
    (congrArg Prod.fst same).symm
  have shape : before.table.rows.map NetworkRow.network =
      before.identities.map fun pair => ⟨pair.2, pair.1⟩ := by
    unfold identities OvsdbMgmt.identities NetworkTable.rows
    rw [List.map_map, List.map_map]
    rfl
  have matching : (rows.map NetworkRow.network).Perm
      (before.identities.map fun pair => ⟨pair.2, pair.1⟩) :=
    shape ▸ permuted.map _
  refine .listed (fun name uuid => ?_) (matching.nodup_iff.mpr ?_)
  · rw [directory_eq_some ready, matching.mem_iff]
    simp
  · exact ready.names.of_map _ |>.map (by
      rintro ⟨_, _⟩ ⟨_, _⟩ same
      cases same
      rfl)

/-- A server finds only switches that exist. -/
theorem directory_of_resolved {host : Host} {ls : LogicalSwitch}
    (ready : before.Ready)
    (resolved : host.resolveSwitch before.networks before.databases.nb name =
      some ls) :
    before.directory name ≠ none := by
  intro absent
  have unused := directory_eq_none.mp absent
  unfold Host.resolveSwitch at resolved
  cases cached : before.networks.get name with
  | some row => exact unused _ (ready.cached name row cached).2 rfl
  | none =>
      rw [cached] at resolved
      have listed := (host.switches_perm _).mem_iff.mp
        (List.mem_of_find?_eq_some resolved)
      have named : ls.name = name := by simpa using List.find?_some resolved
      exact unused _ (mem_identities_of_listed listed named) rfl

theorem step_addVtep {request : AddVtepRequest} (ready : before.Ready)
    (serves : before.Serves getenv sha1 (.addVtep request) reply after) :
    before.directory.Step (.addVtep request, reply) after.directory := by
  obtain ⟨host, listing, _, rfl, reached⟩ := serves
  have shown : after.identities = before.identities := by
    rw [reached]
    exact (@addVtepCall_sameSwitches host before.networks before.databases
      request listing ready.wellFormed).same
  rw [directory_congr shown]
  refine .vtep fun succeeded => ?_
  unfold addVtepCall at succeeded
  split at succeeded
  · cases succeeded
  · split at succeeded
    · cases succeeded
    · rename_i resolved
      exact directory_of_resolved ready resolved

theorem step_addLogicalSwitchPort {request : PortRequest}
    (ready : before.Ready)
    (serves : before.Serves getenv sha1 (.addLogicalSwitchPort request) reply
      after) :
    before.directory.Step (.addLogicalSwitchPort request, reply)
      after.directory := by
  obtain ⟨host, _, rfl, reached⟩ := serves
  have shown : after.identities = before.identities := by
    rw [reached]
    exact (@addLogicalSwitchPort_sameSwitches host before.networks
      before.databases sha1 request ready.wellFormed).same
  rw [directory_congr shown]
  refine .port fun succeeded => ?_
  unfold addLogicalSwitchPort at succeeded
  split at succeeded
  · cases succeeded
  · split at succeeded
    · cases succeeded
    · split at succeeded
      · cases succeeded
      · rename_i resolved
        exact directory_of_resolved ready resolved

end Steps

def Takes (getenv sha1 : String → String) (before : OvsdbServer)
    (event : NetworkCall × NetworkReply) (after : OvsdbServer) : Prop :=
  before.Serves getenv sha1 event.1 event.2 after

theorem Run.takes {getenv sha1 : String → String}
    {before after : OvsdbServer} {events : List (NetworkCall × NetworkReply)}
    (run : before.Run getenv sha1 events after) :
    Refinement.Run (Takes getenv sha1) before events after := by
  induction run with
  | nil => exact .nil
  | cons serves _ induction => exact .cons serves induction

theorem directory_simulation (getenv sha1 : String → String) :
    Refinement.Simulation (Takes getenv sha1) Directory.Step Ready
      directory where
  keeps := fun ready serves => (changed_of_serves ready serves).ready ready
  allows := by
    rintro before after ⟨call, reply⟩ ready serves
    cases call with
    | addNetwork name => exact step_addNetwork ready serves
    | getNetwork name => exact step_getNetwork ready serves
    | getNetworks => exact step_getNetworks ready serves
    | delNetwork name => exact step_delNetwork ready serves
    | addVtep request => exact step_addVtep ready serves
    | addLogicalSwitchPort request =>
        exact step_addLogicalSwitchPort ready serves

end OvsdbServer

end EvpnForOvn.OvsdbMgmt

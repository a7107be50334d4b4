import EvpnForOvn.Endpoint.Northbound

/-!
# Addresses of transit ports

The service keeps the MAC/IP pairs of remote endpoints as addresses of a
logical switch port.  It reads the row, edits the list of addresses and writes
the whole column.  An update writes only the columns that carry a value, and
one without a value is refused, so the last address of a port is never
removed.
-/

namespace EvpnForOvn.OvsdbMgmt

open Go Endpoint

def addressText (mac ip : String) : String :=
  mac ++ " " ++ ip

/-- `getVtep`; `none` after the last attempt to find the port. -/
def getVtep (database : Northbound) (lspName : String) :
    Option LogicalSwitchPort :=
  database.ports.find? fun row => row.name == lspName

inductive ClientCall where
  | addClient (mac ip : String)
  | delClient (mac ip : String)
  deriving DecidableEq, Repr

namespace ClientCall

/-- The new addresses that `addClient` and `delClient` compute from the ones
they have read, or `none` when there is nothing to write. -/
def plan : ClientCall → List String → Option (List String)
  | .addClient mac ip, latest =>
      if latest.contains (addressText mac ip) then none
      else some (latest ++ [addressText mac ip])
  | .delClient mac ip, latest =>
      let newAddresses := latest.filter fun address =>
        address != addressText mac ip
      if newAddresses.length = latest.length then none else some newAddresses

/-- The operation of the transaction. -/
def update (latest : LogicalSwitchPort) (newAddresses : List String) :
    NbOperation :=
  .updatePort latest.uuid newAddresses GoMap.empty

/-- A column is written when it carries a value. -/
def writeColumn (newAddresses addresses : List String) : List String :=
  if newAddresses.isEmpty then addresses else newAddresses

/-- The effect of a call on the addresses of its port. -/
def perform (call : ClientCall) (addresses : List String) : List String :=
  match call.plan addresses with
  | none => addresses
  | some newAddresses => writeColumn newAddresses addresses

def serve (call : ClientCall) (lspName : String) (database : Northbound) :
    Except GoError Unit × Northbound :=
  match getVtep database lspName with
  | none => (.error (.new "LSP not found: " lspName), database)
  | some latest =>
      match call.plan latest.addresses with
      | none => (.ok (), database)
      | some newAddresses =>
          if newAddresses.isEmpty then
            (.error (.new "attempted to update using an empty row. "
              "please check that all fields you wish to update are mutable"),
              database)
          else match database.transact [update latest newAddresses] with
          | some next => (.ok (), next)
          | none =>
              (.error (.new "OVSDB Error: " "constraint violation"), database)

end ClientCall

section Row

variable {database next : Northbound} {lspName : String}
  {row : LogicalSwitchPort}

theorem getVtep_eq_some (wellFormed : database.WellFormed) :
    getVtep database lspName = some row ↔
      row ∈ database.ports ∧ row.name = lspName := by
  unfold getVtep
  constructor
  · intro found
    exact ⟨List.mem_of_find?_eq_some found, by
      simpa using List.find?_some found⟩
  · intro listed
    obtain ⟨listed, named⟩ := listed
    have present : (database.ports.find? fun row =>
        row.name == lspName).isSome := by
      rw [List.find?_isSome]
      exact ⟨row, listed, by simp [named]⟩
    obtain ⟨found, same⟩ := Option.isSome_iff_exists.mp present
    have foundNamed : found.name = lspName := by
      simpa using List.find?_some same
    rw [same, wellFormed.row_eq_of_name (List.mem_of_find?_eq_some same)
      listed (foundNamed.trans named.symm)]

def withAddresses (row : LogicalSwitchPort) (addresses : List String) :
    LogicalSwitchPort :=
  { row with addresses := addresses }

/-- The transaction of a call writes the addresses of its port and nothing
else. -/
theorem transact_update (wellFormed : database.WellFormed)
    (listed : row ∈ database.ports) (newAddresses : List String) :
    ∃ next, database.transact [ClientCall.update row newAddresses] =
        some next ∧
      next.WellFormed ∧ next.switches = database.switches ∧
      withAddresses row (ClientCall.writeColumn newAddresses row.addresses) ∈
        next.ports ∧
      ∀ other : LogicalSwitchPort, other.uuid ≠ row.uuid →
        (other ∈ next.ports ↔ other ∈ database.ports) := by
  have committed : database.transact [ClientCall.update row newAddresses] =
      some (database.apply
        (.updatePort row.uuid newAddresses GoMap.empty)) :=
    wellFormed.transact_update
  refine ⟨_, committed, Northbound.wellFormed_of_transact committed, rfl,
    Northbound.mem_apply_update listed, ?_⟩
  have about : ∀ operation ∈ [ClientCall.update row newAddresses],
      operation.port = row.uuid := by
    intro operation member
    rw [List.mem_singleton.mp member]
    rfl
  exact (wellFormed.frame_transact about committed).ports

/-- What a call does to its port and to the rest of the database. -/
structure Served (row : LogicalSwitchPort) (addresses : List String)
    (before after : Northbound) : Prop where
  wellFormed : after.WellFormed
  switches : after.switches = before.switches
  port : withAddresses row addresses ∈ after.ports
  others : ∀ other : LogicalSwitchPort, other.uuid ≠ row.uuid →
    (other ∈ after.ports ↔ other ∈ before.ports)

theorem Served.refl (wellFormed : database.WellFormed)
    (listed : row ∈ database.ports) :
    Served row row.addresses database database where
  wellFormed := wellFormed
  switches := rfl
  port := listed
  others := fun _ _ => Iff.rfl

theorem Served.trans {middle : List String} {addresses : List String}
    {before between after : Northbound}
    (first : Served row middle before between)
    (second : Served (withAddresses row middle) addresses between after) :
    Served row addresses before after where
  wellFormed := second.wellFormed
  switches := second.switches.trans first.switches
  port := second.port
  others := fun other different =>
    (second.others other different).trans (first.others other different)

/-- A call for a port that exists succeeds unless it would write an empty
column, which changes nothing. -/
theorem serve_found (wellFormed : database.WellFormed)
    (found : getVtep database lspName = some row) (call : ClientCall) :
    Served row (call.perform row.addresses) database
        (call.serve lspName database).2 ∧
      ((call.serve lspName database).1.isOk = true ↔
        call.plan row.addresses ≠ some []) := by
  have listed := ((getVtep_eq_some wellFormed).mp found).1
  unfold ClientCall.serve ClientCall.perform
  rw [found]
  dsimp only
  cases planned : call.plan row.addresses with
  | none =>
      exact ⟨.refl wellFormed listed, by simp [Except.isOk, Except.toBool]⟩
  | some newAddresses =>
      cases newAddresses with
      | nil =>
          exact ⟨.refl wellFormed listed,
            by simp [Except.isOk, Except.toBool]⟩
      | cons first rest =>
          obtain ⟨next, committed, kept, switches, port, others⟩ :=
            transact_update wellFormed listed (first :: rest)
          simp only [List.isEmpty_cons, Bool.false_eq_true, if_false,
            committed]
          exact ⟨⟨kept, switches, port, others⟩,
            by simp [Except.isOk, Except.toBool]⟩

/-- A call leaves a well-formed database with the same switches. -/
theorem serve_frame (call : ClientCall) (lspName : String)
    (wellFormed : database.WellFormed) :
    (call.serve lspName database).2.WellFormed ∧
      (call.serve lspName database).2.switches = database.switches := by
  cases found : getVtep database lspName with
  | none =>
      unfold ClientCall.serve
      rw [found]
      exact ⟨wellFormed, rfl⟩
  | some row =>
      have spec := (serve_found wellFormed found call).1
      exact ⟨spec.wellFormed, spec.switches⟩

theorem Served.getVtep {addresses : List String} {before after : Northbound}
    (served : Served row addresses before after) :
    OvsdbMgmt.getVtep after row.name = some (withAddresses row addresses) :=
  (getVtep_eq_some served.wellFormed).mpr ⟨served.port, rfl⟩

/-- Ports of other names are found as before. -/
theorem Served.getVtep_of_ne {addresses : List String}
    {before after : Northbound} {other : String}
    (served : Served row addresses before after)
    (wellFormed : before.WellFormed) (listed : row ∈ before.ports)
    (different : other ≠ row.name) :
    OvsdbMgmt.getVtep after other = OvsdbMgmt.getVtep before other := by
  have apart : ∀ found : LogicalSwitchPort, found.name = other →
      (found ∈ after.ports ↔ found ∈ before.ports) := by
    intro found named
    by_cases same : found.uuid = row.uuid
    · constructor
      · intro member
        have both := served.wellFormed.row_eq_of_uuid member served.port same
        rw [both] at named
        exact absurd named.symm different
      · intro member
        have both := wellFormed.row_eq_of_uuid member listed same
        rw [both] at named
        exact absurd named.symm different
    · exact served.others found same
  ext found
  rw [getVtep_eq_some served.wellFormed, getVtep_eq_some wellFormed]
  constructor
  · intro member
    exact ⟨(apart found member.2).mp member.1, member.2⟩
  · intro member
    exact ⟨(apart found member.2).mpr member.1, member.2⟩

end Row

section Addresses

variable {addresses : List String} {mac ip address : String}

theorem mem_perform_addClient :
    address ∈ (ClientCall.addClient mac ip).perform addresses ↔
      address ∈ addresses ∨ address = addressText mac ip := by
  unfold ClientCall.perform ClientCall.plan
  dsimp only
  by_cases present : addresses.contains (addressText mac ip) = true
  · rw [if_pos present]
    rw [List.contains_iff_mem] at present
    constructor
    · exact .inl
    · intro member
      rcases member with old | rfl
      · exact old
      · exact present
  · rw [if_neg present]
    simp [ClientCall.writeColumn]

/-- A deletion takes its address away only when another one is left. -/
theorem perform_delClient :
    (ClientCall.delClient mac ip).perform addresses =
      if (addresses.filter fun address =>
          address != addressText mac ip).isEmpty then addresses
      else addresses.filter fun address =>
        address != addressText mac ip := by
  unfold ClientCall.perform ClientCall.plan
  dsimp only
  by_cases same : (addresses.filter fun address =>
      address != addressText mac ip).length = addresses.length
  · have whole := List.filter_sublist.eq_of_length same
    rw [if_pos same, whole]
    simp
  · rw [if_neg same]
    rfl

end Addresses

def sampleTransit (addresses : List String) : LogicalSwitchPort :=
  ⟨"l", "rt-1", addresses, GoMap.empty⟩

def sampleNb (addresses : List String) : Northbound :=
  { switches := [⟨"s", "net", ["l"]⟩]
    ports := [sampleTransit addresses] }

theorem sampleNb_wellFormed : (sampleNb []).WellFormed where
  switchUuids := by decide
  uuids := by decide
  names := by decide
  leads := by decide
  referred := by decide

end EvpnForOvn.OvsdbMgmt

import EvpnForOvn.Endpoint.Northbound
import EvpnForOvn.Lib.Method
import EvpnForOvn.Type2.Endpoint

/-!
# The OVN backend of the endpoint manager

`EnsureLogicalSwitchPort`, `DeleteLogicalSwitchPort` and
`CheckLogicalSwitchPortIdentity` as programs over the northbound database.
Each lists the rows it needs, decides on what it has
read, and writes in later transactions that select rows by their identifier.

A transaction carries the row that its decision was made on.  The database
ignores it; `Timely` uses it to say that the decision was still right when the
transaction was committed.
-/

namespace EvpnForOvn.Endpoint

open Go Interactive

structure OVNPortSpec where
  endpointID : String
  networkID : String
  attachmentID : String
  workloadUID : String
  incarnation : String
  logicalSwitch : String
  logicalSwitchPort : String
  addresses : List String

structure OVNPortStatus where
  logicalSwitch : String
  logicalSwitchPort : String
  deriving DecidableEq, Repr

def ovnExternalIDManagedBy : String := "evpn.framework/managed-by"
def ovnExternalIDEndpointID : String := "evpn.framework/endpoint-id"
def ovnExternalIDNetworkID : String := "evpn.framework/network-id"
def ovnExternalIDAttachID : String := "evpn.framework/attachment-id"
def ovnExternalIDWorkloadUID : String := "evpn.framework/workload-uid"
def ovnExternalIDIncarnation : String := "evpn.framework/incarnation"
def ovnExternalIDIfaceID : String := "iface-id"
def ovnOwnerValue : String := "evpn-node-agent"

def ovnExternalIDsForSpec (spec : OVNPortSpec) : GoMap String :=
  ((((((GoMap.empty.set ovnExternalIDManagedBy ovnOwnerValue).set
    ovnExternalIDEndpointID (trimSpace spec.endpointID)).set
    ovnExternalIDNetworkID (trimSpace spec.networkID)).set
    ovnExternalIDAttachID (trimSpace spec.attachmentID)).set
    ovnExternalIDWorkloadUID (trimSpace spec.workloadUID)).set
    ovnExternalIDIncarnation (trimSpace spec.incarnation)).set
    ovnExternalIDIfaceID (trimSpace spec.logicalSwitchPort)

theorem get_ovnExternalIDsForSpec (spec : OVNPortSpec) :
    (ovnExternalIDsForSpec spec).get ovnExternalIDManagedBy =
        some ovnOwnerValue ∧
      (ovnExternalIDsForSpec spec).get ovnExternalIDEndpointID =
        some (trimSpace spec.endpointID) ∧
      (ovnExternalIDsForSpec spec).get ovnExternalIDNetworkID =
        some (trimSpace spec.networkID) ∧
      (ovnExternalIDsForSpec spec).get ovnExternalIDAttachID =
        some (trimSpace spec.attachmentID) ∧
      (ovnExternalIDsForSpec spec).get ovnExternalIDWorkloadUID =
        some (trimSpace spec.workloadUID) ∧
      (ovnExternalIDsForSpec spec).get ovnExternalIDIncarnation =
        some (trimSpace spec.incarnation) := by
  simp [ovnExternalIDsForSpec, GoMap.get_set, ovnExternalIDManagedBy,
    ovnExternalIDEndpointID, ovnExternalIDNetworkID, ovnExternalIDAttachID,
    ovnExternalIDWorkloadUID, ovnExternalIDIncarnation, ovnExternalIDIfaceID]

theorem externalIDs_write (spec : OVNPortSpec) (addresses : List String)
    (row : LogicalSwitchPort) :
    (row.write addresses (ovnExternalIDsForSpec spec)).externalIDs =
      ovnExternalIDsForSpec spec := by
  have written : (ovnExternalIDsForSpec spec).size ≠ 0 := by
    intro empty
    have missing : (ovnExternalIDsForSpec spec).get ovnExternalIDManagedBy =
        none := GoMap.get_eq_none_of_size_eq_zero empty
    rw [(get_ovnExternalIDsForSpec spec).1] at missing
    cases missing
  unfold LogicalSwitchPort.write
  rw [if_neg written]

/-- `strings.TrimSpace(ids[key])`; a missing key reads as the empty text. -/
def externalID (ids : GoMap String) (key : String) : String :=
  trimSpace ((ids.get key).getD "")

/-- A check of `validateOVNOwnership`: the value may be missing, but not be
another one. -/
def validateOVNMarker (ids : GoMap String) (key expected : String)
    (reason : GoError) : Except GoError Unit :=
  Evpn.LocalEndpoint.refuse
    (externalID ids key != "" && externalID ids key != expected) reason

def lspError (spec : OVNPortSpec) (rest : String) : GoError :=
  .new "ovn lsp "
    (Evpn.LocalEndpoint.quoted spec.logicalSwitchPort ++ " " ++ rest)

def validateOVNOwnership (ids : GoMap String) (spec : OVNPortSpec) :
    Except GoError Unit := do
  Evpn.LocalEndpoint.refuse (ids.size == 0)
    (lspError spec "has no ownership metadata")
  validateOVNMarker ids ovnExternalIDManagedBy ovnOwnerValue
    (lspError spec ("managed by " ++ Evpn.LocalEndpoint.quoted
      (externalID ids ovnExternalIDManagedBy)))
  validateOVNMarker ids ovnExternalIDEndpointID (trimSpace spec.endpointID)
    (lspError spec "endpoint ownership mismatch")
  validateOVNMarker ids ovnExternalIDNetworkID (trimSpace spec.networkID)
    (lspError spec "network ownership mismatch")
  validateOVNMarker ids ovnExternalIDAttachID (trimSpace spec.attachmentID)
    (lspError spec "attachment ownership mismatch")
  validateOVNMarker ids ovnExternalIDWorkloadUID (trimSpace spec.workloadUID)
    (lspError spec "workload ownership mismatch")

def validateOVNIncarnation (ids : GoMap String) (expected : String) :
    Except GoError Unit :=
  let expected := trimSpace expected
  let got := externalID ids ovnExternalIDIncarnation
  if expected = "" then .ok ()
  else if got = "" then
    .error (.new "ovn lsp missing incarnation metadata" "")
  else if got ≠ expected then
    .error (.new "stale operation: expected incarnation="
      (Evpn.LocalEndpoint.quoted expected ++ " got=" ++
        Evpn.LocalEndpoint.quoted got))
  else .ok ()

/-- What a transaction was decided on: the row listed under a name, or a
transaction of the same call before it. -/
inductive Basis where
  | listed (name : String) (found : Option LogicalSwitchPort)
  | following

inductive NbRequest where
  | listSwitches
  | listPorts
  | newUUID
  | transact (basis : Basis) (operations : List NbOperation)

def NbRequest.Reply : NbRequest → Type
  | .listSwitches => Except GoError (List LogicalSwitch)
  | .listPorts => Except GoError (List LogicalSwitchPort)
  | .newUUID => String
  | .transact _ _ => Except GoError Unit

def nbSignature : Signature :=
  { Request := NbRequest
    Reply := NbRequest.Reply }

abbrev NbMethod (α : Type) : Type :=
  Method nbSignature GoError Unit α

def listLogicalSwitches : NbMethod (List LogicalSwitch) := do
  let reply ← @Method.ask nbSignature GoError Unit .listSwitches
  Method.check reply

def listLogicalSwitchPorts : NbMethod (List LogicalSwitchPort) := do
  let reply ← @Method.ask nbSignature GoError Unit .listPorts
  Method.check reply

def transactNoErr (basis : Basis) (operations : List NbOperation) :
    NbMethod Unit := do
  let reply ← @Method.ask nbSignature GoError Unit
    (.transact basis operations)
  Method.check reply

def getLogicalSwitchByName (name : String) : NbMethod LogicalSwitch := do
  let switches ← listLogicalSwitches
  Method.require (switches.find? fun switch => switch.name == name)
    (.new "logical switch "
      (Evpn.LocalEndpoint.quoted name ++ " not found"))

def getLogicalSwitchPortByName (name : String) :
    NbMethod (Option LogicalSwitchPort) := do
  let all ← listLogicalSwitchPorts
  return all.find? fun row => row.name == name

def OVNPortSpec.status (spec : OVNPortSpec) : OVNPortStatus :=
  { logicalSwitch := trimSpace spec.logicalSwitch
    logicalSwitchPort := trimSpace spec.logicalSwitchPort }

/-- The second transaction, for a switch that was listed without the port. -/
def attachExisting (switch : LogicalSwitch) (existing : LogicalSwitchPort) :
    NbMethod Unit :=
  if switch.ports.contains existing.uuid then pure ()
  else transactNoErr .following [.attachPort switch.uuid existing.uuid]

/-- The branch of a port that was listed. -/
def ensureExisting (spec : OVNPortSpec) (switch : LogicalSwitch)
    (existing : LogicalSwitchPort) : NbMethod OVNPortStatus := do
  Method.check (validateOVNOwnership existing.externalIDs spec)
  transactNoErr
    (.listed (trimSpace spec.logicalSwitchPort) (some existing))
    [.updatePort existing.uuid spec.addresses (ovnExternalIDsForSpec spec)]
  attachExisting switch existing
  return spec.status

def OVNPortSpec.row (spec : OVNPortSpec) (uuid : String) :
    LogicalSwitchPort :=
  { uuid := uuid
    name := trimSpace spec.logicalSwitchPort
    addresses := spec.addresses
    externalIDs := ovnExternalIDsForSpec spec }

/-- The branch of a port that was not listed. -/
def ensureCreated (spec : OVNPortSpec) (switch : LogicalSwitch) :
    NbMethod OVNPortStatus := do
  let uuid : String ← @Method.ask nbSignature GoError Unit .newUUID
  transactNoErr (.listed (trimSpace spec.logicalSwitchPort) none)
    [.createPort (spec.row uuid), .attachPort switch.uuid uuid]
  return spec.status

def ensureFound (spec : OVNPortSpec) (switch : LogicalSwitch) :
    Option LogicalSwitchPort → NbMethod OVNPortStatus
  | some existing => ensureExisting spec switch existing
  | none => ensureCreated spec switch

def ensureLogicalSwitchPort (spec : OVNPortSpec) :
    NbMethod OVNPortStatus := do
  Method.refuse (isBlank spec.logicalSwitch)
    (.new "logical switch is required" "")
  Method.refuse (isBlank spec.logicalSwitchPort)
    (.new "logical switch port is required" "")
  let switch ← getLogicalSwitchByName (trimSpace spec.logicalSwitch)
  let existing ← getLogicalSwitchPortByName
    (trimSpace spec.logicalSwitchPort)
  ensureFound spec switch existing

/-- The port is taken out of every switch that was listed with it. -/
def detachOperations (switches : List LogicalSwitch)
    (port : LogicalSwitchPort) : List NbOperation :=
  (switches.filter fun switch => switch.ports.contains port.uuid).map
    fun switch => .detachPort switch.uuid port.uuid

/-- The branch of a port that was listed. -/
def deleteExisting (spec : OVNPortSpec) (port : LogicalSwitchPort) :
    NbMethod Unit := do
  Method.check (validateOVNOwnership port.externalIDs spec)
  Method.check (validateOVNIncarnation port.externalIDs spec.incarnation)
  let switches ← listLogicalSwitches
  transactNoErr (.listed (trimSpace spec.logicalSwitchPort) (some port))
    (detachOperations switches port ++ [.deletePort port.uuid])

def deleteFound (spec : OVNPortSpec) :
    Option LogicalSwitchPort → NbMethod Unit
  | none => pure ()
  | some port => deleteExisting spec port

def deleteLogicalSwitchPort (spec : OVNPortSpec) : NbMethod Unit := do
  Method.refuse (isBlank spec.logicalSwitchPort)
    (.new "logical switch port is required" "")
  let found ← getLogicalSwitchPortByName (trimSpace spec.logicalSwitchPort)
  deleteFound spec found

namespace Northbound

def portNamed (database : Northbound) (name : String) :
    Option LogicalSwitchPort :=
  database.ports.find? fun row => row.name == name

/-- The row that the transaction was decided on is still the row of its
name. -/
def Timely (database : Northbound) : Basis → Prop
  | .listed name found => database.portNamed name = found
  | .following => True

instance (database : Northbound) (basis : Basis) :
    Decidable (database.Timely basis) :=
  match basis with
  | .listed name found =>
      inferInstanceAs (Decidable (database.portNamed name = found))
  | .following => .isTrue trivial

/-- Listings are accurate, in any order.  A transaction is committed and
acknowledged, fails without effect, or is committed and its reply lost.
`condition` restricts the points at which it may be committed. -/
def Answers (condition : Northbound → Basis → Prop) (before : Northbound) :
    (request : NbRequest) → request.Reply → Northbound → Prop
  | .listSwitches, reply, after => after = before ∧
      ∀ rows, reply = .ok rows → rows.Perm before.switches
  | .listPorts, reply, after => after = before ∧
      ∀ rows, reply = .ok rows → rows.Perm before.ports
  | .newUUID, _, after => after = before
  | .transact basis operations, reply, after =>
      (condition before basis ∧ before.transact operations = some after) ∨
        (after = before ∧ ∃ reason, reply = .error reason)

/-- The database amid others that move it. -/
def amid (condition : Northbound → Basis → Prop)
    (moves : Northbound → Northbound → Prop) :
    Environment nbSignature Northbound :=
  { answers := Answers condition
    drifts := moves }

/-- The database with no one else at work. -/
def environment (condition : Northbound → Basis → Prop) :
    Environment nbSignature Northbound :=
  .still (Answers condition)

/-- A database that commits whatever the condition and the constraints let it
commit. -/
def answer (condition : Northbound → Basis → Prop)
    [∀ database basis, Decidable (condition database basis)]
    (database : Northbound) :
    (request : NbRequest) → request.Reply × Northbound
  | .listSwitches => (.ok database.switches, database)
  | .listPorts => (.ok database.ports, database)
  | .newUUID => ("fresh-uuid", database)
  | .transact basis operations =>
      if condition database basis then
        match database.transact operations with
        | some next => (.ok (), next)
        | none => (.error (.new "constraint violation" ""), database)
      else (.error (.new "not connected" ""), database)

theorem answers_answer (condition : Northbound → Basis → Prop)
    [∀ database basis, Decidable (condition database basis)]
    (database : Northbound) (request : NbRequest) :
    Answers condition database request (database.answer condition request).1
      (database.answer condition request).2 := by
  cases request with
  | listSwitches =>
      refine ⟨rfl, fun rows replied => ?_⟩
      cases replied
      exact .refl _
  | listPorts =>
      refine ⟨rfl, fun rows replied => ?_⟩
      cases replied
      exact .refl _
  | newUUID => rfl
  | transact basis operations =>
      by_cases allowed : condition database basis
      · cases committed : database.transact operations with
        | none =>
            simp only [answer, if_pos allowed, committed]
            exact .inr ⟨rfl, _, rfl⟩
        | some next =>
            simp only [answer, if_pos allowed, committed]
            exact .inl ⟨allowed, committed⟩
      · simp only [answer, if_neg allowed]
        exact .inr ⟨rfl, _, rfl⟩

section Rules

variable {α β : Type} {condition : Northbound → Basis → Prop}
  {moves : Northbound → Northbound → Prop} {stable : Northbound → Prop}
  {post : Except GoError β → Unit → Northbound → Prop}
  {continuation : α → NbMethod β} {database : Northbound}
  (assertion : Northbound → Prop)
  (undrifted : ∀ before after, assertion before → moves before after →
    assertion after)
  (keeps : ∀ here, assertion here → stable here)

include undrifted keeps

/-- A request whose reply may carry an error, under an assertion that the
moves of the others keep. -/
theorem safe_request_bind {message : NbRequest}
    {outcome : message.Reply → Except GoError α}
    (holdsHere : assertion database)
    (answered : ∀ here reply after, assertion here →
      Answers condition here message reply after →
      (∀ reason, outcome reply = .error reason →
        Method.Safe (amid condition moves) stable post (throw reason) ()
          after) ∧
      ∀ value, outcome reply = .ok value →
        Method.Safe (amid condition moves) stable post
          (continuation value) () after) :
    Method.Safe (amid condition moves) stable post
      ((do
        let reply ← @Method.ask nbSignature GoError Unit message
        Method.check (outcome reply)) >>= continuation) () database := by
  apply Method.safe_bind_assoc.mpr
  apply Interactive.Safe.ask assertion holdsHere undrifted keeps
  intro here reply after holdsThere step
  obtain ⟨failed, passed⟩ := answered here reply after holdsThere step
  exact Method.Safe.check_bind failed passed

theorem safe_throw {reason : GoError} (holdsHere : assertion database)
    (fails : ∀ here, assertion here → post (.error reason) () here) :
    Method.Safe (amid condition moves) stable post (throw reason) ()
      database :=
  Interactive.Safe.done assertion holdsHere undrifted
    (fun here held => ⟨keeps here held, fails here held⟩)

theorem safe_return {value : β} (holdsHere : assertion database)
    (returned : ∀ here, assertion here → post (.ok value) () here) :
    Method.Safe (amid condition moves) stable post (pure value) ()
      database :=
  Interactive.Safe.done assertion holdsHere undrifted
    (fun here held => ⟨keeps here held, returned here held⟩)

theorem safe_listLogicalSwitches_bind
    {continuation : List LogicalSwitch → NbMethod β}
    (holdsHere : assertion database)
    (fails : ∀ reason here, assertion here → post (.error reason) () here)
    (continues : ∀ rows here, assertion here → rows.Perm here.switches →
      Method.Safe (amid condition moves) stable post (continuation rows)
        () here) :
    Method.Safe (amid condition moves) stable post
      (listLogicalSwitches >>= continuation) () database := by
  unfold listLogicalSwitches
  apply safe_request_bind assertion undrifted keeps holdsHere
  intro here reply after holdsThere step
  obtain ⟨rfl, accurate⟩ := step
  constructor
  · intro reason _
    exact safe_throw assertion undrifted keeps holdsThere (fails reason)
  · intro rows replied
    exact continues rows after holdsThere (accurate rows replied)

theorem safe_listLogicalSwitchPorts_bind
    {continuation : List LogicalSwitchPort → NbMethod β}
    (holdsHere : assertion database)
    (fails : ∀ reason here, assertion here → post (.error reason) () here)
    (continues : ∀ rows here, assertion here → rows.Perm here.ports →
      Method.Safe (amid condition moves) stable post (continuation rows)
        () here) :
    Method.Safe (amid condition moves) stable post
      (listLogicalSwitchPorts >>= continuation) () database := by
  unfold listLogicalSwitchPorts
  apply safe_request_bind assertion undrifted keeps holdsHere
  intro here reply after holdsThere step
  obtain ⟨rfl, accurate⟩ := step
  constructor
  · intro reason _
    exact safe_throw assertion undrifted keeps holdsThere (fails reason)
  · intro rows replied
    exact continues rows after holdsThere (accurate rows replied)

/-- A transaction: acknowledged, without effect, or with a lost reply. -/
theorem safe_transactNoErr_bind {basis : Basis}
    {operations : List NbOperation} {continuation : Unit → NbMethod β}
    (holdsHere : assertion database)
    (fails : ∀ reason here, assertion here → post (.error reason) () here)
    (lost : ∀ reason here after, assertion here → condition here basis →
      here.transact operations = some after →
      Method.Safe (amid condition moves) stable post (throw reason) ()
        after)
    (continues : ∀ here after, assertion here → condition here basis →
      here.transact operations = some after →
      Method.Safe (amid condition moves) stable post (continuation ())
        () after) :
    Method.Safe (amid condition moves) stable post
      (transactNoErr basis operations >>= continuation) () database := by
  unfold transactNoErr
  apply safe_request_bind assertion undrifted keeps holdsHere
  intro here reply after holdsThere step
  rcases step with ⟨allowed, committed⟩ | ⟨rfl, refusal, refused⟩
  · constructor
    · intro reason _
      exact lost reason here after holdsThere allowed committed
    · intro value _
      exact continues here after holdsThere allowed committed
  · constructor
    · intro reason _
      exact safe_throw assertion undrifted keeps holdsThere (fails reason)
    · intro value acknowledged
      rw [refused] at acknowledged
      cases acknowledged

end Rules

section Follow

variable {β : Type} {condition : Northbound → Basis → Prop}
  {stable : Northbound → Prop}
  {post : Except GoError β → Unit → Northbound → Prop}
  {database : Northbound}

theorem follow_listLogicalSwitches
    {continuation : List LogicalSwitch → NbMethod β}
    (safe : Method.Safe (environment condition) stable post
      (listLogicalSwitches >>= continuation) () database) :
    Method.Safe (environment condition) stable post
      (continuation database.switches) () database := by
  have asked := Method.safe_bind_assoc.mp safe
  apply (Method.safe_ask_bind_still_iff.mp asked).2
    (.ok database.switches) database
  refine ⟨rfl, fun rows replied => ?_⟩
  cases replied
  exact .refl _

theorem follow_listLogicalSwitchPorts
    {continuation : List LogicalSwitchPort → NbMethod β}
    (safe : Method.Safe (environment condition) stable post
      (listLogicalSwitchPorts >>= continuation) () database) :
    Method.Safe (environment condition) stable post
      (continuation database.ports) () database := by
  have asked := Method.safe_bind_assoc.mp safe
  apply (Method.safe_ask_bind_still_iff.mp asked).2
    (.ok database.ports) database
  refine ⟨rfl, fun rows replied => ?_⟩
  cases replied
  exact .refl _

theorem follow_transactNoErr {basis : Basis} {next : Northbound}
    {operations : List NbOperation} {continuation : Unit → NbMethod β}
    (safe : Method.Safe (environment condition) stable post
      (transactNoErr basis operations >>= continuation) () database)
    (allowed : condition database basis)
    (committed : database.transact operations = some next) :
    Method.Safe (environment condition) stable post (continuation ()) ()
      next := by
  have asked := Method.safe_bind_assoc.mp safe
  exact (Method.safe_ask_bind_still_iff.mp asked).2 (.ok ()) next
    (.inl ⟨allowed, committed⟩)

end Follow

theorem find_name_eq_some {rows : List LogicalSwitchPort} {name : String}
    {row : LogicalSwitchPort}
    (found : rows.find? (fun row => row.name == name) = some row) :
    row ∈ rows ∧ row.name = name :=
  ⟨List.mem_of_find?_eq_some found, by
    simpa using List.find?_some found⟩

theorem WellFormed.find_name {database : Northbound}
    (wellFormed : database.WellFormed) {rows : List LogicalSwitchPort}
    (permuted : rows.Perm database.ports) {row : LogicalSwitchPort}
    (listed : row ∈ database.ports) :
    rows.find? (fun other => other.name == row.name) = some row := by
  cases found : rows.find? (fun other => other.name == row.name) with
  | none =>
      have missing := List.find?_eq_none.mp found row
        (permuted.mem_iff.mpr listed)
      simp at missing
  | some other =>
      obtain ⟨member, same⟩ := find_name_eq_some found
      rw [wellFormed.row_eq_of_name (permuted.mem_iff.mp member) listed same]

end Northbound

end EvpnForOvn.Endpoint

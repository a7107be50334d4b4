import EvpnForOvn.Lib.Mutex
import EvpnForOvn.Cni.Acknowledgements

/-!
# The gate before AddPath

The exporter advertises a route through `continuityRouteApplier.Add`, which
first validates the whole continuity and then maps the endpoint of the route to
an acknowledgement.  The log of the critical section is the evidence: between
taking the mutex and calling `AddPath` the agent has only asked questions, and
the replies it needs are among them.
-/

namespace EvpnForOvn.Nodeagent

open Interactive Go Ownership
open Evpn (LocalEndpoint)
open Evpn.LocalEndpoint (refuse_eq_ok)
open CniWorld (environment)

variable {Route : Type}

/-- Neither an advertisement nor a write of the journal. -/
def CniRequest.isQuestion : CniRequest Route → Bool
  | .addPath _ => false
  | .journal (.write _ _) => false
  | _ => true

abbrev CniLog (Route : Type) : Type :=
  List (Event (cniSignature Route))

def Asked (before after : CniLog Route) : Prop :=
  ∃ events, after = before ++ events ∧
    ∀ event ∈ events, event.1.isQuestion = true

/-- An assertion that questions keep. -/
def Remembered (pre : CniLog Route → Prop) : Prop :=
  ∀ before after, pre before → Asked before after → pre after

theorem Asked.refl (log : CniLog Route) : Asked log log :=
  ⟨[], (List.append_nil log).symm, by simp⟩

theorem Asked.trans {first second third : CniLog Route}
    (earlier : Asked first second) (later : Asked second third) :
    Asked first third := by
  obtain ⟨events, rfl, questions⟩ := earlier
  obtain ⟨more, rfl, others⟩ := later
  refine ⟨events ++ more, List.append_assoc .., ?_⟩
  intro event member
  rcases List.mem_append.mp member with old | new
  · exact questions event old
  · exact others event new

theorem Asked.mem {before after : CniLog Route} (asked : Asked before after)
    {event : Event (cniSignature Route)} (member : event ∈ before) :
    event ∈ after := by
  obtain ⟨events, rfl, _⟩ := asked
  exact List.mem_append_left events member

theorem Asked.snoc {log : CniLog Route} (request : CniRequest Route)
    (question : request.isQuestion = true) (reply : request.Reply) :
    Asked log (log ++ [⟨request, reply⟩]) := by
  refine ⟨[⟨request, reply⟩], rfl, ?_⟩
  intro event member
  cases List.mem_singleton.mp member
  exact question

theorem remembered_true : Remembered (fun _ : CniLog Route => True) :=
  fun _ _ _ _ => trivial

theorem remembered_mem (event : Event (cniSignature Route)) :
    Remembered (fun log => event ∈ log) :=
  fun _ _ member asked => asked.mem member

theorem Remembered.and {pre other : CniLog Route → Prop}
    (first : Remembered pre) (second : Remembered other) :
    Remembered (fun log => pre log ∧ other log) :=
  fun before after held asked =>
    ⟨first before after held.1 asked, second before after held.2 asked⟩

theorem asked_undisturbed :
    Undisturbed
      (Environment.logging : Environment (cniSignature Route) (CniLog Route))
      Asked where
  refl := .refl
  trans := .trans
  drift := fun moved => moved.elim

theorem logged_journal :
    (cellStore cniJournal).Durable
      (Environment.logging : Environment (cniSignature Route) (CniLog Route))
      Asked (fun _ _ _ _ => True) where
  refl := .refl
  trans := .trans
  writesAfter := fun _ _ => trivial
  writesThen := fun _ _ => trivial
  lock := by
    intro stable log keeps
    apply Safe.ask_still_iff.mpr
    refine ⟨keeps log (.refl log), ?_⟩
    intro reply after answered
    have asked : Asked log after := by
      rw [answered]
      exact .snoc (.journal .checkLock) rfl reply
    exact Safe.done_still_iff.mpr ⟨keeps after asked, asked⟩
  write := by
    intro stable writer next log keeps keepsWritten
    apply Safe.ask_still_iff.mpr
    refine ⟨keeps log (.refl log), ?_⟩
    intro reply after _
    apply Safe.done_still_iff.mpr
    cases reply with
    | ok value => exact ⟨keepsWritten after trivial, trivial⟩
    | error reason => exact ⟨keepsWritten after trivial, .inr trivial⟩
  release := by
    intro stable log keeps
    apply Safe.ask_still_iff.mpr
    refine ⟨keeps log (.refl log), ?_⟩
    intro reply after answered
    have asked : Asked log after := by
      rw [answered]
      exact .snoc (.journal .release) rfl reply
    exact Safe.done_still_iff.mpr ⟨keeps after asked, asked⟩
  drift := fun moved => moved.elim

theorem queries_query {request : CniRequest Route}
    {pre : CniLog Route → Prop} (question : request.isQuestion = true)
    (remembered : Remembered pre) :
    Method.Queries Environment.logging Asked pre (query request)
      (fun reply log => pre log ∧
        (⟨request, reply⟩ : Event (cniSignature Route)) ∈ log) := by
  apply Method.Queries.ask asked_undisturbed
  · intro before reply after held answered
    have asked : Asked before after := by
      rw [answered]
      exact .snoc request question reply
    refine ⟨asked, remembered before after held asked, ?_⟩
    rw [answered]
    exact List.mem_append_right _ (List.mem_singleton.mpr rfl)
  · exact remembered
  · intro reply before after held asked
    exact ⟨remembered before after held.1 asked, asked.mem held.2⟩

/-- The resources of an acknowledgement were observed as it records them. -/
structure Matching (ack : CniEndpointACK) (log : CniLog Route) : Prop where
  observed : (⟨.observe ack.record, ⟨ack.receipt, false, none⟩⟩ :
    Event (cniSignature Route)) ∈ log
  attached : ∃ network, (⟨.networkCheck (endpointKey ack.identity) ack.record,
    .ok network⟩ : Event (cniSignature Route)) ∈ log

/-- What Kubernetes was found to say about the workload. -/
def Found (deleted : Bool) (ack : CniEndpointACK) (log : CniLog Route) :
    Prop :=
  (⟨.verify ack.spec.workload ack.containerId ack.netnsPath,
    ⟨deleted, none⟩⟩ : Event (cniSignature Route)) ∈ log

/-- An active endpoint was verified with its resources, or it was found
deleted and is no longer in the store. -/
def Accounted (store : GoMap EndpointRecord) (key : String)
    (ack : CniEndpointACK) (log : CniLog Route) : Prop :=
  (Found false ack log ∧ Matching ack log) ∨
    (Found true ack log ∧ store.get key = none)

theorem Matching.remembered (ack : CniEndpointACK) :
    Remembered (fun log : CniLog Route => Matching ack log) := by
  intro before after matching asked
  obtain ⟨network, checked⟩ := matching.attached
  exact ⟨asked.mem matching.observed, network, asked.mem checked⟩

theorem Accounted.asked {store : GoMap EndpointRecord} {key : String}
    {ack : CniEndpointACK} {before after : CniLog Route}
    (accounted : Accounted store key ack before)
    (asked : Asked before after) : Accounted store key ack after := by
  rcases accounted with ⟨found, matching⟩ | ⟨found, gone⟩
  · exact .inl ⟨asked.mem found, Matching.remembered ack _ _ matching asked⟩
  · exact .inr ⟨asked.mem found, gone⟩

theorem Accounted.verified {store : GoMap EndpointRecord} {key : String}
    {ack : CniEndpointACK} {log : CniLog Route}
    (accounted : Accounted store key ack log)
    (stored : (store.get key).isSome = true) :
    Found false ack log ∧ Matching ack log := by
  rcases accounted with verified | ⟨_, gone⟩
  · exact verified
  · rw [gone] at stored
    cases stored

theorem queries_verifyResources {ack : CniEndpointACK}
    {pre : CniLog Route → Prop} (remembered : Remembered pre) :
    Method.Queries Environment.logging Asked pre (verifyResources ack)
      (fun _ log => pre log ∧ Matching ack log) := by
  apply Method.Queries.bind asked_undisturbed (queries_query rfl remembered)
  intro observation
  obtain ⟨receipt, absent, failure⟩ := observation
  have observed := remembered.and
    (remembered_mem (⟨.observe ack.record, ⟨receipt, absent, failure⟩⟩ :
      Event (cniSignature Route)))
  cases failure with
  | some failure => exact Method.Queries.throw asked_undisturbed
  | none =>
      apply Method.Queries.bind asked_undisturbed
        (Method.Queries.refuse asked_undisturbed observed)
      intro _
      apply Method.Queries.bind asked_undisturbed
        (queries_query rfl
          (fun before after held asked =>
            ⟨held.1, observed before after held.2 asked⟩))
      intro checked
      cases checked with
      | error reason => exact Method.Queries.throw asked_undisturbed
      | ok network =>
          apply Method.Queries.check asked_undisturbed
          · intro before after held asked
            exact ⟨⟨held.1.1, observed before after held.1.2 asked⟩,
              asked.mem held.2⟩
          · intro _ log _ held
            obtain ⟨⟨passed, holds, seen⟩, attached⟩ := held
            simp only [Bool.or_eq_false_iff, bne_eq_false_iff_eq] at passed
            obtain ⟨rfl, rfl⟩ := passed
            exact ⟨holds, seen, network, attached⟩

/-- What the gate knows when it has visited some endpoints of a server: it has
only forgotten stored endpoints. -/
structure Examined (server : CNIServer) (visited : List String)
    (reached : CNIServer) (log : CniLog Route) : Prop where
  same : reached = { server with store := reached.store }
  settled : ∀ key ∈ visited, ∀ ack,
    server.state.endpoints.get key = some ack →
    ack.state ≠ .pendingCreation ∧ ack.state ≠ .quarantined ∧
      (ack.state = .active → Accounted reached.store key ack log)

theorem Examined.asked {server reached : CNIServer} {visited : List String}
    {before after : CniLog Route}
    (examined : Examined server visited reached before)
    (asked : Asked before after) :
    Examined server visited reached after := by
  refine ⟨examined.same, ?_⟩
  intro key member ack found
  obtain ⟨notPending, notQuarantined, accounted⟩ :=
    examined.settled key member ack found
  exact ⟨notPending, notQuarantined,
    fun active => (accounted active).asked asked⟩

theorem Examined.visit {server reached : CNIServer} {visited : List String}
    {log : CniLog Route} {key : String}
    (examined : Examined server visited reached log)
    (settled : ∀ ack, server.state.endpoints.get key = some ack →
      ack.state ≠ .pendingCreation ∧ ack.state ≠ .quarantined ∧
        (ack.state = .active → Accounted reached.store key ack log)) :
    Examined server (key :: visited) reached log := by
  refine ⟨examined.same, ?_⟩
  intro other member ack found
  rcases List.mem_cons.mp member with rfl | old
  · exact settled ack found
  · exact examined.settled other old ack found

theorem Examined.forget {server reached : CNIServer} {visited : List String}
    {log : CniLog Route} (examined : Examined server visited reached log)
    (key : String) :
    Examined server visited
      { reached with store := reached.store.delete key } log := by
  refine ⟨?_, ?_⟩
  · rw [examined.same]
  · intro other member ack found
    obtain ⟨notPending, notQuarantined, accounted⟩ :=
      examined.settled other member ack found
    refine ⟨notPending, notQuarantined, ?_⟩
    intro active
    rcases accounted active with verified | ⟨deleted, gone⟩
    · exact .inl verified
    · refine .inr ⟨deleted, ?_⟩
      change (reached.store.delete key).get other = none
      rw [GoMap.get_delete, gone, ite_self]

section Validating

variable {start log : CniLog Route} {server reached : CNIServer}
  {visited : List String} {key : String}

theorem validateKey_examines (asked : Asked start log)
    (examined : Examined server visited reached log) :
    Method.Safe Environment.logging (Asked start)
      (Method.Leads (fun _ => Examined server (key :: visited))
        (fun _ _ _ => True))
      (validateKey server.state.endpoints key : CniMethod Route Unit)
      reached log := by
  unfold validateKey
  split
  · rename_i missing
    apply Method.safe_pure_still_iff.mpr
    refine ⟨asked, examined.visit ?_⟩
    intro ack found
    rw [missing] at found
    cases found
  · rename_i ack found
    have settles : ∀ {memory : CNIServer} {after : CniLog Route},
        ack.state ≠ .pendingCreation ∧ ack.state ≠ .quarantined ∧
          (ack.state = .active → Accounted memory.store key ack after) →
        ∀ other, server.state.endpoints.get key = some other →
          other.state ≠ .pendingCreation ∧ other.state ≠ .quarantined ∧
            (other.state = .active →
              Accounted memory.store key other after) := by
      intro memory after holds other same
      rw [found] at same
      cases same
      exact holds
    split
    · exact Method.safe_throw_still_iff.mpr ⟨asked, trivial⟩
    · rename_i neither
      rw [not_or] at neither
      split
      · apply (queries_query rfl remembered_true).safe_bind trivial
          (fun after further => asked.trans further)
        · intro verification after further told
          obtain ⟨deleted, failure⟩ := verification
          cases failure with
          | some failure =>
              exact Method.safe_throw_still_iff.mpr
                ⟨asked.trans further, trivial⟩
          | none =>
              cases deleted with
              | true =>
                  apply Method.safe_modify.mpr
                  apply Method.safe_pure_still_iff.mpr
                  refine ⟨asked.trans further,
                    ((examined.asked further).forget key).visit
                      (settles ⟨neither.1, neither.2, ?_⟩)⟩
                  intro _
                  exact .inr ⟨told.2, GoMap.get_delete_self⟩
              | false =>
                  apply (queries_verifyResources
                    (remembered_mem _)).safe told.2
                    (fun later more => (asked.trans further).trans more)
                  intro outcome later more returned
                  cases outcome with
                  | error reason => trivial
                  | ok value =>
                      obtain ⟨verified, matching⟩ := returned value rfl
                      exact ((examined.asked further).asked more).visit
                        (settles ⟨neither.1, neither.2,
                          fun _ => .inl ⟨verified, matching⟩⟩)
        · intro reason after further
          trivial
      · rename_i inactive
        apply Method.safe_pure_still_iff.mpr
        exact ⟨asked, examined.visit (settles ⟨neither.1, neither.2,
          fun active => absurd active inactive⟩)⟩

theorem validateKeys_examine {keys : List String} (asked : Asked start log)
    (examined : Examined server visited reached log) :
    Method.Safe Environment.logging (Asked start)
      (Method.Leads (fun _ => Examined server (keys.reverse ++ visited))
        (fun _ _ _ => True))
      (Method.each (validateKey server.state.endpoints) keys :
        CniMethod Route Unit) reached log := by
  induction keys generalizing visited reached log with
  | nil => exact Method.safe_pure_still_iff.mpr ⟨asked, examined⟩
  | cons key keys induction =>
      apply Method.Safe.leads_bind (validateKey_examines asked examined)
      intro _ memory after askedAfter visitedKey
      rw [List.reverse_cons, List.append_assoc]
      exact induction askedAfter visitedKey

/-- The conditions under which the whole continuity is valid. -/
structure Continuous (server reached : CNIServer) (log : CniLog Route) :
    Prop where
  usable : Journal.Usable server.journal
  resolved : server.journal.record.pending = none
  same : reached = { server with store := reached.store }
  settled : ∀ key ack, server.state.endpoints.get key = some ack →
    ack.state ≠ .pendingCreation ∧ ack.state ≠ .quarantined ∧
      (ack.state = .active → Accounted reached.store key ack log)

theorem Continuous.asked {before after : CniLog Route}
    (continuous : Continuous server reached before)
    (asked : Asked before after) : Continuous server reached after := by
  refine ⟨continuous.usable, continuous.resolved, continuous.same, ?_⟩
  intro key ack found
  obtain ⟨notPending, notQuarantined, accounted⟩ :=
    continuous.settled key ack found
  exact ⟨notPending, notQuarantined,
    fun active => (accounted active).asked asked⟩

theorem ready_asks (asked : Asked start log) :
    Method.Safe Environment.logging (Asked start)
      (Method.Leads
        (fun _ memory _ => memory = server ∧
          Journal.Usable server.journal ∧
          server.journal.record.pending = none)
        (fun _ _ _ => True))
      (ready : CniMethod Route Unit) server log := by
  have snapshot : Method.Safe Environment.logging (Asked start)
      (Method.Leads
        (fun value memory _ => memory = server ∧
          Journal.Usable server.journal ∧
          value.2 = server.journal.record.pending)
        (fun _ _ _ => True))
      (onJournal Journal.snapshot :
        CniMethod Route (CniDocument × Option (Intent CniDocument)))
      server log := by
    unfold onJournal
    apply Method.Safe.onPart
    apply (Journal.snapshot_safe logged_journal
      (fun after further => asked.trans further)).weaken
    intro outcome journal after _ posted
    cases outcome with
    | error reason => trivial
    | ok value =>
        obtain ⟨_, usable, rfl, rfl⟩ := posted
        exact ⟨rfl, usable, rfl⟩
  apply Method.Safe.leads_bind snapshot
  intro value memory after askedAfter posted
  obtain ⟨rfl, usable, pending⟩ := posted
  cases outstanding : value.2 with
  | some intent =>
      exact Method.safe_throw_still_iff.mpr ⟨askedAfter, trivial⟩
  | none =>
      rw [outstanding] at pending
      exact Method.safe_pure_still_iff.mpr
        ⟨askedAfter, rfl, usable, pending.symm⟩

theorem validateContinuityLocked_asks (asked : Asked start log) :
    Method.Safe Environment.logging (Asked start)
      (Method.Leads (fun _ => Continuous server) (fun _ _ _ => True))
      (validateContinuityLocked : CniMethod Route Unit) server log := by
  apply Method.Safe.leads_bind (ready_asks asked)
  intro _ memory after askedAfter posted
  obtain ⟨rfl, usable, resolved⟩ := posted
  apply Method.safe_get_bind.mpr
  apply (queries_query rfl remembered_true).safe_bind trivial
    (fun later further => askedAfter.trans further)
  · intro keys later further _
    have none : Examined memory [] memory later := ⟨rfl, by simp⟩
    apply (validateKeys_examine (askedAfter.trans further) none).weaken
    intro outcome reached last _ posted
    cases outcome with
    | error reason => trivial
    | ok value =>
        refine ⟨usable, resolved, posted.same, ?_⟩
        intro key ack found
        apply posted.settled key _ ack found
        rw [List.append_nil, List.mem_reverse, keys.property.mem_iff,
          GoMap.mem_sortedKeys, found]
        rfl
  · intro reason later further
    trivial

/-- An export that maps to an acknowledgement. -/
structure Maps (endpoint : LocalEndpoint) (ack : CniEndpointACK) : Prop where
  active : ack.state = .active
  network : endpoint.networkID = ack.spec.networkID
  identified : (endpoint.endpointID = ack.spec.id ∧
      endpoint.incarnation = ack.spec.incarnation) ∨
    (endpoint.endpointID ≠ ack.spec.id ∧
      endpoint.endpointID = "ovn-netlink/" ++ ack.receipt.lspUUID)
  mac : equalFold endpoint.macAddress ack.spec.macAddress = true
  addresses : (endpoint.macOnly = true ∧ endpoint.ipAddresses = []) ∨
    (endpoint.macOnly = false ∧ endpoint.ipAddresses.map some =
      ack.spec.ipAddresses.map fun cidr => (parseCIDR cidr).map ipString)

theorem sameAddresses_eq_true_iff {addresses cidrs : List String} :
    sameAddresses addresses cidrs = true ↔
      addresses.map some =
        cidrs.map fun cidr => (parseCIDR cidr).map ipString := by
  induction addresses generalizing cidrs with
  | nil => cases cidrs <;> simp [sameAddresses]
  | cons address addresses induction =>
      cases cidrs with
      | nil => simp [sameAddresses]
      | cons cidr cidrs =>
          simp only [sameAddresses, Bool.and_eq_true, beq_iff_eq, induction,
            List.map_cons, List.cons.injEq]
          constructor
          · intro both
            exact ⟨both.1.symm, both.2⟩
          · intro both
            exact ⟨both.1.symm, both.2⟩

theorem maps_of_matchesACK {endpoint : LocalEndpoint} {ack : CniEndpointACK}
    {stored : Option EndpointRecord} (named : namesACK endpoint ack = true)
    (matched : matchesACK endpoint ack stored = .ok ()) :
    stored.isSome = true ∧ Maps endpoint ack := by
  simp only [namesACK, Bool.and_eq_true, Bool.or_eq_true, beq_iff_eq] at named
  obtain ⟨⟨active, network⟩, identified⟩ := named
  unfold matchesACK at matched
  obtain ⟨_, present, matched⟩ := bind_eq_ok.mp matched
  obtain ⟨_, incarnation, matched⟩ := bind_eq_ok.mp matched
  obtain ⟨_, mac, matched⟩ := bind_eq_ok.mp matched
  have stands := refuse_eq_ok.mp present
  have incarnations := refuse_eq_ok.mp incarnation
  have macs := refuse_eq_ok.mp mac
  refine ⟨?_, active, network, ?_, ?_, ?_⟩
  · cases stored with
    | none => cases stands
    | some record => rfl
  · by_cases same : endpoint.endpointID = ack.spec.id
    · refine .inl ⟨same, ?_⟩
      simpa [same] using incarnations
    · exact .inr ⟨same, identified.resolve_left same⟩
  · simpa using macs
  · cases macOnly : endpoint.macOnly with
    | true =>
        rw [macOnly] at matched
        have empty := refuse_eq_ok.mp matched
        exact .inl ⟨rfl, by simpa using empty⟩
    | false =>
        rw [macOnly] at matched
        obtain ⟨_, _, matched⟩ := bind_eq_ok.mp matched
        have addresses := refuse_eq_ok.mp matched
        exact .inr ⟨rfl, sameAddresses_eq_true_iff.mp (by simpa using addresses)⟩

theorem maps_of_matchEndpoint {endpoint : LocalEndpoint} {keys : List String}
    (matched : matchEndpoint server endpoint keys = .ok ()) :
    ∃ key ack, server.state.endpoints.get key = some ack ∧
      (server.store.get key).isSome = true ∧ Maps endpoint ack := by
  induction keys with
  | nil => cases matched
  | cons key keys induction =>
      unfold matchEndpoint at matched
      split at matched
      · rename_i ack found
        obtain ⟨found, named⟩ := Option.filter_eq_some_iff.mp found
        obtain ⟨stored, maps⟩ := maps_of_matchesACK named matched
        exact ⟨key, ack, found, stored, maps⟩
      · exact induction matched

/-- Everything the agent has established when it advertises an endpoint.
`server` is its memory when it took the mutex, `reached` its memory now. -/
structure Authorized (server reached : CNIServer) (log : CniLog Route)
    (endpoint : LocalEndpoint) : Prop where
  undrained : server.stopping = false
  continuous : Continuous server reached log
  mapped : ∃ key ack, server.state.endpoints.get key = some ack ∧
    Maps endpoint ack ∧ (reached.store.get key).isSome = true ∧
    Found false ack log ∧ Matching ack log

theorem validateEndpoint_asks {endpoint : LocalEndpoint}
    (asked : Asked start log) (undrained : server.stopping = false)
    (continuous : Continuous server reached log) :
    Method.Safe Environment.logging (Asked start)
      (Method.Leads
        (fun _ memory after => memory = reached ∧
          Authorized server reached after endpoint)
        (fun _ _ _ => True))
      (validateEndpoint endpoint : CniMethod Route Unit) reached log := by
  apply Method.safe_get_bind.mpr
  apply (queries_query rfl remembered_true).safe_bind trivial
    (fun later further => asked.trans further)
  · intro keys later further _
    apply Method.safe_check_still_iff.mpr
    refine ⟨asked.trans further, ?_⟩
    cases matched : matchEndpoint reached endpoint keys.val with
    | error reason => trivial
    | ok value =>
        have continues := continuous.asked further
        obtain ⟨key, ack, found, stored, maps⟩ :=
          maps_of_matchEndpoint matched
        rw [continuous.same] at found
        have verified := ((continues.settled key ack found).2.2
          maps.active).verified stored
        exact ⟨rfl, undrained, continues, key, ack, found, maps, stored,
          verified⟩
  · intro reason later further
    trivial

theorem validateExport_asks {endpoint : LocalEndpoint}
    (asked : Asked start log) :
    Method.Safe Environment.logging (Asked start)
      (Method.Leads
        (fun _ memory after => Authorized server memory after endpoint)
        (fun _ _ _ => True))
      (validateRecoveredExportEndpointsLocked [endpoint] :
        CniMethod Route Unit) server log := by
  apply Method.safe_get_bind.mpr
  apply Method.Safe.refuse_bind
  · intro _
    exact Method.safe_throw_still_iff.mpr ⟨asked, trivial⟩
  · intro undrained
    apply Method.Safe.leads_bind (validateContinuityLocked_asks asked)
    intro _ memory after askedAfter continuous
    apply Method.Safe.leads_bind
      (validateEndpoint_asks askedAfter undrained continuous)
    intro _ last later askedLater posted
    obtain ⟨rfl, authorized⟩ := posted
    exact Method.safe_pure_still_iff.mpr ⟨askedLater, authorized⟩

end Validating

/-- The critical section of `continuityRouteApplier.Add`: the validation, and
then one call of `AddPath` whose reply is the result. -/
theorem serve_addRoute (uuid : UuidPackage) (config : CniConfig)
    (endpointOf : Route → LocalEndpoint) (route : Route) (server : CNIServer) :
    (serveCall uuid config endpointOf (.addRoute route)).start server =
      ((validateRecoveredExportEndpointsLocked [endpointOf route] :
        CniMethod Route Unit).start server).bind fun out =>
          match out.1 with
          | .ok _ => .ask (.addPath route) fun reply =>
              .done (reply.map CniResponse.path, out.2)
          | .error reason => .done (.error reason, out.2) := by
  have split : serveCall uuid config endpointOf (.addRoute route) =
      (validateRecoveredExportEndpointsLocked [endpointOf route] >>= fun _ =>
        CniResponse.path <$> demand (.addPath route) id :
          CniMethod Route CniResponse) := by
    change CniResponse.path <$> (validateRecoveredExportEndpointsLocked
      [endpointOf route] >>= fun _ => demand (.addPath route) id :
        CniMethod Route String) = _
    rw [map_bind]
  rw [split, Method.start_bind]
  change Program.bind _ _ = Program.bind _ _
  congr 1
  funext out
  obtain ⟨outcome, memory⟩ := out
  cases outcome with
  | error reason => rfl
  | ok value =>
      change Program.ask _ _ = Program.ask _ _
      congr 1
      funext reply
      cases reply with
      | error reason => rfl
      | ok id => rfl

/-- A run of `continuityRouteApplier.Add` that calls `AddPath` has passed the
gate. -/
theorem authorized_of_runs (uuid : UuidPackage) (config : CniConfig)
    {endpointOf : Route → LocalEndpoint} {route sent : Route}
    {server : CNIServer} {before after : CniWorld}
    {events : CniLog Route}
    {next : Except GoError String →
      Program (cniSignature Route) (Except GoError CniResponse × CNIServer)}
    (run : Runs (environment fun _ _ => True)
      ((serveCall uuid config endpointOf (.addRoute route)).start server)
      before events (.ask (.addPath sent) next) after) :
    sent = route ∧ Asked [] events ∧
      ∃ reached, (∀ reply, next reply =
          .done (reply.map CniResponse.path, reached)) ∧
        Authorized server reached events (endpointOf route) := by
  have gate : Method.Safe Environment.logging (Asked [])
      (Method.Leads
        (fun _ memory after =>
          Authorized server memory after (endpointOf route))
        (fun _ _ _ => True))
      (validateRecoveredExportEndpointsLocked [endpointOf route] :
        CniMethod Route Unit) server [] :=
    validateExport_asks (.refl [])
  have logged := run.logs []
  rw [serve_addRoute, List.nil_append] at logged
  rcases logged.ask_of_bind with ⟨resume, inside⟩ |
    ⟨out, middle, first, second, parts, inside, outside⟩
  · have waits := Interactive.Safe.along gate inside
    obtain ⟨events, same, questions⟩ :=
      ((waits _ .refl).2 (.ok "") _ rfl).holds
    rw [List.nil_append] at same
    have advertised := questions ⟨.addPath sent, .ok ""⟩
      (by rw [← same]; simp)
    cases advertised
  · have passed := Interactive.Safe.returned gate inside
    have asked := (Interactive.Safe.along gate inside).holds
    have logEq := inside.log_eq
    rw [List.nil_append] at logEq
    subst logEq
    obtain ⟨outcome, reached⟩ := out
    cases outcome with
    | error reason =>
        obtain ⟨_, impossible⟩ := outside.of_done
        cases impossible
    | ok value =>
        cases outside with
        | here =>
            rw [parts, List.append_nil]
            exact ⟨rfl, asked, reached, fun reply => rfl, passed⟩
        | drift moved _ => exact moved.elim
        | ask _ rest =>
            obtain ⟨_, impossible⟩ := rest.of_done
            cases impossible

theorem calls_addPath (uuid : UuidPackage) (config : CniConfig)
    {endpointOf : Route → LocalEndpoint} {route : Route}
    {server : CNIServer} {before after : CniWorld} {events : CniLog Route}
    {out : Except GoError CniResponse × CNIServer}
    (run : Runs (environment fun _ _ => True)
      ((serveCall uuid config endpointOf (.addRoute route)).start server)
      before events (.done out) after)
    (succeeded : out.1.isOk = true) :
    ∃ (first : CniLog Route) (middle : CniWorld)
      (next : Except GoError String → Program (cniSignature Route)
        (Except GoError CniResponse × CNIServer)),
      Runs (environment fun _ _ => True)
        ((serveCall uuid config endpointOf (.addRoute route)).start server)
        before first (.ask (.addPath route) next) middle := by
  rw [serve_addRoute] at run ⊢
  rcases run.of_bind with ⟨remaining, _, stands⟩ |
    ⟨value, middle, first, second, _, inside, outside⟩
  · cases remaining with
    | ask message resume => cases stands
    | done value =>
        obtain ⟨outcome, memory⟩ := value
        cases outcome with
        | ok passed => cases stands
        | error reason =>
            cases stands
            cases succeeded
  · obtain ⟨outcome, memory⟩ := value
    cases outcome with
    | ok passed => exact ⟨first, middle, _, inside.into_bind _⟩
    | error reason =>
        obtain ⟨_, returned⟩ := outside.of_done
        cases returned
        cases succeeded

/-- A question leaves the journal directory alone. -/
theorem history_of_question {allowed : ClockUse → Nat → Prop}
    {before after : CniWorld} {request : CniRequest Route}
    {reply : request.Reply} (question : request.isQuestion = true)
    (answered : CniWorld.Answers allowed before request reply after) :
    after.history = before.history := by
  by_cases onJournal : ∃ cell, request = .journal cell
  · obtain ⟨cell, rfl⟩ := onJournal
    have same : after = before := by
      cases cell with
      | write writer next => cases question
      | load =>
          cases reply with
          | error reason => exact answered
          | ok found => exact answered.2
      | checkLock => cases reply <;> exact answered
      | release => cases reply <;> exact answered
    rw [same]
  · rw [not_exists] at onJournal
    exact (CniWorld.since_of_answers onJournal answered).1

theorem history_of_runs {α : Type} {allowed : ClockUse → Nat → Prop}
    {program rest : Program (cniSignature Route) α} {before after : CniWorld}
    {events : CniLog Route}
    (run : Runs (environment allowed) program before events rest after)
    (questions : ∀ event ∈ events, event.1.isQuestion = true) :
    after.history = before.history := by
  induction run with
  | here => rfl
  | drift moved _ _ => exact moved.elim
  | ask answered _ induction =>
      have rested := induction
        (fun event member => questions event (List.mem_cons_of_mem _ member))
      exact rested.trans
        (history_of_question (questions _ List.mem_cons_self) answered)

/-- The memory a critical section found stands on the journal directory. -/
theorem live_of_entered {uuid : UuidPackage} {config : CniConfig}
    {domain : Domain} {endpointOf : Route → LocalEndpoint}
    {Thread : Type} [DecidableEq Thread] {world : CniWorld}
    {server : CNIServer}
    {state : Mutexed (cniService uuid config domain endpointOf) CniWorld
      Thread}
    {current : CriticalSection (cniService uuid config domain endpointOf)
      CniWorld Thread}
    (started : (cniService uuid config domain endpointOf).Reachable
      (environment fun _ _ => True) .blank (world, .idle server))
    (steps : Mutexed.Steps (environment fun _ _ => True)
      (.free world server) state)
    (inside : state.inside = some current) :
    Live current.memory current.entered := by
  have entered := Mutexed.entered steps current inside
  have reached : (cniService uuid config domain endpointOf).Reachable
      (environment fun _ _ => True) .blank
      (current.entered, .idle current.memory) := started.trans entered
  exact (cniService_kept.reachable reached sound_blank).2

/-- In every interleaving of threads that call the operations of a node agent,
a thread that is about to call `AddPath` for a route has, since it took the
mutex, found everything in order: the agent is not stopping, the directory has
no unresolved intent, no endpoint is pending or quarantined, every active one is
accounted for, and the endpoint of the route maps to a verified
acknowledgement.  Until the thread leaves, no call completes, and the reply of
`AddPath` is its result. -/
theorem advertised_only_when_authorized (uuid : UuidPackage)
    (config : CniConfig) (domain : Domain)
    (endpointOf : Route → LocalEndpoint) {Thread : Type}
    [DecidableEq Thread] {world : CniWorld} {server : CNIServer}
    {state : Mutexed (cniService uuid config domain endpointOf) CniWorld
      Thread}
    {current : CriticalSection (cniService uuid config domain endpointOf)
      CniWorld Thread}
    {route sent : Route}
    {next : Except GoError String → Program (cniSignature Route)
      (Except GoError CniResponse × CNIServer)}
    (started : (cniService uuid config domain endpointOf).Reachable
      (environment fun _ _ => True) .blank (world, .idle server))
    (steps : Mutexed.Steps (environment fun _ _ => True)
      (.free world server) state)
    (inside : state.inside = some current)
    (called : current.call = .addRoute route)
    (waits : current.program = .ask (.addPath sent) next) :
    sent = route ∧
    (∃ reached, Authorized current.memory reached current.events
        (endpointOf route) ∧
      ∀ reply, next reply = .done (reply.map CniResponse.path, reached)) ∧
    state.world.disk = some current.memory.journal.record ∧
    (∃ entry, entry.inside = some { current with
        events := []
        program := (cniService uuid config domain endpointOf).serve
          current.call current.memory } ∧
      Mutexed.Holds (environment fun _ _ => True) current.thread entry
        state ∧
      ∀ later, Mutexed.Holds (environment fun _ _ => True) current.thread
        state later → later.completed = entry.completed) := by
  have run := Mutexed.traced steps current inside
  rw [waits, called] at run
  obtain ⟨same, asked, reached, returns, authorized⟩ :=
    authorized_of_runs uuid config run
  refine ⟨same, ⟨reached, authorized, returns⟩, ?_, ?_⟩
  · obtain ⟨events, all, questions⟩ := asked
    rw [List.nil_append] at all
    subst all
    have unwritten := history_of_runs run questions
    obtain ⟨disk, _⟩ := live_of_entered started steps inside
      authorized.continuous.usable
    unfold CniWorld.disk at disk ⊢
    rw [unwritten]
    exact disk
  · obtain ⟨entry, held, entered⟩ := Mutexed.holding steps current inside
    refine ⟨entry, entered, held, ?_⟩
    intro later holds
    exact (Mutexed.holds_completed (held.trans holds)).1

def sampleExport : LocalEndpoint :=
  { networkID := "n"
    endpointID := "n|a|pod"
    incarnation := "box"
    macAddress := "02:00:00:00:00:01"
    ipAddresses := ["10.0.0.5"]
    vni := 100
    routeDistinguisher := "1:1"
    routeTargets := ["1:1"]
    localVTEP := "192.0.2.1"
    nodeName := "node"
    chassis := "chassis"
    advertise := true
    macOnly := false }

def sampleAdvertised : Option (CNIServer × CniWorld × Bool) :=
  match sampleTrial id with
  | none => none
  | some (server, world) =>
      match (sampleAgent.serve (.addRoute sampleExport) server).evaluate
          (sampleReplies id) world with
      | none => none
      | some (out, _) => some (server, world, out.1.isOk)

theorem sampleAdvertised_waits :
    ∃ (world : CniWorld) (server : CNIServer) (events : CniLog LocalEndpoint)
      (after : CniWorld)
      (next : Except GoError String → Program (cniSignature LocalEndpoint)
        (Except GoError CniResponse × CNIServer)),
      sampleAgent.Reachable (environment fun _ _ => True) .blank
        (world, .idle server) ∧
      Runs (environment fun _ _ => True)
        (sampleAgent.serve (.addRoute sampleExport) server) world events
        (.ask (.addPath sampleExport) next) after := by
  have advertised : sampleAdvertised.map (fun state => state.2.2) =
      some true := by
    decide +kernel
  obtain ⟨⟨server, world, returned⟩, evaluated, same⟩ :=
    Option.map_eq_some_iff.mp advertised
  unfold sampleAdvertised at evaluated
  split at evaluated
  · cases evaluated
  · rename_i booted idle tried
    split at evaluated
    · cases evaluated
    · rename_i out after ended
      cases evaluated
      have allowed : ∀ (world : CniWorld) (request : CniRequest LocalEndpoint)
          (reply : request.Reply) (after : CniWorld),
          sampleReplies id world request = some (reply, after) →
          (environment fun _ _ => True).answers world request reply after :=
        sampleReplies_allowed (fun _ => trivial) (fun _ _ => trivial)
          (fun _ => trivial)
      obtain ⟨events, run⟩ := Program.runs_evaluate allowed ended
      obtain ⟨first, middle, next, waits⟩ :=
        calls_addPath canonicalUuid sampleCniConfig run same
      have reached : sampleAgent.Reachable (environment fun _ _ => True)
          .blank (world, .idle server) :=
        Service.reachable_trial allowed tried
      exact ⟨world, server, first, middle, next, reached, waits⟩

/-- Two threads share the sample agent; while one of them is about to
advertise the endpoint, the other waits with its DEL. -/
theorem advertised_only_when_authorized_sample :
    ∃ (world : CniWorld) (server reached : CNIServer)
      (events : CniLog LocalEndpoint) (state : Mutexed sampleAgent CniWorld
        Bool),
      sampleAgent.Reachable (environment fun _ _ => True) .blank
        (world, .idle server) ∧
      Mutexed.Steps (environment fun _ _ => True) (.free world server)
        state ∧
      state.waiting false = some (.del ⟨some samplePodIdentity⟩) ∧
      Authorized server reached events sampleExport := by
  obtain ⟨world, server, events, after, next, booted, run⟩ :=
    sampleAdvertised_waits
  have steps : Mutexed.Steps (environment fun _ _ => True)
      (.free world server : Mutexed sampleAgent CniWorld Bool)
      { world := after
        memory := server
        inside := some
          { thread := true
            call := .addRoute sampleExport
            memory := server
            entered := world
            events := [] ++ events
            program := .ask (.addPath sampleExport) next }
        waiting := fun thread =>
          if thread = true then none
          else if thread = false then some (.del ⟨some samplePodIdentity⟩)
          else if thread = true then some (.addRoute sampleExport)
          else none
        completed := [] } := by
    refine .head (Mutexed.Step.wait true (CniCall.addRoute sampleExport) rfl)
      (.head (Mutexed.Step.wait false (CniCall.del ⟨some samplePodIdentity⟩)
        rfl) (.head (@Mutexed.Step.enter _ _ Bool _ sampleAgent _ _ true
          (CniCall.addRoute sampleExport) rfl rfl) ?_))
    exact @Mutexed.steps_of_runs _ _ Bool _ sampleAgent _ _
      { thread := true
        call := CniCall.addRoute sampleExport
        memory := server
        entered := world
        events := []
        program := sampleAgent.serve (.addRoute sampleExport) server }
      _ _ _ rfl run
  obtain ⟨_, ⟨reached, authorized, _⟩, _⟩ :=
    advertised_only_when_authorized canonicalUuid sampleCniConfig sampleDomain
      id booted steps rfl rfl rfl
  exact ⟨world, server, reached, _, _, booted, steps, rfl, authorized⟩

end EvpnForOvn.Nodeagent

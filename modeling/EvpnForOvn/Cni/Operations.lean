import EvpnForOvn.Cni.StateMachine

/-!
# The operations keep the invariant

ADD, DEL and the activation pass have the same shape: a stretch of questions,
an intent, a second stretch, and a commit that replaces one endpoint.  Wherever
they stop, the directory is sound and the memory is live.
-/

namespace EvpnForOvn.Nodeagent

open Interactive Go Ownership
open CniWorld (environment Since Frames Lasting)

variable {Route : Type} {allowed : ClockUse → Nat → Prop}
  {uuid : UuidPackage} {config : CniConfig} {world : CniWorld}
  {server : CNIServer} {key : String} {ack : CniEndpointACK}

/-- The outcome of an operation: it has returned or failed with a live
memory. -/
def Ends {α : Type} :
    Except GoError α → CNIServer → CniWorld → Prop :=
  Method.Leads (fun _ => Live) (fun _ => Live)

theorem ends_iff {α : Type} {outcome : Except GoError α} :
    Ends outcome server world ↔ Live server world := by
  cases outcome with
  | error reason => exact Iff.rfl
  | ok value => exact Iff.rfl

/-- A stretch of questions from a standing server. -/
theorem Frames.ends_bind {α β : Type} {method : CniMethod Route α}
    {continuation : α → CniMethod Route β}
    (frames : Frames allowed method) (sound : Sound allowed uuid world)
    (live : Live server world)
    (continues : ∀ value after, Since world after →
      Sound allowed uuid after →
      Method.Safe (environment allowed) (Sound allowed uuid) Ends
        (continuation value) server after) :
    Method.Safe (environment allowed) (Sound allowed uuid) Ends
      (method >>= continuation) server world := by
  have always : Lasting (fun _ => True) := fun _ _ _ _ => trivial
  apply (frames _ always).safe_bind trivial
    (fun after passed => sound.since passed)
  · intro value after passed _
    exact continues value after passed (sound.since passed)
  · intro reason after passed
    exact live.since passed

theorem ends_pure {α : Type} {value : α} (sound : Sound allowed uuid world)
    (live : Live server world) :
    Method.Safe (environment allowed) (Sound allowed uuid) Ends
      (pure value : CniMethod Route α) server world :=
  Method.safe_pure_still_iff.mpr ⟨sound, live⟩

theorem ends_throw {α : Type} {reason : GoError}
    (sound : Sound allowed uuid world) (live : Live server world) :
    Method.Safe (environment allowed) (Sound allowed uuid) Ends
      (throw reason : CniMethod Route α) server world :=
  Method.safe_throw_still_iff.mpr ⟨sound, live⟩

theorem Frames.ends {α : Type} {method : CniMethod Route α}
    (frames : Frames allowed method) (sound : Sound allowed uuid world)
    (live : Live server world) :
    Method.Safe (environment allowed) (Sound allowed uuid) Ends method server
      world := by
  have always : Lasting (fun _ => True) := fun _ _ _ _ => trivial
  apply (frames _ always).safe trivial (fun after passed => sound.since passed)
  intro outcome after passed _
  exact ends_iff.mpr (live.since passed)

theorem ends_map {α β : Type} {change : α → β} {method : CniMethod Route α}
    (safe : Method.Safe (environment allowed) (Sound allowed uuid) Ends method
      server world) :
    Method.Safe (environment allowed) (Sound allowed uuid) Ends
      (change <$> method) server world := by
  rw [← bind_pure_comp]
  apply Method.Safe.leads_bind safe
  intro value reached after soundAfter live
  exact ends_pure soundAfter live

/-- `ready` in front of an operation. -/
theorem ready_ends_bind {α : Type} {change : GoError → GoError}
    {continuation : Unit → CniMethod Route α}
    (sound : Sound allowed uuid world) (live : Live server world)
    (continues : Standing server world →
      Method.Safe (environment allowed) (Sound allowed uuid) Ends
        (continuation ()) server world) :
    Method.Safe (environment allowed) (Sound allowed uuid) Ends
      (Method.mapError change ready >>= continuation) server world := by
  apply Method.Safe.mapError_bind (ready_safe sound live)
  · intro _ reached after _ posted
    obtain ⟨rfl, rfl, standing⟩ := posted
    exact continues standing
  · intro reason reached after _ posted
    obtain ⟨rfl, liveReached⟩ := posted
    exact liveReached

theorem mapError_ends {α : Type} {change : GoError → GoError}
    {method : CniMethod Route α}
    (safe : Method.Safe (environment allowed) (Sound allowed uuid) Ends method
      server world) :
    Method.Safe (environment allowed) (Sound allowed uuid) Ends
      (Method.mapError change method) server world :=
  Method.Safe.leads_mapError safe

section Commits

variable {operation : String} {payload : CniDocument}

/-- The endpoints with one of them replaced. -/
def replaced (server : CNIServer) (key : String) (ack : CniEndpointACK) :
    CniACKState :=
  ⟨server.state.version, server.state.endpoints.set key ack⟩

theorem replaced_eq (mirrors : Mirrors server) :
    replaced server key ack =
      ⟨1, (durableEndpoints server.journal.record).set key ack⟩ := by
  unfold replaced
  rw [mirrors.version, mirrors.endpoints]

/-- The server and the world once the outstanding operation has been
committed. -/
def Committed (server : CNIServer) (operation : String)
    (payload : CniDocument) (key : String) (ack : CniEndpointACK)
    (journal : Journal CniDocument) (world : CniWorld) : Prop :=
  Journal.Usable journal ∧
    journal.record = Journal.committed
      (Journal.begun server.journal.record operation payload)
      (replaced server key ack).document ∧
    world.disk = some journal.record

theorem standing_of_committed {journal : Journal CniDocument}
    {store : GoMap EndpointRecord} {stopping : Bool} {after : CniWorld}
    (mirrors : Mirrors server)
    (committed : Committed server operation payload key ack journal after)
    (stored : ∀ other found, store.get other = some found →
      (other ≠ key ∧ ∃ old, server.store.get other = some old) ∨
        other = key ∧
          (ack.state = .active ∨ ack.state = .pendingCreation)) :
    Standing
      { stopping := stopping
        journal := journal
        state := replaced server key ack
        store := store } after := by
  obtain ⟨usable, recordEq, disk⟩ := committed
  refine ⟨usable, disk, ?_, ?_⟩
  · show journal.record.pending = none
    rw [recordEq]
    rfl
  · rw [replaced_eq mirrors] at recordEq ⊢
    exact mirrors_committed mirrors recordEq stored

/-- The commit of an operation whose intent is outstanding.  The memory may
have been updated already. -/
theorem commit_replaced_live {memory : CNIServer} {sequence : Nat}
    {begun after : CniWorld}
    (sound : Sound allowed uuid after) (standing : Standing server world)
    (written : begun = world.written
      (Journal.begun server.journal.record operation payload))
    (passed : Since begun after)
    (sameJournal : memory.journal =
      (afterBegin server operation payload).journal)
    (entry : Entry allowed uuid after.clock key ack)
    (evolves : Evolves (durableState server.journal.record key)
      (some ack.state)) :
    Method.Safe (environment allowed) (Sound allowed uuid)
      (Method.Leads
        (fun _ reached later =>
          reached = { memory with journal := reached.journal } ∧
          Committed server operation payload key ack reached.journal later)
        (fun _ => Live))
      (onJournal fun store => Journal.commit store sequence
        (.ok (replaced server key ack).document) : CniMethod Route Unit)
      memory after := by
  have recordEq : memory.journal.record =
      Journal.begun server.journal.record operation payload := by
    rw [sameJournal]
    rfl
  have disk : after.disk = some memory.journal.record := by
    unfold CniWorld.disk
    rw [passed.1, written, recordEq]
    rfl
  have outstanding : memory.journal.record.pending ≠ none := by
    rw [recordEq]
    simp [Journal.begun]
  have soundWritten : Sound allowed uuid (after.written
      (Journal.committed memory.journal.record
        (replaced server key ack).document)) := by
    rw [replaced_eq standing.mirrors]
    have same : durableEndpoints memory.journal.record =
        durableEndpoints server.journal.record := by
      rw [recordEq]
      rfl
    show Sound allowed uuid (after.written (Journal.committed
      memory.journal.record (.state 1
        (some ((durableEndpoints server.journal.record).set key ack)))))
    rw [← same]
    apply sound.committed disk entry
    rw [recordEq]
    exact evolves
  apply (commit_live sound disk outstanding soundWritten).weaken
  intro outcome reached later _ posted
  cases outcome with
  | error reason => exact posted
  | ok value =>
      obtain ⟨rfl, rfl⟩ := posted
      refine ⟨rfl, ?_, ?_, rfl⟩
      · have usable := standing.usable
        show Journal.Usable { memory.journal with record := _ }
        rw [sameJournal]
        exact usable
      · show Journal.committed memory.journal.record _ = _
        rw [recordEq]

theorem live_of_begun {memory : CNIServer} {begun after : CniWorld}
    (written : begun = world.written
      (Journal.begun server.journal.record operation payload))
    (passed : Since begun after)
    (sameJournal : memory.journal =
      (afterBegin server operation payload).journal) :
    Live memory after := by
  apply live_of_pending
  · unfold CniWorld.disk
    rw [passed.1, written, sameJournal]
    rfl
  · rw [sameJournal]
    simp [afterBegin, Journal.begun]

end Commits

theorem removeEndpoint_ends (sound : Sound allowed uuid world)
    (standing : Standing server world)
    (found : server.state.endpoints.get key = some ack)
    (present : ack.state = .active ∨ ack.state = .pendingCreation ∨
      ack.state = .quarantined) :
    Method.Safe (environment allowed) (Sound allowed uuid) Ends
      (removeEndpoint config key ack : CniMethod Route Unit) server world := by
  have durable : (durableEndpoints server.journal.record).get key =
      some ack := by
    rw [← standing.mirrors.endpoints]
    exact found
  apply Frames.ends_bind CniWorld.frames_verifyResources sound standing.live
  intro _ first passedFirst soundFirst
  have standingFirst := standing.since passedFirst
  apply Method.Safe.leads_bind (begin_live soundFirst standingFirst .deleting)
  intro sequence reached begun soundBegun posted
  obtain ⟨rfl, written⟩ := posted
  have liveBegun : Live (afterBegin server "cni-del" (.ack ack)) begun :=
    live_of_begun written ⟨rfl, Nat.le_refl _⟩ rfl
  apply Frames.ends_bind CniWorld.frames_removeResources soundBegun liveBegun
  intro _ after passed soundAfter
  apply Method.safe_get_bind.mpr
  apply Method.safe_set_bind.mpr
  have entry : Entry allowed uuid after.clock key
      { ack with state := .deleted } := by
    have held := (soundFirst.onDisk standingFirst.disk).entries key ack durable
    have later : first.clock ≤ after.clock := by
      have below := passed.2
      rw [written] at below
      exact below
    refine ⟨held.keyed, by simp, Nat.le_trans held.stamped later, ?_⟩
    intro timely
    exact validateCNIACK_restated (held.valid timely) (by simp) (by simp)
      (by simp)
  have evolves : Evolves (durableState server.journal.record key)
      (some .deleted) := by
    rw [durableState_of_get durable]
    exact .removed present
  apply Method.Safe.leads_bind (commit_replaced_live soundAfter standingFirst
    written passed (by rfl) entry evolves)
  intro _ reached last soundLast posted
  obtain ⟨reachedEq, committed⟩ := posted
  rw [reachedEq]
  apply Method.safe_modify.mpr
  apply ends_pure soundLast
  apply Standing.live
  apply standing_of_committed standing.mirrors committed
  intro other stored member
  rw [GoMap.get_delete] at member
  split at member
  · cases member
  · rename_i different
    exact .inl ⟨different, stored, member⟩

theorem continuityDel_ends {request : CNIDelRequest}
    (sound : Sound allowed uuid world) (live : Live server world) :
    Method.Safe (environment allowed) (Sound allowed uuid) Ends
      (continuityDel config request : CniMethod Route DelOutcome) server
      world := by
  apply Method.Safe.check_bind (fun reason _ => ends_throw sound live)
  intro identity _
  apply ready_ends_bind sound live
  intro standing
  apply Method.safe_get_bind.mpr
  cases found : server.state.endpoints.get (endpointKey (some identity)) with
  | none => exact ends_pure sound live
  | some ack =>
      dsimp only
      cases isIdentityMismatch ack.identity (some identity) with
      | true => exact ends_pure sound live
      | false =>
          by_cases present : ack.state = .active ∨
              ack.state = .pendingCreation ∨ ack.state = .quarantined
          · rw [if_neg Bool.false_ne_true, if_pos present]
            apply Method.Safe.leads_bind (mapError_ends
              (removeEndpoint_ends sound standing found present))
            intro _ reached after soundAfter liveAfter
            exact ends_pure soundAfter liveAfter
          · rw [if_neg Bool.false_ne_true, if_neg present]
            exact ends_pure sound live

theorem get_putIfAbsent {store : GoMap EndpointRecord}
    {record found : EndpointRecord} {other : String}
    (member : (putIfAbsent store key record).get other = some found) :
    other = key ∨ store.get other = some found := by
  unfold putIfAbsent at member
  split at member
  · exact .inr member
  · rw [GoMap.get_set] at member
    split at member
    · rename_i same
      exact .inl same
    · exact .inr member

theorem replayAdd_ends {record : EndpointRecord} {identity : EndpointIdentity}
    {runtime : CNIRuntimeContext} {admission : Option CNIAdmissionEvidence}
    (sound : Sound allowed uuid world) (standing : Standing server world)
    (found : server.state.endpoints.get key = some ack)
    (present : ack.state ≠ .deleted) :
    Method.Safe (environment allowed) (Sound allowed uuid) Ends
      (replayAdd key ack record identity runtime admission :
        CniMethod Route CNIAddResponse) server world := by
  apply Method.Safe.refuse_bind
    (fun _ => ends_throw sound standing.live)
  intro unquarantined
  apply Method.Safe.refuse_bind
    (fun _ => ends_throw sound standing.live)
  intro _
  apply Frames.ends_bind CniWorld.frames_replayEvidence.mapError sound
    standing.live
  intro _ after passed soundAfter
  have standingAfter := standing.since passed
  apply Method.safe_modify_bind.mpr
  apply ends_pure soundAfter
  intro _
  refine ⟨standingAfter.disk, fun _ => ?_⟩
  have mirrors := standing.mirrors
  refine ⟨mirrors.version, mirrors.endpoints, ?_⟩
  intro other stored member
  rcases get_putIfAbsent member with rfl | kept
  · have durable : (durableEndpoints server.journal.record).get other =
        some ack := by
      rw [← mirrors.endpoints]
      exact found
    have named := ((sound.onDisk standing.disk).entries other ack durable).named
    show durableState server.journal.record other = some .active ∨
      durableState server.journal.record other = some .pendingCreation
    rw [durableState_of_get durable]
    cases state : ack.state with
    | active => exact .inl rfl
    | pendingCreation => exact .inr rfl
    | deleted => exact absurd state present
    | quarantined => simp [state] at unquarantined
    | unset => exact absurd state named
  · exact mirrors.stored other stored kept

theorem createAdd_ends {request : CNIAddRequest} {record : EndpointRecord}
    {identity : EndpointIdentity} {runtime : CNIRuntimeContext}
    {attachment : AttachmentRequest}
    {admission : Option CNIAdmissionEvidence}
    {existing : Option CniEndpointACK}
    (sound : Sound allowed uuid world) (standing : Standing server world)
    (fresh : durableState server.journal.record key = none ∨
      durableState server.journal.record key = some .deleted) :
    Method.Safe (environment allowed) (Sound allowed uuid) Ends
      (createAdd uuid config key request record identity runtime attachment
        admission existing : CniMethod Route CNIAddResponse)
      server world := by
  apply Frames.ends_bind CniWorld.frames_requireAbsent sound standing.live
  intro _ first passedFirst soundFirst
  have standingFirst := standing.since passedFirst
  apply Method.Safe.leads_bind (begin_live soundFirst standingFirst .adding)
  intro sequence reached begun soundBegun posted
  obtain ⟨rfl, written⟩ := posted
  apply CniWorld.looks_createResources.safe_bind trivial
    (fun after passed => soundBegun.since passed)
  · intro ack after passed created
    have soundAfter := soundBegun.since passed
    apply Method.safe_get_bind.mpr
    apply Method.safe_set_bind.mpr
    have named := endpointKey_of_validateCNIACK created.valid
    have entry : Entry allowed uuid after.clock key ack :=
      ⟨named.1, named.2, created.stamped, fun _ => created.valid⟩
    have evolves : Evolves (durableState server.journal.record key)
        (some ack.state) := .created fresh created.fresh
    apply Method.Safe.leads_bind (commit_replaced_live soundAfter
      standingFirst written passed (by rfl) entry evolves)
    intro _ reached last soundLast posted
    obtain ⟨reachedEq, committed⟩ := posted
    rw [reachedEq]
    apply Method.safe_modify_bind.mpr
    apply ends_pure soundLast
    apply Standing.live
    apply standing_of_committed standing.mirrors committed
    intro other stored member
    by_cases same : other = key
    · exact .inr ⟨same, created.fresh⟩
    · rcases get_putIfAbsent member with equal | kept
      · exact absurd equal same
      · exact .inl ⟨same, stored, kept⟩
  · intro reason after passed
    exact live_of_begun written passed rfl

theorem continuityAdd_ends {request : CNIAddRequest}
    (sound : Sound allowed uuid world) (live : Live server world) :
    Method.Safe (environment allowed) (Sound allowed uuid) Ends
      (continuityAdd uuid config request : CniMethod Route CNIAddResponse)
      server world := by
  apply Method.Safe.check_bind (fun reason _ => ends_throw sound live)
  intro parts _
  obtain ⟨identity, runtime, attachment⟩ := parts
  apply ready_ends_bind sound live
  intro standing
  apply Method.Safe.check_bind (fun reason _ => ends_throw sound live)
  intro proposed _
  obtain ⟨completed, record⟩ := proposed
  apply Method.safe_get_bind.mpr
  apply Frames.ends_bind CniWorld.frames_authorizeAdd.mapError sound live
  intro admission after passed soundAfter
  have standingAfter := standing.since passed
  have durable : durableState server.journal.record
        (endpointKey (some identity)) =
      (server.state.endpoints.get (endpointKey (some identity))).map
        (·.state) := by
    rw [standing.mirrors.endpoints]
    rfl
  cases found : server.state.endpoints.get (endpointKey (some identity)) with
  | none =>
      rw [found] at durable
      exact mapError_ends (createAdd_ends soundAfter standingAfter
        (.inl durable))
  | some ack =>
      rw [found] at durable
      by_cases deleted : ack.state = .deleted
      · have filtered : (some ack).filter
            (fun ack => ack.state != .deleted) = none := by
          simp [Option.filter, deleted]
        rw [filtered]
        refine mapError_ends (createAdd_ends soundAfter standingAfter
          (.inr ?_))
        rw [durable, Option.map_some, deleted]
      · have filtered : (some ack).filter
            (fun ack => ack.state != .deleted) = some ack := by
          simp [Option.filter, deleted]
        rw [filtered]
        exact replayAdd_ends soundAfter standingAfter found deleted

theorem continuityCheck_ends {request : CNICheckRequest}
    (sound : Sound allowed uuid world) (live : Live server world) :
    Method.Safe (environment allowed) (Sound allowed uuid) Ends
      (continuityCheck request : CniMethod Route Unit) server world := by
  apply Method.Safe.bind (ready_safe sound live)
  · intro _ reached after _ posted
    obtain ⟨rfl, rfl, _⟩ := posted
    apply Method.safe_get_bind.mpr
    split
    · exact ends_throw sound live
    · apply Method.Safe.refuse_bind (fun _ => ends_throw sound live)
      intro _
      apply Frames.ends_bind (CniWorld.frames_query (by simp)) sound live
      intro verification later passed soundLater
      have frames : ∀ ack : CniEndpointACK, Frames allowed
          (Method.refuse verification.deleted
              (.new "Kubernetes Pod deleted" "") >>= fun _ =>
            verifyResources ack : CniMethod Route Unit) :=
        fun ack => CniWorld.frames_refuse.bind
          (fun _ => CniWorld.frames_verifyResources)
      exact Frames.ends (CniWorld.frames_check.bind (fun _ => frames _))
        soundLater (live.since passed)
  · intro reason reached after _ posted
    obtain ⟨rfl, liveReached⟩ := posted
    exact liveReached

theorem checkEndpoint_ends {request : CNICheckRequest}
    (sound : Sound allowed uuid world) (live : Live server world) :
    Method.Safe (environment allowed) (Sound allowed uuid) Ends
      (checkEndpoint config request : CniMethod Route CNICheckResponse)
      server world := by
  unfold checkEndpoint
  apply Method.Safe.leads_bind
    (mapError_ends (continuityCheck_ends sound live))
  intro _ reached after soundAfter liveAfter
  apply Method.Safe.check_bind
    (fun reason _ => ends_throw soundAfter liveAfter)
  intro identity _
  apply Method.safe_get_bind.mpr
  apply Method.Safe.check_bind
    (fun reason _ => ends_throw soundAfter liveAfter)
  intro record _
  generalize isIdentityMismatch record.identity (some identity) = mismatch
  apply Method.Safe.refuse_bind (fun _ => ends_throw soundAfter liveAfter)
  intro _
  exact Frames.ends CniWorld.frames_checkBackends soundAfter liveAfter

theorem sameCreation_of_judged {judged : CniEndpointACK}
    (step : CniWorld.Judged allowed ack judged) :
    judged.identity = ack.identity ∧ SameCreation judged ack := by
  cases step with
  | activated _ _ => exact ⟨rfl, rfl⟩
  | quarantined => exact ⟨rfl, rfl⟩

theorem evolves_of_judged {judged : CniEndpointACK}
    (step : CniWorld.Judged allowed ack judged) :
    Evolves (some .pendingCreation) (some judged.state) := by
  cases step with
  | activated _ _ => exact .activated
  | quarantined => exact .quarantined

theorem Entry.judged {clock later : Nat} {judged : CniEndpointACK}
    (entry : Entry allowed uuid clock key ack) (passed : clock ≤ later)
    (pending : ack.state = .pendingCreation)
    (step : CniWorld.Judged allowed ack judged) :
    Entry allowed uuid later key judged := by
  have stamped := Nat.le_trans entry.stamped passed
  cases step with
  | @activated reading permitted after =>
      refine ⟨entry.keyed, by simp, stamped, ?_⟩
      intro timely
      have valid := entry.valid timely
      obtain ⟨nonzero, _⟩ := bounded_of_validateCNIACK valid pending
      refine validateCNIACK_restated valid (by simp) (by simp) (fun _ => ?_)
      exact ⟨by omega, after, timely _ _ permitted⟩
  | quarantined =>
      refine ⟨entry.keyed, by simp, stamped, ?_⟩
      intro timely
      exact validateCNIACK_restated (entry.valid timely) (by simp) (by simp)
        (by simp)

/-- A standing server that still has the endpoints of the snapshot at the
keys not visited yet. -/
def Visiting (endpoints : GoMap CniEndpointACK) (remaining : List String)
    (server : CNIServer) (world : CniWorld) : Prop :=
  Standing server world ∧
    ∀ key ∈ remaining, server.state.endpoints.get key = endpoints.get key

theorem settlePending_safe {judged : CniEndpointACK}
    {remaining : List String} {endpoints : GoMap CniEndpointACK}
    (sound : Sound allowed uuid world)
    (visiting : Visiting endpoints (key :: remaining) server world)
    (fresh : key ∉ remaining) (found : endpoints.get key = some ack)
    (pending : ack.state = .pendingCreation)
    (step : CniWorld.Judged allowed ack judged) :
    Method.Safe (environment allowed) (Sound allowed uuid)
      (Method.Leads (fun _ => Visiting endpoints remaining) (fun _ => Live))
      (settlePending key judged : CniMethod Route Unit) server world := by
  obtain ⟨standing, unvisited⟩ := visiting
  have durable : (durableEndpoints server.journal.record).get key =
      some ack := by
    rw [← standing.mirrors.endpoints, unvisited key (by simp), found]
  have entry := (sound.onDisk standing.disk).entries key ack durable
  obtain ⟨sameIdentity, same⟩ := sameCreation_of_judged step
  have intended : Intended (durableEndpoints server.journal.record)
      ⟨server.journal.record.sequence + 1, "cni-identity", .ack judged⟩ := by
    apply Intended.judging _ pending same
    rw [sameIdentity, entry.keyed]
    exact durable
  apply Method.Safe.leads_bind (begin_live sound standing intended)
  intro sequence reached begun soundBegun posted
  obtain ⟨rfl, written⟩ := posted
  apply Method.safe_get_bind.mpr
  have evolves : Evolves (durableState server.journal.record key)
      (some judged.state) := by
    rw [durableState_of_get durable, pending]
    exact evolves_of_judged step
  have later : world.clock ≤ begun.clock := by
    rw [written]
    exact Nat.le_refl _
  apply Method.Safe.leads_bind (Method.Safe.leads_mapError
    (commit_replaced_live soundBegun standing written ⟨rfl, Nat.le_refl _⟩
      (by rfl) (entry.judged later pending step) evolves))
  intro _ reached last soundLast posted
  obtain ⟨reachedEq, committed⟩ := posted
  rw [reachedEq]
  apply Method.safe_modify.mpr
  apply Method.safe_pure_still_iff.mpr
  refine ⟨soundLast, ?_, ?_⟩
  · apply standing_of_committed standing.mirrors committed
    intro other stored member
    cases step with
    | activated _ _ =>
        by_cases equal : other = key
        · exact .inr ⟨equal, .inl rfl⟩
        · exact .inl ⟨equal, stored, member⟩
    | quarantined =>
        change (server.store.delete key).get other = some stored at member
        rw [GoMap.get_delete] at member
        split at member
        · cases member
        · rename_i different
          exact .inl ⟨different, stored, member⟩
  · intro other member
    have different : other ≠ key := by
      intro equal
      rw [equal] at member
      exact fresh member
    show (server.state.endpoints.set key judged).get other = _
    rw [GoMap.get_set_of_ne different]
    exact unvisited other (by simp [member])

theorem verifyPendingKey_safe {remaining : List String}
    {endpoints : GoMap CniEndpointACK} (sound : Sound allowed uuid world)
    (visiting : Visiting endpoints (key :: remaining) server world)
    (fresh : key ∉ remaining) :
    Method.Safe (environment allowed) (Sound allowed uuid)
      (Method.Leads (fun _ => Visiting endpoints remaining) (fun _ => Live))
      (verifyPendingKey endpoints key : CniMethod Route Unit) server
      world := by
  have skipped : Visiting endpoints remaining server world :=
    ⟨visiting.1, fun other member => visiting.2 other (by simp [member])⟩
  unfold verifyPendingKey
  cases found : endpoints.get key with
  | none => exact Method.safe_pure_still_iff.mpr ⟨sound, skipped⟩
  | some ack =>
      by_cases pending : ack.state = .pendingCreation
      · simp only [pending, if_true]
        have stamped : ack.createdAt ≤ world.clock := by
          have durable : (durableEndpoints server.journal.record).get key =
              some ack := by
            rw [← visiting.1.mirrors.endpoints, visiting.2 key (by simp),
              found]
          exact ((sound.onDisk visiting.1.disk).entries key ack
            durable).stamped
        apply CniWorld.looks_judgePending.safe_bind stamped
          (fun after passed => sound.since passed)
        · intro judged after passed posted
          exact settlePending_safe (sound.since passed)
            ⟨visiting.1.since passed, visiting.2⟩ fresh found pending posted.1
        · intro reason after passed
          exact visiting.1.live.since passed
      · simp only [pending, if_false]
        exact Method.safe_pure_still_iff.mpr ⟨sound, skipped⟩

theorem verifyPendingKeys_ends {endpoints : GoMap CniEndpointACK}
    {keys : List String} (sound : Sound allowed uuid world)
    (visiting : Visiting endpoints keys server world)
    (distinct : keys.Nodup) :
    Method.Safe (environment allowed) (Sound allowed uuid) Ends
      (Method.each (verifyPendingKey endpoints) keys : CniMethod Route Unit)
      server world := by
  induction keys generalizing server world with
  | nil => exact ends_pure sound visiting.1.live
  | cons key remaining induction =>
      obtain ⟨fresh, distinctRest⟩ := List.nodup_cons.mp distinct
      apply Method.Safe.leads_bind
        (verifyPendingKey_safe sound visiting fresh)
      intro _ reached after soundAfter visitingAfter
      exact induction soundAfter visitingAfter distinctRest

theorem verifyPendingCNI_ends (sound : Sound allowed uuid world)
    (live : Live server world) :
    Method.Safe (environment allowed) (Sound allowed uuid) Ends
      (verifyPendingCNI : CniMethod Route Unit) server world := by
  apply Method.safe_get_bind.mpr
  cases server.stopping with
  | true => exact ends_pure sound live
  | false =>
      apply Method.Safe.bind (ready_safe sound live)
      · intro _ reached after _ posted
        obtain ⟨rfl, rfl, standing⟩ := posted
        apply Frames.ends_bind (CniWorld.frames_query (by simp)) sound live
        intro keys later passed soundLater
        have distinct : keys.val.Nodup :=
          keys.property.nodup_iff.mpr (GoMap.nodup_sortedKeys _)
        exact verifyPendingKeys_ends soundLater
          ⟨standing.since passed, fun _ _ => rfl⟩ distinct
      · intro reason reached after _ posted
        obtain ⟨rfl, liveReached⟩ := posted
        exact liveReached

theorem Standing.forgets (standing : Standing server world) (key : String) :
    Standing { server with store := server.store.delete key } world := by
  refine ⟨standing.usable, standing.disk, standing.noPending,
    standing.mirrors.version, standing.mirrors.endpoints, ?_⟩
  intro other stored member
  change (server.store.delete key).get other = some stored at member
  rw [GoMap.get_delete] at member
  split at member
  · cases member
  · exact standing.mirrors.stored other stored member

theorem validateKey_safe {endpoints : GoMap CniEndpointACK}
    (sound : Sound allowed uuid world) (standing : Standing server world) :
    Method.Safe (environment allowed) (Sound allowed uuid)
      (Method.Leads (fun _ => Standing) (fun _ => Live))
      (validateKey endpoints key : CniMethod Route Unit) server world := by
  have stands : ∀ {after : CniWorld}, Since world after →
      Method.Safe (environment allowed) (Sound allowed uuid)
        (Method.Leads (fun _ => Standing) (fun _ => Live))
        (pure () : CniMethod Route Unit) server after :=
    fun passed => Method.safe_pure_still_iff.mpr
      ⟨sound.since passed, standing.since passed⟩
  have fails : ∀ {reason : GoError} {after : CniWorld}, Since world after →
      Method.Safe (environment allowed) (Sound allowed uuid)
        (Method.Leads (fun _ => Standing) (fun _ => Live))
        (throw reason : CniMethod Route Unit) server after :=
    fun passed => Method.safe_throw_still_iff.mpr
      ⟨sound.since passed, standing.live.since passed⟩
  have here : Since world world := ⟨rfl, Nat.le_refl _⟩
  have always : Lasting (fun _ => True) := fun _ _ _ _ => trivial
  unfold validateKey
  split
  · exact stands here
  · split
    · exact fails here
    · split
      · apply (CniWorld.frames_query (by simp) _ always).safe_bind trivial
          (fun after passed => sound.since passed)
        · intro verification after passed _
          split
          · exact fails passed
          · split
            · apply Method.safe_modify.mpr
              exact Method.safe_pure_still_iff.mpr
                ⟨sound.since passed, (standing.since passed).forgets _⟩
            · apply (CniWorld.frames_verifyResources _ always).safe trivial
                (fun later further => (sound.since passed).since further)
              intro outcome later further _
              have standingLater := (standing.since passed).since further
              cases outcome with
              | ok value => exact standingLater
              | error reason => exact standingLater.live
        · intro reason after passed
          exact standing.live.since passed
      · exact stands here

theorem validateContinuityLocked_safe (sound : Sound allowed uuid world)
    (live : Live server world) :
    Method.Safe (environment allowed) (Sound allowed uuid)
      (Method.Leads (fun _ => Standing) (fun _ => Live))
      (validateContinuityLocked : CniMethod Route Unit) server world := by
  apply Method.Safe.bind (ready_safe sound live)
  · intro _ reached after _ posted
    obtain ⟨rfl, rfl, standing⟩ := posted
    apply Method.safe_get_bind.mpr
    have always : Lasting (fun _ => True) := fun _ _ _ _ => trivial
    apply (CniWorld.frames_query (by simp) _ always).safe_bind trivial
      (fun later passed => sound.since passed)
    · intro keys later passed _
      apply Method.Safe.each Standing (standing.since passed)
      · intro key _ memory world soundHere standingHere
        apply (validateKey_safe soundHere standingHere).weaken
        intro outcome reached after _ posted
        cases outcome with
        | ok value => exact posted
        | error reason => exact posted
      · intro memory world soundHere standingHere
        exact Method.safe_pure_still_iff.mpr ⟨soundHere, standingHere⟩
      · exact sound.since passed
    · intro reason later passed
      exact live.since passed
  · intro reason reached after _ posted
    obtain ⟨rfl, liveReached⟩ := posted
    exact liveReached

theorem validateExports_safe {endpoints : List Evpn.LocalEndpoint}
    (sound : Sound allowed uuid world) (live : Live server world) :
    Method.Safe (environment allowed) (Sound allowed uuid)
      (Method.Leads (fun _ => Standing) (fun _ => Live))
      (validateRecoveredExportEndpointsLocked endpoints :
        CniMethod Route Unit) server world := by
  apply Method.safe_get_bind.mpr
  apply Method.Safe.refuse_bind
  · intro _
    exact Method.safe_throw_still_iff.mpr ⟨sound, live⟩
  · intro _
    apply Method.Safe.leads_bind (validateContinuityLocked_safe sound live)
    intro _ reached after soundAfter standing
    apply Method.Safe.each Standing standing
    · intro endpoint _ memory world soundHere standingHere
      apply Method.safe_get_bind.mpr
      have always : Lasting (fun _ => True) := fun _ _ _ _ => trivial
      have frames : Frames allowed
          (query (.iterate memory.state.endpoints) >>= fun keys =>
            Method.check (matchEndpoint memory endpoint keys.val) :
            CniMethod Route Unit) :=
        Frames.bind (CniWorld.frames_query (by simp))
          (fun _ => CniWorld.frames_check)
      apply (frames _ always).safe trivial
        (fun later passed => soundHere.since passed)
      intro outcome later passed _
      cases outcome with
      | ok value => exact standingHere.since passed
      | error reason => exact standingHere.live.since passed
    · intro memory world soundHere standingHere
      exact Method.safe_pure_still_iff.mpr ⟨soundHere, standingHere⟩
    · exact soundAfter

theorem desiredLocalEndpoints_ends (sound : Sound allowed uuid world)
    (live : Live server world) :
    Method.Safe (environment allowed) (Sound allowed uuid) Ends
      (desiredLocalEndpoints : CniMethod Route (List Evpn.LocalEndpoint))
      server world := by
  apply Frames.ends_bind (CniWorld.frames_demand (by simp)) sound live
  intro endpoints after passed soundAfter
  apply Method.Safe.leads_bind
    (validateExports_safe soundAfter (live.since passed))
  intro _ reached later soundLater standing
  exact ends_pure soundLater standing.live

theorem continuityRouteAdd_ends {endpointOf : Route → Evpn.LocalEndpoint}
    {route : Route} (sound : Sound allowed uuid world)
    (live : Live server world) :
    Method.Safe (environment allowed) (Sound allowed uuid) Ends
      (continuityRouteAdd endpointOf route) server world := by
  apply Method.Safe.leads_bind (validateExports_safe sound live)
  intro _ reached after soundAfter standing
  exact Frames.ends (CniWorld.frames_demand (by simp)) soundAfter standing.live

end EvpnForOvn.Nodeagent

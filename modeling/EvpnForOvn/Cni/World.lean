import EvpnForOvn.Lib.Query
import EvpnForOvn.Cni.Continuity

/-!
# The world of the node agent

The journal directory holds one record; the world keeps every record that was
ever durable, newest first, the latest reading of the clock and the number of
calls that left the process.  Replies are arbitrary, except that the journal
is a cell and the clock does not go back.  Between two writes of the journal
the methods of the service only ask questions.
-/

namespace EvpnForOvn.Nodeagent

open Interactive Go Ownership

/-- `history` lists the records that have been durable, newest first;
`reached` counts the requests to backends. -/
structure CniWorld where
  history : List (Record CniDocument)
  clock : Nat
  reached : Nat

namespace CniWorld

def disk (world : CniWorld) : Option (Record CniDocument) :=
  world.history.head?

def written (next : Record CniDocument) (world : CniWorld) : CniWorld :=
  { world with history := next :: world.history }

def blank : CniWorld :=
  ⟨[], 0, 0⟩

/-- What the journal directory can answer. -/
def JournalAnswers (before : CniWorld) :
    (request : CellRequest CniDocument) → Except GoError request.Result →
      CniWorld → Prop
  | .load, .ok found, after => found = before.disk ∧ after = before
  | .write _ next, .ok _, after => after = before.written next
  | .write _ next, .error _, after =>
      after = before ∨ after = before.written next
  | _, _, after => after = before

variable {Route : Type}

/-- What each request can answer and change.  `allowed` restricts the readings
of the clock, by what they are for. -/
def Answers (allowed : ClockUse → Nat → Prop) (before : CniWorld) :
    (request : CniRequest Route) → request.Reply → CniWorld → Prop
  | .journal request, reply, after => before.JournalAnswers request reply after
  | .now use, reading, after =>
      before.clock ≤ reading ∧ allowed use reading ∧
        after = { before with clock := reading }
  | .iterate _, _, after => after = before
  | .expired, _, after => after = before
  | _, _, after => after = { before with reached := before.reached + 1 }

def environment (allowed : ClockUse → Nat → Prop) :
    Environment (cniSignature Route) CniWorld :=
  .still (Answers allowed)

/-- Nothing durable has changed, and the clock has not gone back. -/
def Since (before after : CniWorld) : Prop :=
  after.history = before.history ∧ before.clock ≤ after.clock

variable {allowed : ClockUse → Nat → Prop}

theorem undisturbed : Undisturbed
    (environment allowed : Environment (cniSignature Route) CniWorld)
    Since where
  refl := fun _ => ⟨rfl, Nat.le_refl _⟩
  trans := fun first second =>
    ⟨second.1.trans first.1, Nat.le_trans first.2 second.2⟩
  drift := fun moved => moved.elim

/-- A request to a backend leaves the directory and the clock alone. -/
theorem since_of_answers {before after : CniWorld} {request : CniRequest Route}
    {reply : request.Reply} (backend : ∀ cell, request ≠ .journal cell)
    (answered : Answers allowed before request reply after) :
    Since before after := by
  cases request with
  | journal cell => exact absurd rfl (backend cell)
  | now use =>
      obtain ⟨later, _, rfl⟩ := answered
      exact ⟨rfl, later⟩
  | _ =>
      cases answered
      exact ⟨rfl, Nat.le_refl _⟩

theorem cell_holds :
    CellHolds
      (environment allowed : Environment (cniSignature Route) CniWorld)
      cniJournal (fun before after => after = before)
      (fun _ next before after => after = before.written next) disk where
  durable :=
    { refl := fun _ => rfl
      trans := fun first second => second.trans first
      writesAfter := by
        intro _ _ first second third still wrote
        subst still
        exact wrote
      writesThen := by
        intro _ _ first second third wrote still
        subst still
        exact wrote
      lock := by
        intro stable world keeps
        apply Safe.ask_still_iff.mpr
        refine ⟨keeps world rfl, ?_⟩
        intro reply after answered
        have same : after = world := by
          cases reply with
          | error reason => exact answered
          | ok value => exact answered
        subst same
        exact Safe.done_still_iff.mpr ⟨keeps _ rfl, rfl⟩
      write := by
        intro stable writer next world keeps keepsWritten
        apply Safe.ask_still_iff.mpr
        refine ⟨keeps world rfl, ?_⟩
        intro reply after answered
        apply Safe.done_still_iff.mpr
        cases reply with
        | ok value => exact ⟨keepsWritten after answered, answered⟩
        | error reason =>
            refine ⟨?_, answered⟩
            rcases answered with same | wrote
            · exact keeps after same
            · exact keepsWritten after wrote
      release := by
        intro stable world keeps
        apply Safe.ask_still_iff.mpr
        refine ⟨keeps world rfl, ?_⟩
        intro reply after answered
        have same : after = world := by
          cases reply with
          | error reason => exact answered
          | ok value => exact answered
        subst same
        exact Safe.done_still_iff.mpr ⟨keeps _ rfl, rfl⟩
      drift := fun moved => moved.elim }
  kept := by
    intro before after same
    rw [same]
  stored := by
    intro writer next before after wrote
    rw [wrote]
    rfl
  load := by
    intro stable world keeps
    apply Safe.ask_still_iff.mpr
    refine ⟨keeps world rfl, ?_⟩
    intro reply after answered
    apply Safe.done_still_iff.mpr
    cases reply with
    | error reason =>
        have same : after = world := answered
        subst same
        refine ⟨keeps _ rfl, rfl, ?_⟩
        intro found impossible
        cases impossible
    | ok found =>
        obtain ⟨loaded, same⟩ := answered
        subst same
        refine ⟨keeps _ rfl, rfl, ?_⟩
        intro value returned
        cases returned
        exact loaded

section Looking

variable {pre : CniWorld → Prop}

/-- An assertion that questions keep. -/
def Lasting (pre : CniWorld → Prop) : Prop :=
  ∀ before after, pre before → Since before after → pre after

/-- A method that only asks, from one lasting assertion to another. -/
def Looks (allowed : ClockUse → Nat → Prop) (pre : CniWorld → Prop)
    {α : Type} (method : CniMethod Route α) (post : α → CniWorld → Prop) :
    Prop :=
  Method.Queries (environment allowed) Since pre method post

/-- A method that only asks, and keeps every lasting assertion. -/
def Frames (allowed : ClockUse → Nat → Prop) {α : Type}
    (method : CniMethod Route α) : Prop :=
  ∀ pre, Lasting pre → Looks allowed pre method (fun _ => pre)

theorem Looks.bind {α β : Type} {method : CniMethod Route α}
    {continuation : α → CniMethod Route β} {middle : α → CniWorld → Prop}
    {post : β → CniWorld → Prop} (first : Looks allowed pre method middle)
    (second : ∀ value, Looks allowed (middle value) (continuation value)
      post) :
    Looks allowed pre (method >>= continuation) post :=
  Method.Queries.bind undisturbed first second

theorem Frames.bind {α β : Type} {method : CniMethod Route α}
    {continuation : α → CniMethod Route β} (first : Frames allowed method)
    (second : ∀ value, Frames allowed (continuation value)) :
    Frames allowed (method >>= continuation) := by
  intro pre lasting
  exact (first pre lasting).bind (fun value => second value pre lasting)

theorem frames_pure {α : Type} {value : α} :
    Frames allowed (pure value : CniMethod Route α) := by
  intro pre lasting
  apply (Method.Queries.pure undisturbed lasting).weaken (fun _ held => held)
  intro returned world posted
  exact posted.2

theorem frames_throw {α : Type} {reason : GoError} :
    Frames allowed (throw reason : CniMethod Route α) :=
  fun _ _ => Method.Queries.throw undisturbed

theorem frames_check {α : Type} {outcome : Except GoError α} :
    Frames allowed (Method.check outcome : CniMethod Route α) :=
  fun _ lasting => Method.Queries.check undisturbed lasting
    (fun _ _ _ held => held)

theorem frames_refuse {condition : Bool} {reason : GoError} :
    Frames allowed (Method.refuse condition reason : CniMethod Route Unit) := by
  intro pre lasting
  apply (Method.Queries.refuse undisturbed lasting).weaken
    (fun _ held => held)
  intro _ world posted
  exact posted.2

theorem Frames.mapError {α : Type} {change : GoError → GoError}
    {method : CniMethod Route α} (frames : Frames allowed method) :
    Frames allowed (Method.mapError change method) :=
  fun pre lasting => (frames pre lasting).mapError

theorem frames_query {request : CniRequest Route}
    (backend : ∀ cell, request ≠ .journal cell) :
    Frames allowed (query request) := by
  intro pre lasting
  apply Method.Queries.ask undisturbed
  · intro before reply after held answered
    have passed := since_of_answers backend answered
    exact ⟨passed, lasting before after held passed⟩
  · exact lasting
  · intro _ before after held passed
    exact lasting before after held passed

theorem frames_demand {α : Type} {request : CniRequest Route}
    {outcome : request.Reply → Except GoError α}
    (backend : ∀ cell, request ≠ .journal cell) :
    Frames allowed (demand request outcome) :=
  (frames_query backend).bind (fun _ => frames_check)

theorem looks_now {use : ClockUse} {base : Nat} (lasting : Lasting pre)
    (above : ∀ world, pre world → base ≤ world.clock) :
    Looks allowed pre (query (.now use) : CniMethod Route Nat)
      (fun reading world => pre world ∧ base ≤ reading ∧
        reading ≤ world.clock ∧ allowed use reading) := by
  apply Method.Queries.ask undisturbed
  · intro before reading after held answered
    obtain ⟨later, permitted, rfl⟩ := answered
    have passed : Since before { before with clock := reading } :=
      ⟨rfl, later⟩
    exact ⟨passed, lasting _ _ held passed,
      Nat.le_trans (above before held) later, Nat.le_refl _, permitted⟩
  · exact lasting
  · intro reading before after held passed
    obtain ⟨holds, aboveBase, belowClock, permitted⟩ := held
    exact ⟨lasting _ _ holds passed, aboveBase,
      Nat.le_trans belowClock passed.2, permitted⟩

theorem frames_verifyResources {ack : CniEndpointACK} :
    Frames allowed (verifyResources ack : CniMethod Route Unit) := by
  apply Frames.bind (frames_query (by simp))
  intro observation
  cases observation.failure with
  | some failure => exact frames_throw
  | none =>
      apply frames_refuse.bind
      intro _
      apply Frames.bind (frames_query (by simp))
      intro checked
      exact frames_check.bind (fun _ => frames_pure)

theorem frames_verifyAddWorkload {config : CniConfig}
    {workload : WorkloadRef} {runtime : CNIRuntimeContext} :
    Frames allowed (verifyAddWorkload config workload runtime :
      CniMethod Route Verification) := by
  unfold verifyAddWorkload
  split
  · exact frames_query (by simp)
  · exact frames_query (by simp)

theorem frames_admitCreation {request : CNIAddRequest}
    {existing : Option CniEndpointACK} :
    Frames allowed (admitCreation request existing :
      CniMethod Route (Option CNIAdmissionEvidence)) := by
  unfold admitCreation
  split
  · exact frames_demand (by simp)
  · split
    · exact frames_demand (by simp)
    · exact frames_pure

theorem frames_authorizeAdd {config : CniConfig} {request : CNIAddRequest}
    {runtime : CNIRuntimeContext} {workload : WorkloadRef}
    {existing : Option CniEndpointACK} :
    Frames allowed (authorizeAdd config request runtime workload existing :
      CniMethod Route (Option CNIAdmissionEvidence)) := by
  unfold authorizeAdd
  split
  · apply frames_admitCreation.bind
    intro admission
    apply frames_refuse.bind
    intro _
    apply Frames.bind (frames_query (by simp))
    intro verification
    exact frames_check.bind (fun _ => frames_pure)
  · apply frames_verifyAddWorkload.bind
    intro verification
    exact frames_check.bind (fun _ => frames_pure)

theorem frames_replayEvidence {ack : CniEndpointACK}
    {runtime : CNIRuntimeContext} {admission : Option CNIAdmissionEvidence} :
    Frames allowed
      (replayEvidence ack runtime admission : CniMethod Route Unit) := by
  unfold replayEvidence
  split
  · apply Frames.bind (frames_query (by simp))
    intro verification
    exact frames_refuse.bind (fun _ => frames_verifyResources)
  · exact frames_refuse.bind (fun _ => frames_verifyResources)

theorem frames_observeCreated {record : EndpointRecord} {rounds : Nat} :
    Frames allowed
      (observeCreated record rounds : CniMethod Route Observation) := by
  induction rounds with
  | zero => exact frames_throw
  | succ rounds induction =>
      apply Frames.bind (frames_query (by simp))
      intro observation
      cases observation.failure with
      | none => exact frames_pure
      | some failure =>
          cases failure with
          | other reason => exact frames_pure
          | unready =>
              apply Frames.bind (frames_query (by simp))
              intro expired
              exact frames_refuse.bind (fun _ => induction)

theorem frames_requireAbsent {key : String} {record : EndpointRecord}
    {existing : Option CniEndpointACK} :
    Frames allowed
      (requireAbsent key record existing : CniMethod Route Unit) := by
  apply Frames.bind (frames_query (by simp))
  intro observation
  apply frames_refuse.bind
  intro _
  apply frames_refuse.bind
  intro _
  exact frames_demand (by simp)

theorem frames_confirmAdd {config : CniConfig} {request : CNIAddRequest}
    {runtime : CNIRuntimeContext} {workload : WorkloadRef}
    {admission : Option CNIAdmissionEvidence} :
    Frames allowed (confirmAdd config request runtime workload admission :
      CniMethod Route Unit) := by
  have asked : Frames allowed (verifyCreated config workload runtime :
      CniMethod Route Verification) := by
    unfold verifyCreated
    split
    · exact frames_query (by simp)
    · exact frames_verifyAddWorkload
  apply asked.bind
  intro verification
  apply frames_refuse.bind
  intro _
  cases admission with
  | none => exact frames_pure
  | some admission =>
      apply Frames.bind (frames_query (by simp))
      intro second
      cases second with
      | error reason => exact frames_throw
      | ok second => exact frames_refuse

theorem frames_deleteNetwork {config : CniConfig} {key : String}
    {ack : CniEndpointACK} :
    Frames allowed (deleteNetwork config key ack : CniMethod Route Unit) := by
  unfold deleteNetwork
  split
  · exact frames_demand (by simp)
  · exact frames_demand (by simp)

theorem frames_removeResources {config : CniConfig} {key : String}
    {ack : CniEndpointACK} :
    Frames allowed (removeResources config key ack : CniMethod Route Unit) := by
  apply Frames.bind (frames_demand (by simp))
  intro _
  apply frames_deleteNetwork.bind
  intro _
  apply Frames.bind (frames_query (by simp))
  intro observation
  apply frames_check.bind
  intro _
  apply frames_refuse.bind
  intro _
  exact frames_demand (by simp)

theorem frames_checkBackends {config : CniConfig} {key : String}
    {identity : EndpointIdentity} {record : EndpointRecord} :
    Frames allowed (checkBackends config key identity record :
      CniMethod Route CNICheckResponse) := by
  have manager : Frames allowed (checkManager config identity
      record.endpointSpec : CniMethod Route Unit) := by
    unfold checkManager
    split
    · exact frames_demand (by simp)
    · exact frames_demand (by simp)
  have attached : ∀ spec, Frames allowed
      (checkAttached config identity spec : CniMethod Route Unit) := by
    intro spec
    unfold checkAttached
    split
    · exact frames_demand (by simp)
    · exact frames_pure
  apply manager.bind
  intro _
  apply Frames.bind (frames_demand (by simp))
  intro network
  exact (attached _).bind (fun _ => frames_pure)

/-- What `add` knows of the acknowledgement it commits. -/
structure Created (uuid : UuidPackage) (key : String) (ack : CniEndpointACK)
    (world : CniWorld) : Prop where
  valid : validateCNIACK uuid key ack = .ok ()
  fresh : ack.state = .active ∨ ack.state = .pendingCreation
  stamped : ack.createdAt ≤ world.clock

theorem Created.lasting (uuid : UuidPackage) (key : String)
    (ack : CniEndpointACK) : Lasting (Created uuid key ack) :=
  fun _ _ created passed =>
    ⟨created.valid, created.fresh, Nat.le_trans created.stamped passed.2⟩

theorem looks_stampCreation {record : EndpointRecord} {receipt : CniReceipt}
    {admission : Option CNIAdmissionEvidence} :
    Looks allowed (fun _ => True)
      (stampCreation (acknowledgement record receipt .active) admission :
        CniMethod Route CniEndpointACK)
      (fun ack world =>
        (ack.state = .active ∨ ack.state = .pendingCreation) ∧
          ack.createdAt ≤ world.clock) := by
  have always : Lasting (fun _ => True) := fun _ _ _ _ => trivial
  cases admission with
  | none =>
      apply (Method.Queries.pure undisturbed always).weaken
        (fun _ held => held)
      intro ack world returned
      rw [returned.1]
      exact ⟨.inl rfl, Nat.zero_le _⟩
  | some admission =>
      apply Looks.bind (looks_now always (fun world _ => Nat.zero_le _))
      intro createdAt
      have lasting : Lasting (fun world => True ∧ 0 ≤ createdAt ∧
          createdAt ≤ world.clock ∧ allowed .creation createdAt) := by
        intro before after held passed
        exact ⟨trivial, held.2.1, Nat.le_trans held.2.2.1 passed.2,
          held.2.2.2⟩
      apply Looks.bind (frames_refuse _ lasting)
      intro _
      apply (Method.Queries.pure undisturbed lasting).weaken
        (fun _ held => held)
      intro ack world returned
      obtain ⟨rfl, _, _, below, _⟩ := returned
      exact ⟨.inr rfl, below⟩

/-- Between its intent and its commit, ADD has made an acknowledgement that
recovery accepts. -/
theorem looks_createResources {uuid : UuidPackage} {config : CniConfig}
    {key : String} {request : CNIAddRequest} {record : EndpointRecord}
    {runtime : CNIRuntimeContext} {attachment : AttachmentRequest}
    {admission : Option CNIAdmissionEvidence} :
    Looks allowed (fun _ => True)
      (createResources uuid config key request record runtime attachment
        admission : CniMethod Route CniEndpointACK)
      (Created uuid key) := by
  have always : Lasting (fun _ => True) := fun _ _ _ _ => trivial
  apply Looks.bind (frames_demand (by simp) _ always)
  intro network
  apply Looks.bind (frames_demand (by simp) _ always)
  intro _
  apply Looks.bind (frames_observeCreated _ always)
  intro observation
  apply Looks.bind (frames_check _ always)
  intro _
  apply Looks.bind (frames_refuse _ always)
  intro _
  apply looks_stampCreation.bind
  intro ack
  have stamped : Lasting (fun world =>
      (ack.state = .active ∨ ack.state = .pendingCreation) ∧
        ack.createdAt ≤ world.clock) := by
    intro before after held passed
    exact ⟨held.1, Nat.le_trans held.2 passed.2⟩
  have validated : Looks allowed
      (fun world => (ack.state = .active ∨ ack.state = .pendingCreation) ∧
        ack.createdAt ≤ world.clock)
      (Method.check (validateCNIACK uuid key ack) : CniMethod Route Unit)
      (fun _ => Created uuid key ack) := by
    apply Method.Queries.check undisturbed stamped
    intro _ world valid held
    exact ⟨valid, held.1, held.2⟩
  apply validated.bind
  intro _
  have lasting := Created.lasting uuid key ack
  apply Looks.bind (frames_verifyResources _ lasting)
  intro _
  apply Looks.bind (frames_confirmAdd _ lasting)
  intro _
  apply (Method.Queries.pure undisturbed lasting).weaken (fun _ held => held)
  intro returned world posted
  obtain ⟨rfl, created⟩ := posted
  exact created

/-- What `verifyPendingCNI` makes of a pending acknowledgement. -/
inductive Judged (allowed : ClockUse → Nat → Prop) (ack : CniEndpointACK) :
    CniEndpointACK → Prop where
  | activated {reading : Nat} :
      allowed (.activation ack.verifyBy) reading → ack.createdAt ≤ reading →
      Judged allowed ack { ack with state := .active, verifiedAt := reading }
  | quarantined {reason : String} :
      Judged allowed ack { ack with state := .quarantined, reason := reason }

theorem frames_pendingReason {ack : CniEndpointACK}
    {verification : Verification} :
    Frames allowed
      (pendingReason ack verification : CniMethod Route String) := by
  unfold pendingReason
  split
  · exact frames_pure
  · split
    · exact frames_pure
    · apply Frames.bind (frames_query (by simp))
      intro now
      split
      · exact frames_pure
      · split
        · exact frames_throw
        · intro pre lasting
          apply Looks.bind (Method.Queries.attempt undisturbed lasting
            (frames_verifyResources pre lasting))
          intro resources
          cases resources with
          | ok _ => exact frames_pure pre lasting
          | error reason => exact frames_pure pre lasting

theorem frames_deadlineReason {ack : CniEndpointACK} {reason : String} :
    Frames allowed (deadlineReason ack reason : CniMethod Route String) := by
  unfold deadlineReason
  split
  · apply Frames.bind (frames_query (by simp))
    intro now
    split
    · exact frames_pure
    · exact frames_pure
  · exact frames_pure

theorem looks_judgePending {ack : CniEndpointACK} :
    Looks allowed (fun world => ack.createdAt ≤ world.clock)
      (judgePending ack : CniMethod Route CniEndpointACK)
      (fun judged world => Judged allowed ack judged ∧
        ack.createdAt ≤ world.clock) := by
  have lasting : Lasting (fun world => ack.createdAt ≤ world.clock) :=
    fun _ _ held passed => Nat.le_trans held passed.2
  apply Looks.bind (frames_query (by simp) _ lasting)
  intro verification
  apply Looks.bind (frames_pendingReason _ lasting)
  intro first
  apply Looks.bind (frames_deadlineReason _ lasting)
  intro reason
  split
  · apply Looks.bind (looks_now lasting (fun _ held => held))
    intro reading
    have read : Lasting (fun world => ack.createdAt ≤ world.clock ∧
        ack.createdAt ≤ reading ∧ reading ≤ world.clock ∧
        allowed (.activation ack.verifyBy) reading) := by
      intro before after held passed
      exact ⟨lasting _ _ held.1 passed, held.2.1,
        Nat.le_trans held.2.2.1 passed.2, held.2.2.2⟩
    apply (Method.Queries.pure undisturbed read).weaken (fun _ held => held)
    intro judged world returned
    obtain ⟨rfl, below, after, _, permitted⟩ := returned
    exact ⟨.activated permitted after, below⟩
  · apply (Method.Queries.pure undisturbed lasting).weaken
      (fun _ held => held)
    intro judged world returned
    obtain ⟨rfl, below⟩ := returned
    exact ⟨.quarantined, below⟩

end Looking

end CniWorld

end EvpnForOvn.Nodeagent

import EvpnForOvn.Lib.Steady
import EvpnForOvn.Ownership.JournalSpec
import EvpnForOvn.Export.Receipts

/-!
# The rules for export recovery

An observation leads from an opened call to what it has seen.  `Recover` goes
from there to a commit: `Settled` lists the ways in which it can settle the
outstanding operation, with the observations it has made.  A client says what
its speaker and its journal do to the assertions; the rules give the methods
with all their early returns.
-/

namespace EvpnForOvn.Evpn

open Interactive Go Ownership
open Interactive.Method (Leads)

namespace ExportRecovery

section Rules

variable {bgp : BgpPackage} {signature : Signature} {World : Type}
  {environment : Environment signature World} {stable : World → Prop}
  {parts : RecoveryParts bgp signature}

/-- The phases of an observation, from the assertion `opened`. -/
structure Observing (environment : Environment signature World)
    (stable : World → Prop) (parts : RecoveryParts bgp signature)
    (recovery : ExportRecovery) (opened : World → Prop)
    (named : String → World → Prop)
    (read seen : RIBObservation bgp → World → Prop)
    (lost : World → Prop) : Prop where
  steady : Steady environment stable lost
  steadySeen : ∀ value, Steady environment stable (seen value)
  lostOpened : ∀ world, opened world → lost world
  lostNamed : ∀ before world, named before world → lost world
  lostRead : ∀ value world, read value world → lost world
  lostSeen : ∀ value world, seen value world → lost world
  check : ∀ world, opened world → Interactive.Safe environment stable
    (fun _ after => opened after) parts.check world
  name : ∀ world, opened world → Interactive.Safe environment stable
    (fun outcome after => opened after ∧
      ∀ before, outcome = .ok before → named before after)
    parts.incarnation world
  snapshot : ∀ before world, before ≠ "" → named before world →
    Method.Safe environment stable
      (Leads
        (fun paths memory after => memory = recovery ∧
          read ⟨before, paths⟩ after)
        (fun _ memory after => memory = recovery ∧ lost after))
      parts.source.snapshot recovery world
  recheck : ∀ value world, read value world →
    Interactive.Safe environment stable (fun _ after => read value after)
      parts.check world
  rename : ∀ value world, read value world →
    Interactive.Safe environment stable
      (fun outcome after => read value after ∧
        (outcome = .ok value.incarnation → seen value after))
      parts.incarnation world

/-- A request that reports in other words when it fails. -/
theorem named_call_bind {α β : Type} {recovery : ExportRecovery}
    {world : World} {program : Program signature (Except GoError α)}
    {middle : Except GoError α → World → Prop} {change : GoError → GoError}
    {next : β → ExportRecovery → World → Prop}
    {fails : GoError → ExportRecovery → World → Prop}
    {continuation : α → Method signature GoError ExportRecovery β}
    (safe : Interactive.Safe environment stable middle program world)
    (continues : ∀ value after, middle (.ok value) after →
      Method.Safe environment stable (Leads next fails)
        (continuation value) recovery after)
    (failed : ∀ reason after, middle (.error reason) after →
      fails (change reason) recovery after) :
    Method.Safe environment stable (Leads next fails)
      (Method.mapError change (Method.call program) >>= continuation)
      recovery world := by
  have called : Method.Safe environment stable
      (fun outcome reached after => reached = recovery ∧
        middle outcome after) (Method.call program) recovery world :=
    Method.Safe.call
      (safe.weaken (fun outcome after _ posted => ⟨rfl, posted⟩))
  apply Method.Safe.mapError_bind called
  · intro value reached after _ posted
    obtain ⟨rfl, posted⟩ := posted
    exact continues value after posted
  · intro reason reached after _ posted
    obtain ⟨rfl, posted⟩ := posted
    exact failed reason after posted

theorem Observing.observation_safe {recovery : ExportRecovery}
    {world : World} {opened lost : World → Prop}
    {named : String → World → Prop}
    {read seen : RIBObservation bgp → World → Prop}
    (observing : Observing environment stable parts recovery opened named
      read seen lost) (here : opened world) :
    Method.Safe environment stable
      (Leads (fun value memory after => memory = recovery ∧ seen value after)
        (fun _ memory after => memory = recovery ∧ lost after))
      (observation parts) recovery world := by
  have fails : ∀ (reason : GoError) {after : World}, lost after →
      Method.Safe environment stable
        (Leads
          (fun (value : RIBObservation bgp) memory after =>
            memory = recovery ∧ seen value after)
          (fun (_ : GoError) memory after => memory = recovery ∧ lost after))
        (throw reason) recovery after := by
    intro reason after there
    exact Method.Safe.leads_throw observing.steady there
      (fun _ further => ⟨rfl, further⟩)
  apply named_call_bind (observing.check world here)
  · intro _ first opened
    apply named_call_bind (observing.name first opened)
    · intro before second posted
      have named := posted.2 before rfl
      apply Method.Safe.refuse_bind
        (fun _ => fails _ (observing.lostNamed before second named))
      intro nonempty
      apply Method.Safe.leads_bind
        (observing.snapshot before second (by simpa using nonempty)
          named).leads_mapError
      intro paths memory third _ posted
      obtain ⟨rfl, read⟩ := posted
      apply named_call_bind (observing.recheck _ third read)
      · intro _ fourth read
        apply named_call_bind (observing.rename _ fourth read)
        · intro after fifth posted
          apply Method.Safe.refuse_bind
            (fun _ => fails _ (observing.lostRead _ fifth posted.1))
          intro same
          have sameName : before = after := by simpa using same
          have seen := posted.2 (by rw [sameName])
          apply Method.Safe.check_bind
            (fun reason _ => fails reason (observing.lostSeen _ fifth seen))
          intro _ _
          exact Method.Safe.leads_pure (observing.steadySeen _) seen
            (fun _ further => ⟨rfl, further⟩)
        · intro reason fifth posted
          exact ⟨rfl, observing.lostRead _ fifth posted.1⟩
      · intro reason fourth read
        exact ⟨rfl, observing.lostRead _ fourth read⟩
    · intro reason second posted
      exact ⟨rfl, observing.lostOpened second posted.1⟩
  · intro reason first opened
    exact ⟨rfl, observing.lostOpened first opened⟩

/-- The memory of a recovery whose journal has refused a call. -/
def Refused (recovery reached : ExportRecovery) : Prop :=
  reached.state = recovery.state ∧
    Journal.SameButBlocked recovery.journal reached.journal

/-- The memory of a recovery whose journal no longer knows its disk. -/
def Torn (recovery reached : ExportRecovery) : Prop :=
  reached.state = recovery.state ∧ reached.journal.blocked.isSome = true

def recorded (record : Record ExportDocument) (recovery : ExportRecovery) :
    ExportRecovery :=
  { recovery with journal := { recovery.journal with record := record } }

section Journal

variable {quiet : World → World → Prop}
  {writes : Writer → Record ExportDocument → World → World → Prop}
  {recovery : ExportRecovery} {world : World} {document : ExportDocument}

theorem drift_quiet (durable : parts.store.Durable environment quiet writes)
    {later : World} (moved : environment.Drift world later) :
    quiet world later := by
  induction moved with
  | refl => exact durable.refl world
  | tail _ step induction =>
      exact durable.trans induction (durable.drift step)

theorem snapshot_leads
    (durable : parts.store.Durable environment quiet writes)
    (keeps : ∀ after, quiet world after → stable after) :
    Method.Safe environment stable
      (Leads
        (fun value reached after => quiet world after ∧ reached = recovery ∧
          Journal.Usable recovery.journal ∧
          value.2 = recovery.journal.record.pending)
        (fun _ reached after => quiet world after ∧
          Refused recovery reached))
      (onJournal (Journal.snapshot parts.store)) recovery world := by
  apply Method.Safe.onPart
  apply (Journal.snapshot_safe durable keeps).weaken
  intro outcome reached after _ posted
  cases outcome with
  | ok value =>
      obtain ⟨still, usable, rfl, rfl⟩ := posted
      exact ⟨still, rfl, usable, rfl⟩
  | error reason => exact ⟨posted.1, rfl, posted.2⟩

theorem replaced_leads {α : Type} {writer : Writer}
    {next : ExportDocument → Record ExportDocument} {ready : Prop} {value : α}
    {method : Method signature GoError (Journal ExportDocument) α}
    (safe : Method.Safe environment stable
      (Journal.Replaced quiet writes writer next (.ok document) ready
        recovery.journal world value) method recovery.journal world) :
    Method.Safe environment stable
      (Leads
        (fun result reached after => ready ∧ result = value ∧
          reached = recorded (next document) recovery ∧
          writes writer (next document) world after)
        (fun _ reached after =>
          Refused recovery reached ∧ quiet world after ∨
          Torn recovery reached ∧ stable after))
      (onJournal method) recovery world := by
  apply Method.Safe.onPart
  apply safe.weaken
  intro outcome reached after stableAfter posted
  rcases posted with unchanged | wrote
  · obtain ⟨⟨reason, rfl⟩, still, same⟩ := unchanged
    exact .inl ⟨⟨rfl, same⟩, still⟩
  · obtain ⟨data, same, ready, wrote⟩ := wrote
    cases same
    cases wrote with
    | torn _ _ _ blocked => exact .inr ⟨⟨rfl, blocked⟩, stableAfter⟩
    | written wrote => exact ⟨ready, rfl, rfl, wrote⟩

theorem begin_leads {operation : String}
    (durable : parts.store.Durable environment quiet writes)
    (keeps : ∀ after, quiet world after → stable after)
    (keepsWritten : Journal.Beginnable recovery.journal operation →
      ∀ after, writes .beginning
        (Journal.begun recovery.journal.record operation document) world
        after → stable after) :
    Method.Safe environment stable
      (Leads
        (fun sequence reached after =>
          Journal.Beginnable recovery.journal operation ∧
          sequence = recovery.journal.record.sequence + 1 ∧
          reached = recorded (Journal.begun recovery.journal.record operation
            document) recovery ∧
          writes .beginning (Journal.begun recovery.journal.record operation
            document) world after)
        (fun _ reached after =>
          Refused recovery reached ∧ quiet world after ∨
          Torn recovery reached ∧ stable after))
      (onJournal (Journal.begin parts.store operation (.ok document)))
      recovery world :=
  replaced_leads (Journal.begin_safe durable keeps
    (fun ready _ same => Except.ok.inj same ▸ keepsWritten ready))

theorem commit_leads {sequence : Nat}
    (durable : parts.store.Durable environment quiet writes)
    (keeps : ∀ after, quiet world after → stable after)
    (keepsWritten : Journal.Committable recovery.journal sequence →
      ∀ after, writes (.committing sequence)
        (Journal.committed recovery.journal.record document) world after →
      stable after) :
    Method.Safe environment stable
      (Leads
        (fun result reached after =>
          Journal.Committable recovery.journal sequence ∧ result = () ∧
          reached = recorded (Journal.committed recovery.journal.record
            document) recovery ∧
          writes (.committing sequence) (Journal.committed
            recovery.journal.record document) world after)
        (fun _ reached after =>
          Refused recovery reached ∧ quiet world after ∨
          Torn recovery reached ∧ stable after))
      (onJournal (Journal.commit parts.store sequence (.ok document)))
      recovery world :=
  replaced_leads (Journal.commit_safe durable keeps
    (fun ready _ same => Except.ok.inj same ▸ keepsWritten ready))

end Journal

/-- The record that announces a checkpoint. -/
def checkpointed (record : Record ExportDocument)
    (next : ExportRecoveryState) : Record ExportDocument :=
  Journal.begun record "export-checkpoint" (.state next)

/-- How the outstanding operation was settled: the observations after the
first one, and the state to commit. -/
inductive Settled (bgp : BgpPackage) (state : ExportRecoveryState)
    (first : RIBObservation bgp) (retained : List ExportReceipt) :
    Option (Intent ExportDocument) → List (RIBObservation bgp) →
      ExportRecoveryState → Prop where
  | idle :
      Settled bgp state first retained none []
        (recoveredState first.incarnation retained)
  | checkpoint {pending : Intent ExportDocument} :
      pending.operation = "export-checkpoint" →
      Settled bgp state first retained (some pending) []
        (recoveredState first.incarnation retained)
  | added {pending : Intent ExportDocument} {intent : ExportIntent} :
      pending.operation = "export-add" →
      readIntent bgp pending.payload = .ok intent →
      matchingExportPaths bgp first.paths intent.route = [] →
      Settled bgp state first retained (some pending) []
        (recoveredState first.incarnation retained)
  | deleted {pending : Intent ExportDocument} {intent : ExportIntent}
      {receipt : ExportReceipt} {later : List (RIBObservation bgp)} :
      pending.operation = "export-delete" →
      readIntent bgp pending.payload = .ok intent →
      receipt ∈ state.receipts →
      receipt.owned.pathUUID = intent.route.owned.pathUUID →
      sameExportPayload receipt intent.route = true →
      (matchingExportPaths bgp first.paths intent.route = [] ∧ later = [] ∨
        ∃ last, later = [last] ∧ last.incarnation = first.incarnation ∧
          matchingExportPaths bgp first.paths intent.route ≠ [] ∧
          matchingExportPaths bgp last.paths intent.route = []) →
      Settled bgp state first retained (some pending) later
        { recoveredState first.incarnation retained with
          receipts := withoutExportReceipt retained
            intent.route.owned.pathUUID
          allocated := true }

/-- A call of `Recover` on `recovery`.  `known` is indexed by the observations
made so far, and `ended` relates the committed state to the memory and the
world. -/
structure Recovering (environment : Environment signature World)
    (stable : World → Prop) (parts : RecoveryParts bgp signature)
    (quiet : World → World → Prop)
    (writes : Writer → Record ExportDocument → World → World → Prop)
    (recovery : ExportRecovery) (opened : World → Prop)
    (known : List (RIBObservation bgp) → World → Prop)
    (withdrawn : RIBObservation bgp → ExportIntent → World → Prop)
    (ended : List (RIBObservation bgp) → ExportRecoveryState →
      ExportRecovery → World → Prop)
    (lost : ExportRecovery → World → Prop) : Prop where
  durable : parts.store.Durable environment quiet writes
  observe : ∀ world, opened world → Method.Safe environment stable
    (Leads (fun value memory after => memory = recovery ∧ known [value] after)
      (fun _ => lost))
    (observation parts) recovery world
  quietly : ∀ made before after, known made before → quiet before after →
    known made after
  holds : ∀ made world, known made world → stable world
  refused : ∀ made world reached, known made world →
    Refused recovery reached → lost reached world
  withdraw : ∀ first intent pending world, known [first] world →
    Journal.Usable recovery.journal →
    recovery.journal.record.pending = some pending →
    pending.operation = "export-delete" →
    readIntent bgp pending.payload = .ok intent →
    (∃ receipt ∈ recovery.state.receipts,
      receipt.owned.pathUUID = intent.route.owned.pathUUID ∧
        sameExportPayload receipt intent.route = true) →
    Method.Safe environment stable
      (Leads
        (fun _ memory after => memory = recovery ∧
          withdrawn first intent after)
        (fun _ => lost))
      (parts.applier.delete intent.route.owned) recovery world
  verify : ∀ first intent world, withdrawn first intent world →
    Method.Safe environment stable
      (Leads
        (fun last memory after => memory = recovery ∧
          known [first, last] after)
        (fun _ => lost))
      (observation parts) recovery world
  torn : ∀ reached world, stable world → Torn recovery reached →
    lost reached world
  unchanged : ∀ first retained world, known [first] world →
    Journal.Usable recovery.journal →
    recovery.journal.record.pending = none →
    retainReceipts bgp first recovery.state.receipts = .ok retained →
    recovery.state = recoveredState first.incarnation retained →
    ended [first] recovery.state recovery world
  checkpoint : ∀ first retained world, known [first] world →
    Journal.Usable recovery.journal →
    recovery.journal.record.pending = none →
    retainReceipts bgp first recovery.state.receipts = .ok retained →
    ∀ after, writes .beginning
      (checkpointed recovery.journal.record
        (recoveredState first.incarnation retained)) world after →
    stable after ∧
      (∀ reached, Refused
        (recorded (checkpointed recovery.journal.record
          (recoveredState first.incarnation retained)) recovery) reached →
        lost reached after) ∧
      ∀ last, writes (.committing (recovery.journal.record.sequence + 1))
        (Journal.committed
          (checkpointed recovery.journal.record
            (recoveredState first.incarnation retained))
          (.state (recoveredState first.incarnation retained))) after last →
      stable last ∧
        ended [first] (recoveredState first.incarnation retained)
          (recorded (Journal.committed
            (checkpointed recovery.journal.record
              (recoveredState first.incarnation retained))
            (.state (recoveredState first.incarnation retained))) recovery)
          last
  commit : ∀ first later retained pending next world,
    known (first :: later) world → Journal.Usable recovery.journal →
    recovery.journal.record.pending = some pending →
    retainReceipts bgp first recovery.state.receipts = .ok retained →
    Settled bgp recovery.state first retained (some pending) later next →
    ∀ after, writes (.committing pending.sequence)
      (Journal.committed recovery.journal.record (.state next)) world after →
    stable after ∧ ended (first :: later) next
      (recorded (Journal.committed recovery.journal.record (.state next))
        recovery) after

/-- The memory after a successful `Recover`. -/
def Ended (recovery : ExportRecovery)
    (ended : List (RIBObservation bgp) → ExportRecoveryState →
      ExportRecovery → World → Prop)
    (first : RIBObservation bgp) (retained : List ExportReceipt)
    (next : ExportRecoveryState) (reached : ExportRecovery)
    (world : World) : Prop :=
  ∃ later, Settled bgp recovery.state first retained
      recovery.journal.record.pending later next ∧
    ended (first :: later) next reached world ∧
    reached.state = recovery.state ∧ Journal.Usable reached.journal ∧
    reached.journal.record.pending = none ∧
    (reached.journal.record.state = .state next ∨
      reached.journal.record = recovery.journal.record ∧
        next = recovery.state)

namespace Recovering

variable {quiet : World → World → Prop}
  {writes : Writer → Record ExportDocument → World → World → Prop}
  {recovery : ExportRecovery} {opened : World → Prop}
  {known : List (RIBObservation bgp) → World → Prop}
  {withdrawn : RIBObservation bgp → ExportIntent → World → Prop}
  {ended : List (RIBObservation bgp) → ExportRecoveryState →
    ExportRecovery → World → Prop}
  {lost : ExportRecovery → World → Prop}
  (recovering : Recovering environment stable parts quiet writes recovery
    opened known withdrawn ended lost)

include recovering

theorem steady (made : List (RIBObservation bgp)) :
    Steady environment stable (known made) where
  drift := fun before after here moved =>
    recovering.quietly made before after here
      (recovering.durable.drift moved)
  holds := recovering.holds made

theorem keeps {made : List (RIBObservation bgp)} {world : World}
    (here : known made world) :
    ∀ after, quiet world after → stable after := by
  intro after still
  exact recovering.holds made after
    (recovering.quietly made world after here still)

theorem lost_of_known {made : List (RIBObservation bgp)} {world : World}
    (here : known made world) : lost recovery world :=
  recovering.refused made world recovery here ⟨rfl, .refl _⟩

theorem throws {α : Type} {made : List (RIBObservation bgp)} {world : World}
    {next : α → ExportRecovery → World → Prop} (here : known made world)
    (reason : GoError) :
    Method.Safe environment stable
      (Leads next fun (_ : GoError) => lost) (throw reason) recovery world :=
  Method.Safe.leads_throw (recovering.steady made) here
    (fun _ there => recovering.lost_of_known there)

theorem discharge_safe {first : RIBObservation bgp}
    {retained : List ExportReceipt} {pending : Intent ExportDocument}
    {intent : ExportIntent} {world : World} (here : known [first] world)
    (usable : Journal.Usable recovery.journal)
    (outstanding : recovery.journal.record.pending = some pending)
    (accepted : readIntent bgp pending.payload = .ok intent) :
    Method.Safe environment stable
      (Leads
        (fun next memory after => memory = recovery ∧ ∃ later,
          known (first :: later) after ∧
          Settled bgp recovery.state first retained (some pending) later
            next)
        (fun _ => lost))
      (discharge parts first recovery.state
        (recoveredState first.incarnation retained) pending.operation intent)
      recovery world := by
  unfold discharge
  by_cases adding : pending.operation = "export-add"
  · rw [if_pos adding]
    apply Method.Safe.refuse_bind (fun _ => recovering.throws here _)
    intro passed
    have absent : matchingExportPaths bgp first.paths intent.route = [] := by
      simp only [Bool.or_eq_false_iff, Bool.not_eq_false'] at passed
      exact List.isEmpty_iff.mp passed.2
    exact Method.Safe.leads_pure (recovering.steady [first]) here
      (fun _ there => ⟨rfl, [], there, .added adding accepted absent⟩)
  · rw [if_neg adding]
    by_cases deleting : pending.operation = "export-delete"
    · rw [if_pos deleting]
      apply Method.Safe.refuse_bind (fun _ => recovering.throws here _)
      intro passed
      have owned : ∃ receipt ∈ recovery.state.receipts,
          receipt.owned.pathUUID = intent.route.owned.pathUUID ∧
            sameExportPayload receipt intent.route = true := by
        simpa using passed
      obtain ⟨receipt, member, sameID, samePayload⟩ := owned
      unfold finishDelete
      by_cases absent :
          (matchingExportPaths bgp first.paths intent.route).isEmpty = true
      · rw [if_pos absent]
        exact Method.Safe.leads_pure (recovering.steady [first]) here
          (fun _ there => ⟨rfl, [], there, .deleted deleting accepted member
            sameID samePayload (.inl ⟨List.isEmpty_iff.mp absent, rfl⟩)⟩)
      · rw [if_neg absent]
        have present :
            matchingExportPaths bgp first.paths intent.route ≠ [] := by
          intro empty
          exact absent (List.isEmpty_iff.mpr empty)
        apply Method.safe_bind_assoc.mpr
        apply Method.Safe.refuse_bind (fun _ => recovering.throws here _)
        intro _
        apply Method.safe_bind_assoc.mpr
        apply Method.Safe.leads_bind
          (recovering.withdraw first intent pending world here usable
            outstanding deleting accepted
            ⟨receipt, member, sameID, samePayload⟩).leads_mapError
        intro _ memory after _ posted
        obtain ⟨rfl, gone⟩ := posted
        apply Method.safe_bind_assoc.mpr
        apply Method.Safe.leads_bind
          (recovering.verify first intent after gone).leads_mapError
        intro last reached later _ posted
        obtain ⟨rfl, there⟩ := posted
        apply Method.Safe.refuse_bind (fun _ => recovering.throws there _)
        intro passed
        simp only [Bool.or_eq_false_iff, bne_eq_false_iff_eq,
          Bool.not_eq_false'] at passed
        exact Method.Safe.leads_pure (recovering.steady [first, last]) there
          (fun _ further => ⟨rfl, [last], further, .deleted deleting
            accepted member sameID samePayload (.inr ⟨last, rfl, passed.1,
              present, List.isEmpty_iff.mp passed.2⟩)⟩)
    · rw [if_neg deleting]
      exact recovering.throws here _

theorem commit_safe {first : RIBObservation bgp}
    {later : List (RIBObservation bgp)} {retained : List ExportReceipt}
    {pending : Intent ExportDocument} {next : ExportRecoveryState}
    {world : World} (here : known (first :: later) world)
    (usable : Journal.Usable recovery.journal)
    (outstanding : recovery.journal.record.pending = some pending)
    (retainedEq :
      retainReceipts bgp first recovery.state.receipts = .ok retained)
    (settled : Settled bgp recovery.state first retained (some pending) later
      next) :
    Method.Safe environment stable
      (Leads (fun value => Ended recovery ended first retained value)
        (fun _ => lost))
      (onJournal (Journal.commit parts.store pending.sequence
        (.ok (.state next))) >>= fun _ => pure next) recovery world := by
  have written := recovering.commit first later retained pending next world
    here usable outstanding retainedEq settled
  apply Method.Safe.bind (commit_leads recovering.durable
    (recovering.keeps here) (fun _ after wrote => (written after wrote).1))
  · intro _ reached after _ posted
    obtain ⟨_, _, rfl, wrote⟩ := posted
    intro last moved
    have wroteLast := recovering.durable.writesThen wrote
      (drift_quiet recovering.durable moved)
    obtain ⟨stableLast, endedLast⟩ := written last wroteLast
    exact ⟨stableLast, later, by rw [outstanding]; exact settled, endedLast,
      rfl, usable, rfl, .inl rfl⟩
  · intro reason reached after _ posted
    rcases posted with ⟨refused, still⟩ | ⟨torn, stableAfter⟩
    · exact recovering.refused _ after reached
        (recovering.quietly _ world after here still) refused
    · exact recovering.torn reached after stableAfter torn

theorem checkpoint_safe {first : RIBObservation bgp}
    {retained : List ExportReceipt} {world : World}
    (here : known [first] world) (usable : Journal.Usable recovery.journal)
    (idle : recovery.journal.record.pending = none)
    (retainedEq :
      retainReceipts bgp first recovery.state.receipts = .ok retained) :
    Method.Safe environment stable
      (Leads (fun value => Ended recovery ended first retained value)
        (fun _ => lost))
      (do
        let sequence ← onJournal (Journal.begin parts.store
          "export-checkpoint"
          (.ok (.state (recoveredState first.incarnation retained))))
        onJournal (Journal.commit parts.store sequence
          (.ok (.state (recoveredState first.incarnation retained))))
        return recoveredState first.incarnation retained)
      recovery world := by
  have announced := recovering.checkpoint first retained world here usable
    idle retainedEq
  apply Method.Safe.bind (begin_leads recovering.durable
    (recovering.keeps here) (fun _ after wrote => (announced after wrote).1))
  · intro sequence reached after _ posted
    obtain ⟨_, rfl, rfl, wrote⟩ := posted
    have quietly : ∀ later, quiet after later → stable later := by
      intro later still
      exact (announced later (recovering.durable.writesThen wrote still)).1
    apply Method.Safe.bind (commit_leads recovering.durable quietly
      (fun _ last wroteLast =>
        ((announced after wrote).2.2 last wroteLast).1))
    · intro _ committed last _ posted
      obtain ⟨_, _, rfl, wroteLast⟩ := posted
      intro finish moved
      have wroteFinish := recovering.durable.writesThen wroteLast
        (drift_quiet recovering.durable moved)
      obtain ⟨stableFinish, endedFinish⟩ :=
        (announced after wrote).2.2 finish wroteFinish
      exact ⟨stableFinish, [], by rw [idle]; exact .idle, endedFinish, rfl,
        usable, rfl, .inl rfl⟩
    · intro reason committed last _ posted
      rcases posted with ⟨refused, still⟩ | ⟨torn, stableLast⟩
      · exact (announced last
          (recovering.durable.writesThen wrote still)).2.1 committed refused
      · exact recovering.torn committed last stableLast torn
  · intro reason reached after _ posted
    rcases posted with ⟨refused, still⟩ | ⟨torn, stableAfter⟩
    · exact recovering.refused _ after reached
        (recovering.quietly _ world after here still) refused
    · exact recovering.torn reached after stableAfter torn

theorem resolve_safe {first : RIBObservation bgp}
    {retained : List ExportReceipt} {world : World}
    (here : known [first] world) (usable : Journal.Usable recovery.journal)
    (retainedEq :
      retainReceipts bgp first recovery.state.receipts = .ok retained) :
    Method.Safe environment stable
      (Leads (fun value => Ended recovery ended first retained value)
        (fun _ => lost))
      (resolve parts first recovery.state
        (recoveredState first.incarnation retained)
        recovery.journal.record.pending) recovery world := by
  cases outstanding : recovery.journal.record.pending with
  | none =>
      unfold resolve
      dsimp only
      by_cases same : recovery.state =
          recoveredState first.incarnation retained
      · rw [if_pos same]
        refine Method.Safe.leads_pure (recovering.steady [first]) here
          (fun after there => ?_)
        have endedAfter := recovering.unchanged first retained after there
          usable outstanding retainedEq same
        rw [← same]
        refine ⟨[], ?_, endedAfter, rfl, usable, outstanding,
          .inr ⟨rfl, rfl⟩⟩
        rw [outstanding, same]
        exact .idle
      · rw [if_neg same]
        exact recovering.checkpoint_safe here usable outstanding retainedEq
  | some pending =>
      unfold resolve
      dsimp only
      by_cases marked : pending.operation = "export-checkpoint"
      · rw [if_pos marked]
        apply Method.Safe.check_bind
          (fun reason _ => recovering.throws here reason)
        intro _ _
        exact recovering.commit_safe here usable outstanding retainedEq
          (.checkpoint marked)
      · rw [if_neg marked]
        apply Method.Safe.check_bind
          (fun reason _ => recovering.throws here reason)
        intro intent accepted
        apply Method.Safe.leads_bind (recovering.discharge_safe here usable
          outstanding accepted)
        intro next memory after _ posted
        obtain ⟨rfl, later, there, settled⟩ := posted
        exact recovering.commit_safe there usable outstanding retainedEq
          settled

theorem recover_safe {world : World} (here : opened world) :
    Method.Safe environment stable
      (Leads
        (fun owned reached after => ∃ first retained next committed,
          retainReceipts bgp first recovery.state.receipts = .ok retained ∧
          Ended recovery ended first retained next committed after ∧
          owned = receipts next ∧
          reached = { committed with state := next })
        (fun _ => lost))
      (recover parts) recovery world := by
  apply Method.Safe.leads_bind (recovering.observe world here)
  intro first memory after _ posted
  obtain ⟨rfl, there⟩ := posted
  apply Method.Safe.bind
    (snapshot_leads recovering.durable (recovering.keeps there))
  · intro durable reached second _ posted
    obtain ⟨still, rfl, usable, pendingEq⟩ := posted
    have here := recovering.quietly _ after second there still
    apply Method.safe_get_bind.mpr
    apply Method.Safe.check_bind
      (fun reason _ => recovering.throws here reason)
    intro retained retainedEq
    rw [pendingEq]
    apply Method.Safe.bind_settled
      (recovering.resolve_safe here usable retainedEq)
    · intro next committed third settled
      apply Method.safe_modify_bind.mpr
      intro later moved
      obtain ⟨stableLater, posted⟩ := settled later moved
      exact ⟨stableLater, first, retained, next, committed, retainedEq,
        posted, rfl, rfl⟩
    · intro reason committed third _ posted
      exact posted
  · intro reason reached second _ posted
    exact recovering.refused _ second reached
      (recovering.quietly _ after second there posted.1) posted.2

end Recovering

end Rules

end ExportRecovery

end EvpnForOvn.Evpn

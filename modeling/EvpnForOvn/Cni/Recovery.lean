import EvpnForOvn.Cni.Operations

/-!
# Recovery and whole runs

A process that starts finds the record some earlier process left.  Recovery
refuses an outstanding creation or removal, abandons an outstanding activation,
and restores the endpoints of the record as they were last committed.  With it
the invariant holds at every point of every run, whatever is killed when.
-/

namespace EvpnForOvn.Nodeagent

open Interactive Go Ownership
open Evpn.LocalEndpoint (refuse_eq_ok)
open CniWorld (environment Since Frames Lasting)

variable {Route : Type} {allowed : ClockUse → Nat → Prop}
  {uuid : UuidPackage} {config : CniConfig} {world : CniWorld}
  {server : CNIServer} {record : Record CniDocument}

theorem recoveredState_eq {clock : Nat}
    (settled : Settled allowed uuid clock record) :
    recoveredState record.state = .ok ⟨1, durableEndpoints record⟩ := by
  unfold durableEndpoints
  rcases settled.stated with null | ⟨endpoints, stated⟩
  · rw [null]
    rfl
  · rw [stated]
    rfl

theorem checkIdentityIntent_eq_ok {endpoints : GoMap CniEndpointACK}
    {intent : Intent CniDocument} (intended : Intended endpoints intent)
    (identity : intent.operation = "cni-identity") :
    checkIdentityIntent ⟨1, endpoints⟩ intent.payload = .ok () := by
  cases intended with
  | adding =>
      have different : "cni-add" ≠ "cni-identity" := by decide
      exact absurd identity different
  | deleting =>
      have different : "cni-del" ≠ "cni-identity" := by decide
      exact absurd identity different
  | @judging sequence ack previous found pending same =>
      unfold checkIdentityIntent
      refine bind_eq_ok.mpr ⟨ack, rfl, ?_⟩
      dsimp only
      rw [found]
      apply refuse_eq_ok.mpr
      unfold SameCreation at same
      simp only [pending, bne_self_eq_false, Bool.false_or,
        bne_eq_false_iff_eq]
      rw [pending] at same
      exact same

/-- A server that is being recovered from a record. -/
structure Recovering (record : Record CniDocument) (server : CNIServer)
    (world : CniWorld) : Prop where
  standing : Standing server world
  endpoints : server.state.endpoints = durableEndpoints record

theorem resolveIntent_safe {journal : Journal CniDocument}
    (sound : Sound allowed uuid world) (usable : Journal.Usable journal)
    (disk : world.disk = some journal.record) :
    Method.Safe (environment allowed) (Sound allowed uuid)
      (Method.Leads
        (fun _ reached after =>
          Recovering journal.record reached after ∧
          ∀ intent, journal.record.pending = some intent →
            intent.operation = "cni-identity")
        (fun _ _ _ => True))
      (resolveIntent ⟨1, durableEndpoints journal.record⟩
        journal.record.pending : CniMethod Route Unit)
      { newServer journal with
        state := ⟨1, durableEndpoints journal.record⟩ } world := by
  have settled := sound.onDisk disk
  have nothingStored : ∀ key stored,
      (GoMap.empty : GoMap EndpointRecord).get key = some stored → False := by
    intro key stored member
    rw [GoMap.get_empty] at member
    cases member
  cases outstanding : journal.record.pending with
  | none =>
      apply Method.safe_pure_still_iff.mpr
      refine ⟨sound, ⟨⟨usable, disk, outstanding, rfl, rfl, ?_⟩, rfl⟩, ?_⟩
      · intro key stored member
        exact (nothingStored key stored member).elim
      · intro intent impossible
        cases impossible
  | some intent =>
      apply Method.Safe.refuse_bind
      · intro _
        exact Method.safe_throw_still_iff.mpr ⟨sound, trivial⟩
      · intro identified
        have identity : intent.operation = "cni-identity" := by
          simpa using identified
        apply Method.Safe.check_bind
        · intro reason _
          exact Method.safe_throw_still_iff.mpr ⟨sound, trivial⟩
        · intro _ _
          have pendingServer : ({ newServer journal with
              state := ⟨1, durableEndpoints journal.record⟩ } :
                CNIServer).journal.record.pending ≠ none := by
            show journal.record.pending ≠ none
            rw [outstanding]
            simp
          apply (commit_live sound disk pendingServer
            (sound.recommitted disk rfl)).weaken
          intro outcome reached after _ posted
          cases outcome with
          | error reason => trivial
          | ok value =>
              obtain ⟨rfl, rfl⟩ := posted
              refine ⟨⟨⟨usable, rfl, rfl, rfl, rfl, ?_⟩, rfl⟩, ?_⟩
              · intro key stored member
                exact (nothingStored key stored member).elim
              · intro other same
                cases same
                exact identity

theorem Standing.restores {key : String} {stored : EndpointRecord}
    (standing : Standing server world)
    (present : durableState server.journal.record key = some .active ∨
      durableState server.journal.record key = some .pendingCreation) :
    Standing { server with store := server.store.set key stored } world := by
  refine ⟨standing.usable, standing.disk, standing.noPending,
    standing.mirrors.version, standing.mirrors.endpoints, ?_⟩
  intro other found member
  change (server.store.set key stored).get other = some found at member
  rw [GoMap.get_set] at member
  split at member
  · rename_i same
    rw [same]
    exact present
  · exact standing.mirrors.stored other found member

theorem restoreRecord_safe {key : String} {ack : CniEndpointACK}
    (sound : Sound allowed uuid world)
    (recovering : Recovering record server world)
    (present : durableState server.journal.record key = some .active ∨
      durableState server.journal.record key = some .pendingCreation) :
    Method.Safe (environment allowed) (Sound allowed uuid)
      (Method.Leads (fun _ => Recovering record) (fun _ _ _ => True))
      (restoreRecord key ack : CniMethod Route Unit) server world := by
  have always : Lasting (fun _ => True) := fun _ _ _ _ => trivial
  apply (CniWorld.frames_verifyResources _ always).safe_bind trivial
    (fun after passed => sound.since passed)
  · intro _ after passed _
    apply Method.safe_modify.mpr
    apply Method.safe_pure_still_iff.mpr
    exact ⟨sound.since passed,
      (recovering.standing.since passed).restores present,
      recovering.endpoints⟩
  · intro reason after passed
    trivial

/-- The acknowledgement of a key, if there is one, is valid. -/
def ValidAt (uuid : UuidPackage) (endpoints : GoMap CniEndpointACK)
    (key : String) : Prop :=
  ∀ ack, endpoints.get key = some ack → validateCNIACK uuid key ack = .ok ()

theorem validAt_of_get {key : String} {ack : CniEndpointACK}
    {endpoints : GoMap CniEndpointACK}
    (found : endpoints.get key = some ack)
    (valid : validateCNIACK uuid key ack = .ok ()) :
    ValidAt uuid endpoints key := by
  intro other same
  rw [found] at same
  cases same
  exact valid

theorem restoreKey_safe {key : String} (sound : Sound allowed uuid world)
    (recovering : Recovering record server world) :
    Method.Safe (environment allowed) (Sound allowed uuid)
      (Method.Leads
        (fun _ reached after => Recovering record reached after ∧
          ValidAt uuid (durableEndpoints record) key)
        (fun _ _ _ => True))
      (restoreKey uuid (durableEndpoints record) key : CniMethod Route Unit)
      server world := by
  have here : Since world world := ⟨rfl, Nat.le_refl _⟩
  have kept : ValidAt uuid (durableEndpoints record) key →
      ∀ {after : CniWorld}, Since world after →
      Method.Safe (environment allowed) (Sound allowed uuid)
        (Method.Leads
          (fun _ reached after => Recovering record reached after ∧
            ValidAt uuid (durableEndpoints record) key)
          (fun _ _ _ => True))
        (pure () : CniMethod Route Unit) server after :=
    fun valid _ passed => Method.safe_pure_still_iff.mpr
      ⟨sound.since passed,
        ⟨recovering.standing.since passed, recovering.endpoints⟩, valid⟩
  unfold restoreKey
  cases found : (durableEndpoints record).get key with
  | none =>
      apply kept _ here
      intro ack impossible
      rw [found] at impossible
      cases impossible
  | some ack =>
      have durable : (durableEndpoints server.journal.record).get key =
          some ack := by
        rw [← recovering.standing.mirrors.endpoints, recovering.endpoints]
        exact found
      have named := ((sound.onDisk recovering.standing.disk).entries key ack
        durable).named
      have state := durableState_of_get durable
      apply Method.Safe.check_bind
      · intro reason _
        exact Method.safe_throw_still_iff.mpr ⟨sound, trivial⟩
      · intro _ checked
        have valid : ValidAt uuid (durableEndpoints record) key := by
          apply validAt_of_get found
          cases validated : validateCNIACK uuid key ack with
          | ok _ => rfl
          | error reason =>
              rw [validated] at checked
              cases checked
        have restored : ∀ {change : GoError → GoError} {after : CniWorld},
            Since world after →
            (ack.state = .active ∨ ack.state = .pendingCreation) →
            Method.Safe (environment allowed) (Sound allowed uuid)
              (Method.Leads
                (fun _ reached after => Recovering record reached after ∧
                  ValidAt uuid (durableEndpoints record) key)
                (fun _ _ _ => True))
              (Method.mapError change (restoreRecord key ack) :
                CniMethod Route Unit) server after := by
          intro change after passed present
          apply Method.Safe.leads_mapError
          have presentState : durableState server.journal.record key =
                some .active ∨
              durableState server.journal.record key =
                some .pendingCreation := by
            rcases present with active | pending
            · exact .inl (state.trans (congrArg some active))
            · exact .inr (state.trans (congrArg some pending))
          apply (restoreRecord_safe (sound.since passed)
            ⟨recovering.standing.since passed, recovering.endpoints⟩
            presentState).weaken
          intro outcome reached later _ posted
          cases outcome with
          | error reason => trivial
          | ok value => exact ⟨posted, valid⟩
        by_cases gone : ack.state = .deleted ∨ ack.state = .quarantined
        · rw [if_pos gone]
          exact kept valid here
        · rw [if_neg gone]
          by_cases pending : ack.state = .pendingCreation
          · rw [if_pos pending]
            exact restored here (.inr pending)
          · rw [if_neg pending]
            have active : ack.state = .active := by
              cases same : ack.state with
              | active => rfl
              | deleted => exact absurd (.inl same) gone
              | quarantined => exact absurd (.inr same) gone
              | pendingCreation => exact absurd same pending
              | unset => exact absurd same named
            have always : Lasting (fun _ => True) := fun _ _ _ _ => trivial
            apply (CniWorld.frames_query (by simp) _ always).safe_bind trivial
              (fun after passed => sound.since passed)
            · intro verification after passed _
              split
              · exact Method.safe_throw_still_iff.mpr
                  ⟨sound.since passed, trivial⟩
              · split
                · exact kept valid passed
                · exact restored passed (.inl active)
            · intro reason after passed
              trivial

theorem restoreKeys_safe {keys : List String}
    (sound : Sound allowed uuid world)
    (recovering : Recovering record server world) :
    Method.Safe (environment allowed) (Sound allowed uuid)
      (Method.Leads
        (fun _ reached after => Recovering record reached after ∧
          ∀ key ∈ keys, ValidAt uuid (durableEndpoints record) key)
        (fun _ _ _ => True))
      (Method.each (restoreKey uuid (durableEndpoints record)) keys :
        CniMethod Route Unit) server world := by
  induction keys generalizing server world with
  | nil =>
      apply Method.safe_pure_still_iff.mpr
      refine ⟨sound, recovering, ?_⟩
      intro key member
      cases member
  | cons first rest induction =>
      apply Method.Safe.leads_bind (restoreKey_safe sound recovering)
      intro _ reached after soundAfter posted
      apply (induction soundAfter posted.1).weaken
      intro outcome last later _ returned
      cases outcome with
      | error reason => trivial
      | ok value =>
          refine ⟨returned.1, ?_⟩
          intro key member
          rcases List.mem_cons.mp member with rfl | later
          · exact posted.2
          · exact returned.2 key later

/-- Recovery from a record that some process left. -/
theorem recoverCNI_safe {journal : Journal CniDocument}
    (sound : Sound allowed uuid world) (usable : Journal.Usable journal)
    (disk : world.disk = some journal.record) :
    Method.Safe (environment allowed) (Sound allowed uuid)
      (Method.Leads
        (fun _ reached after =>
          Recovering journal.record reached after ∧
          (∀ intent, journal.record.pending = some intent →
            intent.operation = "cni-identity") ∧
          ∀ key, ValidAt uuid (durableEndpoints journal.record) key)
        (fun _ _ _ => True))
      (recoverCNI uuid : CniMethod Route Unit) (newServer journal) world := by
  have settled := sound.onDisk disk
  have snapshot : Method.Safe (environment allowed) (Sound allowed uuid)
      (Method.Leads
        (fun value reached after => reached = newServer journal ∧
          after = world ∧
          value = (journal.record.state, journal.record.pending))
        (fun _ _ _ => True))
      (onJournal Journal.snapshot :
        CniMethod Route (CniDocument × Option (Intent CniDocument)))
      (newServer journal) world := by
    apply onJournal_safe
    apply (Journal.snapshot_safe CniWorld.cell_holds.durable
      (fun after same => by rw [same]; exact sound)).weaken
    intro outcome reached after _ posted
    cases outcome with
    | error reason => trivial
    | ok value =>
        obtain ⟨same, _, rfl, valueEq⟩ := posted
        exact ⟨rfl, same, valueEq⟩
  apply Method.Safe.leads_bind snapshot
  intro value reached after _ posted
  obtain ⟨rfl, rfl, rfl⟩ := posted
  apply Method.Safe.check_bind
  · intro reason _
    exact Method.safe_throw_still_iff.mpr ⟨sound, trivial⟩
  · intro state recovered
    have stateEq : state = ⟨1, durableEndpoints journal.record⟩ := by
      have known := recoveredState_eq settled
      rw [recovered] at known
      exact Except.ok.inj known
    subst stateEq
    apply Method.safe_modify_bind.mpr
    apply Method.Safe.leads_bind (resolveIntent_safe sound usable disk)
    intro _ resolved middle soundMiddle posted
    obtain ⟨recovering, identified⟩ := posted
    have always : Lasting (fun _ => True) := fun _ _ _ _ => trivial
    apply (CniWorld.frames_query (by simp) _ always).safe_bind trivial
      (fun later passed => soundMiddle.since passed)
    · intro keys later passed _
      apply (restoreKeys_safe (soundMiddle.since passed)
        ⟨recovering.standing.since passed, recovering.endpoints⟩).weaken
      intro outcome reached after _ restored
      cases outcome with
      | error reason => trivial
      | ok value =>
          refine ⟨restored.1, identified, ?_⟩
          intro key ack found
          have member : key ∈ keys.val := by
            apply keys.property.mem_iff.mpr
            rw [GoMap.mem_sortedKeys, found]
            rfl
          exact restored.2 key member ack found
    · intro reason later passed
      trivial

/-- A process that starts has restored the endpoints of the directory, all of
them valid, and had nothing to resolve but an activation. -/
def Restored (uuid : UuidPackage) (world : CniWorld) (outcome : Option CNIServer)
    (after : CniWorld) : Prop :=
  ∀ server, outcome = some server → Standing server after ∧
    ∀ record, world.disk = some record →
      server.state.endpoints = durableEndpoints record ∧
      (∀ intent, record.pending = some intent →
        intent.operation = "cni-identity") ∧
      ∀ key, ValidAt uuid (durableEndpoints record) key

theorem enableCNIContinuity_safe {domain : Domain}
    (sound : Sound allowed uuid world) :
    Safe (environment allowed) (Sound allowed uuid) (Restored uuid world)
      (enableCNIContinuity uuid domain :
        Program (cniSignature Route) (Option CNIServer)) world := by
  have opened : Method.Safe (environment allowed)
      (fun after => Sound allowed uuid after ∧
        (∀ record, world.disk = some record → after = world))
      (Method.Leads
        (fun journal reached after => reached = () ∧
          Journal.Usable journal ∧ after.disk = some journal.record)
        (fun _ reached _ => reached = ()))
      (openCell cniJournal .null domain :
        Method (cniSignature Route) GoError Unit (Journal CniDocument))
      () world := by
    apply openCell_leads CniWorld.cell_holds
    · intro after same
      rw [same]
      exact ⟨sound, fun _ _ => rfl⟩
    · intro absent after wrote
      rw [wrote]
      refine ⟨?_, ?_⟩
      · apply sound.written
        · refine ⟨.inl rfl, ?_, ?_⟩
          · intro key ack found
            change (GoMap.empty : GoMap CniEndpointACK).get key =
              some ack at found
            rw [GoMap.get_empty] at found
            cases found
          · intro intent impossible
            cases impossible
        · intro older head
          rw [absent] at head
          cases head
      · intro record present
        rw [absent] at present
        cases present
  have kept := opened.weaken (fun outcome reached after held posted =>
    (⟨posted, held.2⟩ : Method.Leads _ _ outcome reached after ∧
      ∀ record, world.disk = some record → after = world))
  apply Safe.bind (Interactive.Safe.relax kept (fun after held => held.1))
  intro out after soundAfter posted
  obtain ⟨outcome, reached⟩ := out
  obtain ⟨posted, unwritten⟩ := posted
  cases outcome with
  | error reason =>
      apply Safe.done_still_iff.mpr
      refine ⟨soundAfter, ?_⟩
      intro server impossible
      cases impossible
  | ok journal =>
      obtain ⟨_, usable, disk⟩ := posted
      apply Safe.bind (recoverCNI_safe soundAfter usable disk)
      intro out later soundLater posted
      obtain ⟨outcome, server⟩ := out
      apply Safe.done_still_iff.mpr
      refine ⟨soundLater, ?_⟩
      intro restored returned
      cases outcome with
      | error reason => cases returned
      | ok value =>
          cases returned
          obtain ⟨recovering, identified, valid⟩ := posted
          refine ⟨recovering.standing, ?_⟩
          intro record present
          have same := unwritten record present
          rw [same, present] at disk
          cases disk
          exact ⟨recovering.endpoints, identified, valid⟩

end EvpnForOvn.Nodeagent

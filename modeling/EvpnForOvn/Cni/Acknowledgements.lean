import EvpnForOvn.Cni.Recovery
import EvpnForOvn.Ownership.Uuid

/-!
# Acknowledgements over whole runs

The node agent serves its operations one at a time, may be killed at every
step and is started again on the same directory.  Over all such runs the
durable state of an endpoint follows its state machine, an unresolved intent
stops every operation, and the memory of a ready process is the directory.
Acknowledgements survive a restart as long as no activation is read off the
clock after its deadline; the code does not ensure that, since it reads the
clock once more after it has compared it with the deadline.
-/

namespace EvpnForOvn.Nodeagent

open Interactive Go Ownership
open CniWorld (environment)

section Runs

variable {Route : Type} {allowed : ClockUse → Nat → Prop}
  {uuid : UuidPackage} {config : CniConfig} {domain : Domain}
  {endpointOf : Route → Evpn.LocalEndpoint} {world : CniWorld}
  {server : CNIServer}

theorem undrained_ends {α : Type} {method : CniMethod Route α}
    (sound : Sound allowed uuid world) (live : Live server world)
    (safe : Method.Safe (environment allowed) (Sound allowed uuid) Ends method
      server world) :
    Method.Safe (environment allowed) (Sound allowed uuid) Ends
      (undrained method) server world := by
  apply Method.safe_get_bind.mpr
  exact Method.Safe.refuse_bind (fun _ => ends_throw sound live)
    (fun _ => safe)

/-- Every operation ends with a sound directory and a live memory. -/
theorem serveCall_ends {call : CniCall Route}
    (sound : Sound allowed uuid world) (live : Live server world) :
    Method.Safe (environment allowed) (Sound allowed uuid) Ends
      (serveCall uuid config endpointOf call) server world := by
  cases call with
  | add request =>
      exact undrained_ends sound live
        (ends_map (continuityAdd_ends sound live))
  | del request =>
      exact undrained_ends sound live
        (ends_map (continuityDel_ends sound live))
  | check request =>
      exact undrained_ends sound live
        (ends_map (checkEndpoint_ends sound live))
  | verifyPending =>
      apply Method.Safe.leads_bind (verifyPendingCNI_ends sound live)
      intro _ reached after soundAfter liveAfter
      exact ends_pure soundAfter liveAfter
  | validateContinuity =>
      apply Method.Safe.leads_bind (validateContinuityLocked_safe sound live)
      intro _ reached after soundAfter standing
      exact ends_pure soundAfter standing.live
  | validateExports endpoints =>
      apply Method.Safe.leads_bind (validateExports_safe sound live)
      intro _ reached after soundAfter standing
      exact ends_pure soundAfter standing.live
  | desiredEndpoints => exact ends_map (desiredLocalEndpoints_ends sound live)
  | addRoute route => exact ends_map (continuityRouteAdd_ends sound live)
  | drain =>
      apply Method.safe_modify_bind.mpr
      apply ends_pure sound
      intro usable
      obtain ⟨disk, mirrors⟩ := live usable
      refine ⟨disk, fun noPending => ?_⟩
      have mirrored := mirrors noPending
      exact ⟨mirrored.version, mirrored.endpoints, mirrored.stored⟩
  | close =>
      have closed : Method.Safe (environment allowed) (Sound allowed uuid)
          (Method.Leads (fun _ => Live) (fun _ => Live))
          (onJournal Journal.close : CniMethod Route Unit) server world := by
        apply onJournal_safe
        apply (Journal.close_safe CniWorld.cell_holds.durable
          (fun after same => by rw [same]; exact sound)).weaken
        intro outcome journal after _ posted
        have unusable : Live { server with journal := journal } after := by
          intro usable
          have shut : journal.closed = false := usable.1
          rw [posted.2] at shut
          cases shut
        cases outcome with
        | ok value => exact unusable
        | error reason => exact unusable
      apply Method.Safe.leads_bind closed
      intro _ reached after soundAfter liveAfter
      exact ends_pure soundAfter liveAfter

theorem cniService_kept :
    (cniService uuid config domain endpointOf).Kept (environment allowed)
      (Sound allowed uuid) Live (fun _ _ _ _ => True) where
  boot := by
    intro _ world sound
    apply (enableCNIContinuity_safe sound).weaken
    intro outcome after _ restored server returned
    exact (restored server returned).1.live
  serve := by
    intro call server world sound live
    have ends : Method.Safe (environment allowed) (Sound allowed uuid) Ends
        (serveCall uuid config endpointOf call) server world :=
      serveCall_ends sound live
    apply Interactive.Safe.weaken ends
    intro out after _ posted
    exact ⟨ends_iff.mp posted, trivial⟩
  drift := fun _ _ _ moved => moved.elim
  liveDrift := fun _ _ _ _ _ moved => moved.elim

theorem sound_blank : Sound allowed uuid .blank := by
  refine ⟨?_, .nil⟩
  intro record member
  cases member

/-- The operations that must not run into an unresolved intent. -/
def Guarded : CniCall Route → Prop
  | .add _ => True
  | .del _ => True
  | .check _ => True
  | .verifyPending => True
  | _ => False

/-- A guarded operation has done nothing.  The activation pass of a server
that is being drained returns without an error. -/
def Refused (call : CniCall Route) (server : CNIServer)
    (outcome : Except GoError CniResponse) : Prop :=
  (∃ reason, outcome = .error reason) ∨
    call = .verifyPending ∧ server.stopping = true

/-- The specification of a method that fails in the world it started in. -/
def Fails (allowed : ClockUse → Nat → Prop) {α : Type}
    (method : CniMethod Route α) (server : CNIServer) (world : CniWorld) :
    Prop :=
  Method.Safe (environment allowed) (fun after => after = world)
    (Method.Leads (fun _ _ _ => False) (fun _ _ _ => True)) method server world

theorem fails_throw {α : Type} {reason : GoError} :
    Fails allowed (throw reason : CniMethod Route α) server world :=
  Method.safe_throw_still_iff.mpr ⟨rfl, trivial⟩

theorem Fails.bind {α β : Type} {method : CniMethod Route α}
    {continuation : α → CniMethod Route β}
    (fails : Fails allowed method server world) :
    Fails allowed (method >>= continuation) server world := by
  apply Method.Safe.leads_bind fails
  intro value reached after _ impossible
  exact impossible.elim

theorem Fails.mapError {α : Type} {change : GoError → GoError}
    {method : CniMethod Route α} (fails : Fails allowed method server world) :
    Fails allowed (Method.mapError change method) server world :=
  Method.Safe.leads_mapError fails

theorem Fails.map {α β : Type} {change : α → β} {method : CniMethod Route α}
    (fails : Fails allowed method server world) :
    Fails allowed (change <$> method) server world := by
  rw [← bind_pure_comp]
  exact fails.bind

/-- An unresolved intent in the directory. -/
def Unresolved (world : CniWorld) : Prop :=
  ∃ record, world.disk = some record ∧ record.pending ≠ none

theorem ready_fails (live : Live server world)
    (unresolved : Unresolved world) :
    Fails allowed (ready : CniMethod Route Unit) server world := by
  obtain ⟨record, disk, outstanding⟩ := unresolved
  have passed : Method.Safe (environment allowed) (fun after => after = world)
      _ (ready : CniMethod Route Unit) server world := ready_safe rfl live
  apply passed.weaken
  intro outcome reached after _ posted
  cases outcome with
  | error reason => trivial
  | ok value =>
      obtain ⟨_, _, standing⟩ := posted
      have same := standing.disk
      rw [disk] at same
      cases same
      exact outstanding standing.noPending

theorem undrained_fails {α : Type} {method : CniMethod Route α}
    (fails : Fails allowed method server world) :
    Fails allowed (undrained method) server world := by
  apply Method.safe_get_bind.mpr
  exact Method.Safe.refuse_bind (fun _ => fails_throw) (fun _ => fails)

/-- While an intent is unresolved, a guarded operation changes nothing,
reaches no backend and does not succeed. -/
theorem serveCall_refused {call : CniCall Route} (live : Live server world)
    (unresolved : Unresolved world) (guarded : Guarded call) :
    Method.Safe (environment allowed) (fun after => after = world)
      (fun outcome _ _ => Refused call server outcome)
      (serveCall uuid config endpointOf call) server world := by
  have refused : ∀ {method : CniMethod Route CniResponse},
      Fails allowed method server world →
      Method.Safe (environment allowed) (fun after => after = world)
        (fun outcome _ _ => Refused call server outcome) method server
        world := by
    intro method fails
    apply Method.Safe.weaken fails
    intro outcome reached after _ posted
    cases outcome with
    | error reason => exact .inl ⟨reason, rfl⟩
    | ok value => exact posted.elim
  have unready : Fails allowed (ready : CniMethod Route Unit) server world :=
    ready_fails live unresolved
  cases call with
  | add request =>
      apply refused
      apply undrained_fails
      apply Fails.map
      exact Method.Safe.check_bind (fun reason _ => fails_throw)
        (fun parts _ => unready.mapError.bind)
  | del request =>
      apply refused
      apply undrained_fails
      apply Fails.map
      exact Method.Safe.check_bind (fun reason _ => fails_throw)
        (fun identity _ => unready.mapError.bind)
  | check request =>
      apply refused
      apply undrained_fails
      apply Fails.map
      unfold checkEndpoint
      exact Fails.bind (Fails.mapError (Fails.bind unready))
  | verifyPending =>
      cases stopping : server.stopping with
      | false =>
          apply refused
          apply Fails.bind
          apply Method.safe_get_bind.mpr
          rw [stopping]
          exact unready.bind
      | true =>
          have returns : Method.Safe (environment allowed)
              (fun after => after = world) (fun _ reached _ => True)
              (verifyPendingCNI : CniMethod Route Unit) server world := by
            apply Method.safe_get_bind.mpr
            rw [stopping]
            exact Method.safe_pure_still_iff.mpr ⟨rfl, trivial⟩
          apply Method.Safe.bind returns
          · intro _ reached after same _
            subst same
            exact Method.safe_pure_still_iff.mpr
              ⟨rfl, .inr ⟨rfl, stopping⟩⟩
          · intro reason reached after _ _
            exact .inl ⟨reason, rfl⟩
  | validateContinuity => exact guarded.elim
  | validateExports endpoints => exact guarded.elim
  | desiredEndpoints => exact guarded.elim
  | addRoute route => exact guarded.elim
  | drain => exact guarded.elim
  | close => exact guarded.elim

/-- What a restart makes of the intent it finds. -/
inductive Restarts (Route : Type) (uuid : UuidPackage) (domain : Domain)
    (world : CniWorld) (record : Record CniDocument)
    (intent : Intent CniDocument) : Prop where
  /-- An outstanding creation or removal is never recovered from. -/
  | refused :
      intent.operation = "cni-add" ∨ intent.operation = "cni-del" →
      Safe (environment fun _ _ => True) (fun _ => True)
        (fun outcome _ => outcome = none)
        (enableCNIContinuity uuid domain :
          Program (cniSignature Route) (Option CNIServer)) world →
      Restarts Route uuid domain world record intent
  /-- An outstanding activation passes its check, and what is recovered are
  the endpoints as they were last committed. -/
  | restored :
      intent.operation = "cni-identity" →
      checkIdentityIntent ⟨1, durableEndpoints record⟩ intent.payload =
        .ok () →
      Safe (environment fun _ _ => True) (fun _ => True)
        (fun outcome after => ∀ server, outcome = some server →
          server.state.endpoints = durableEndpoints record ∧
          after.disk = some server.journal.record ∧
          durableEndpoints server.journal.record = durableEndpoints record ∧
          server.journal.record.pending = none)
        (enableCNIContinuity uuid domain :
          Program (cniSignature Route) (Option CNIServer)) world →
      Restarts Route uuid domain world record intent

theorem restarts_of_sound {record : Record CniDocument}
    {intent : Intent CniDocument}
    (sound : Sound (fun _ _ => True) uuid world)
    (disk : world.disk = some record)
    (outstanding : record.pending = some intent) :
    Restarts Route uuid domain world record intent := by
  have restored : Safe (environment fun _ _ => True)
      (Sound (fun _ _ => True) uuid) (Restored uuid world)
      (enableCNIContinuity uuid domain :
        Program (cniSignature Route) (Option CNIServer)) world :=
    enableCNIContinuity_safe sound
  have boots : Safe (environment fun _ _ => True) (fun _ => True)
      (Restored uuid world)
      (enableCNIContinuity uuid domain :
        Program (cniSignature Route) (Option CNIServer)) world :=
    restored.relax (fun _ _ => trivial)
  have intended := (sound.onDisk disk).intents intent outstanding
  have refuses : intent.operation ≠ "cni-identity" →
      Safe (environment fun _ _ => True) (fun _ => True)
        (fun outcome _ => outcome = none)
        (enableCNIContinuity uuid domain :
          Program (cniSignature Route) (Option CNIServer)) world := by
    intro different
    apply boots.weaken
    intro outcome after _ posted
    cases outcome with
    | none => rfl
    | some server =>
        obtain ⟨_, recovered⟩ := posted server rfl
        obtain ⟨_, identified, _⟩ := recovered record disk
        exact absurd (identified intent outstanding) different
  cases operation : intended with
  | adding =>
      have different : "cni-add" ≠ "cni-identity" := by decide
      exact .refused (.inl rfl) (refuses different)
  | deleting =>
      have different : "cni-del" ≠ "cni-identity" := by decide
      exact .refused (.inr rfl) (refuses different)
  | judging found pending same =>
      refine .restored rfl (checkIdentityIntent_eq_ok intended rfl) ?_
      apply boots.weaken
      intro outcome after _ posted server returned
      obtain ⟨standing, recovered⟩ := posted server returned
      obtain ⟨endpoints, _⟩ := recovered record disk
      exact ⟨endpoints, standing.disk,
        standing.mirrors.endpoints.symm.trans endpoints, standing.noPending⟩

end Runs

section Sample

def sampleEvidence : CNIAdmissionEvidence :=
  let digest := String.ofList (List.replicate 64 'a')
  let boot := "00000000-0000-4000-8000-000000000001"
  let process := fun pid => (⟨pid, "7", digest, boot⟩ : CNIProcessEvidence)
  { caller := process 1
    processes := [process 1, process 2, process 3]
    netNSDevice := 4
    netNSInode := 5
    containerID := "box"
    podUID := "pod" }

def samplePodIdentity : EndpointIdentity :=
  ⟨"n|a|pod", "n", "a", "pod", "box"⟩

def samplePodKey : String := endpointKey (some samplePodIdentity)

def sampleAddRequest : CNIAddRequest :=
  { identity := some samplePodIdentity
    runtime := some ⟨"1.0.0", "box", "/run/netns/box", "eth0"⟩
    attachment := some ⟨"", "", "10.0.0.5/24", "02:00:00:00:00:01"⟩
    k8s := some ⟨"default", "web", "pod", ""⟩ }

def sampleReceipt : CniReceipt :=
  ⟨"switch", "port", "interface", "ovs-port", "bridge", 9, 4, 5⟩

def sampleCniConfig : CniConfig :=
  { nodeName := "node"
    authority := true
    verifiesPod := true
    verifiesCreating := false
    deletesAcknowledged := true
    checksIdentity := true
    checksAttachment := true
    readbackRounds := 50 }

/-- Backends that do what they are asked.  The resources of the endpoint are
absent when the third call finds them; `stamp` gives the time of an activation
with a deadline. -/
def sampleReplies (stamp : Nat → Nat) (world : CniWorld) :
    (request : CniRequest Evpn.LocalEndpoint) → Option (request.Reply × CniWorld)
  | .journal .load => some (.ok world.disk, world)
  | .journal (.write _ next) => some (.ok (), world.written next)
  | .journal .checkLock => some (.ok (), world)
  | .journal .release => some (.ok (), world)
  | .now (.activation verifyBy) =>
      if world.clock ≤ stamp verifyBy then
        some (stamp verifyBy, { world with clock := stamp verifyBy })
      else none
  | .now _ => some (world.clock + 1, { world with clock := world.clock + 1 })
  | .iterate endpoints => some (⟨endpoints.sortedKeys, .refl _⟩, world)
  | .expired => some (false, world)
  | .verify _ _ _ =>
      some (⟨false, none⟩, { world with reached := world.reached + 1 })
  | .verifyPod _ =>
      some (⟨false, none⟩, { world with reached := world.reached + 1 })
  | .authorityAdmit _ =>
      some (.ok sampleEvidence, { world with reached := world.reached + 1 })
  | .observe _ =>
      some (⟨sampleReceipt, world.reached == 2, none⟩,
        { world with reached := world.reached + 1 })
  | .networkAbsent _ =>
      some (.ok (), { world with reached := world.reached + 1 })
  | .networkEnsure key _ =>
      some (.ok ⟨hostVethNameForKey key, "eth0", "02:00:00:00:00:01",
        "10.0.0.5/24"⟩, { world with reached := world.reached + 1 })
  | .networkCheck key _ =>
      some (.ok ⟨hostVethNameForKey key, "eth0", "02:00:00:00:00:01",
        "10.0.0.5/24"⟩, { world with reached := world.reached + 1 })
  | .ensureEndpoint _ =>
      some (.ok (), { world with reached := world.reached + 1 })
  | .addPath _ =>
      some (.ok "path", { world with reached := world.reached + 1 })
  | _ => none

/-- The node agent of the run; a route is its endpoint. -/
@[reducible] def sampleAgent : Service (cniSignature Evpn.LocalEndpoint) :=
  cniService canonicalUuid sampleCniConfig sampleDomain id

/-- The agent starts, adds an endpoint and runs the activation pass. -/
def sampleTrial (stamp : Nat → Nat) : Option (CNIServer × CniWorld) :=
  sampleAgent.trial (sampleReplies stamp) ()
    [.add sampleAddRequest, .verifyPending] .blank

theorem sampleReplies_allowed {allowed : ClockUse → Nat → Prop}
    {stamp : Nat → Nat}
    (creation : ∀ reading, allowed .creation reading)
    (deadline : ∀ verifyBy reading, allowed (.deadline verifyBy) reading)
    (activation : ∀ verifyBy, allowed (.activation verifyBy)
      (stamp verifyBy)) :
    ∀ (world : CniWorld) (request : CniRequest Evpn.LocalEndpoint)
      (reply : request.Reply) (after : CniWorld),
      sampleReplies stamp world request = some (reply, after) →
      (environment allowed).answers world request reply after := by
  intro world request reply after answered
  cases request with
  | journal cell =>
      cases cell with
      | load =>
          cases answered
          exact ⟨rfl, rfl⟩
      | _ =>
          cases answered
          rfl
  | now use =>
      cases use with
      | activation verifyBy =>
          change (if world.clock ≤ stamp verifyBy then
              some (stamp verifyBy, { world with clock := stamp verifyBy })
            else none) = some (reply, after) at answered
          split at answered
          · rename_i later
            cases answered
            exact ⟨later, activation verifyBy, rfl⟩
          · cases answered
      | creation =>
          cases answered
          exact ⟨Nat.le_succ _, creation _, rfl⟩
      | deadline verifyBy =>
          cases answered
          exact ⟨Nat.le_succ _, deadline _ _, rfl⟩
  | _ =>
      cases answered
      all_goals rfl

/-- Whether the journal is usable with nothing outstanding, and the state of
the endpoint. -/
def sampleSummary (server : CNIServer) : Bool × Bool × Option AckState :=
  (!server.journal.closed && server.journal.blocked.isNone,
    server.journal.record.pending.isNone,
    durableState server.journal.record samplePodKey)

theorem sampleTrial_active :
    ∃ server world, sampleTrial id = some (server, world) ∧
      Journal.Usable server.journal ∧
      server.journal.record.pending = none ∧
      durableState server.journal.record samplePodKey = some .active := by
  have summary : (sampleTrial id).map (fun state => sampleSummary state.1) =
      some (true, true, some .active) := by
    decide +kernel
  obtain ⟨⟨server, world⟩, tried, summarized⟩ :=
    Option.map_eq_some_iff.mp summary
  simp only [sampleSummary, Prod.mk.injEq, Bool.and_eq_true,
    Bool.not_eq_true', Option.isNone_iff_eq_none] at summarized
  exact ⟨server, world, tried, summarized.1, summarized.2.1, summarized.2.2⟩

end Sample

/-- A clock on which no activation is stamped after its deadline. -/
def inTime : ClockUse → Nat → Prop
  | .activation verifyBy, reading => reading ≤ verifyBy
  | _, _ => True

def sampleVerdict (server : CNIServer) : Bool × Option (Except GoError Unit) :=
  (!server.journal.closed && server.journal.blocked.isNone,
    ((durableEndpoints server.journal.record).get samplePodKey).map
      (validateCNIACK canonicalUuid samplePodKey))

end EvpnForOvn.Nodeagent

import EvpnForOvn.Export.SlotAbsence
import EvpnForOvn.Lib.Service
import EvpnForOvn.Type2.Plan

/-!
# Write-ahead mutations of the speaker

An export recovery announces what it is going to ask of the speaker.  Here the
process is killed and reopened at any point, every request may be answered in
any way, and a write of the journal that fails may still have replaced the
record.  The ledger keeps the record on the disk beside each mutation that the
speaker was asked for.
-/

namespace EvpnForOvn.Evpn

open Interactive Go Ownership ExportRecovery
open Interactive.Method (Leads)

inductive SpeakerMutation (bgp : BgpPackage) where
  | addPath (route : Type2Route bgp)
  | deletePath (owned : OwnedType2Route)

/-- The record on the disk, whether a mutation was asked for since it was
written, and every mutation with these two as they were at the time. -/
structure Ledger (bgp : BgpPackage) where
  disk : Option (Record ExportDocument)
  used : Bool
  history : List (SpeakerMutation bgp × Option (Record ExportDocument) × Bool)

/-- The record announces an operation with its intent. -/
def Announces (disk : Option (Record ExportDocument)) (operation : String)
    (intent : ExportIntent) : Prop :=
  ∃ record sequence, disk = some record ∧
    record.pending = some ⟨sequence, operation, .intent intent⟩

/-- The mutation is the one that is announced.  An addition is asked for only
once under its announcement. -/
def Covered {bgp : BgpPackage} :
    SpeakerMutation bgp × Option (Record ExportDocument) × Bool → Prop
  | (.addPath route, disk, used) => used = false ∧ ∃ intent,
      Announces disk "export-add" intent ∧
      durableExportRoute bgp route.endpoint intent.incarnation "" =
        .ok intent.route
  | (.deletePath owned, disk, _) => ∃ intent,
      Announces disk "export-delete" intent ∧
      intent.route.owned.pathUUID = owned.pathUUID ∧
      intent.route.owned.endpoint.equivalent owned.endpoint = true

inductive RecoveryCall (bgp : BgpPackage) where
  | recover
  | add (route : Type2Route bgp)
  | delete (owned : OwnedType2Route)
  | rebind (missing : Bool)
  | close

inductive RecoveryReply where
  | recovered (outcome : Except GoError (List OwnedType2Route))
  | added (outcome : Except GoError String)
  | finished (outcome : Except GoError Unit)

section Process

variable (bgp : BgpPackage) (uuid : UuidPackage)

def openExportRecovery (domain : Domain) :
    Method (recoverySignature bgp) GoError Unit ExportRecovery := do
  let journal ← openCell (fun request => RecoveryRequest.send
    (.journal request)) .null domain
  Method.call ((openRecovery (requestRecovery bgp) uuid).start journal
    >>= fun out => .done out.1)

def serveRecovery :
    RecoveryCall bgp → ExportRecovery →
      Program (recoverySignature bgp) (RecoveryReply × ExportRecovery)
  | .recover, recovery =>
      (recover (requestRecovery bgp)).start recovery
        >>= fun out => .done (.recovered out.1, out.2)
  | .add route, recovery =>
      (add (requestRecovery bgp) uuid route).start recovery
        >>= fun out => .done (.added out.1, out.2)
  | .delete owned, recovery =>
      (delete (requestRecovery bgp) owned).start recovery
        >>= fun out => .done (.finished out.1, out.2)
  | .rebind missing, recovery =>
      (rebind missing).start recovery
        >>= fun out => .done (.finished out.1, out.2)
  | .close, recovery =>
      (close (requestRecovery bgp)).start recovery
        >>= fun out => .done (.finished out.1, out.2)

/-- A process that owns the export recovery of one speaker. -/
def recoveryProcess : Service (recoverySignature bgp) :=
  { Argument := Domain
    Memory := ExportRecovery
    Call := RecoveryCall bgp
    Result := RecoveryReply
    boot := fun domain => (openExportRecovery bgp uuid domain).start ()
      >>= fun out => .done out.1.toOption
    serve := serveRecovery bgp uuid }

end Process

namespace Ledger

variable {bgp : BgpPackage} {uuid : UuidPackage} {ledger after : Ledger bgp}
  {recovery reached : ExportRecovery}

def blank : Ledger bgp := ⟨none, false, []⟩

def wrote (next : Record ExportDocument) (ledger : Ledger bgp) : Ledger bgp :=
  { ledger with
    disk := some next
    used := false }

def asked (mutation : SpeakerMutation bgp) (ledger : Ledger bgp) :
    Ledger bgp :=
  { ledger with
    used := true
    history := (mutation, ledger.disk, ledger.used) :: ledger.history }

def Answers (before : Ledger bgp) : (request : RecoveryRequest bgp) →
    Except GoError request.Result → Ledger bgp → Prop
  | .add route, _, after => after = before.asked (.addPath route)
  | .delete owned, _, after => after = before.asked (.deletePath owned)
  | .journal (.write _ next), .ok _, after => after = before.wrote next
  | .journal (.write _ next), .error _, after =>
      after = before ∨ after = before.wrote next
  | .journal .load, .ok found, after => found = before.disk ∧ after = before
  | _, _, after => after = before

abbrev environment : Environment (recoverySignature bgp) (Ledger bgp) :=
  Environment.still Answers

def Announced (ledger : Ledger bgp) : Prop :=
  ∀ entry ∈ ledger.history, Covered entry

/-- The memory agrees with the disk while the journal can write. -/
def Mirrors (recovery : ExportRecovery) (ledger : Ledger bgp) : Prop :=
  Journal.Usable recovery.journal →
    ledger.disk = some recovery.journal.record

theorem Mirrors.refused (mirrors : Mirrors recovery ledger)
    (refused : Refused recovery reached) : Mirrors reached ledger := by
  obtain ⟨_, sameRecord, sameClosed, blocked⟩ := refused
  intro usable
  rw [sameRecord]
  refine mirrors ⟨sameClosed ▸ usable.1, ?_⟩
  cases was : recovery.journal.blocked with
  | none => rfl
  | some reason =>
      have still := blocked (by rw [was]; rfl)
      rw [usable.2, was] at still
      cases still

theorem mirrors_torn (torn : Torn recovery reached) :
    Mirrors reached ledger := by
  intro usable
  have blocked := torn.2
  rw [usable.2] at blocked
  cases blocked

theorem announced_asked {mutation : SpeakerMutation bgp}
    (announced : Announced ledger)
    (covered : Covered (mutation, ledger.disk, ledger.used)) :
    Announced (ledger.asked mutation) := by
  intro entry listed
  rcases List.mem_cons.mp listed with rfl | earlier
  · exact covered
  · exact announced entry earlier

theorem safe_send {stable : Ledger bgp → Prop} (request : RecoveryRequest bgp)
    {post : Except GoError request.Result → Ledger bgp → Prop}
    (here : stable ledger)
    (answered : ∀ reply after, Answers ledger request reply after →
      stable after ∧ post reply after) :
    Interactive.Safe environment stable post request.send ledger := by
  refine Interactive.Safe.ask_still_iff.mpr ⟨here, ?_⟩
  intro reply after replied
  exact Interactive.Safe.done_still_iff.mpr (answered reply after replied)

theorem durable : (requestRecovery bgp).store.Durable environment
    (fun before after : Ledger bgp => after = before)
    (fun _ next before after => after = before.wrote next) where
  refl := fun _ => rfl
  trans := fun first second => second.trans first
  writesAfter := fun still wrote => still ▸ wrote
  writesThen := fun wrote still => still.trans wrote
  lock := by
    intro stable ledger keeps
    apply safe_send (.journal .checkLock) (keeps _ rfl)
    rintro reply after rfl
    exact ⟨keeps _ rfl, rfl⟩
  write := by
    intro stable writer next ledger keeps keepsWritten
    apply safe_send (.journal (.write writer next)) (keeps _ rfl)
    rintro (reason | _) after answered
    · rcases answered with rfl | rfl
      · exact ⟨keeps _ rfl, .inl rfl⟩
      · exact ⟨keepsWritten _ rfl, .inr rfl⟩
    · obtain rfl := answered
      exact ⟨keepsWritten _ rfl, rfl⟩
  release := by
    intro stable ledger keeps
    apply safe_send (.journal .release) (keeps _ rfl)
    rintro reply after rfl
    exact ⟨keeps _ rfl, rfl⟩
  drift := fun moved => moved.elim

/-- What a call knows while it works. -/
structure Knows (recovery : ExportRecovery) (ledger : Ledger bgp) : Prop where
  announced : Announced ledger
  mirrors : Mirrors recovery ledger

/-- The call goes on with what it knows, or fails. -/
abbrev Knowing {α : Type}
    (method : Method (recoverySignature bgp) GoError ExportRecovery α) :
    ExportRecovery → Ledger bgp → Prop :=
  fun recovery => Method.Safe environment Announced
    (Leads (fun _ memory after => memory = recovery ∧ Knows recovery after)
      (fun _ => Mirrors)) method recovery

/-- The call ends in a memory that mirrors the disk. -/
abbrev Mirroring {α : Type}
    (method : Method (recoverySignature bgp) GoError ExportRecovery α) :
    ExportRecovery → Ledger bgp → Prop :=
  Method.Safe environment Announced
    (Leads (fun _ => Mirrors) (fun _ => Mirrors)) method

theorem Knows.sends (knows : Knows recovery ledger)
    (request : RecoveryRequest bgp)
    (plain : ∀ reply after, Answers ledger request reply after →
      after = ledger) :
    Interactive.Safe environment Announced (fun _ => Knows recovery)
      request.send ledger := by
  apply safe_send request knows.announced
  intro reply after answered
  obtain rfl := plain reply after answered
  exact ⟨knows.announced, knows⟩

theorem Knows.observe (knows : Knows recovery ledger) :
    Knowing (observation (requestRecovery bgp)) recovery ledger := by
  have steady : Steady environment Announced (@Knows bgp recovery) :=
    { drift := fun _ _ _ moved => moved.elim
      holds := fun _ knows => knows.announced }
  have observing : Observing environment Announced (requestRecovery bgp)
      recovery (Knows recovery) (fun _ => Knows recovery)
      (fun _ => Knows recovery) (fun _ => Knows recovery) (Knows recovery) :=
    { steady := steady
      steadySeen := fun _ => steady
      lostOpened := fun _ knows => knows
      lostNamed := fun _ _ knows => knows
      lostRead := fun _ _ knows => knows
      lostSeen := fun _ _ knows => knows
      check := fun _ knows => knows.sends .check (fun _ _ same => same)
      name := fun _ knows =>
        (knows.sends .incarnation (fun _ _ same => same)).weaken
          (fun _ _ _ there => ⟨there, fun _ _ => there⟩)
      snapshot := by
        intro _ _ ledger knows
        apply Method.Safe.leads_call
        apply (knows.sends .snapshot (fun _ _ same => same)).weaken
        rintro (reason | paths) after _ there
        · exact ⟨rfl, there⟩
        · exact ⟨rfl, there⟩
      recheck := fun _ _ knows => knows.sends .check (fun _ _ same => same)
      rename := fun _ _ knows =>
        (knows.sends .incarnation (fun _ _ same => same)).weaken
          (fun _ _ _ there => ⟨there, fun _ => there⟩) }
  apply (observing.observation_safe knows).weaken
  rintro (reason | seen) memory after _ ⟨rfl, there⟩
  · exact there.mirrors
  · exact ⟨rfl, there⟩

theorem Knows.throws {α : Type} {next : α → ExportRecovery → Ledger bgp →
    Prop} (knows : Knows recovery ledger) (reason : GoError) :
    Method.Safe environment Announced
      (Leads next (fun (_ : GoError) => Mirrors)) (throw reason) recovery
      ledger :=
  Method.safe_throw_still_iff.mpr ⟨knows.announced, knows.mirrors⟩

/-- A mutation that is covered keeps what the call knows. -/
theorem Knows.asks (request : RecoveryRequest bgp)
    (mutation : SpeakerMutation bgp) (knows : Knows recovery ledger)
    (covered : Covered (mutation, ledger.disk, ledger.used))
    (answers : ∀ reply after, Answers ledger request reply after →
      after = ledger.asked mutation) :
    Knowing (Method.call request.send) recovery ledger := by
  apply Method.Safe.leads_call
  apply safe_send request knows.announced
  intro reply after answered
  obtain rfl := answers reply after answered
  have announced := announced_asked knows.announced covered
  refine ⟨announced, ?_⟩
  cases reply with
  | ok value => exact ⟨rfl, announced, knows.mirrors⟩
  | error reason => exact knows.mirrors

theorem Knows.wrote {record : Record ExportDocument}
    (knows : Knows recovery ledger) (same : after = ledger.wrote record) :
    Knows (recorded record recovery) after := by
  rw [same]
  exact ⟨knows.announced, fun _ => rfl⟩

/-- What a refused or a torn write leaves. -/
theorem Knows.unwritten (knows : Knows recovery ledger)
    (failed : Refused recovery reached ∧ after = ledger ∨
      Torn recovery reached ∧ Announced after) : Mirrors reached after := by
  rcases failed with ⟨refused, rfl⟩ | ⟨torn, _⟩
  · exact knows.mirrors.refused refused
  · exact mirrors_torn torn

theorem payload_of_readIntent {payload : ExportDocument}
    {intent : ExportIntent} (read : readIntent bgp payload = .ok intent) :
    payload = .intent intent := by
  unfold readIntent at read
  cases payload with
  | intent value =>
      dsimp only [ExportDocument.decodeIntent] at read
      split at read
      · cases read
      · split at read
        · cases read
        · cases read
          rfl
  | null =>
      dsimp only [ExportDocument.decodeIntent] at read
      split at read
      · cases read
      · rw [if_pos (by simp)] at read
        cases read
  | state value => cases read
  | other text => cases read

theorem recovering (recovery : ExportRecovery) :
    Recovering environment Announced (requestRecovery bgp)
      (fun before after : Ledger bgp => after = before)
      (fun _ next before after => after = before.wrote next) recovery
      (Knows recovery) (fun _ => Knows recovery) (fun _ _ => Knows recovery)
      (fun _ _ => Mirrors) Mirrors where
  durable := durable
  observe := fun _ knows => knows.observe
  quietly := fun _ _ _ knows same => same ▸ knows
  holds := fun _ _ knows => knows.announced
  refused := fun _ _ _ knows refused => knows.mirrors.refused refused
  withdraw := by
    intro _ intent pending ledger knows usable outstanding deleting read _
    refine knows.asks (.delete intent.route.owned)
      (.deletePath intent.route.owned) ⟨intent, ?_, rfl,
      LocalEndpoint.equivalent_refl _⟩ (fun _ _ same => same)
    refine ⟨_, pending.sequence, knows.mirrors usable, ?_⟩
    rw [outstanding, ← deleting, ← payload_of_readIntent read]
  verify := fun _ _ _ knows => knows.observe
  torn := fun _ _ _ torn => mirrors_torn torn
  unchanged := fun _ _ _ knows _ _ _ _ => knows.mirrors
  checkpoint := by
    intro _ _ ledger knows _ _ _ after wrote
    have there := knows.wrote wrote
    refine ⟨there.announced, fun _ refused => there.mirrors.refused refused,
      fun last wroteLast => ?_⟩
    have ended := there.wrote wroteLast
    exact ⟨ended.announced, ended.mirrors⟩
  commit := by
    intro _ _ _ _ _ ledger knows _ _ _ _ after wrote
    have ended := knows.wrote wrote
    exact ⟨ended.announced, ended.mirrors⟩

theorem recover_leads (knows : Knows recovery ledger) :
    Mirroring (recover (requestRecovery bgp)) recovery ledger := by
  apply ((recovering recovery).recover_safe knows).weaken
  rintro (reason | owned) reached after _ posted
  · exact posted
  · obtain ⟨_, _, _, _, _, ⟨_, _, mirrors, _⟩, _, rfl⟩ := posted
    exact mirrors

theorem Knows.announce {operation : String} {intent : ExportIntent}
    (knows : Knows recovery ledger) :
    Method.Safe environment Announced
      (Leads
        (fun _ reached after => Knows reached after ∧ after.used = false ∧
          Announces after.disk operation intent)
        (fun _ => Mirrors))
      (onJournal (Journal.begin (requestRecovery bgp).store operation
        (.ok (.intent intent)))) recovery ledger := by
  apply (begin_leads durable (fun _ same => same ▸ knows.announced)
    (fun _ _ wrote => (knows.wrote wrote).announced)).weaken
  rintro (reason | sequence) reached after _ posted
  · exact knows.unwritten posted
  · obtain ⟨_, _, rfl, wrote⟩ := posted
    refine ⟨knows.wrote wrote, ?_, ?_⟩
    · rw [wrote]
      rfl
    · rw [wrote]
      exact ⟨_, _, rfl, rfl⟩

theorem Knows.commits {sequence : Nat} {next : ExportRecoveryState}
    {name : String} (knows : Knows recovery ledger) :
    Mirroring (do
      onJournal (Journal.commit (requestRecovery bgp).store sequence
        (.ok (.state next)))
      setState next
      boundary (requestRecovery bgp) name) recovery ledger := by
  apply Method.Safe.bind (commit_leads durable
    (fun _ same => same ▸ knows.announced)
    (fun _ _ wrote => (knows.wrote wrote).announced))
  · rintro _ reached after announced ⟨_, _, rfl, wrote⟩
    exact Method.safe_modify_bind.mpr (Method.safe_pure_still_iff.mpr
      ⟨announced, (knows.wrote wrote).mirrors⟩)
  · rintro reason reached after _ failed
    exact knows.unwritten failed

theorem Knows.readBack {α : Type} {change : GoError → GoError}
    {continuation : RIBObservation bgp →
      Method (recoverySignature bgp) GoError ExportRecovery α}
    (knows : Knows recovery ledger)
    (continues : ∀ verified after, Knows recovery after →
      Mirroring (continuation verified) recovery after) :
    Mirroring (Method.mapError change (observation (requestRecovery bgp))
      >>= continuation) recovery ledger := by
  apply Method.Safe.leads_bind knows.observe.leads_mapError
  rintro verified memory after _ ⟨rfl, there⟩
  exact continues verified after there

theorem add_leads {route : Type2Route bgp} (knows : Knows recovery ledger) :
    Mirroring (add (requestRecovery bgp) uuid route) recovery ledger := by
  apply Method.Safe.leads_bind knows.observe
  rintro seen memory first _ ⟨rfl, knows⟩
  apply Method.safe_get_bind.mpr
  apply Method.Safe.refuse_bind (fun _ => knows.throws _)
  intro _
  apply Method.Safe.check_bind (fun reason _ => knows.throws reason)
  intro receipt built
  apply Method.Safe.refuse_bind (fun _ => knows.throws _)
  intro _
  apply Method.Safe.leads_bind knows.announce
  rintro sequence reached second _ ⟨knows, unused, announces⟩
  apply Method.Safe.leads_bind (knows.asks (.add route) (.addPath route)
    ⟨unused, _, announces, built⟩ (fun _ _ same => same))
  rintro id memory third _ ⟨rfl, knows⟩
  apply Method.Safe.refuse_bind (fun _ => knows.throws _)
  intro _
  apply knows.readBack
  intro verified fourth knows
  apply Method.Safe.refuse_bind (fun _ => knows.throws _)
  intro _
  apply Method.Safe.leads_bind (Method.safe_get_bind.mpr knows.commits)
  intro _ last fifth announced mirrors
  exact Method.safe_pure_still_iff.mpr ⟨announced, mirrors⟩

theorem delete_leads {owned : OwnedType2Route}
    (knows : Knows recovery ledger) :
    Mirroring (delete (requestRecovery bgp) owned) recovery ledger := by
  apply Method.Safe.leads_bind knows.observe
  rintro seen memory first _ ⟨rfl, knows⟩
  apply Method.safe_get_bind.mpr
  apply Method.Safe.require_bind (fun _ => knows.throws _)
  intro receipt found
  have member := List.mem_of_getLast? (Option.filter_eq_some_iff.mp found).1
  rw [List.mem_filter, Bool.and_eq_true, beq_iff_eq] at member
  apply Method.Safe.leads_bind knows.announce
  rintro sequence reached second _ ⟨knows, unused, announces⟩
  apply Method.Safe.leads_bind (knows.asks (.delete owned)
    (.deletePath owned) ⟨_, announces, member.2⟩ (fun _ _ same => same))
  rintro _ memory third _ ⟨rfl, knows⟩
  apply knows.readBack
  intro verified fourth knows
  apply Method.Safe.refuse_bind (fun _ => knows.throws _)
  intro _
  exact Method.safe_get_bind.mpr knows.commits

theorem cell_holds : CellHolds environment
    (fun request => RecoveryRequest.send (.journal request))
    (fun before after : Ledger bgp => after = before)
    (fun _ next before after => after = before.wrote next)
    Ledger.disk where
  durable := durable
  kept := fun same => congrArg Ledger.disk same
  stored := fun wrote => congrArg Ledger.disk wrote
  load := by
    intro stable ledger keeps
    apply safe_send (.journal .load) (keeps _ rfl)
    rintro (reason | found) after answered
    · obtain rfl := answered
      exact ⟨keeps _ rfl, rfl, nofun⟩
    · obtain ⟨loaded, rfl⟩ := answered
      refine ⟨keeps _ rfl, rfl, fun value same => ?_⟩
      cases same
      exact loaded

theorem closing_safe {memory journal : Journal ExportDocument}
    {continuation : Except GoError Unit → Method (recoverySignature bgp)
      GoError (Journal ExportDocument) ExportRecovery}
    (announced : Announced ledger)
    (throws : ∀ outcome, ∃ reason, continuation outcome = throw reason) :
    Method.Safe environment Announced
      (fun outcome _ after => after = ledger ∧
        ∀ opened : ExportRecovery, outcome = .ok opened →
          opened.journal = journal)
      (Method.attempt (Journal.close (requestRecovery bgp).store)
        >>= continuation) memory ledger := by
  have keeps : ∀ after : Ledger bgp, after = ledger → Announced after :=
    fun _ same => same ▸ announced
  apply Method.Safe.attempt_bind (Journal.close_safe durable keeps)
  intro outcome reached after _ closed
  obtain ⟨reason, thrown⟩ := throws outcome
  rw [thrown, closed.1]
  refine Method.safe_throw_still_iff.mpr ⟨announced, rfl, ?_⟩
  intro opened impossible
  cases impossible

/-- Opening writes nothing and keeps the journal. -/
theorem openRecovery_safe {journal : Journal ExportDocument}
    (announced : Announced ledger) :
    Method.Safe environment Announced
      (fun outcome _ after => after = ledger ∧ ∀ opened, outcome = .ok opened →
        opened.journal = journal)
      (openRecovery (requestRecovery bgp) uuid) journal ledger := by
  unfold openRecovery
  apply Method.Safe.attempt_bind
    (Journal.snapshot_safe durable (fun _ same => same ▸ announced))
  rintro (reason | value) reached after _ ⟨rfl, read⟩
  · apply closing_safe announced
    rintro (other | _) <;> exact ⟨_, rfl⟩
  · obtain ⟨_, rfl, _⟩ := read
    dsimp only
    split
    · exact Method.safe_get_bind.mpr (Method.safe_pure_still_iff.mpr
        ⟨announced, rfl, fun _ same => by cases same; rfl⟩)
    · apply closing_safe announced
      rintro (other | _) <;> exact ⟨_, rfl⟩

theorem openExportRecovery_leads {domain : Domain}
    (announced : Announced ledger) :
    Method.Safe environment Announced
      (Leads (fun recovery _ after => Mirrors recovery after)
        (fun _ _ _ => True))
      (openExportRecovery bgp uuid domain) () ledger := by
  apply Method.Safe.bind (openCell_leads cell_holds
    (fun _ same => same ▸ announced)
    (fun _ _ wrote => by rw [wrote]; exact announced))
  · rintro journal reached first announced ⟨_, _, written⟩
    apply Method.Safe.leads_call
    apply Interactive.Safe.bind_settled (openRecovery_safe announced)
    intro out after settled later moved
    obtain ⟨announced, same, opens⟩ := settled later moved
    refine ⟨announced, ?_⟩
    obtain ⟨outcome, reached⟩ := out
    cases outcome with
    | error reason => trivial
    | ok recovery =>
        intro _
        rw [opens recovery rfl, same]
        exact written
  · intro reason reached first _ _
    trivial

theorem serve_safe {α : Type}
    {method : Method (recoverySignature bgp) GoError ExportRecovery α}
    {reply : Except GoError α → RecoveryReply}
    (safe : Mirroring method recovery ledger) :
    Interactive.Safe environment Announced
      (fun (out : RecoveryReply × ExportRecovery) after =>
        Mirrors out.2 after ∧ True)
      (method.start recovery >>= fun out => .done (reply out.1, out.2))
      ledger := by
  apply Interactive.Safe.bind_settled safe
  intro out after settled later moved
  obtain ⟨announced, posted⟩ := settled later moved
  obtain ⟨outcome, reached⟩ := out
  refine ⟨announced, ?_, trivial⟩
  cases outcome with
  | ok value => exact posted
  | error reason => exact posted

theorem recoveryProcess_kept :
    Service.Kept (recoveryProcess bgp uuid) environment Announced Mirrors
      (fun _ _ _ _ => True) where
  boot := by
    intro domain ledger announced
    apply Interactive.Safe.bind_settled
      (openExportRecovery_leads announced)
    intro out after settled later moved
    obtain ⟨announced, posted⟩ := settled later moved
    refine ⟨announced, fun memory same => ?_⟩
    obtain ⟨outcome, reached⟩ := out
    cases outcome with
    | error reason => cases same
    | ok recovery =>
        cases same
        exact posted
  serve := by
    intro call recovery ledger announced mirrors
    have knows : Knows recovery ledger := ⟨announced, mirrors⟩
    cases call with
    | recover => exact serve_safe (recover_leads knows)
    | add route => exact serve_safe (add_leads knows)
    | delete owned => exact serve_safe (delete_leads knows)
    | rebind missing =>
        apply serve_safe
        cases missing with
        | true => exact knows.throws _
        | false =>
            exact Method.safe_pure_still_iff.mpr ⟨announced, mirrors⟩
    | close =>
        apply serve_safe
        unfold close
        apply Method.Safe.onPart
        apply (Journal.close_safe durable
          (fun _ same => same ▸ announced)).weaken
        rintro outcome reached after _ ⟨_, rfl⟩
        cases outcome <;> exact fun usable => nomatch usable.1
  drift := fun _ _ _ moved => moved.elim
  liveDrift := fun _ _ _ _ _ moved => moved.elim

end Ledger

/-- At every point of every run, each mutation that the speaker was asked for
was announced on the disk when it was asked for: an addition by an intent with
its wire route that no earlier mutation had used, a deletion by an intent with
its UUID and its endpoint. -/
theorem mutations_announced {bgp : BgpPackage} {uuid : UuidPackage}
    {ledger : Ledger bgp} {phase : (recoveryProcess bgp uuid).Phase}
    (reached : (recoveryProcess bgp uuid).Reachable Ledger.environment
      Ledger.blank (ledger, phase)) :
    ∀ entry ∈ ledger.history, Covered entry :=
  (Ledger.recoveryProcess_kept.reachable reached
    (fun _ listed => nomatch listed)).1

/-- A speaker without paths that acknowledges every request, over a disk that
works. -/
def obliging (ledger : Ledger wireBgp) :
    (request : RecoveryRequest wireBgp) →
      Option (Except GoError request.Result × Ledger wireBgp)
  | .journal .load => some (.ok ledger.disk, ledger)
  | .journal (.write writer next) =>
      some (answering [] (.journal (.write writer next)), ledger.wrote next)
  | .add route =>
      some (answering [] (.add route), ledger.asked (.addPath route))
  | .delete owned =>
      some (answering [] (.delete owned), ledger.asked (.deletePath owned))
  | request => some (answering [] request, ledger)

theorem obliging_answers (ledger : Ledger wireBgp)
    (request : RecoveryRequest wireBgp)
    (reply : Except GoError request.Result) (after : Ledger wireBgp)
    (obliged : obliging ledger request = some (reply, after)) :
    Ledger.environment.answers ledger request reply after := by
  cases request with
  | journal request =>
      cases request with
      | load =>
          cases obliged
          exact ⟨rfl, rfl⟩
      | checkLock => cases obliged; rfl
      | write writer next => cases obliged; rfl
      | release => cases obliged; rfl
  | _ => cases obliged; rfl

/-- An addition is asked for, and announced. -/
theorem mutations_announced_sample : ∃ ledger phase,
    (recoveryProcess wireBgp canonicalUuid).Reachable Ledger.environment
      Ledger.blank (ledger, phase) ∧
    ledger.history.length = 1 ∧
    ∀ entry ∈ ledger.history, Covered entry := by
  obtain ⟨recovery, ledger, tried, once⟩ : ∃ recovery ledger,
      (recoveryProcess wireBgp canonicalUuid).trial obliging sampleDomain
        [.recover, .add sampleRoute] Ledger.blank = some (recovery, ledger) ∧
      ledger.history.length = 1 :=
    ⟨_, _, rfl, rfl⟩
  have reached := Service.reachable_trial obliging_answers tried
  exact ⟨ledger, _, reached, once, mutations_announced reached⟩

end EvpnForOvn.Evpn

import EvpnForOvn.Export.RecoverySpec
import EvpnForOvn.Ownership.JournalCell
import EvpnForOvn.Ownership.Uuid
import EvpnForOvn.Type2.Wire

/-!
# What absence means to `Recover`

`Recover` compares routes by the bytes of their NLRI, which contain the label.
The key of the speaker's table, the text of the NLRI, leaves the label out.  A
local path that occupies the slot of a route with another label is therefore
not a path of that route: `Recover` then releases the route although its slot
is occupied.  The theorem says that these are the only inputs on which it
does.
-/

namespace EvpnForOvn.Evpn

open Interactive Go Ownership ExportRecovery
open Interactive.Method (Leads)

/-- What an export recovery asks of its objects. -/
inductive RecoveryRequest (bgp : BgpPackage) where
  | check
  | incarnation
  | snapshot
  | add (route : Type2Route bgp)
  | delete (owned : OwnedType2Route)
  | journal (request : CellRequest ExportDocument)

@[reducible] def RecoveryRequest.Result {bgp : BgpPackage} :
    RecoveryRequest bgp → Type
  | .check => Unit
  | .incarnation => String
  | .snapshot => List (Type2RIBPath bgp)
  | .add _ => String
  | .delete _ => Unit
  | .journal request => request.Result

abbrev recoverySignature (bgp : BgpPackage) : Signature :=
  { Request := RecoveryRequest bgp
    Reply := fun request => Except GoError request.Result }

abbrev RecoveryLog (bgp : BgpPackage) : Type :=
  List (Event (recoverySignature bgp))

/-- Any reply is possible; the world is the log of the call. -/
abbrev recoveryLogging (bgp : BgpPackage) :
    Environment (recoverySignature bgp) (RecoveryLog bgp) :=
  Environment.logging

def RecoveryRequest.send {bgp : BgpPackage} (request : RecoveryRequest bgp) :
    Program (recoverySignature bgp) (Except GoError request.Result) :=
  .ask request .done

def requestRecovery (bgp : BgpPackage) :
    RecoveryParts bgp (recoverySignature bgp) :=
  { store := cellStore fun request => RecoveryRequest.send (.journal request)
    source := { snapshot := Method.call (RecoveryRequest.send .snapshot) }
    applier :=
      { add := fun route => Method.call (RecoveryRequest.send (.add route))
        delete := fun owned =>
          Method.call (RecoveryRequest.send (.delete owned)) }
    check := RecoveryRequest.send .check
    incarnation := RecoveryRequest.send .incarnation
    fault := none }

variable {bgp : BgpPackage}

/-- The snapshot that an event has read. -/
def snapshotOf : Event (recoverySignature bgp) →
    Option (List (Type2RIBPath bgp))
  | ⟨.snapshot, .ok paths⟩ => some paths
  | _ => none

/-- The record that an event has committed to the disk. -/
def commitOf : Event (recoverySignature bgp) → Option (Record ExportDocument)
  | ⟨.journal (.write (.committing _) record), _⟩ => some record
  | _ => none

def observations (log : RecoveryLog bgp) : List (List (Type2RIBPath bgp)) :=
  log.filterMap snapshotOf

/-- The commits in a log, each with the snapshots before it. -/
def commits (seen : List (List (Type2RIBPath bgp))) :
    RecoveryLog bgp →
      List (List (List (Type2RIBPath bgp)) × Record ExportDocument)
  | [] => []
  | event :: rest =>
      (commitOf event).toList.map (fun record => (seen, record)) ++
        commits (seen ++ (snapshotOf event).toList) rest

theorem observations_concat (log : RecoveryLog bgp)
    (event : Event (recoverySignature bgp)) :
    observations (log ++ [event]) =
      observations log ++ (snapshotOf event).toList := by
  cases read : snapshotOf event with
  | none => simp [observations, read]
  | some paths => simp [observations, read]

theorem commits_concat (seen : List (List (Type2RIBPath bgp)))
    (log : RecoveryLog bgp) (event : Event (recoverySignature bgp)) :
    commits seen (log ++ [event]) =
      commits seen log ++ (commitOf event).toList.map
        (fun record => (seen ++ observations log, record)) := by
  induction log generalizing seen with
  | nil => simp [commits, observations]
  | cons first rest induction =>
      rw [List.cons_append, commits, commits, induction]
      cases read : snapshotOf first with
      | none => simp [observations, read]
      | some paths => simp [observations, read]

/-- Neither a snapshot nor a commit between two logs. -/
def Uneventful (before after : RecoveryLog bgp) : Prop :=
  observations after = observations before ∧
    commits [] after = commits [] before

/-- One write between two logs; only a commit counts. -/
def Writes : Writer → Record ExportDocument → RecoveryLog bgp →
    RecoveryLog bgp → Prop
  | .committing _, next, before, after =>
      observations after = observations before ∧
        commits [] after = commits [] before ++ [(observations before, next)]
  | _, _, before, after => Uneventful before after

theorem Uneventful.trans {first second third : RecoveryLog bgp}
    (before : Uneventful first second) (after : Uneventful second third) :
    Uneventful first third :=
  ⟨after.1.trans before.1, after.2.trans before.2⟩

theorem Writes.after_uneventful {writer : Writer}
    {next : Record ExportDocument} {first second third : RecoveryLog bgp}
    (before : Uneventful first second)
    (wrote : Writes writer next second third) :
    Writes writer next first third := by
  cases writer with
  | committing sequence =>
      refine ⟨wrote.1.trans before.1, ?_⟩
      rw [wrote.2, before.1, before.2]
  | opening => exact before.trans wrote
  | beginning => exact before.trans wrote

theorem Writes.then_uneventful {writer : Writer}
    {next : Record ExportDocument} {first second third : RecoveryLog bgp}
    (wrote : Writes writer next first second)
    (after : Uneventful second third) :
    Writes writer next first third := by
  cases writer with
  | committing sequence =>
      exact ⟨after.1.trans wrote.1, after.2.trans wrote.2⟩
  | opening => exact Uneventful.trans wrote after
  | beginning => exact Uneventful.trans wrote after

/-- What sending one request adds to the log. -/
theorem send_safe {stable : RecoveryLog bgp → Prop}
    (request : RecoveryRequest bgp) {log : RecoveryLog bgp}
    (here : stable log)
    (there : ∀ reply : Except GoError request.Result,
      stable (log ++ [⟨request, reply⟩])) :
    Interactive.Safe (recoveryLogging bgp) stable
      (fun outcome after => after = log ++ [⟨request, outcome⟩])
      request.send log := by
  refine Interactive.Safe.ask_still_iff.mpr ⟨here, ?_⟩
  intro reply after answered
  refine Interactive.Safe.done_still_iff.mpr ⟨?_, answered⟩
  rw [answered]
  exact there reply

theorem uneventful_concat {log : RecoveryLog bgp}
    {event : Event (recoverySignature bgp)} (blind : snapshotOf event = none)
    (silent : commitOf event = none) : Uneventful log (log ++ [event]) := by
  constructor
  · simp [observations_concat, blind]
  · simp [commits_concat, silent]

theorem send_uneventful {stable : RecoveryLog bgp → Prop}
    {request : RecoveryRequest bgp} {log : RecoveryLog bgp}
    (plain : ∀ reply : Except GoError request.Result,
      snapshotOf ⟨request, reply⟩ = none ∧ commitOf ⟨request, reply⟩ = none)
    (keeps : ∀ after, Uneventful log after → stable after) :
    Interactive.Safe (recoveryLogging bgp) stable
      (fun _ after => Uneventful log after) request.send log := by
  apply (send_safe request (keeps log ⟨rfl, rfl⟩) (fun reply => keeps _
    (uneventful_concat (plain reply).1 (plain reply).2))).weaken
  intro outcome after _ posted
  rw [posted]
  exact uneventful_concat (plain outcome).1 (plain outcome).2

theorem requestRecovery_durable :
    (requestRecovery bgp).store.Durable (recoveryLogging bgp) Uneventful
      Writes where
  refl := fun _ => ⟨rfl, rfl⟩
  trans := Uneventful.trans
  writesAfter := Writes.after_uneventful
  writesThen := Writes.then_uneventful
  lock := fun keeps => send_uneventful (fun _ => ⟨rfl, rfl⟩) keeps
  write := by
    intro stable writer next log keeps keepsWritten
    have wrote : ∀ reply : Except GoError Unit, Writes writer next log
        (log ++ [⟨RecoveryRequest.journal (.write writer next), reply⟩]) := by
      intro reply
      cases writer with
      | committing sequence =>
          refine ⟨?_, ?_⟩
          · rw [observations_concat]
            exact List.append_nil _
          · rw [commits_concat]
            rfl
      | opening => exact uneventful_concat rfl rfl
      | beginning => exact uneventful_concat rfl rfl
    apply (send_safe (.journal (.write writer next)) (keeps log ⟨rfl, rfl⟩)
      (fun reply => keepsWritten _ (wrote reply))).weaken
    intro outcome after _ posted
    rw [posted]
    cases outcome with
    | ok value => exact wrote _
    | error reason => exact .inr (wrote _)
  release := fun keeps => send_uneventful (fun _ => ⟨rfl, rfl⟩) keeps
  drift := fun moved => moved.elim

/-- Some local path has the table key of the route. -/
def Occupied (bgp : BgpPackage) (paths : List (Type2RIBPath bgp))
    (route : ExportReceipt) : Prop :=
  ∃ path ∈ paths, path.isLocal = true ∧
    ∃ nlri, path.nlri = some nlri ∧
      wireKey bgp route.owned.endpoint = some (bgp.nlriString nlri)

/-- Some local path has the table key of the route and an NLRI with other
bytes. -/
def Aliased (bgp : BgpPackage) (paths : List (Type2RIBPath bgp))
    (route : ExportReceipt) : Prop :=
  ∃ path ∈ paths, path.isLocal = true ∧
    ∃ nlri, path.nlri = some nlri ∧
      wireKey bgp route.owned.endpoint = some (bgp.nlriString nlri) ∧
      bgp.serializeNLRI nlri ≠ .ok route.nlri

theorem Aliased.occupied {paths : List (Type2RIBPath bgp)}
    {route : ExportReceipt} (aliased : Aliased bgp paths route) :
    Occupied bgp paths route := by
  obtain ⟨path, member, isLocal, nlri, nlriEq, key, _⟩ := aliased
  exact ⟨path, member, isLocal, nlri, nlriEq, key⟩

/-- When no path matches a route, only another route can have its slot. -/
theorem Occupied.aliased {paths : List (Type2RIBPath bgp)}
    {route : ExportReceipt} (occupied : Occupied bgp paths route)
    (absent : matchingExportPaths bgp paths route = []) :
    Aliased bgp paths route := by
  obtain ⟨path, member, isLocal, nlri, nlriEq, key⟩ := occupied
  refine ⟨path, member, isLocal, nlri, nlriEq, key, ?_⟩
  intro same
  have found : path ∈ matchingExportPaths bgp paths route :=
    mem_matchingExportPaths.mpr
      ⟨member, isLocal, hasNLRI_iff.mpr ⟨nlri, nlriEq, same⟩⟩
  rw [absent] at found
  cases found

/-- The outstanding operation of a journal, when `Recover` can read it. -/
def Outstanding (bgp : BgpPackage) (recovery : ExportRecovery)
    (operation : String) (intent : ExportIntent) : Prop :=
  ∃ pending, recovery.journal.record.pending = some pending ∧
    pending.operation = operation ∧
    readIntent bgp pending.payload = .ok intent

/-- The outstanding operation is the deletion of the receipt's UUID. -/
def Withdrawing (bgp : BgpPackage) (recovery : ExportRecovery)
    (receipt : ExportReceipt) : Prop :=
  ∃ intent, Outstanding bgp recovery "export-delete" intent ∧
    intent.route.owned.pathUUID = receipt.owned.pathUUID

/-- The routes that a commit of `Recover` lets go, each with the snapshot that
decided it: the first one, and for an outstanding deletion the last. -/
inductive Releases (bgp : BgpPackage) (recovery : ExportRecovery)
    (record : Record ExportDocument) (first last : List (Type2RIBPath bgp)) :
    ExportReceipt → List (Type2RIBPath bgp) → Prop where
  | discharged {intent : ExportIntent} :
      Outstanding bgp recovery "export-add" intent →
      Releases bgp recovery record first last intent.route first
  | dropped {receipt : ExportReceipt} :
      receipt ∈ recovery.state.receipts →
      receipt ∉ durableReceipts record →
      ¬Withdrawing bgp recovery receipt →
      Releases bgp recovery record first last receipt first
  | withdrawn {receipt : ExportReceipt} :
      receipt ∈ recovery.state.receipts →
      receipt ∉ durableReceipts record →
      Withdrawing bgp recovery receipt →
      Releases bgp recovery record first last receipt last

/-- No route at stake has its slot taken by a path with other bytes: neither
an outstanding addition, nor a receipt without a matching path, nor the
receipt of an outstanding deletion. -/
structure NoAlias (bgp : BgpPackage) (recovery : ExportRecovery)
    (first last : List (Type2RIBPath bgp)) : Prop where
  added : ∀ intent, Outstanding bgp recovery "export-add" intent →
    ¬Aliased bgp first intent.route
  absent : ∀ receipt ∈ recovery.state.receipts,
    ¬Withdrawing bgp recovery receipt →
    matchingExportPaths bgp first receipt = [] → ¬Aliased bgp first receipt
  withdrawn : ∀ receipt ∈ recovery.state.receipts,
    Withdrawing bgp recovery receipt → ¬Aliased bgp last receipt

/-- A commit lets go only routes whose slots are empty, exactly when no route
at stake is aliased. -/
def Judged (bgp : BgpPackage) (recovery : ExportRecovery)
    (seen : List (List (Type2RIBPath bgp)))
    (record : Record ExportDocument) : Prop :=
  ∃ first last, seen.head? = some first ∧ seen.getLast? = some last ∧
    ((∀ route paths, Releases bgp recovery record first last route paths →
      ¬Occupied bgp paths route) ↔ NoAlias bgp recovery first last)

section Committed

variable {uuid : UuidPackage} {recovery : ExportRecovery}
  {first : RIBObservation bgp} {later : List (RIBObservation bgp)}
  {retained : List ExportReceipt} {next : ExportRecoveryState}

/-- The snapshot that decides about an outstanding deletion. -/
def lastPaths (first : RIBObservation bgp)
    (later : List (RIBObservation bgp)) : List (Type2RIBPath bgp) :=
  (later.getLastD first).paths

/-- What a settled state says about the routes of the recovery. -/
structure Decided (bgp : BgpPackage) (recovery : ExportRecovery)
    (first last : List (Type2RIBPath bgp)) (kept : List ExportReceipt) :
    Prop where
  added : ∀ intent, Outstanding bgp recovery "export-add" intent →
    matchingExportPaths bgp first intent.route = []
  dropped : ∀ receipt ∈ recovery.state.receipts,
    ¬Withdrawing bgp recovery receipt →
    (receipt ∉ kept ↔ matchingExportPaths bgp first receipt = [])
  withdrawn : ∀ receipt ∈ recovery.state.receipts,
    Withdrawing bgp recovery receipt →
    receipt ∉ kept ∧ matchingExportPaths bgp last receipt = []

theorem Decided.releases_iff {record : Record ExportDocument}
    {first last : List (Type2RIBPath bgp)}
    (decided : Decided bgp recovery first last (durableReceipts record)) :
    (∀ route paths, Releases bgp recovery record first last route paths →
      ¬Occupied bgp paths route) ↔ NoAlias bgp recovery first last := by
  constructor
  · intro vacant
    constructor
    · intro intent outstanding aliased
      exact vacant _ _ (.discharged outstanding) aliased.occupied
    · intro receipt member staying absent aliased
      have gone := (decided.dropped receipt member staying).mpr absent
      exact vacant _ _ (.dropped member gone staying) aliased.occupied
    · intro receipt member withdrawing aliased
      have gone := (decided.withdrawn receipt member withdrawing).1
      exact vacant _ _ (.withdrawn member gone withdrawing) aliased.occupied
  · intro noAlias route paths released occupied
    cases released with
    | discharged outstanding =>
        exact noAlias.added _ outstanding
          (occupied.aliased (decided.added _ outstanding))
    | dropped member gone staying =>
        have absent := (decided.dropped _ member staying).mp gone
        exact noAlias.absent _ member staying absent
          (occupied.aliased absent)
    | withdrawn member gone withdrawing =>
        exact noAlias.withdrawn _ member withdrawing
          (occupied.aliased (decided.withdrawn _ member withdrawing).2)

/-- A journal has at most one outstanding operation. -/
theorem Outstanding.operation_eq {pending : Intent ExportDocument}
    {operation : String} {intent : ExportIntent}
    (outstanding : Outstanding bgp recovery operation intent)
    (pendingEq : recovery.journal.record.pending = some pending) :
    pending.operation = operation ∧
      readIntent bgp pending.payload = .ok intent := by
  obtain ⟨other, otherEq, named, accepted⟩ := outstanding
  rw [pendingEq] at otherEq
  cases otherEq
  exact ⟨named, accepted⟩

/-- Without an outstanding addition or deletion, only absence drops a
receipt. -/
theorem decided_of_retained {last : List (Type2RIBPath bgp)}
    (retainedEq :
      retainReceipts bgp first recovery.state.receipts = .ok retained)
    (notAdding : ∀ intent, ¬Outstanding bgp recovery "export-add" intent)
    (notDeleting : ∀ receipt, ¬Withdrawing bgp recovery receipt) :
    Decided bgp recovery first.paths last retained where
  added := fun intent outstanding => (notAdding intent outstanding).elim
  dropped := by
    intro receipt member _
    have members := (retainReceipts_eq_ok retainedEq).2.1 receipt member
    rw [members, not_not]
  withdrawn := fun receipt _ withdrawing =>
    (notDeleting receipt withdrawing).elim

theorem decided_of_settled (valid : recovery.state.Valid bgp uuid)
    (retainedEq :
      retainReceipts bgp first recovery.state.receipts = .ok retained)
    (settled : Settled bgp recovery.state first retained
      recovery.journal.record.pending later next) :
    Decided bgp recovery first.paths (lastPaths first later)
      next.receipts := by
  generalize pendingEq : recovery.journal.record.pending = outstanding
    at settled
  cases settled with
  | idle =>
      apply decided_of_retained retainedEq
      · intro intent outstanding
        obtain ⟨pending, same, _⟩ := outstanding
        rw [pendingEq] at same
        cases same
      · intro receipt withdrawing
        obtain ⟨intent, ⟨pending, same, _⟩, _⟩ := withdrawing
        rw [pendingEq] at same
        cases same
  | checkpoint marked =>
      apply decided_of_retained retainedEq
      · intro intent outstanding
        have named := (outstanding.operation_eq pendingEq).1
        rw [marked] at named
        exact absurd named (by decide)
      · intro receipt withdrawing
        obtain ⟨intent, outstanding, _⟩ := withdrawing
        have named := (outstanding.operation_eq pendingEq).1
        rw [marked] at named
        exact absurd named (by decide)
  | added adding accepted absent =>
      have notDeleting : ∀ receipt, ¬Withdrawing bgp recovery receipt := by
        intro receipt withdrawing
        obtain ⟨intent, outstanding, _⟩ := withdrawing
        have named := (outstanding.operation_eq pendingEq).1
        rw [adding] at named
        exact absurd named (by decide)
      constructor
      · intro intent outstanding
        have same := (outstanding.operation_eq pendingEq).2
        rw [accepted] at same
        cases same
        exact absent
      · intro receipt member _
        have members := (retainReceipts_eq_ok retainedEq).2.1 receipt member
        show receipt ∉ retained ↔ _
        rw [members, not_not]
      · intro receipt _ withdrawing
        exact (notDeleting receipt withdrawing).elim
  | @deleted pending intent owner _ deleting accepted member sameID
      samePayload evidence =>
      have withdrawing : ∀ receipt, Withdrawing bgp recovery receipt ↔
          receipt.owned.pathUUID = intent.route.owned.pathUUID := by
        intro receipt
        constructor
        · intro withdrawing
          obtain ⟨other, outstanding, same⟩ := withdrawing
          have read := (outstanding.operation_eq pendingEq).2
          rw [accepted] at read
          cases read
          exact same.symm
        · intro same
          exact ⟨intent, ⟨pending, pendingEq, deleting, accepted⟩, same.symm⟩
      constructor
      · intro other outstanding
        have named := (outstanding.operation_eq pendingEq).1
        rw [deleting] at named
        exact absurd named (by decide)
      · intro receipt receiptMember staying
        have otherID := mt (withdrawing receipt).mpr staying
        have members :=
          (retainReceipts_eq_ok retainedEq).2.1 receipt receiptMember
        rw [mem_withoutExportReceipt, members]
        simp [otherID]
      · intro receipt receiptMember leaving
        have ownID := (withdrawing receipt).mp leaving
        refine ⟨?_, ?_⟩
        · rw [mem_withoutExportReceipt]
          simp [ownID]
        · have same : receipt = owner := valid.eq_of_pathUUID receiptMember
            member (ownID.trans sameID.symm)
          subst same
          rw [matchingExportPaths_congr
            (sameExportPayload_iff.mp samePayload).1]
          rcases evidence with ⟨absent, rfl⟩ | ⟨last, rfl, _, _, absent⟩
          · exact absent
          · exact absent

end Committed

section Runs

variable {uuid : UuidPackage} {recovery : ExportRecovery}

/-- Every commit of the log is judged. -/
def AllJudged (recovery : ExportRecovery) (log : RecoveryLog bgp) : Prop :=
  ∀ entry ∈ commits [] log, Judged bgp recovery entry.1 entry.2

/-- A log with these observations and no commit. -/
def Known (made : List (RIBObservation bgp)) (log : RecoveryLog bgp) : Prop :=
  observations log = made.map RIBObservation.paths ∧ commits [] log = []

theorem Known.allJudged {made : List (RIBObservation bgp)}
    {log : RecoveryLog bgp} (known : Known made log) :
    AllJudged recovery log := by
  intro entry member
  rw [known.2] at member
  cases member

theorem Known.uneventful {made : List (RIBObservation bgp)}
    {before after : RecoveryLog bgp} (known : Known made before)
    (still : Uneventful before after) : Known made after :=
  ⟨still.1.trans known.1, still.2.trans known.2⟩

/-- The first commit, judged by the observations before it. -/
theorem allJudged_of_commit {first : RIBObservation bgp}
    {later : List (RIBObservation bgp)} {sequence : Nat}
    {record : Record ExportDocument} {before after : RecoveryLog bgp}
    (known : Known (first :: later) before)
    (wrote : Writes (.committing sequence) record before after)
    (decided : Decided bgp recovery first.paths (lastPaths first later)
      (durableReceipts record)) :
    AllJudged recovery after := by
  intro entry member
  rw [wrote.2, known.2, known.1] at member
  obtain rfl := List.mem_singleton.mp member
  refine ⟨first.paths, lastPaths first later, rfl, ?_, decided.releases_iff⟩
  cases later with
  | nil => rfl
  | cons second others =>
      simp [lastPaths, List.getLast?_cons, List.getLastD_eq_getLast?]

theorem observing (made : List (RIBObservation bgp)) :
    Observing (recoveryLogging bgp) (AllJudged recovery)
      (requestRecovery bgp) recovery (Known made) (fun _ => Known made)
      (fun value => Known (made ++ [value]))
      (fun value => Known (made ++ [value]))
      (AllJudged recovery) where
  steady := ⟨fun _ _ _ moved => moved.elim, fun _ here => here⟩
  steadySeen := fun _ =>
    ⟨fun _ _ _ moved => moved.elim, fun _ here => here.allJudged⟩
  lostOpened := fun _ here => here.allJudged
  lostNamed := fun _ _ here => here.allJudged
  lostRead := fun _ _ here => here.allJudged
  lostSeen := fun _ _ here => here.allJudged
  check := by
    intro log here
    apply (send_uneventful (fun _ => ⟨rfl, rfl⟩)
      (fun after still => (here.uneventful still).allJudged)).weaken
    intro outcome after _ still
    exact here.uneventful still
  name := by
    intro log here
    apply (send_uneventful (fun _ => ⟨rfl, rfl⟩)
      (fun after still => (here.uneventful still).allJudged)).weaken
    intro outcome after _ still
    exact ⟨here.uneventful still, fun _ _ => here.uneventful still⟩
  snapshot := by
    intro before log _ here
    have read : ∀ reply : Except GoError (List (Type2RIBPath bgp)),
        observations (log ++ [⟨RecoveryRequest.snapshot, reply⟩]) =
            observations log ++ reply.toOption.toList ∧
          commits [] (log ++ [⟨RecoveryRequest.snapshot, reply⟩]) = [] := by
      intro reply
      rw [observations_concat, commits_concat, here.2]
      cases reply with
      | ok paths => exact ⟨rfl, rfl⟩
      | error reason => exact ⟨rfl, rfl⟩
    apply Method.Safe.call
    apply (send_safe .snapshot here.allJudged (fun reply entry member => by
      rw [(read reply).2] at member
      cases member)).weaken
    intro outcome after judged posted
    cases outcome with
    | ok paths =>
        refine ⟨rfl, ?_, ?_⟩
        · rw [posted, (read _).1, here.1]
          simp [Except.toOption]
        · rw [posted]
          exact (read _).2
    | error reason => exact ⟨rfl, judged⟩
  recheck := by
    intro value log here
    apply (send_uneventful (fun _ => ⟨rfl, rfl⟩)
      (fun after still => (here.uneventful still).allJudged)).weaken
    intro outcome after _ still
    exact here.uneventful still
  rename := by
    intro value log here
    apply (send_uneventful (fun _ => ⟨rfl, rfl⟩)
      (fun after still => (here.uneventful still).allJudged)).weaken
    intro outcome after _ still
    exact ⟨here.uneventful still, fun _ => here.uneventful still⟩

theorem recovering (valid : recovery.state.Valid bgp uuid) :
    Recovering (recoveryLogging bgp) (AllJudged recovery)
      (requestRecovery bgp) Uneventful Writes recovery (Known []) Known
      (fun first _ => Known [first]) (fun _ _ _ _ => True)
      (fun _ => AllJudged recovery) where
  durable := requestRecovery_durable
  observe := by
    intro log here
    apply ((observing []).observation_safe here).weaken
    intro outcome reached after _ posted
    cases outcome with
    | ok value => exact posted
    | error reason => exact posted.2
  quietly := fun _ _ _ here still => here.uneventful still
  holds := fun _ _ here => here.allJudged
  refused := fun _ _ _ here _ => here.allJudged
  withdraw := by
    intro first intent pending log here _ _ _ _ _
    apply Method.Safe.call
    apply (send_uneventful (fun _ => ⟨rfl, rfl⟩)
      (fun after still => (here.uneventful still).allJudged)).weaken
    intro outcome after judged still
    cases outcome with
    | ok value => exact ⟨rfl, here.uneventful still⟩
    | error reason => exact judged
  verify := by
    intro first intent log here
    apply ((observing [first]).observation_safe here).weaken
    intro outcome reached after _ posted
    cases outcome with
    | ok value => exact posted
    | error reason => exact posted.2
  torn := fun _ _ judged _ => judged
  unchanged := fun _ _ _ _ _ _ _ _ => trivial
  checkpoint := by
    intro first retained log here _ idle retainedEq after wrote
    have there : Known [first] after := here.uneventful wrote
    refine ⟨there.allJudged, fun _ _ => there.allJudged, ?_⟩
    intro last wroteLast
    have settled : Settled bgp recovery.state first retained
        recovery.journal.record.pending []
        (recoveredState first.incarnation retained) := by
      rw [idle]
      exact .idle
    exact ⟨allJudged_of_commit there wroteLast
      (decided_of_settled valid retainedEq settled), trivial⟩
  commit := by
    intro first later retained pending next log here _ outstanding
      retainedEq settled after wrote
    rw [← outstanding] at settled
    exact ⟨allJudged_of_commit here wrote
      (decided_of_settled valid retainedEq settled), trivial⟩

/-- Every commit in every run of `Recover` lets go only routes whose slots are
empty, exactly when no local path takes the slot of a route at stake with
other NLRI bytes. -/
theorem recover_vacant_slots_iff {events : RecoveryLog bgp}
    {rest : Program (recoverySignature bgp)
      (Except GoError (List OwnedType2Route) × ExportRecovery)}
    {seen : List (List (Type2RIBPath bgp))}
    {record : Record ExportDocument}
    (valid : recovery.state.validate bgp uuid = .ok ())
    (run : Runs (recoveryLogging bgp)
      ((recover (requestRecovery bgp)).start recovery) [] events rest events)
    (committed : (seen, record) ∈ commits [] events) :
    ∃ first last, seen.head? = some first ∧ seen.getLast? = some last ∧
      ((∀ route paths, Releases bgp recovery record first last route paths →
        ¬Occupied bgp paths route) ↔ NoAlias bgp recovery first last) := by
  have started : Known ([] : List (RIBObservation bgp)) [] := ⟨rfl, rfl⟩
  have safe := (recovering
    (ExportRecoveryState.validate_iff.mp valid)).recover_safe started
  exact (safe.along run).holds _ committed

end Runs

def sampleExportReceipt (id : String) : ExportReceipt :=
  { owned := ⟨sampleEndpoint, id⟩
    nlri := Wire.nlriBytes sampleRoute.nlri
    attributes := sampleRoute.pathAttributes.map Wire.attributeBytes
    incarnation := "boot-1" }

def emptyState : ExportRecoveryState :=
  { version := 1
    incarnation := "boot-1"
    receipts := []
    allocated := false }

/-- A recovery whose addition of the sample route is outstanding. -/
def addingRecovery : ExportRecovery :=
  { journal :=
      { record :=
          { version := 1
            domain := sampleDomain
            sequence := 1
            state := .state emptyState
            pending := some
              { sequence := 1
                operation := "export-add"
                payload := .intent ⟨"boot-1", sampleExportReceipt ""⟩ } }
        blocked := none
        closed := false }
    state := emptyState }

/-- The record `Recover` commits once it has discharged the addition. -/
def dischargedRecord : Record ExportDocument :=
  { addingRecovery.journal.record with
    state := .state emptyState
    pending := none }

/-- The path of the sample route, with another label. -/
def relabelledPath : Type2RIBPath wireBgp :=
  { samplePath "" with nlri := some { sampleRoute.nlri with label := 2000 } }

/-- A speaker in good order whose RIB is `paths`. -/
def answering (paths : List (Type2RIBPath wireBgp)) :
    (request : RecoveryRequest wireBgp) → Except GoError request.Result
  | .check => .ok ()
  | .incarnation => .ok "boot-1"
  | .snapshot => .ok paths
  | .add _ => .ok ""
  | .delete _ => .ok ()
  | .journal .checkLock => .ok ()
  | .journal .load => .ok none
  | .journal (.write _ _) => .ok ()
  | .journal .release => .ok ()

def recoveryLog (paths : List (Type2RIBPath wireBgp)) :
    RecoveryLog wireBgp :=
  (((recover (requestRecovery wireBgp)).start addingRecovery).execute
    (Program.logged (answering paths)) []).2

theorem recoveryLog_runs (paths : List (Type2RIBPath wireBgp)) :
    ∃ rest, Runs (recoveryLogging wireBgp)
      ((recover (requestRecovery wireBgp)).start addingRecovery) []
      (recoveryLog paths) rest (recoveryLog paths) := by
  unfold recoveryLog
  exact ⟨_, Program.runs_logged _ _⟩

theorem addingRecovery_outstanding :
    Outstanding wireBgp addingRecovery "export-add"
      ⟨"boot-1", sampleExportReceipt ""⟩ :=
  ⟨_, rfl, rfl, rfl⟩

theorem emptyState_validate :
    emptyState.validate wireBgp canonicalUuid = .ok () :=
  rfl

theorem recover_vacant_slots_iff_sample :
    addingRecovery.state.validate wireBgp canonicalUuid = .ok () ∧
      ([[]], dischargedRecord) ∈ commits [] (recoveryLog []) ∧
      ∃ first last, [[]].head? = some first ∧ [[]].getLast? = some last ∧
        ((∀ route paths, Releases wireBgp addingRecovery dischargedRecord
          first last route paths → ¬Occupied wireBgp paths route) ↔
          NoAlias wireBgp addingRecovery first last) := by
  have committed :
      ([[]], dischargedRecord) ∈ commits [] (recoveryLog []) :=
    List.mem_singleton_self _
  obtain ⟨rest, run⟩ := recoveryLog_runs []
  exact ⟨emptyState_validate, committed,
    recover_vacant_slots_iff emptyState_validate run committed⟩

/-- A local path with the key of the outstanding addition and another label
does not block its discharge. -/
theorem recover_discharges_relabelled :
    addingRecovery.state.validate wireBgp canonicalUuid = .ok () ∧
      (∃ rest, Runs (recoveryLogging wireBgp)
        ((recover (requestRecovery wireBgp)).start addingRecovery) []
        (recoveryLog [relabelledPath]) rest (recoveryLog [relabelledPath])) ∧
      ([[relabelledPath]], dischargedRecord) ∈
        commits [] (recoveryLog [relabelledPath]) ∧
      Releases wireBgp addingRecovery dischargedRecord [relabelledPath]
        [relabelledPath] (sampleExportReceipt "") [relabelledPath] ∧
      Occupied wireBgp [relabelledPath] (sampleExportReceipt "") := by
  refine ⟨emptyState_validate, recoveryLog_runs _,
    List.mem_singleton_self _, .discharged addingRecovery_outstanding, ?_⟩
  refine ⟨relabelledPath, by simp, rfl,
    { sampleRoute.nlri with label := 2000 }, rfl, ?_⟩
  show wireKey wireBgp sampleEndpoint = _
  rw [wireKey_sampleEndpoint]
  exact congrArg some (by decide +kernel)

end EvpnForOvn.Evpn

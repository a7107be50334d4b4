import EvpnForOvn.Lib.Steady
import EvpnForOvn.Ownership.JournalSpec

/-!
# The journal on an atomic cell

The clients of a journal only rely on a disk that holds one record and that
changes in one step.  A cell is such a disk: a write replaces the record, or
fails and may still have replaced it.  The file operations behind it are those
of the journal on its directory.
-/

namespace EvpnForOvn.Ownership

open Interactive Go

variable {signature : Signature} {Raw : Type}

inductive CellRequest (Raw : Type) where
  | checkLock
  | load
  | write (writer : Writer) (next : Record Raw)
  | release

@[reducible] def CellRequest.Result : CellRequest Raw → Type
  | .load => Option (Record Raw)
  | _ => Unit

section Programs

variable (send : (request : CellRequest Raw) →
  Program signature (Except GoError request.Result))

def cellStore : Store signature Raw :=
  { checkLock := send .checkLock
    write := fun writer next => send (.write writer next)
    release := send .release }

/-- The checks `Open` makes on a record. -/
def compatibleRecord (domain : Domain) (record : Record Raw) : Bool :=
  record.version == journalVersion && record.domain == domain &&
    match record.pending with
    | none => true
    | some pending =>
        pending.sequence == record.sequence && record.sequence != 0 &&
          !isBlank pending.operation

/-- The record of a new directory. -/
def blankRecord (null : Raw) (domain : Domain) : Record Raw :=
  ⟨journalVersion, domain, 0, null, none⟩

/-- The journal value of a record that has just been written. -/
def createCell (null : Raw) (domain : Domain) :
    Program signature (Except GoError (Journal Raw)) :=
  let journal : Journal Raw := ⟨blankRecord null domain, none, false⟩
  (Journal.persist (cellStore send) .opening journal.record).start journal
    >>= fun out => .done (out.1.map fun _ => out.2)

/-- `Open`. -/
def openCell {Memory : Type} (null : Raw) (domain : Domain) :
    Method signature GoError Memory (Journal Raw) := do
  match ← Method.call (send .load) with
  | none => Method.call (createCell send null domain)
  | some record => do
      Method.refuse (!compatibleRecord domain record)
        (.blocked "incompatible journal version, domain or operation sequence")
      return ⟨record, none, false⟩

end Programs

section Opening

variable {World Memory : Type} {environment : Environment signature World}
  {stable : World → Prop} {memory : Memory} {world : World}
  {send : (request : CellRequest Raw) →
    Program signature (Except GoError request.Result)}
  {quiet : World → World → Prop}
  {writes : Writer → Record Raw → World → World → Prop}
  {disk : World → Option (Record Raw)} {null : Raw} {domain : Domain}

/-- What a client knows of the cell behind `disk`. -/
structure CellHolds (environment : Environment signature World)
    (send : (request : CellRequest Raw) →
      Program signature (Except GoError request.Result))
    (quiet : World → World → Prop)
    (writes : Writer → Record Raw → World → World → Prop)
    (disk : World → Option (Record Raw)) : Prop where
  durable : (cellStore send).Durable environment quiet writes
  kept : ∀ {before after}, quiet before after → disk after = disk before
  stored : ∀ {writer next before after}, writes writer next before after →
    disk after = some next
  load : ∀ {stable : World → Prop} {world},
    (∀ after, quiet world after → stable after) →
    Safe environment stable
      (fun outcome after => quiet world after ∧
        ∀ found, outcome = .ok found → found = disk world)
      (send .load) world

theorem createCell_safe
    (durable : (cellStore send).Durable environment quiet writes)
    (keeps : ∀ after, quiet world after → stable after)
    (creates : ∀ after, writes .opening (blankRecord null domain) world
      after → stable after) :
    Safe environment stable
      (fun outcome after => ∀ journal, outcome = .ok journal →
        journal = ⟨blankRecord null domain, none, false⟩ ∧
        writes .opening (blankRecord null domain) world after)
      (createCell send null domain) world := by
  apply Safe.bind_settled (Journal.persist_safe durable keeps creates)
  intro out after settled later moved
  obtain ⟨stableLater, _, _, posted⟩ := settled later moved
  refine ⟨stableLater, ?_⟩
  intro journal created
  obtain ⟨outcome, reached⟩ := out
  cases outcome with
  | error reason => cases created
  | ok value =>
      cases created
      exact posted

/-- `Open` returns a value that mirrors the cell. -/
theorem openCell_leads
    (holds : CellHolds environment send quiet writes disk)
    (keeps : ∀ after, quiet world after → stable after)
    (creates : disk world = none → ∀ after,
      writes .opening (blankRecord null domain) world after →
      stable after) :
    Method.Safe environment stable
      (Method.Leads
        (fun journal reached after => reached = memory ∧
          Journal.Usable journal ∧ disk after = some journal.record)
        (fun _ reached _ => reached = memory))
      (openCell send null domain) memory world := by
  have durable := holds.durable
  apply Method.Safe.call_bind _ (holds.load keeps)
  · intro found after _ posted
    obtain ⟨still, found_eq⟩ := posted
    have loaded := found_eq found rfl
    have keepsAfter : ∀ later, quiet after later → stable later :=
      fun later further => keeps later (durable.trans still further)
    cases found with
    | none =>
        apply Method.Safe.leads_call
        apply (createCell_safe durable keepsAfter (fun later wrote =>
          creates loaded.symm later (durable.writesAfter still wrote))).weaken
        intro outcome later _ created
        cases outcome with
        | error reason => rfl
        | ok journal =>
            obtain ⟨rfl, wrote⟩ := created journal rfl
            exact ⟨rfl, ⟨rfl, rfl⟩, holds.stored wrote⟩
    | some record =>
        apply Method.Safe.refuse_bind
        · intro _
          exact Journal.safe_throw durable
            (fun later further => ⟨keepsAfter later further, rfl⟩)
        · intro _
          refine Journal.safe_pure durable (fun later further =>
            ⟨keepsAfter later further, rfl, ⟨rfl, rfl⟩, ?_⟩)
          rw [holds.kept further, holds.kept still, ← loaded]
  · intro reason after _ _
    rfl

end Opening

def sampleDomain : Domain :=
  { installationUID := "installation"
    nodeUID := "node"
    bootID := "boot"
    networkNamespace := "host"
    configDigest := "digest" }

end EvpnForOvn.Ownership

import EvpnForOvn.Ownership.JournalSpec
import EvpnForOvn.Lib.Service

/-!
# The journal on its directory

`Open` and `persist` as the sequences of file operations they perform.  Each
operation may fail, and the process may be killed between any two of them.
The directory holds the lock, the journal file and the temporary file of the
write in progress; a rename replaces the journal file in one step.
-/

namespace EvpnForOvn.Ownership

open Interactive Go

inductive LockReply where
  | opened
  | alreadyExists
  | failed (reason : GoError)

inductive JournalReply where
  | opened
  | missing
  | failed (reason : GoError)

/-- The file operations of `Open` and `persist`.  `boundary` is the fault
injection point of the tests. -/
inductive FileRequest (Raw : Type) where
  | geteuid
  | openDirectory (create : Bool)
  | openLockExclusive
  | openLock
  | secureLock
  | flock
  | checkLock
  | syncLock
  | openJournal
  | secureJournal
  | readJournal
  | boundary (name : String)
  | createTemporary
  | secureTemporary
  | writeTemporary (wrapped : Raw)
  | syncTemporary
  | closeTemporary
  | renameTemporary (writer : Writer)
  | syncDirectory
  | unlinkTemporary
  | closeFiles

@[reducible] def FileRequest.Reply {Raw : Type} : FileRequest Raw → Type
  | .geteuid => Nat
  | .openDirectory _ => Except GoError Bool
  | .openLockExclusive => LockReply
  | .openJournal => JournalReply
  | .readJournal => Except GoError Raw
  | _ => Except GoError Unit

abbrev fileSignature (Raw : Type) : Signature :=
  { Request := FileRequest Raw
    Reply := FileRequest.Reply }

structure Envelope (Raw : Type) where
  record : Raw
  sha256 : String

/-- `encoding/json` on the callers' values and on the two journal types, and
the checksum. -/
structure Codec (Value Raw : Type) where
  null : Raw
  length : Raw → Nat
  digest : Raw → String
  marshalValue : Value → Except GoError Raw
  marshalRecord : Record Raw → Except GoError Raw
  decodeRecord : Raw → Except GoError (Record Raw)
  marshalEnvelope : Envelope Raw → Except GoError Raw
  decodeEnvelope : Raw → Except GoError (Envelope Raw)

section Programs

variable {Value Raw : Type} (codec : Codec Value Raw)

/-- The bytes `persist` writes for a record. -/
def Codec.wrap (next : Record Raw) : Except GoError Raw := do
  let data ← codec.marshalRecord next
  let wrapped ← codec.marshalEnvelope ⟨data, codec.digest data⟩
  if maxJournalSize < codec.length wrapped then
    throw (.new "ownership journal exceeds size bound" "")
  else return wrapped

abbrev FileMethod (Raw α : Type) : Type :=
  Method (fileSignature Raw) GoError Unit α

abbrev FileRequest.ask (request : FileRequest Raw) :
    FileMethod Raw request.Reply :=
  @Method.ask (fileSignature Raw) GoError Unit request

/-- Write and sync the temporary file, while it is open. -/
def fillTemporary (wrapped : Raw) : FileMethod Raw Unit := do
  Method.check (← FileRequest.ask .secureTemporary)
  Method.check (← FileRequest.ask (.writeTemporary wrapped))
  Method.check (← FileRequest.ask (.boundary "before-file-sync"))
  Method.check (← FileRequest.ask .syncTemporary)

/-- Close the temporary file and rename it over the journal. -/
def installTemporary (writer : Writer) : FileMethod Raw Unit := do
  Method.check (← FileRequest.ask .closeTemporary)
  Method.check (← FileRequest.ask (.boundary "before-rename"))
  Method.check (← FileRequest.ask (.renameTemporary writer))
  Method.check (← FileRequest.ask (.boundary "before-directory-sync"))
  Method.check (← FileRequest.ask .syncDirectory)
  Method.check (← FileRequest.ask (.boundary "after-directory-sync"))

/-- What runs once the temporary file exists.  The deferred function closes
it when it is still open and unlinks it, and joins their errors. -/
def replaceJournal (writer : Writer) (wrapped : Raw) :
    FileMethod Raw Unit := do
  let filled ← Method.attempt (fillTemporary wrapped)
  match filled with
  | .error reason => do
      let closed ← FileRequest.ask .closeTemporary
      let unlinked ← FileRequest.ask .unlinkTemporary
      Method.check (GoError.joined
        (GoError.joined (.error reason) closed) unlinked)
  | .ok _ => do
      let installed ← Method.attempt (installTemporary writer)
      let unlinked ← FileRequest.ask .unlinkTemporary
      Method.check (GoError.joined installed unlinked)

def persistFile (writer : Writer) (next : Record Raw) :
    FileMethod Raw Unit := do
  Method.check (← FileRequest.ask .checkLock)
  let wrapped ← Method.check (codec.wrap next)
  Method.check (← FileRequest.ask (.boundary "before-create"))
  Method.check (← FileRequest.ask .createTemporary)
  replaceJournal writer wrapped

def fileStore : Store (fileSignature Raw) Raw :=
  { checkLock := .ask .checkLock .done
    write := fun writer next =>
      (persistFile codec writer next).start () >>= fun out => .done out.1
    release := .ask .closeFiles .done }

/-- The error of a step of `Open`, as `Open` reports it. -/
def blockedBy {α : Type} (what : String) :
    Except GoError α → Except GoError α
  | .ok value => .ok value
  | .error reason => .error (.blocked (what ++ reason.text))

/-- Open the lock of the directory; true when this call created it. -/
def openLockFile (created : Bool) : FileMethod Raw Bool :=
  if created then do
    match ← FileRequest.ask .openLockExclusive with
    | .opened => return true
    | .alreadyExists => do
        Method.check (blockedBy "open journal lock: "
          (← FileRequest.ask .openLock))
        return false
    | .failed reason =>
        throw (.blocked ("open journal lock: " ++ reason.text))
  else do
    Method.check (blockedBy "open journal lock: " (← FileRequest.ask .openLock))
    return false

/-- The checks `Open` makes on a decoded record. -/
def compatible (domain : Domain) (record : Record Raw) : Bool :=
  record.version == journalVersion && record.domain == domain &&
    codec.length record.state != 0 &&
    match record.pending with
    | none => true
    | some pending =>
        pending.sequence == record.sequence && record.sequence != 0 &&
          !isBlank pending.operation && codec.length pending.payload != 0

/-- The record of a journal that has just been created. -/
def initialRecord (domain : Domain) : Record Raw :=
  { version := journalVersion
    domain := domain
    sequence := 0
    state := codec.null
    pending := none }

def createJournal (domain : Domain) : FileMethod Raw (Journal Raw) :=
  let journal : Journal Raw := ⟨initialRecord codec domain, none, false⟩
  Method.call
    ((Journal.persist (fileStore codec) .opening journal.record).start journal
      >>= fun out => .done (out.1.map fun _ => out.2))

def readJournal (domain : Domain) : FileMethod Raw (Journal Raw) := do
  Method.check (blockedBy "ownership journal: "
    (← FileRequest.ask .secureJournal))
  let data ← Method.check (blockedBy "read ownership journal: "
    (← FileRequest.ask .readJournal))
  Method.refuse (maxJournalSize < codec.length data)
    (.blocked "oversized ownership journal")
  let envelope ← Method.check (blockedBy "invalid journal envelope: "
    (codec.decodeEnvelope data))
  Method.refuse (envelope.sha256 ≠ codec.digest envelope.record)
    (.blocked "ownership journal checksum mismatch")
  let record ← Method.check (blockedBy "invalid ownership record: "
    (codec.decodeRecord envelope.record))
  Method.refuse (!compatible codec domain record)
    (.blocked "incompatible journal version, domain or operation sequence")
  return ⟨record, none, false⟩

/-- What `Open` does once it holds the directory. -/
def openHeld (domain : Domain) (create created : Bool) :
    FileMethod Raw (Journal Raw) := do
  let freshLock ← openLockFile created
  Method.check (blockedBy "journal lock: " (← FileRequest.ask .secureLock))
  Method.check (blockedBy "journal owner still active or lock unavailable: "
    (← FileRequest.ask .flock))
  Method.check (← FileRequest.ask .checkLock)
  let synced ← if freshLock then FileRequest.ask .syncLock else pure (.ok ())
  Method.check (blockedBy "sync initial ownership lock: " synced)
  match ← FileRequest.ask .openJournal with
  | .missing =>
      if create && freshLock then createJournal codec domain
      else throw (.blocked "open ownership journal: no such file or directory")
  | .failed reason =>
      throw (.blocked ("open ownership journal: " ++ reason.text))
  | .opened => readJournal codec domain

/-- `Open`. -/
def openJournal (uuid : UuidPackage) (domain : Domain) (create : Bool) :
    FileMethod Raw (Journal Raw) := do
  let euid ← FileRequest.ask .geteuid
  Method.refuse (euid != 0)
    (.blocked "ownership journals require root")
  Method.check (blockedBy "invalid journal domain: " (domain.validate uuid))
  let created ← Method.check (blockedBy "journal directory: "
    (← FileRequest.ask (.openDirectory create)))
  match ← Method.attempt (openHeld codec domain create created) with
  | .ok journal => return journal
  | .error reason =>
      match ← FileRequest.ask .closeFiles with
      | .ok _ => throw reason
      | .error other => throw (reason.join other)

end Programs

/-- The state of the journal directory.  `log` lists the contents the journal
file has had and the methods that put them there, newest first; it is not on
disk. -/
structure Directory (Raw : Type) where
  present : Bool
  lock : Bool
  journal : Option Raw
  temporary : Option Raw
  log : List (Writer × Raw)

namespace Directory

variable {Raw : Type}

def absent : Directory Raw :=
  { present := false
    lock := false
    journal := none
    temporary := none
    log := [] }

/-- What each file operation can answer and change. -/
def Answers (before : Directory Raw) :
    (request : FileRequest Raw) → request.Reply → Directory Raw → Prop
  | .openDirectory _, .ok false, after =>
      before.present = true ∧ after = before
  | .openDirectory create, .ok true, after =>
      create = true ∧ before.present = false ∧
        after = { before with present := true }
  | .openDirectory create, .error _, after =>
      after = before ∨ (create = true ∧ before.present = false ∧
        after = { before with present := true })
  | .openLockExclusive, .opened, after =>
      before.lock = false ∧ after = { before with lock := true }
  | .openLockExclusive, .alreadyExists, after =>
      before.lock = true ∧ after = before
  | .openLock, .ok _, after => before.lock = true ∧ after = before
  | .openJournal, .opened, after =>
      before.journal.isSome = true ∧ after = before
  | .openJournal, .missing, after =>
      before.journal = none ∧ after = before
  | .readJournal, .ok data, after =>
      before.journal = some data ∧ after = before
  | .createTemporary, .ok _, after =>
      ∃ content, after = { before with temporary := some content }
  | .writeTemporary wrapped, .ok _, after =>
      after = { before with temporary := some wrapped }
  | .writeTemporary _, .error _, after =>
      ∃ content, after = { before with temporary := some content }
  | .renameTemporary writer, .ok _, after =>
      ∃ content, before.temporary = some content ∧
        after = { before with
          journal := some content
          temporary := none
          log := (writer, content) :: before.log }
  | .unlinkTemporary, .ok _, after =>
      after = { before with temporary := none }
  | _, _, after => after = before

def environment : Environment (fileSignature Raw) (Directory Raw) :=
  .still Answers

end Directory

/-- The calls on one journal value. -/
inductive JournalCall (Value : Type) where
  | snapshot
  | begin (operation : String) (payload : Value)
  | commit (sequence : Nat) (state : Value)
  | close

inductive JournalResult (Raw : Type) where
  | snapshot (outcome : Except GoError (Raw × Option (Intent Raw)))
  | begun (outcome : Except GoError Nat)
  | committed (outcome : Except GoError Unit)
  | closed (outcome : Except GoError Unit)

section

variable {Value Raw : Type} (codec : Codec Value Raw)

def serveJournal :
    JournalCall Value → Journal Raw →
      Program (fileSignature Raw) (JournalResult Raw × Journal Raw)
  | .snapshot, journal =>
      (Journal.snapshot (fileStore codec)).start journal >>= fun out =>
        .done (.snapshot out.1, out.2)
  | .begin operation payload, journal =>
      (Journal.begin (fileStore codec) operation
        (codec.marshalValue payload)).start journal >>= fun out =>
          .done (.begun out.1, out.2)
  | .commit sequence state, journal =>
      (Journal.commit (fileStore codec) sequence
        (codec.marshalValue state)).start journal >>= fun out =>
          .done (.committed out.1, out.2)
  | .close, journal =>
      (Journal.close (fileStore codec)).start journal >>= fun out =>
        .done (.closed out.1, out.2)

/-- A process that owns the journal: it opens the directory, for any domain,
and then serves calls. -/
def journalService (uuid : UuidPackage) : Service (fileSignature Raw) :=
  { Argument := Domain × Bool
    Memory := Journal Raw
    Call := JournalCall Value
    Result := JournalResult Raw
    boot := fun argument =>
      (openJournal codec uuid argument.1 argument.2).start () >>= fun out =>
        .done out.1.toOption
    serve := serveJournal codec }

end

end EvpnForOvn.Ownership

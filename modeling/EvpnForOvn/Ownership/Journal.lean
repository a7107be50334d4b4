import EvpnForOvn.Lib.Method
import EvpnForOvn.Go.Error
import EvpnForOvn.Go.Text

/-!
# The ownership journal

`Begin` durably records an operation before it is executed and `Commit`
durably records its verified result.  This file has the journal value and its
methods, over any store: how a record reaches the disk is a parameter, so that
the same methods run over single file operations and over a disk that is only
known to change atomically.
-/

namespace EvpnForOvn.Ownership

open Interactive Go

def journalVersion : Nat := 1

/-- `4 << 20` bytes. -/
def maxJournalSize : Nat := 4 * 1024 * 1024

/-- `^uint64(0)` -/
def maxSequence : Nat := 18446744073709551615

/-- What the code uses of `github.com/google/uuid`. -/
structure UuidPackage where
  UUID : Type
  equality : DecidableEq UUID
  zero : UUID
  parse : String → Option UUID
  fromBytes : Bytes → Option UUID
  text : UUID → String

namespace UuidPackage

/-- `id, err := uuid.Parse(value); err != nil || id == uuid.Nil`, negated. -/
def parsesToNonNil (uuid : UuidPackage) (value : String) : Bool :=
  match uuid.parse value with
  | none => false
  | some id => haveI := uuid.equality; id ≠ uuid.zero

end UuidPackage

/-- The installation and the immutable node-local ownership scope. -/
structure Domain where
  installationUID : String
  nodeUID : String
  bootID : String
  networkNamespace : String
  configDigest : String
  deriving DecidableEq, Repr

def Domain.validate (uuid : UuidPackage) (domain : Domain) :
    Except GoError Unit :=
  if [domain.installationUID, domain.nodeUID, domain.bootID].any
      (fun value => !uuid.parsesToNonNil value) then
    .error (.new "installation, node and boot UUIDs are required" "")
  else if isBlank domain.networkNamespace ||
      domain.networkNamespace ≠ trimSpace domain.networkNamespace then
    .error (.new "network namespace identity required" "")
  else
    match hexDecode domain.configDigest.toList with
    | none => .error (.new "configuration SHA-256 required" "")
    | some bytes =>
        if bytes.length ≠ 32 ||
            toLowerASCII domain.configDigest ≠ domain.configDigest then
          .error (.new "configuration SHA-256 required" "")
        else .ok ()

structure Intent (Raw : Type) where
  sequence : Nat
  operation : String
  payload : Raw
  deriving DecidableEq, Repr

/-- `Raw` stands for JSON documents (`json.RawMessage`). -/
structure Record (Raw : Type) where
  version : Nat
  domain : Domain
  sequence : Nat
  state : Raw
  pending : Option (Intent Raw)
  deriving DecidableEq, Repr

/-- The journal value of one process. -/
structure Journal (Raw : Type) where
  record : Record Raw
  blocked : Option GoError
  closed : Bool

/-- Which method writes a record.  The disk does not store it. -/
inductive Writer where
  | opening
  | beginning
  | committing (sequence : Nat)
  deriving DecidableEq, Repr

/-- How a journal verifies its lock, makes a record durable and gives its
files back. -/
structure Store (signature : Signature) (Raw : Type) where
  checkLock : Program signature (Except GoError Unit)
  write : Writer → Record Raw → Program signature (Except GoError Unit)
  release : Program signature (Except GoError Unit)

namespace Journal

variable {signature : Signature} {Raw : Type} (store : Store signature Raw)

def check : Method signature GoError (Journal Raw) Unit := do
  let journal ← get
  Method.refuse journal.closed (.blocked "journal closed")
  match journal.blocked with
  | some reason => throw reason
  | none =>
      match ← Method.attempt (Method.call store.checkLock) with
      | .ok _ => pure ()
      | .error reason => do
          modify fun journal => { journal with blocked := some reason }
          throw reason

/-- A failed write blocks the journal value for good. -/
def persist (writer : Writer) (next : Record Raw) :
    Method signature GoError (Journal Raw) Unit := do
  match ← Method.attempt (Method.call (store.write writer next)) with
  | .ok _ => pure ()
  | .error reason => do
      let blocked := GoError.blocked
        ("durable journal write failed; mutations must stop: " ++ reason.text)
      modify fun journal => { journal with blocked := some blocked }
      throw blocked

def snapshot :
    Method signature GoError (Journal Raw) (Raw × Option (Intent Raw)) := do
  check store
  let journal ← get
  return (journal.record.state, journal.record.pending)

/-- The record `Begin` makes durable. -/
def begun (record : Record Raw) (operation : String) (payload : Raw) :
    Record Raw :=
  { record with
    sequence := record.sequence + 1
    pending := some ⟨record.sequence + 1, operation, payload⟩ }

/-- The record `Commit` makes durable. -/
def committed (record : Record Raw) (state : Raw) : Record Raw :=
  { record with pending := none, state := state }

/-- `payload` is the result of marshalling the caller's value. -/
def begin (operation : String) (payload : Except GoError Raw) :
    Method signature GoError (Journal Raw) Nat := do
  check store
  let journal ← get
  match journal.record.pending with
  | some pending =>
      throw (.blocked ("unresolved " ++ pending.operation ++
        " at sequence " ++ toString pending.sequence ++
        "; operation must be verified before acknowledgement"))
  | none => do
      Method.refuse (isBlank operation || operation ≠ trimSpace operation)
        (.blocked "explicit operation required")
      Method.refuse (journal.record.sequence == maxSequence)
        (.blocked "operation sequence exhausted")
      let data ← Method.check payload
      let next := begun journal.record operation data
      persist store .beginning next
      modify fun journal => { journal with record := next }
      return next.sequence

/-- `Commit` acknowledges exactly the outstanding operation. -/
def commit (sequence : Nat) (state : Except GoError Raw) :
    Method signature GoError (Journal Raw) Unit := do
  check store
  let journal ← get
  Method.refuse (journal.record.pending.map (·.sequence) ≠ some sequence)
    (.blocked "stale or missing operation acknowledgement")
  let data ← Method.check state
  let next := committed journal.record data
  persist store (.committing sequence) next
  modify fun journal => { journal with record := next }

def close : Method signature GoError (Journal Raw) Unit := do
  let journal ← get
  if journal.closed then pure ()
  else do
    modify fun journal => { journal with closed := true }
    Method.call store.release

end Journal

end EvpnForOvn.Ownership

import Mathlib.Data.List.Chain
import EvpnForOvn.Cni.World

/-!
# The acknowledgement state machine

Every record that becomes durable differs from the one before it by one step
of the state machine of an endpoint key.  The invariant has a part about the
records, which holds at every point of a run, and a part about the memory of
the process, which holds between two operations: as long as the journal value
is usable it mirrors the directory, and while nothing is outstanding the map of
endpoints is the durable one.
-/

namespace EvpnForOvn.Nodeagent

open Interactive Go Ownership

def CniDocument.endpoints : CniDocument → GoMap CniEndpointACK
  | .state _ (some endpoints) => endpoints
  | _ => .empty

def durableEndpoints (record : Record CniDocument) : GoMap CniEndpointACK :=
  record.state.endpoints

def durableState (record : Record CniDocument) (key : String) :
    Option AckState :=
  ((durableEndpoints record).get key).map (·.state)

/-- The transitions of one key. -/
inductive Evolves : Option AckState → Option AckState → Prop where
  | stays {state : Option AckState} : Evolves state state
  | created {before : Option AckState} {after : AckState} :
      before = none ∨ before = some .deleted →
      after = .active ∨ after = .pendingCreation →
      Evolves before (some after)
  | activated : Evolves (some .pendingCreation) (some .active)
  | quarantined : Evolves (some .pendingCreation) (some .quarantined)
  | removed {before : AckState} :
      before = .active ∨ before = .pendingCreation ∨ before = .quarantined →
      Evolves (some before) (some .deleted)

/-- Every key makes at most one transition. -/
def Changes (older newer : Record CniDocument) : Prop :=
  ∀ key, Evolves (durableState older key) (durableState newer key)

/-- Readings for an activation never pass the deadline. -/
def Timely (allowed : ClockUse → Nat → Prop) : Prop :=
  ∀ verifyBy reading, allowed (.activation verifyBy) reading →
    reading ≤ verifyBy

/-- What holds of every durable acknowledgement. -/
structure Entry (allowed : ClockUse → Nat → Prop) (uuid : UuidPackage)
    (clock : Nat) (key : String) (ack : CniEndpointACK) : Prop where
  keyed : endpointKey ack.identity = key
  named : ack.state ≠ .unset
  stamped : ack.createdAt ≤ clock
  valid : Timely allowed → validateCNIACK uuid key ack = .ok ()

/-- An acknowledgement in another state, for the same creation. -/
def SameCreation (candidate previous : CniEndpointACK) : Prop :=
  { candidate with
    state := previous.state
    reason := previous.reason
    verifiedAt := previous.verifiedAt } = previous

/-- The intents the service writes. -/
inductive Intended (endpoints : GoMap CniEndpointACK) :
    Intent CniDocument → Prop where
  | adding {sequence : Nat} {payload : CniDocument} :
      Intended endpoints ⟨sequence, "cni-add", payload⟩
  | deleting {sequence : Nat} {payload : CniDocument} :
      Intended endpoints ⟨sequence, "cni-del", payload⟩
  | judging {sequence : Nat} {ack previous : CniEndpointACK} :
      endpoints.get (endpointKey ack.identity) = some previous →
      previous.state = .pendingCreation → SameCreation ack previous →
      Intended endpoints ⟨sequence, "cni-identity", .ack ack⟩

/-- What holds of every record that was durable. -/
structure Settled (allowed : ClockUse → Nat → Prop) (uuid : UuidPackage)
    (clock : Nat) (record : Record CniDocument) : Prop where
  stated : record.state = .null ∨
    ∃ endpoints, record.state = .state 1 (some endpoints)
  entries : ∀ key ack, (durableEndpoints record).get key = some ack →
    Entry allowed uuid clock key ack
  intents : ∀ intent, record.pending = some intent →
    Intended (durableEndpoints record) intent

/-- The invariant of the journal directory. -/
structure Sound (allowed : ClockUse → Nat → Prop) (uuid : UuidPackage)
    (world : CniWorld) : Prop where
  settled : ∀ record ∈ world.history,
    Settled allowed uuid world.clock record
  chained : world.history.IsChain fun newer older => Changes older newer

/-- The memory of a server whose continuity is ready. -/
structure Mirrors (server : CNIServer) : Prop where
  version : server.state.version = 1
  endpoints : server.state.endpoints = durableEndpoints server.journal.record
  stored : ∀ key record, server.store.get key = some record →
    durableState server.journal.record key = some .active ∨
      durableState server.journal.record key = some .pendingCreation

/-- The invariant of the memory between two operations. -/
def Live (server : CNIServer) (world : CniWorld) : Prop :=
  Journal.Usable server.journal →
    world.disk = some server.journal.record ∧
      (server.journal.record.pending = none → Mirrors server)

structure Standing (server : CNIServer) (world : CniWorld) : Prop where
  usable : Journal.Usable server.journal
  disk : world.disk = some server.journal.record
  noPending : server.journal.record.pending = none
  mirrors : Mirrors server

section Invariant

variable {allowed : ClockUse → Nat → Prop} {uuid : UuidPackage}
  {world after : CniWorld} {record : Record CniDocument} {server : CNIServer}
  {key : String} {ack : CniEndpointACK}

theorem Entry.later {clock later : Nat}
    (entry : Entry allowed uuid clock key ack) (passed : clock ≤ later) :
    Entry allowed uuid later key ack :=
  ⟨entry.keyed, entry.named, Nat.le_trans entry.stamped passed, entry.valid⟩

theorem Settled.later {clock later : Nat}
    (settled : Settled allowed uuid clock record) (passed : clock ≤ later) :
    Settled allowed uuid later record :=
  ⟨settled.stated,
    fun key ack found => (settled.entries key ack found).later passed,
    settled.intents⟩

theorem Sound.since (sound : Sound allowed uuid world)
    (passed : CniWorld.Since world after) : Sound allowed uuid after := by
  obtain ⟨same, later⟩ := passed
  refine ⟨?_, ?_⟩
  · intro record member
    rw [same] at member
    exact (sound.settled record member).later later
  · rw [same]
    exact sound.chained

theorem Sound.onDisk (sound : Sound allowed uuid world)
    (disk : world.disk = some record) :
    Settled allowed uuid world.clock record :=
  sound.settled record (List.mem_of_mem_head? disk)

theorem Live.since (live : Live server world)
    (passed : CniWorld.Since world after) : Live server after := by
  intro usable
  have held := live usable
  unfold CniWorld.disk at held ⊢
  rw [passed.1]
  exact held

theorem Standing.live (standing : Standing server world) :
    Live server world :=
  fun _ => ⟨standing.disk, fun _ => standing.mirrors⟩

theorem Standing.since (standing : Standing server world)
    (passed : CniWorld.Since world after) : Standing server after := by
  refine ⟨standing.usable, ?_, standing.noPending, standing.mirrors⟩
  have disk := standing.disk
  unfold CniWorld.disk at disk ⊢
  rw [passed.1]
  exact disk

/-- A journal value that cannot write any more says nothing. -/
theorem live_of_blocked (blocked : server.journal.blocked.isSome = true) :
    Live server world := by
  intro usable
  rw [usable.2] at blocked
  cases blocked

/-- While an intent is outstanding, only the directory is mirrored. -/
theorem live_of_pending (disk : world.disk = some server.journal.record)
    (outstanding : server.journal.record.pending ≠ none) :
    Live server world :=
  fun _ => ⟨disk, fun none => absurd none outstanding⟩

/-- A lost lock changes nothing but the journal value. -/
theorem Live.sameButBlocked {journal : Journal CniDocument}
    (live : Live server world)
    (same : Journal.SameButBlocked server.journal journal) :
    Live { server with journal := journal } world := by
  obtain ⟨sameRecord, sameClosed, keptBlocked⟩ := same
  intro usable
  have blocked : server.journal.blocked = none := by
    cases reason : server.journal.blocked with
    | none => rfl
    | some text =>
        have kept := keptBlocked (by rw [reason]; rfl)
        have clear : journal.blocked = none := usable.2
        rw [clear, reason] at kept
        cases kept
  have usableBefore : Journal.Usable server.journal :=
    ⟨sameClosed.symm.trans usable.1, blocked⟩
  obtain ⟨disk, mirrors⟩ := live usableBefore
  have recordEq : journal.record = server.journal.record := sameRecord
  refine ⟨by rw [disk]; exact congrArg some recordEq.symm, ?_⟩
  intro noPending
  have mirrored := mirrors (by rw [← recordEq]; exact noPending)
  refine ⟨mirrored.version, ?_, ?_⟩
  · show server.state.endpoints = durableEndpoints journal.record
    rw [recordEq]
    exact mirrored.endpoints
  · show ∀ key stored, server.store.get key = some stored →
      durableState journal.record key = some .active ∨
        durableState journal.record key = some .pendingCreation
    rw [recordEq]
    exact mirrored.stored

theorem Changes.of_state_eq {older newer : Record CniDocument}
    (same : newer.state = older.state) : Changes older newer := by
  intro key
  unfold durableState durableEndpoints
  rw [same]
  exact .stays

theorem Sound.written {next : Record CniDocument}
    (sound : Sound allowed uuid world)
    (settled : Settled allowed uuid world.clock next)
    (changes : ∀ older, world.disk = some older → Changes older next) :
    Sound allowed uuid (world.written next) := by
  refine ⟨?_, ?_⟩
  · intro record member
    rcases List.mem_cons.mp member with rfl | older
    · exact settled
    · exact sound.settled record older
  · apply List.isChain_cons.mpr
    exact ⟨fun older head => changes older head, sound.chained⟩

theorem Sound.begun {operation : String} {payload : CniDocument}
    (sound : Sound allowed uuid world) (disk : world.disk = some record)
    (intended : Intended (durableEndpoints record)
      ⟨record.sequence + 1, operation, payload⟩) :
    Sound allowed uuid
      (world.written (Journal.begun record operation payload)) := by
  have settled := sound.onDisk disk
  apply sound.written
  · refine ⟨settled.stated, settled.entries, ?_⟩
    intro intent outstanding
    cases outstanding
    exact intended
  · intro older head
    rw [disk] at head
    cases head
    exact Changes.of_state_eq rfl

theorem Sound.committed (sound : Sound allowed uuid world)
    (disk : world.disk = some record)
    (entry : Entry allowed uuid world.clock key ack)
    (evolves : Evolves (durableState record key) (some ack.state)) :
    Sound allowed uuid (world.written (Journal.committed record
      (.state 1 (some ((durableEndpoints record).set key ack))))) := by
  have settled := sound.onDisk disk
  apply sound.written
  · refine ⟨.inr ⟨_, rfl⟩, ?_, ?_⟩
    · intro other found member
      change ((durableEndpoints record).set key ack).get other =
        some found at member
      rw [GoMap.get_set] at member
      split at member
      · rename_i same
        cases member
        rw [same]
        exact entry
      · exact settled.entries other found member
    · intro intent impossible
      cases impossible
  · intro older head other
    rw [disk] at head
    cases head
    show Evolves (durableState record other)
      ((((durableEndpoints record).set key ack).get other).map (·.state))
    rw [GoMap.get_set]
    split
    · rename_i same
      rw [same]
      exact evolves
    · exact .stays

theorem Sound.recommitted {endpoints : GoMap CniEndpointACK}
    (sound : Sound allowed uuid world) (disk : world.disk = some record)
    (same : endpoints = durableEndpoints record) :
    Sound allowed uuid (world.written (Journal.committed record
      (.state 1 (some endpoints)))) := by
  subst same
  have settled := sound.onDisk disk
  apply sound.written
  · refine ⟨.inr ⟨_, rfl⟩, settled.entries, ?_⟩
    intro intent impossible
    cases impossible
  · intro older head other
    rw [disk] at head
    cases head
    exact .stays

theorem durableState_of_get
    (found : (durableEndpoints record).get key = some ack) :
    durableState record key = some ack.state := by
  unfold durableState
  rw [found]
  rfl

theorem mirrors_committed {before : Record CniDocument}
    {journal : Journal CniDocument} {store : GoMap EndpointRecord}
    {stopping : Bool} (mirrors : Mirrors server)
    (recordEq : journal.record = Journal.committed before (.state 1
      (some ((durableEndpoints server.journal.record).set key ack))))
    (stored : ∀ other found, store.get other = some found →
      (other ≠ key ∧ ∃ old, server.store.get other = some old) ∨
        other = key ∧
          (ack.state = .active ∨ ack.state = .pendingCreation)) :
    Mirrors
      { stopping := stopping
        journal := journal
        state := ⟨1, (durableEndpoints server.journal.record).set key ack⟩
        store := store } := by
  refine ⟨rfl, by rw [recordEq]; rfl, ?_⟩
  intro other found member
  show durableState journal.record other = some .active ∨
    durableState journal.record other = some .pendingCreation
  have reads : durableState journal.record other =
      (((durableEndpoints server.journal.record).set key ack).get other).map
        (·.state) := by
    rw [recordEq]
    rfl
  rw [reads, GoMap.get_set]
  rcases stored other found member with ⟨different, old, kept⟩ | ⟨rfl, fresh⟩
  · rw [if_neg different]
    exact mirrors.stored other old kept
  · rw [if_pos rfl]
    rcases fresh with active | pending
    · exact .inl (congrArg some active)
    · exact .inr (congrArg some pending)

end Invariant

section Journaled

variable {Route : Type} {allowed : ClockUse → Nat → Prop}
  {uuid : UuidPackage} {stable : CniWorld → Prop} {world : CniWorld}
  {server : CNIServer}

open CniWorld (environment)

theorem onJournal_safe {α : Type}
    {method : Store (cniSignature Route) CniDocument →
      Method (cniSignature Route) GoError (Journal CniDocument) α}
    {post : Except GoError α → CNIServer → CniWorld → Prop}
    (safe : Method.Safe (environment allowed) stable
      (fun outcome journal after =>
        post outcome { server with journal := journal } after)
      (method (cellStore cniJournal)) server.journal world) :
    Method.Safe (environment allowed) stable post (onJournal method) server
      world := by
  unfold onJournal
  exact Method.Safe.onPart safe

/-- `ready` changes nothing, and passes only a server that stands. -/
theorem ready_safe (keeps : stable world) (live : Live server world) :
    Method.Safe (environment allowed) stable
      (Method.Leads
        (fun _ reached after => reached = server ∧ after = world ∧
          Standing server world)
        (fun _ reached after => after = world ∧ Live reached world))
      (ready : CniMethod Route Unit) server world := by
  have snapshot : Method.Safe (environment allowed) stable
      (Method.Leads
        (fun value reached after => reached = server ∧ after = world ∧
          Journal.Usable server.journal ∧
          value.2 = server.journal.record.pending)
        (fun _ reached after => after = world ∧ Live reached world))
      (onJournal Journal.snapshot :
        CniMethod Route (CniDocument × Option (Intent CniDocument)))
      server world := by
    apply onJournal_safe
    apply (Journal.snapshot_safe CniWorld.cell_holds.durable
      (fun after same => by rw [same]; exact keeps)).weaken
    intro outcome journal after _ posted
    obtain ⟨same, posted⟩ := posted
    cases outcome with
    | error reason => exact ⟨same, live.sameButBlocked posted⟩
    | ok value =>
        obtain ⟨usable, rfl, rfl⟩ := posted
        exact ⟨rfl, same, usable, rfl⟩
  apply Method.Safe.leads_bind snapshot
  intro value reached after _ posted
  obtain ⟨rfl, rfl, usable, pendingEq⟩ := posted
  obtain ⟨disk, mirrors⟩ := live usable
  cases outstanding : value.2 with
  | some pending =>
      exact Method.safe_throw_still_iff.mpr ⟨keeps, rfl, live⟩
  | none =>
      rw [outstanding] at pendingEq
      exact Method.safe_pure_still_iff.mpr ⟨keeps, rfl, rfl,
        usable, disk, pendingEq.symm, mirrors pendingEq.symm⟩

/-- A live server whose journal is replaced holds the new record, or stays
live. -/
theorem replaced_live {α : Type} {writer : Writer}
    {next : CniDocument → Record CniDocument} {document : CniDocument}
    {ready : Prop} {value : α}
    {method : Store (cniSignature Route) CniDocument →
      Method (cniSignature Route) GoError (Journal CniDocument) α}
    (live : Live server world)
    (safe : Method.Safe (environment allowed) stable
      (Journal.Replaced (fun before after => after = before)
        (fun _ record before after => after = before.written record) writer
        next (.ok document) ready server.journal world value)
      (method (cellStore cniJournal)) server.journal world) :
    Method.Safe (environment allowed) stable
      (Method.Leads
        (fun _ reached after =>
          reached = { server with
            journal := { server.journal with record := next document } } ∧
          after = world.written (next document))
        (fun _ => Live))
      (onJournal method) server world := by
  apply onJournal_safe
  apply safe.weaken
  intro outcome journal after _ posted
  rcases posted with unchanged | ⟨data, same, _, wrote⟩
  · obtain ⟨⟨reason, rfl⟩, rfl, sameButBlocked⟩ := unchanged
    exact live.sameButBlocked sameButBlocked
  · cases same
    cases wrote with
    | torn _ _ _ blocked => exact live_of_blocked blocked
    | written wrote => exact ⟨rfl, wrote⟩

def afterBegin (server : CNIServer) (operation : String)
    (payload : CniDocument) : CNIServer :=
  { server with
    journal :=
      { server.journal with
        record := Journal.begun server.journal.record operation payload } }

theorem begin_live {operation : String} {payload : CniDocument}
    (sound : Sound allowed uuid world) (standing : Standing server world)
    (intended : Intended (durableEndpoints server.journal.record)
      ⟨server.journal.record.sequence + 1, operation, payload⟩) :
    Method.Safe (environment allowed) (Sound allowed uuid)
      (Method.Leads
        (fun _ reached after =>
          reached = afterBegin server operation payload ∧
          after = world.written
            (Journal.begun server.journal.record operation payload))
        (fun _ => Live))
      (onJournal fun store =>
        Journal.begin store operation (.ok payload) : CniMethod Route Nat)
      server world := by
  apply replaced_live standing.live
  apply Journal.begin_safe CniWorld.cell_holds.durable
  · intro after same
    rw [same]
    exact sound
  · intro _ data same after wrote
    cases same
    rw [wrote]
    exact sound.begun standing.disk intended

def afterCommit (server : CNIServer) (document : CniDocument) : CNIServer :=
  { server with
    journal :=
      { server.journal with
        record := Journal.committed server.journal.record document } }

theorem commit_live {sequence : Nat} {document : CniDocument}
    (sound : Sound allowed uuid world)
    (disk : world.disk = some server.journal.record)
    (outstanding : server.journal.record.pending ≠ none)
    (soundWritten : Sound allowed uuid (world.written
      (Journal.committed server.journal.record document))) :
    Method.Safe (environment allowed) (Sound allowed uuid)
      (Method.Leads
        (fun _ reached after => reached = afterCommit server document ∧
          after = world.written
            (Journal.committed server.journal.record document))
        (fun _ => Live))
      (onJournal fun store =>
        Journal.commit store sequence (.ok document) : CniMethod Route Unit)
      server world := by
  apply replaced_live (live_of_pending disk outstanding)
  apply Journal.commit_safe CniWorld.cell_holds.durable
  · intro after same
    rw [same]
    exact sound
  · intro _ data same after wrote
    cases same
    rw [wrote]
    exact soundWritten

end Journaled

end EvpnForOvn.Nodeagent

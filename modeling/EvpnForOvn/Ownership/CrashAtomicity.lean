import EvpnForOvn.Ownership.JournalDisk

/-!
# Crash atomicity of the journal

Over any sequence of opens, calls and crashes on one directory, the journal
file holds a history of records.  A live journal value either agrees with the
file or is blocked.
-/

namespace EvpnForOvn.Ownership

open Interactive Go

variable {Value Raw : Type} {codec : Codec Value Raw} {uuid : UuidPackage}

namespace Directory

def record (codec : Codec Value Raw) (directory : Directory Raw) :
    Option (Record Raw) :=
  directory.journal.bind codec.read

/-- The sequences of the intents written so far, newest first. -/
def intents (codec : Codec Value Raw) (directory : Directory Raw) :
    List Nat :=
  directory.log.filterMap fun logged =>
    if logged.1 = .beginning then
      (codec.read logged.2).map (·.sequence)
    else none

/-- The log spells out a history, and the file holds its newest record. -/
def Spells (codec : Codec Value Raw) (directory : Directory Raw)
    (history : List (Writer × Record Raw)) : Prop :=
  directory.journal = directory.log.head?.map (·.2) ∧
    List.Forall₂ (fun logged entry => logged.1 = entry.1 ∧
      codec.read logged.2 = some entry.2) directory.log history

/-- The invariant of the directory, from a point where its log was `base`. -/
def Stable (codec : Codec Value Raw) (base : List (Writer × Raw))
    (directory : Directory Raw) : Prop :=
  base <:+ directory.log ∧
    ∃ history, History codec history ∧ directory.Spells codec history

variable {before after directory : Directory Raw}
  {base : List (Writer × Raw)} {history : List (Writer × Record Raw)}
  {record : Record Raw}

theorem record_quiet (still : Quiet before after) :
    after.record codec = before.record codec := by
  rw [Directory.record, still.1, Directory.record]

theorem record_writes {writer : Writer} (faithful : codec.Faithful)
    (written : codec.RecordWritten record)
    (wrote : Writes codec writer record before after) :
    after.record codec = some record := by
  obtain ⟨wrapped, wrappedEq, journal, _⟩ := wrote
  rw [Directory.record, journal]
  exact faithful.read_wrap written wrappedEq

theorem Spells.quiet (spells : before.Spells codec history)
    (still : Quiet before after) : after.Spells codec history := by
  unfold Spells at spells ⊢
  rw [still.1, still.2]
  exact spells

theorem Spells.writes {writer : Writer} (faithful : codec.Faithful)
    (spells : before.Spells codec history)
    (written : codec.RecordWritten record)
    (wrote : Writes codec writer record before after) :
    after.Spells codec ((writer, record) :: history) := by
  obtain ⟨wrapped, wrappedEq, journal, log⟩ := wrote
  unfold Spells
  rw [journal, log]
  exact ⟨rfl, .cons ⟨rfl, faithful.read_wrap written wrappedEq⟩ spells.2⟩

theorem Spells.newest (spells : directory.Spells codec history)
    (found : directory.record codec = some record) :
    ∃ writer older, history = (writer, record) :: older := by
  obtain ⟨journal, entries⟩ := spells
  rw [Directory.record, journal] at found
  generalize directory.log = log at found entries
  cases entries with
  | nil => simp at found
  | @cons logged entry _ older same _ =>
      have sameRecord : entry.2 = record := by
        simpa [same.2] using found
      exact ⟨entry.1, older, by rw [← sameRecord]⟩

theorem Spells.empty (spells : directory.Spells codec history)
    (missing : directory.journal = none) : history = [] := by
  obtain ⟨journal, entries⟩ := spells
  rw [missing] at journal
  generalize directory.log = log at journal entries
  cases entries with
  | nil => rfl
  | cons _ _ => simp_all

theorem Spells.intents_eq (spells : directory.Spells codec history) :
    directory.intents codec = History.intents history := by
  obtain ⟨_, entries⟩ := spells
  unfold Directory.intents History.intents
  generalize directory.log = log at entries
  induction entries with
  | nil => rfl
  | cons same _ induction =>
      simp only [List.filterMap_cons, same.1, same.2, Option.map_some,
        induction]

theorem Stable.quiet (stable : Stable codec base before)
    (still : Quiet before after) : Stable codec base after := by
  obtain ⟨suffix, history, past, spells⟩ := stable
  exact ⟨still.2 ▸ suffix, history, past, spells.quiet still⟩

/-- Writing a record that continues the history keeps the invariant. -/
theorem Stable.writes {writer : Writer} (faithful : codec.Faithful)
    (stable : Stable codec base before)
    (continues : ∀ history, History codec history →
      before.Spells codec history →
      History codec ((writer, record) :: history))
    (wrote : Writes codec writer record before after) :
    Stable codec base after := by
  obtain ⟨suffix, history, past, spells⟩ := stable
  have longer := continues history past spells
  refine ⟨?_, (writer, record) :: history, longer,
    spells.writes faithful (longer.recordWritten _ List.mem_cons_self) wrote⟩
  obtain ⟨wrapped, _, _, log⟩ := wrote
  rw [log]
  exact suffix.trans (List.suffix_cons _ _)

end Directory

open Directory

/-- What one call can do to the directory. -/
inductive Effect (codec : Codec Value Raw) (journal : Journal Raw)
    (world : Directory Raw) : JournalCall Value → Directory Raw → Prop where
  | still {call : JournalCall Value} {after : Directory Raw} :
      Quiet world after → Effect codec journal world call after
  | begun {operation : String} {payload : Value} {data : Raw}
      {after : Directory Raw} :
      journal.blocked = none → journal.record.pending = none →
      codec.marshalValue payload = .ok data →
      Writes codec .beginning (Journal.begun journal.record operation data)
        world after →
      Effect codec journal world (.begin operation payload) after
  | committed {pending : Intent Raw} {state : Value} {data : Raw}
      {after : Directory Raw} :
      journal.blocked = none → journal.record.pending = some pending →
      codec.marshalValue state = .ok data →
      Writes codec (.committing pending.sequence)
        (Journal.committed journal.record data) world after →
      Effect codec journal world (.commit pending.sequence state) after

/-- A value that is not blocked agrees with the disk. -/
def Agrees (codec : Codec Value Raw) (journal : Journal Raw)
    (directory : Directory Raw) : Prop :=
  journal.blocked = none → directory.record codec = some journal.record

/-- What a call that has returned leaves behind. -/
structure Settled (codec : Codec Value Raw) (journal : Journal Raw)
    (world : Directory Raw) (call : JournalCall Value)
    (result : JournalResult Raw) (reached : Journal Raw)
    (after : Directory Raw) : Prop where
  memory : reached.blocked = none → journal.blocked = none ∧
    (reached.record = journal.record ∧ Quiet world after ∨
      (codec.RecordWritten journal.record →
        codec.RecordWritten reached.record) ∧
      ∃ writer, Writes codec writer reached.record world after)
  snapshot : ∀ value, result = .snapshot (.ok value) →
    journal.blocked = none ∧
      value = (journal.record.state, journal.record.pending)
  begun : ∀ operation payload sequence, call = .begin operation payload →
    result = .begun (.ok sequence) →
    ∃ data, codec.marshalValue payload = .ok data ∧
      sequence = journal.record.sequence + 1 ∧
      reached.record = Journal.begun journal.record operation data ∧
      reached.blocked = none
  failed : ∀ reason,
    (result = .begun (.error reason) ∨ result = .committed (.error reason)) →
    reached.blocked.isSome = true ∨ reached = journal ∧ Quiet world after

section Serving

variable {journal reached : Journal Raw} {world after : Directory Raw}

theorem sameButBlocked_memory (same : Journal.SameButBlocked journal reached)
    (unblocked : reached.blocked = none) : reached = journal := by
  obtain ⟨sameRecord, sameClosed, sameBlocked⟩ := same
  have unblockedBefore : journal.blocked = none := by
    cases blocked : journal.blocked with
    | none => rfl
    | some reason =>
        rw [sameBlocked (by simp [blocked]), blocked] at unblocked
        cases unblocked
  cases journal
  cases reached
  simp_all

/-- A result that reports no success of `Snapshot` or `Begin`. -/
def Unsuccessful (result : JournalResult Raw) : Prop :=
  (∀ value, result ≠ .snapshot (.ok value)) ∧
    ∀ sequence, result ≠ .begun (.ok sequence)

theorem Settled.unchanged {call : JournalCall Value}
    {result : JournalResult Raw} (unsuccessful : Unsuccessful result)
    (still : Quiet world after)
    (same : Journal.SameButBlocked journal reached) :
    Settled codec journal world call result reached after where
  memory unblocked := by
    obtain rfl := sameButBlocked_memory same unblocked
    exact ⟨unblocked, .inl ⟨rfl, still⟩⟩
  snapshot value resultEq := absurd resultEq (unsuccessful.1 value)
  begun _ _ sequence _ resultEq := absurd resultEq (unsuccessful.2 sequence)
  failed _ _ := by
    cases blocked : reached.blocked with
    | some reason => exact .inl rfl
    | none => exact .inr ⟨sameButBlocked_memory same blocked, still⟩

theorem Settled.torn {call : JournalCall Value}
    {result : JournalResult Raw} (unsuccessful : Unsuccessful result)
    (blocked : reached.blocked.isSome = true) :
    Settled codec journal world call result reached after where
  memory unblocked := by
    rw [unblocked] at blocked
    cases blocked
  snapshot value resultEq := absurd resultEq (unsuccessful.1 value)
  begun _ _ sequence _ resultEq := absurd resultEq (unsuccessful.2 sequence)
  failed _ _ := .inl blocked

theorem serve_safe (call : JournalCall Value) (journal : Journal Raw)
    (world : Directory Raw) :
    Interactive.Safe environment (Effect codec journal world call)
      (fun out after => Settled codec journal world call out.1 out.2 after)
      (serveJournal codec call journal) world := by
  cases call with
  | snapshot =>
      apply Interactive.Safe.bind (Journal.snapshot_safe fileStore_durable
        (fun after still => .still still))
      rintro ⟨reason | value, reached⟩ after stableAfter posted
      · exact Interactive.Safe.done_still_iff.mpr ⟨stableAfter,
          .unchanged ⟨by simp, by simp⟩ posted.1 posted.2⟩
      · refine Interactive.Safe.done_still_iff.mpr ⟨stableAfter, ?_⟩
        obtain ⟨still, usable, same, valueEq⟩ := posted
        cases same
        refine ⟨fun unblocked => ⟨unblocked, .inl ⟨rfl, still⟩⟩, ?_, by simp,
          by simp⟩
        rintro _ resultEq
        cases resultEq
        exact ⟨usable.2, valueEq⟩
  | begin operation payload =>
      apply Interactive.Safe.bind (Journal.begin_safe fileStore_durable
        (fun after still => .still still)
        (fun ready data marshalled after wrote =>
          .begun ready.usable.2 ready.noPending marshalled wrote))
      rintro ⟨outcome, reached⟩ after stableAfter posted
      refine Interactive.Safe.done_still_iff.mpr ⟨stableAfter, ?_⟩
      rcases posted with ⟨⟨reason, rfl⟩, still, same⟩ |
        ⟨data, marshalled, ready, wrote⟩
      · exact .unchanged ⟨by simp, by simp⟩ still same
      · cases wrote with
        | torn wrote _ _ blocked =>
            exact .torn ⟨by simp, by simp⟩ blocked
        | written wrote =>
            have written : codec.RecordWritten journal.record →
                codec.RecordWritten
                  (Journal.begun journal.record operation data) := by
              rintro ⟨state, _⟩
              refine ⟨state, fun pending same => ?_⟩
              cases same
              exact .inr ⟨_, marshalled⟩
            refine ⟨fun unblocked => ⟨unblocked, .inr ⟨written, _, wrote⟩⟩,
              by simp, ?_, by simp⟩
            rintro _ _ sequence callEq resultEq
            cases callEq
            cases resultEq
            exact ⟨data, marshalled, rfl, rfl, ready.usable.2⟩
  | commit sequence state =>
      apply Interactive.Safe.bind (Journal.commit_safe fileStore_durable
        (fun after still => .still still) ?_)
      · rintro ⟨outcome, reached⟩ after stableAfter posted
        refine Interactive.Safe.done_still_iff.mpr ⟨stableAfter, ?_⟩
        rcases posted with ⟨⟨reason, rfl⟩, still, same⟩ |
          ⟨data, marshalled, ready, wrote⟩
        · exact .unchanged ⟨by simp, by simp⟩ still same
        · cases wrote with
          | torn wrote _ _ blocked =>
              exact .torn ⟨by simp, by simp⟩ blocked
          | written wrote =>
              have written : codec.RecordWritten journal.record →
                  codec.RecordWritten
                    (Journal.committed journal.record data) :=
                fun _ => ⟨.inr ⟨_, marshalled⟩, by simp [Journal.committed]⟩
              exact ⟨fun unblocked => ⟨unblocked, .inr ⟨written, _, wrote⟩⟩,
                by simp, by simp, by simp⟩
      · rintro ⟨usable, pending, outstanding, rfl⟩ data marshalled after wrote
        exact .committed usable.2 outstanding marshalled wrote
  | close =>
      apply Interactive.Safe.bind (Journal.close_safe fileStore_durable
        (fun after still => .still still))
      rintro ⟨outcome, reached⟩ after stableAfter ⟨still, same⟩
      refine Interactive.Safe.done_still_iff.mpr ⟨stableAfter, ?_⟩
      cases same
      exact ⟨fun unblocked => ⟨unblocked, .inl ⟨rfl, still⟩⟩, by simp, by simp,
        by simp⟩

theorem Effect.stable {call : JournalCall Value} {base : List (Writer × Raw)}
    (faithful : codec.Faithful) (stable : Stable codec base world)
    (agrees : Agrees codec journal world)
    (effect : Effect codec journal world call after) :
    Stable codec base after := by
  cases effect with
  | still still => exact stable.quiet still
  | begun unblocked noPending marshalled wrote =>
      refine stable.writes faithful (fun history past spells => ?_) wrote
      obtain ⟨writer, older, rfl⟩ := spells.newest (agrees unblocked)
      exact .begun past noPending (.inr ⟨_, marshalled⟩)
  | committed unblocked outstanding marshalled wrote =>
      refine stable.writes faithful (fun history past spells => ?_) wrote
      obtain ⟨writer, older, rfl⟩ := spells.newest (agrees unblocked)
      exact .committed past outstanding (.inr ⟨_, marshalled⟩)

/-- The record on disk is the newest of a history, so all its documents were
written by the journal. -/
theorem Directory.Stable.recordWritten {base : List (Writer × Raw)}
    {record : Record Raw} (stable : Stable codec base world)
    (found : world.record codec = some record) :
    codec.RecordWritten record := by
  obtain ⟨_, history, past, spells⟩ := stable
  obtain ⟨writer, older, rfl⟩ := spells.newest found
  exact past.recordWritten _ List.mem_cons_self

theorem Settled.agrees {call : JournalCall Value}
    {result : JournalResult Raw} {base : List (Writer × Raw)}
    (faithful : codec.Faithful) (stable : Stable codec base world)
    (agrees : Agrees codec journal world)
    (settled : Settled codec journal world call result reached after) :
    Agrees codec reached after := by
  intro unblocked
  obtain ⟨unblockedBefore, ⟨sameRecord, still⟩ | ⟨written, _, wrote⟩⟩ :=
    settled.memory unblocked
  · rw [record_quiet still, sameRecord]
    exact agrees unblockedBefore
  · have writtenBefore := stable.recordWritten (agrees unblockedBefore)
    exact record_writes faithful (written writtenBefore) wrote

end Serving

section Opening

variable {world after here : Directory Raw} {domain : Domain}
  {create created : Bool}

/-- What `Open` can do to the directory. -/
def OpenEffect (codec : Codec Value Raw) (domain : Domain)
    (world after : Directory Raw) : Prop :=
  Quiet world after ∨ (world.journal = none ∧
    Writes codec .opening (initialRecord codec domain) world after)

/-- The value `Open` returns is the record on disk. -/
def Opened (codec : Codec Value Raw) (domain : Domain)
    (world : Directory Raw) (outcome : Except GoError (Journal Raw))
    (after : Directory Raw) : Prop :=
  OpenEffect codec domain world after ∧
    ∀ journal, outcome = .ok journal → journal.blocked = none ∧
      journal.closed = false ∧ after.record codec = some journal.record

theorem initialRecord_written : codec.RecordWritten
    (initialRecord codec domain) :=
  ⟨.inl rfl, by simp [initialRecord]⟩

theorem open_refused {reason : GoError} (still : Quiet world here) :
    Method.Safe environment (OpenEffect codec domain world)
      (fun outcome _ after => Opened codec domain world outcome after)
      (throw reason : FileMethod Raw (Journal Raw)) () here :=
  Method.safe_throw_still_iff.mpr ⟨.inl still, .inl still, by simp⟩

theorem readJournal_safe (still : Quiet world here) :
    Method.Safe environment (OpenEffect codec domain world)
      (fun outcome _ after => Opened codec domain world outcome after)
      (readJournal codec domain) () here := by
  refine safe_ask_quiet still (fun _ => .inl) (by simp)
    (fun secured first _ still => ?_)
  refine Method.Safe.check_bind (fun _ _ => open_refused still)
    (fun _ _ => ?_)
  refine safe_ask_quiet still (fun _ => .inl) (by simp)
    (fun content second answered still => ?_)
  refine Method.Safe.check_bind (fun _ _ => open_refused still)
    (fun data contentEq => ?_)
  have held : second.journal = some data := by
    cases content with
    | error reason => cases contentEq
    | ok found =>
        cases contentEq
        obtain ⟨held, rfl⟩ := answered
        exact held
  refine Method.Safe.refuse_bind (fun _ => open_refused still) (fun _ => ?_)
  refine Method.Safe.check_bind (fun _ _ => open_refused still)
    (fun envelope envelopeEq => ?_)
  refine Method.Safe.refuse_bind (fun _ => open_refused still)
    (fun digestEq => ?_)
  refine Method.Safe.check_bind (fun _ _ => open_refused still)
    (fun record recordEq => ?_)
  refine Method.Safe.refuse_bind (fun _ => open_refused still) (fun _ => ?_)
  refine Method.safe_pure_still_iff.mpr ⟨.inl still, .inl still, ?_⟩
  rintro journal same
  cases same
  refine ⟨rfl, rfl, ?_⟩
  have decodedEnvelope : codec.decodeEnvelope data = .ok envelope := by
    cases decoded : codec.decodeEnvelope data <;>
      simp_all [blockedBy]
  have decodedRecord : codec.decodeRecord envelope.record = .ok record := by
    cases decoded : codec.decodeRecord envelope.record <;>
      simp_all [blockedBy]
  simp only [ne_eq, decide_eq_false_iff_not, not_not] at digestEq
  simp [Directory.record, held, Codec.read, decodedEnvelope, digestEq,
    decodedRecord, Except.toOption]

theorem createJournal_safe (faithful : codec.Faithful)
    (still : Quiet world here) (missing : here.journal = none) :
    Method.Safe environment (OpenEffect codec domain world)
      (fun outcome _ after => Opened codec domain world outcome after)
      (createJournal codec domain) () here := by
  have absent : world.journal = none := still.1.symm.trans missing
  have wroteEffect : ∀ after,
      Writes codec .opening (initialRecord codec domain) here after →
      OpenEffect codec domain world after :=
    fun after wrote => .inr ⟨absent, wrote.after_quiet still⟩
  apply Method.Safe.call
  apply Interactive.Safe.bind (Journal.persist_safe fileStore_durable
    (fun after further => .inl (still.trans further)) wroteEffect)
  rintro ⟨reason | _, reached⟩ after stableAfter ⟨_, _, posted⟩
  · exact Interactive.Safe.done_still_iff.mpr
      ⟨stableAfter, stableAfter, by simp [Except.map]⟩
  · obtain ⟨rfl, wrote⟩ := posted
    refine Interactive.Safe.done_still_iff.mpr
      ⟨stableAfter, stableAfter, ?_⟩
    rintro journal same
    cases same
    exact ⟨rfl, rfl, record_writes faithful initialRecord_written wrote⟩

theorem openLockFile_safe {stable : Directory Raw → Prop}
    (still : Quiet world here)
    (keeps : ∀ after, Quiet world after → stable after) :
    Method.Safe environment stable (fun _ _ after => Quiet world after)
      (openLockFile created) () here := by
  have opens : ∀ there, Quiet world there →
      Method.Safe environment stable (fun _ _ after => Quiet world after)
        (do
          Method.check (blockedBy "open journal lock: "
            (← FileRequest.ask .openLock))
          return false) () there := by
    intro there still
    refine safe_ask_quiet still keeps (by simp) (fun _ after _ still => ?_)
    exact Method.Safe.check_bind
      (fun _ _ => Method.safe_throw_still_iff.mpr ⟨keeps _ still, still⟩)
      (fun _ _ => Method.safe_pure_still_iff.mpr ⟨keeps _ still, still⟩)
  cases created with
  | false => exact opens here still
  | true =>
      refine safe_ask_quiet still keeps (by simp)
        (fun reply after _ still => ?_)
      cases reply with
      | opened => exact Method.safe_pure_still_iff.mpr ⟨keeps _ still, still⟩
      | alreadyExists => exact opens after still
      | failed reason =>
          exact Method.safe_throw_still_iff.mpr ⟨keeps _ still, still⟩

/-- The three answers to the opening of the journal file. -/
theorem askJournal_safe
    {next : JournalReply → FileMethod Raw (Journal Raw)}
    (still : Quiet world here)
    (missing : ∀ after, after.journal = none → Quiet world after →
      Method.Safe environment (OpenEffect codec domain world)
        (fun outcome _ last => Opened codec domain world outcome last)
        (next .missing) () after)
    (failed : ∀ reason after, Quiet world after →
      Method.Safe environment (OpenEffect codec domain world)
        (fun outcome _ last => Opened codec domain world outcome last)
        (next (.failed reason)) () after)
    (opened : ∀ after, Quiet world after →
      Method.Safe environment (OpenEffect codec domain world)
        (fun outcome _ last => Opened codec domain world outcome last)
        (next .opened) () after) :
    Method.Safe environment (OpenEffect codec domain world)
      (fun outcome _ last => Opened codec domain world outcome last)
      (FileRequest.ask .openJournal >>= next) () here := by
  refine safe_ask_quiet still (fun _ => .inl) (by simp)
    (fun reply last answered still => ?_)
  cases reply with
  | opened => exact opened last still
  | failed reason => exact failed reason last still
  | missing =>
      obtain ⟨absent, rfl⟩ := answered
      exact missing _ absent still

theorem openHeld_safe (faithful : codec.Faithful) (still : Quiet world here) :
    Method.Safe environment (OpenEffect codec domain world)
      (fun outcome _ after => Opened codec domain world outcome after)
      (openHeld codec domain create created) () here := by
  refine Method.Safe.bind (openLockFile_safe still (fun _ => .inl))
    (fun freshLock _ first _ still => ?_)
    (fun _ _ _ _ still => ⟨.inl still, by simp⟩)
  refine safe_ask_quiet still (fun _ => .inl) (by simp)
    (fun _ second _ still => ?_)
  refine Method.Safe.check_bind (fun _ _ => open_refused still)
    (fun _ _ => ?_)
  refine safe_ask_quiet still (fun _ => .inl) (by simp)
    (fun _ third _ still => ?_)
  refine Method.Safe.check_bind (fun _ _ => open_refused still)
    (fun _ _ => ?_)
  refine safe_ask_quiet still (fun _ => .inl) (by simp)
    (fun _ fourth _ still => ?_)
  refine Method.Safe.check_bind (fun _ _ => open_refused still)
    (fun _ _ => ?_)
  -- The lock is synchronised only when it is new.
  cases freshLock with
  | true =>
      refine safe_ask_quiet still (fun _ => .inl) (by simp)
        (fun _ fifth _ still => ?_)
      refine Method.Safe.check_bind (fun _ _ => open_refused still)
        (fun _ _ => ?_)
      apply askJournal_safe still
      · intro last missing still
        cases create with
        | true => exact createJournal_safe faithful still missing
        | false => exact open_refused still
      · exact fun _ _ still => open_refused still
      · exact fun _ still => readJournal_safe still
  | false =>
      refine Method.Safe.check_bind (fun _ _ => open_refused still)
        (fun _ _ => ?_)
      refine Method.Safe.check_bind (fun _ _ => open_refused still)
        (fun _ _ => ?_)
      apply askJournal_safe still
      · intro last _ still
        cases create <;> exact open_refused still
      · exact fun _ _ still => open_refused still
      · exact fun _ still => readJournal_safe still

theorem openJournal_safe (faithful : codec.Faithful) :
    Method.Safe environment (OpenEffect codec domain world)
      (fun outcome _ after => Opened codec domain world outcome after)
      (openJournal codec uuid domain create) () world := by
  refine safe_ask_quiet (.refl world) (fun _ => .inl) (by simp)
    (fun _ first _ still => ?_)
  refine Method.Safe.refuse_bind (fun _ => open_refused still) (fun _ => ?_)
  refine Method.Safe.check_bind (fun _ _ => open_refused still)
    (fun _ _ => ?_)
  refine safe_ask_quiet still (fun _ => .inl) (by simp)
    (fun _ second _ still => ?_)
  refine Method.Safe.check_bind (fun _ _ => open_refused still)
    (fun created _ => ?_)
  apply Method.Safe.attempt_bind (openHeld_safe faithful still)
  rintro (reason | journal) _ third stableThird opened
  · apply Method.safe_ask_bind_still_iff.mpr
    refine ⟨stableThird, fun closed last answered => ?_⟩
    obtain rfl : last = third := answered
    cases closed <;>
      exact Method.safe_throw_still_iff.mpr
        ⟨stableThird, stableThird, by simp⟩
  · exact Method.safe_pure_still_iff.mpr ⟨stableThird, opened⟩

theorem OpenEffect.stable {base : List (Writer × Raw)}
    (faithful : codec.Faithful) (stable : Stable codec base world)
    (effect : OpenEffect codec domain world after) :
    Stable codec base after := by
  rcases effect with still | ⟨missing, wrote⟩
  · exact stable.quiet still
  · refine stable.writes faithful (fun history past spells => ?_) wrote
    rw [spells.empty missing]
    exact .opened domain

theorem boot_safe (faithful : codec.Faithful) :
    Interactive.Safe environment (OpenEffect codec domain world)
      (fun outcome after => ∀ journal, outcome = some journal →
        journal.blocked = none ∧ journal.closed = false ∧
          after.record codec = some journal.record)
      ((journalService codec uuid).boot (domain, create)) world := by
  apply Interactive.Safe.bind (openJournal_safe faithful)
  rintro ⟨reason | journal, _⟩ after stableAfter ⟨_, opened⟩
  · exact Interactive.Safe.done_still_iff.mpr
      ⟨stableAfter, by simp [Except.toOption]⟩
  · refine Interactive.Safe.done_still_iff.mpr ⟨stableAfter, ?_⟩
    rintro _ same
    cases same
    exact opened journal rfl

end Opening

theorem forall₂_append_left {α β : Type} {related : α → β → Prop}
    {newer older : List α} {all : List β}
    (entries : List.Forall₂ related (newer ++ older) all) :
    ∃ first second, List.Forall₂ related newer first ∧
      List.Forall₂ related older second ∧ all = first ++ second := by
  induction newer generalizing all with
  | nil => exact ⟨[], all, .nil, entries, rfl⟩
  | cons head newer induction =>
      cases entries with
      | cons same rest =>
          obtain ⟨first, second, left, right, rfl⟩ := induction rest
          exact ⟨_ :: first, second, .cons same left, right, rfl⟩

theorem exists_of_forall₂_of_mem {α β : Type} {related : α → β → Prop}
    {left : List α} {right : List β} {entry : β}
    (entries : List.Forall₂ related left right) (member : entry ∈ right) :
    ∃ other ∈ left, related other entry := by
  induction entries with
  | nil => cases member
  | cons same _ induction =>
      rcases List.mem_cons.mp member with rfl | later
      · exact ⟨_, List.mem_cons_self, same⟩
      · obtain ⟨other, inLeft, related⟩ := induction later
        exact ⟨other, List.mem_cons_of_mem _ inLeft, related⟩

/-- The invariants hold over every run: opens, calls and crashes. -/
theorem journalService_kept (faithful : codec.Faithful)
    (base : List (Writer × Raw)) :
    (journalService codec uuid).Kept environment (Stable codec base)
      (Agrees codec) (fun _ _ _ _ => True) :=
  { boot := by
      rintro ⟨domain, create⟩ world stable
      refine ((boot_safe faithful).relax
        (fun after effect => effect.stable faithful stable)).weaken ?_
      intro outcome after _ opened journal same _
      exact (opened journal same).2.2
    serve := by
      intro call journal world stable agrees
      refine ((serve_safe call journal world).relax
        (fun after effect => effect.stable faithful stable agrees)).weaken ?_
      intro out after _ settled
      exact ⟨settled.agrees faithful stable agrees, trivial⟩
    drift := fun _ _ _ moved => moved.elim
    liveDrift := fun _ _ _ _ _ moved => moved.elim }

theorem absent_stable : Stable codec [] (absent : Directory Raw) :=
  ⟨List.suffix_refl [], [], .absent, rfl, .nil⟩

/-- A blocked value performs no file operation but closing its files. -/
theorem blocked_serve_safe (call : JournalCall Value) {journal : Journal Raw}
    (blocked : journal.blocked.isSome = true) (world : Directory Raw) :
    Interactive.Safe environment (fun after => after = world)
      (fun out after => out.2.blocked.isSome = true ∧ after = world)
      (serveJournal codec call journal) world := by
  obtain ⟨record, _ | reason, closed⟩ := journal
  · cases blocked
  · have stays : ∀ (result : JournalResult Raw) (closed : Bool),
        Interactive.Safe environment (fun after => after = world)
          (fun (out : JournalResult Raw × Journal Raw) after =>
            out.2.blocked.isSome = true ∧ after = world)
          (.done (result, ⟨record, some reason, closed⟩)) world :=
      fun result closed => Interactive.Safe.done_still_iff.mpr
        ⟨rfl, rfl, rfl⟩
    cases closed with
    | true => cases call <;> exact stays _ true
    | false =>
        cases call with
        | close =>
            refine Interactive.Safe.ask_still_iff.mpr
              ⟨rfl, fun reply after answered => ?_⟩
            obtain rfl : after = world := answered
            exact stays _ true
        | _ => exact stays _ false

theorem running_kept (world : Directory Raw) :
    (journalService codec uuid).running.Kept environment
      (fun after => after = world)
      (fun journal _ => journal.blocked.isSome = true)
      (fun _ _ _ _ => True) :=
  { boot := by
      rintro argument _ rfl
      exact Interactive.Safe.done_still_iff.mpr ⟨rfl, by simp⟩
    serve := by
      rintro call journal _ rfl blocked
      exact (blocked_serve_safe call blocked _).weaken
        (fun _ _ _ posted => ⟨posted.1, trivial⟩)
    drift := fun _ _ _ moved => moved.elim
    liveDrift := fun _ _ _ _ _ moved => moved.elim }

/-- The records a call may put in place of the record on disk. -/
inductive Successor (codec : Codec Value Raw) :
    JournalCall Value → Record Raw → Record Raw → Prop where
  | begun {record : Record Raw} {operation : String} {payload : Value}
      {data : Raw} :
      record.pending = none → codec.marshalValue payload = .ok data →
      Successor codec (.begin operation payload) record
        (Journal.begun record operation data)
  | committed {record : Record Raw} {pending : Intent Raw} {state : Value}
      {data : Raw} :
      record.pending = some pending → codec.marshalValue state = .ok data →
      Successor codec (.commit pending.sequence state) record
        (Journal.committed record data)

/-- Crash atomicity of the journal on a directory that is absent at first. -/
structure CrashAtomic (codec : Codec Value Raw) (uuid : UuidPackage) :
    Prop where
  /-- At every point of a call the disk holds the record from before the call
  or the one the call writes. -/
  call_atomic : ∀ {world after : Directory Raw} {journal : Journal Raw}
    {call : JournalCall Value} {events} {rest},
    (journalService codec uuid).Reachable environment absent
      (world, .idle journal) →
    Runs environment (serveJournal codec call journal) world events rest
      after →
    after.record codec = world.record codec ∨
      ∃ record next, world.record codec = some record ∧
        Successor codec call record next ∧ after.record codec = some next
  /-- At every point of `Open` the disk holds the record from before, or the
  first record when there was none. -/
  open_atomic : ∀ {world after : Directory Raw} {domain : Domain}
    {create : Bool} {events} {rest},
    (journalService codec uuid).Reachable environment absent
      (world, .down) →
    Runs environment ((journalService codec uuid).boot (domain, create))
      world events rest after →
    after.record codec = world.record codec ∨
      world.record codec = none ∧
        after.record codec = some (initialRecord codec domain)
  /-- The outstanding intent has the sequence of the record. -/
  pending_sequence : ∀ {world : Directory Raw} {phase} {record : Record Raw}
    {pending : Intent Raw},
    (journalService codec uuid).Reachable environment absent
      (world, phase) →
    world.record codec = some record → record.pending = some pending →
    pending.sequence = record.sequence
  /-- Intents are numbered upwards, across crashes. -/
  intents_increase : ∀ {world : Directory Raw} {phase},
    (journalService codec uuid).Reachable environment absent
      (world, phase) →
    (world.intents codec).Pairwise (· > ·)
  /-- The intent of a successful `Begin` stays on disk until a `Commit` with
  its sequence has written a record. -/
  begun_kept : ∀ {world after : Directory Raw} {journal reached : Journal Raw}
    {operation : String} {payload : Value} {sequence : Nat} {events},
    (journalService codec uuid).Reachable environment absent
      (world, .idle journal) →
    Runs environment (serveJournal codec (.begin operation payload) journal)
      world events (.done (.begun (.ok sequence), reached)) after →
    ∃ data, codec.marshalValue payload = .ok data ∧
      ∀ later phase, (journalService codec uuid).Steps environment
        (after, .idle reached) (later, phase) →
      (∃ record, later.record codec = some record ∧
        record.pending = some ⟨sequence, operation, data⟩) ∨
      ∃ newer wrapped, later.log = newer ++ after.log ∧
        (Writer.committing sequence, wrapped) ∈ newer
  /-- `Open` returns the record on disk. -/
  open_exact : ∀ {world after : Directory Raw} {domain : Domain}
    {create : Bool} {journal : Journal Raw} {events},
    (journalService codec uuid).Reachable environment absent
      (world, .down) →
    Runs environment ((journalService codec uuid).boot (domain, create))
      world events (.done (some journal)) after →
    after.record codec = some journal.record
  /-- `Snapshot` shows the state and the intent on disk. -/
  snapshot_exact : ∀ {world after : Directory Raw}
    {journal reached : Journal Raw} {state : Raw}
    {pending : Option (Intent Raw)} {events},
    (journalService codec uuid).Reachable environment absent
      (world, .idle journal) →
    Runs environment (serveJournal codec .snapshot journal) world events
      (.done (.snapshot (.ok (state, pending)), reached)) after →
    ∃ record, after.record codec = some record ∧ state = record.state ∧
      pending = record.pending
  /-- A failed `persist` blocks the value. -/
  persist_blocks : ∀ {world after : Directory Raw}
    {journal reached : Journal Raw} {writer : Writer} {next : Record Raw}
    {reason : GoError} {events},
    Runs environment
      ((Journal.persist (fileStore codec) writer next).start journal) world
      events (.done (.error reason, reached)) after →
    reached.blocked.isSome = true
  /-- A failed `Begin` or `Commit` has blocked the value or changed
  nothing. -/
  failed_blocks : ∀ {world after : Directory Raw}
    {journal reached : Journal Raw} {call : JournalCall Value}
    {result : JournalResult Raw} {reason : GoError} {events},
    Runs environment (serveJournal codec call journal) world events
      (.done (result, reached)) after →
    (result = .begun (.error reason) ∨
      result = .committed (.error reason)) →
    reached.blocked.isSome = true ∨ reached = journal ∧ Quiet world after
  /-- A blocked value never writes again. -/
  blocked_never_writes : ∀ {world later : Directory Raw}
    {journal : Journal Raw} {phase},
    journal.blocked.isSome = true →
    (journalService codec uuid).running.Steps environment
      (world, .idle journal) (later, phase) →
    later = world

theorem Effect.record_eq {call : JournalCall Value} {journal : Journal Raw}
    {world after : Directory Raw} {base : List (Writer × Raw)}
    (faithful : codec.Faithful) (stable : Stable codec base world)
    (agrees : Agrees codec journal world)
    (effect : Effect codec journal world call after) :
    after.record codec = world.record codec ∨
      ∃ record next, world.record codec = some record ∧
        Successor codec call record next ∧
        after.record codec = some next := by
  cases effect with
  | still still => exact .inl (record_quiet still)
  | begun unblocked noPending marshalled wrote =>
      have found := agrees unblocked
      have written := stable.recordWritten found
      refine .inr ⟨_, _, found, .begun noPending marshalled, ?_⟩
      refine record_writes faithful ⟨written.1, fun pending same => ?_⟩ wrote
      cases same
      exact .inr ⟨_, marshalled⟩
  | committed unblocked outstanding marshalled wrote =>
      refine .inr ⟨_, _, agrees unblocked,
        .committed outstanding marshalled, ?_⟩
      exact record_writes faithful
        ⟨.inr ⟨_, marshalled⟩, by simp [Journal.committed]⟩ wrote

/-- An intent that is on disk stays there until it is committed. -/
theorem Directory.Stable.outstanding_until_committed
    {before after : Directory Raw} {record : Record Raw}
    {pending : Intent Raw} (stable : Stable codec before.log after)
    (newest : before.journal = before.log.head?.map (·.2))
    (found : before.record codec = some record)
    (outstanding : record.pending = some pending) :
    (∃ record, after.record codec = some record ∧
        record.pending = some pending) ∨
      ∃ newer wrapped, after.log = newer ++ before.log ∧
        (Writer.committing pending.sequence, wrapped) ∈ newer := by
  obtain ⟨⟨newer, grown⟩, history, past, journal, entries⟩ := stable
  rw [← grown] at entries
  obtain ⟨laterHistory, olderHistory, laterEntries, olderEntries, rfl⟩ :=
    forall₂_append_left entries
  obtain ⟨writer, older, rfl⟩ :=
    Spells.newest ⟨newest, olderEntries⟩ found
  rcases past.outstanding_until_committed outstanding with
    rfl | ⟨later, member⟩
  · cases laterEntries
    have sameJournal : after.journal = before.journal := by
      rw [journal, newest, ← grown, List.nil_append]
    refine .inl ⟨record, ?_, outstanding⟩
    rw [Directory.record, sameJournal]
    exact found
  · obtain ⟨⟨tag, wrapped⟩, logged, same, _⟩ :=
      exists_of_forall₂_of_mem laterEntries member
    cases same
    exact .inr ⟨newer, wrapped, grown.symm, logged⟩

/-- JSON documents as trees. -/
inductive Document where
  | null
  | number (value : Nat)
  | record (value : Record Document)
  | envelope (record : Document) (sha256 : String)

/-- A codec that keeps the trees as they are. -/
def documentCodec : Codec Nat Document :=
  { null := .null
    length := fun _ => 1
    digest := fun
      | .record value => toString value.sequence
      | _ => ""
    marshalValue := fun value => .ok (.number value)
    marshalRecord := fun value => .ok (.record value)
    decodeRecord := fun
      | .record value => .ok value
      | _ => .error (.new "not a record" "")
    marshalEnvelope := fun value => .ok (.envelope value.record value.sha256)
    decodeEnvelope := fun
      | .envelope record sha256 => .ok ⟨record, sha256⟩
      | _ => .error (.new "not an envelope" "") }

theorem documentCodec_faithful : documentCodec.Faithful :=
  { record := by
      rintro record data _ same
      cases same
      rfl
    envelope := by
      rintro record data wrapped same enveloped
      cases same
      cases enveloped
      rfl }

/-- Identifiers that are texts. -/
def textUuid : UuidPackage :=
  { UUID := String
    equality := inferInstance
    zero := ""
    parse := some
    fromBytes := fun _ => none
    text := id }

/-- A disk on which every operation succeeds. -/
def Directory.oblige (directory : Directory Document) :
    (request : FileRequest Document) → request.Reply × Directory Document
  | .geteuid => (0, directory)
  | .openDirectory create =>
      if directory.present then (.ok false, directory)
      else if create then (.ok true, { directory with present := true })
      else (.error (.new "no such directory" ""), directory)
  | .openLockExclusive =>
      if directory.lock then (.alreadyExists, directory)
      else (.opened, { directory with lock := true })
  | .openLock =>
      if directory.lock then (.ok (), directory)
      else (.error (.new "no such file" ""), directory)
  | .openJournal =>
      match directory.journal with
      | some _ => (.opened, directory)
      | none => (.missing, directory)
  | .readJournal =>
      match directory.journal with
      | some data => (.ok data, directory)
      | none => (.error (.new "no such file" ""), directory)
  | .createTemporary =>
      (.ok (), { directory with temporary := some .null })
  | .writeTemporary wrapped =>
      (.ok (), { directory with temporary := some wrapped })
  | .renameTemporary writer =>
      match directory.temporary with
      | some content =>
          (.ok (), { directory with
            journal := some content
            temporary := none
            log := (writer, content) :: directory.log })
      | none => (.error (.new "no such file" ""), directory)
  | .unlinkTemporary => (.ok (), { directory with temporary := none })
  | .secureLock | .flock | .checkLock | .syncLock | .secureJournal
  | .boundary _ | .secureTemporary | .syncTemporary | .closeTemporary
  | .syncDirectory | .closeFiles => (.ok (), directory)

theorem Directory.oblige_answers (directory : Directory Document)
    (request : (fileSignature Document).Request) :
    environment.answers directory request (directory.oblige request).1
      (directory.oblige request).2 := by
  show Answers directory request _ _
  obtain ⟨present, lock, journal, temporary, log⟩ := directory
  cases request with
  | openDirectory create =>
      cases present <;> cases create <;> simp [oblige, Answers]
  | openLockExclusive => cases lock <;> simp [oblige, Answers]
  | openLock => cases lock <;> simp [oblige, Answers]
  | openJournal => cases journal <;> simp [oblige, Answers]
  | readJournal => cases journal <;> simp [oblige, Answers]
  | renameTemporary writer => cases temporary <;> simp [oblige, Answers]
  | _ => simp [oblige, Answers]

def exampleDomain : Domain :=
  { installationUID := "installation"
    nodeUID := "node"
    bootID := "boot"
    networkNamespace := "ns"
    configDigest :=
      "0000000000000000000000000000000000000000000000000000000000000000" }

end EvpnForOvn.Ownership

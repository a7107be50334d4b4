import EvpnForOvn.Ownership.JournalFile

/-!
# The journal directory as a history of records

`persist` is a durable store: whatever step of it fails, the journal file
holds the old bytes or the new ones.  The contents the file has had then form
a history in which every record follows from the one before it by a `Begin`
or by the `Commit` of the outstanding operation.
-/

namespace EvpnForOvn.Ownership

open Interactive Go

variable {Value Raw : Type} {codec : Codec Value Raw}

/-- The documents `json.Marshal` writes for the callers. -/
def Codec.Written (codec : Codec Value Raw) (raw : Raw) : Prop :=
  raw = codec.null ∨ ∃ value, codec.marshalValue value = .ok raw

/-- A record all of whose documents were written by `json.Marshal`. -/
def Codec.RecordWritten (codec : Codec Value Raw) (record : Record Raw) :
    Prop :=
  codec.Written record.state ∧
    ∀ pending, record.pending = some pending → codec.Written pending.payload

/-- Decoding returns what was encoded, for the records the journal can
hold. -/
structure Codec.Faithful (codec : Codec Value Raw) : Prop where
  record : ∀ {record data}, codec.RecordWritten record →
    codec.marshalRecord record = .ok data →
    codec.decodeRecord data = .ok record
  envelope : ∀ {record data wrapped}, codec.marshalRecord record = .ok data →
    codec.marshalEnvelope ⟨data, codec.digest data⟩ = .ok wrapped →
    codec.decodeEnvelope wrapped = .ok ⟨data, codec.digest data⟩

/-- The record the bytes of a journal file hold. -/
def Codec.read (codec : Codec Value Raw) (data : Raw) :
    Option (Record Raw) := do
  let envelope ← (codec.decodeEnvelope data).toOption
  if envelope.sha256 ≠ codec.digest envelope.record then none
  else (codec.decodeRecord envelope.record).toOption

theorem Codec.wrap_marshalled {next : Record Raw} {wrapped : Raw}
    (wrappedEq : codec.wrap next = .ok wrapped) :
    ∃ data, codec.marshalRecord next = .ok data ∧
      codec.marshalEnvelope ⟨data, codec.digest data⟩ = .ok wrapped := by
  unfold Codec.wrap at wrappedEq
  cases marshalled : codec.marshalRecord next with
  | error reason => simp [marshalled, bind, Except.bind] at wrappedEq
  | ok data =>
      refine ⟨data, rfl, ?_⟩
      cases enveloped : codec.marshalEnvelope ⟨data, codec.digest data⟩ with
      | error reason =>
          simp [marshalled, enveloped, bind, Except.bind] at wrappedEq
      | ok bytes =>
          simp only [marshalled, enveloped, bind, Except.bind] at wrappedEq
          split at wrappedEq
          · cases wrappedEq
          · exact wrappedEq

theorem Codec.Faithful.read_wrap {next : Record Raw} {wrapped : Raw}
    (faithful : codec.Faithful) (written : codec.RecordWritten next)
    (wrappedEq : codec.wrap next = .ok wrapped) :
    codec.read wrapped = some next := by
  obtain ⟨data, marshalled, enveloped⟩ := Codec.wrap_marshalled wrappedEq
  simp [Codec.read, faithful.envelope marshalled enveloped,
    faithful.record written marshalled, Except.toOption]

namespace Directory

/-- Nothing durable of the journal changed. -/
def Quiet (before after : Directory Raw) : Prop :=
  after.journal = before.journal ∧ after.log = before.log

/-- One record became the content of the journal file. -/
def Writes (codec : Codec Value Raw) (writer : Writer) (next : Record Raw)
    (before after : Directory Raw) : Prop :=
  ∃ wrapped, codec.wrap next = .ok wrapped ∧
    after.journal = some wrapped ∧ after.log = (writer, wrapped) :: before.log

theorem Quiet.refl (directory : Directory Raw) : Quiet directory directory :=
  ⟨rfl, rfl⟩

theorem Quiet.trans {first second third : Directory Raw}
    (before : Quiet first second) (after : Quiet second third) :
    Quiet first third :=
  ⟨after.1.trans before.1, after.2.trans before.2⟩

theorem Writes.after_quiet {writer : Writer} {next : Record Raw}
    {first second third : Directory Raw} (still : Quiet first second)
    (wrote : Writes codec writer next second third) :
    Writes codec writer next first third := by
  obtain ⟨wrapped, wrappedEq, journal, log⟩ := wrote
  exact ⟨wrapped, wrappedEq, journal, by rw [log, still.2]⟩

theorem Writes.then_quiet {writer : Writer} {next : Record Raw}
    {first second third : Directory Raw}
    (wrote : Writes codec writer next first second)
    (still : Quiet second third) : Writes codec writer next first third := by
  obtain ⟨wrapped, wrappedEq, journal, log⟩ := wrote
  exact ⟨wrapped, wrappedEq, still.1.trans journal, still.2.trans log⟩

/-- Only the rename changes what is durable. -/
theorem Answers.quiet {request : FileRequest Raw} {reply : request.Reply}
    {before after : Directory Raw} (answered : Answers before request reply after)
    (silent : ∀ writer, request ≠ .renameTemporary writer) :
    Quiet before after := by
  cases request with
  | renameTemporary writer => exact absurd rfl (silent writer)
  | openDirectory create =>
      rcases reply with reason | (_ | _)
      · rcases answered with rfl | ⟨_, _, rfl⟩
        · exact .refl _
        · exact ⟨rfl, rfl⟩
      · obtain ⟨_, rfl⟩ := answered
        exact .refl _
      · obtain ⟨_, _, rfl⟩ := answered
        exact ⟨rfl, rfl⟩
  | openLockExclusive =>
      cases reply with
      | opened => obtain ⟨_, rfl⟩ := answered; exact ⟨rfl, rfl⟩
      | alreadyExists => obtain ⟨_, rfl⟩ := answered; exact .refl _
      | failed reason => cases answered; exact .refl _
  | openLock =>
      cases reply with
      | error reason => cases answered; exact .refl _
      | ok value => obtain ⟨_, rfl⟩ := answered; exact .refl _
  | openJournal =>
      cases reply with
      | opened => obtain ⟨_, rfl⟩ := answered; exact .refl _
      | missing => obtain ⟨_, rfl⟩ := answered; exact .refl _
      | failed reason => cases answered; exact .refl _
  | readJournal =>
      cases reply with
      | error reason => cases answered; exact .refl _
      | ok data => obtain ⟨_, rfl⟩ := answered; exact .refl _
  | createTemporary =>
      cases reply with
      | error reason => cases answered; exact .refl _
      | ok value => obtain ⟨_, rfl⟩ := answered; exact ⟨rfl, rfl⟩
  | writeTemporary wrapped =>
      cases reply with
      | error reason => obtain ⟨_, rfl⟩ := answered; exact ⟨rfl, rfl⟩
      | ok value => cases answered; exact ⟨rfl, rfl⟩
  | unlinkTemporary =>
      cases reply with
      | error reason => cases answered; exact .refl _
      | ok value => cases answered; exact ⟨rfl, rfl⟩
  | _ => cases answered; exact .refl _

section Persist

variable {stable : Directory Raw → Prop} {world here : Directory Raw}

/-- A request that is not the rename, in the middle of a method. -/
theorem safe_ask_quiet {Memory α : Type} {memory : Memory}
    {post : Except GoError α → Memory → Directory Raw → Prop}
    {request : FileRequest Raw}
    {continuation : request.Reply →
      Method (fileSignature Raw) GoError Memory α}
    (still : Quiet world here)
    (keeps : ∀ after, Quiet world after → stable after)
    (silent : ∀ writer, request ≠ .renameTemporary writer)
    (continues : ∀ reply after, Answers here request reply after →
      Quiet world after →
      Method.Safe environment stable post (continuation reply) memory after) :
    Method.Safe environment stable post
      (@Method.ask (fileSignature Raw) GoError Memory request >>=
        continuation) memory here := by
  apply Method.safe_ask_bind_still_iff.mpr
  refine ⟨keeps here still, fun reply after answered => ?_⟩
  exact continues reply after answered
    (still.trans (answered.quiet silent))

theorem fillTemporary_safe {wrapped : Raw} (still : Quiet world here)
    (keeps : ∀ after, Quiet world after → stable after) :
    Method.Safe environment stable
      (fun outcome _ after => Quiet world after ∧
        (outcome = .ok () → after.temporary = some wrapped))
      (fillTemporary wrapped) () here := by
  have refused : ∀ (reason : GoError) (there : Directory Raw),
      Quiet world there →
      Method.Safe environment stable
        (fun outcome _ after => Quiet world after ∧
          (outcome = .ok () → after.temporary = some wrapped))
        (throw reason : FileMethod Raw Unit) () there :=
    fun reason there stillThere => Method.safe_throw_still_iff.mpr
      ⟨keeps there stillThere, stillThere, by simp⟩
  refine safe_ask_quiet still keeps (by simp)
    (fun secured first _ still => ?_)
  refine Method.Safe.check_bind (fun reason _ => refused reason _ still)
    (fun _ _ => ?_)
  refine safe_ask_quiet still keeps (by simp)
    (fun wrote second answered still => ?_)
  refine Method.Safe.check_bind (fun reason _ => refused reason _ still) ?_
  rintro _ rfl
  have filled : second.temporary = some wrapped := by
    cases answered
    rfl
  refine safe_ask_quiet still keeps (by simp)
    (fun reached third answered still => ?_)
  obtain rfl : third = second := answered
  refine Method.Safe.check_bind (fun reason _ => refused reason _ still)
    (fun _ _ => ?_)
  refine safe_ask_quiet still keeps (by simp)
    (fun synced last answered still => ?_)
  obtain rfl : last = third := answered
  exact Method.safe_check_still_iff.mpr
    ⟨keeps _ still, still, fun _ => filled⟩

theorem installTemporary_safe {writer : Writer} {next : Record Raw}
    {wrapped : Raw} (wrappedEq : codec.wrap next = .ok wrapped)
    (still : Quiet world here) (filled : here.temporary = some wrapped)
    (keeps : ∀ after, Quiet world after → stable after)
    (keepsWritten : ∀ after, Writes codec writer next world after →
      stable after) :
    Method.Safe environment stable
      (fun outcome _ after => match outcome with
        | .ok _ => Writes codec writer next world after
        | .error _ => Quiet world after ∨
            Writes codec writer next world after)
      (installTemporary writer) () here := by
  apply Method.safe_ask_bind_still_iff.mpr
  refine ⟨keeps _ still, fun closed first answered => ?_⟩
  obtain rfl : first = here := answered
  have refused : ∀ reason : GoError, Method.Safe environment stable
      (fun outcome _ after => match outcome with
        | .ok _ => Writes codec writer next world after
        | .error _ => Quiet world after ∨
            Writes codec writer next world after)
      (throw reason : FileMethod Raw Unit) () first :=
    fun reason => Method.safe_throw_still_iff.mpr
      ⟨keeps _ still, .inl still⟩
  refine Method.Safe.check_bind (fun reason _ => refused reason)
    (fun _ _ => ?_)
  apply Method.safe_ask_bind_still_iff.mpr
  refine ⟨keeps _ still, fun reached second answered => ?_⟩
  obtain rfl : second = first := answered
  refine Method.Safe.check_bind (fun reason _ => refused reason)
    (fun _ _ => ?_)
  apply Method.safe_ask_bind_still_iff.mpr
  refine ⟨keeps _ still, fun renamed third answered => ?_⟩
  cases renamed with
  | error reason =>
      obtain rfl : third = second := answered
      exact refused reason
  | ok value =>
      obtain ⟨content, contentEq, rfl⟩ := answered
      obtain rfl : wrapped = content :=
        Option.some.inj (filled.symm.trans contentEq)
      have wrote : Writes codec writer next world
          { second with
            journal := some wrapped
            temporary := none
            log := (writer, wrapped) :: second.log } :=
        ⟨wrapped, wrappedEq, rfl, by rw [← still.2]⟩
      generalize { second with
            journal := some wrapped
            temporary := none
            log := (writer, wrapped) :: second.log } = third at wrote
      apply Method.safe_ask_bind_still_iff.mpr
      refine ⟨keepsWritten _ wrote, fun reached fourth answered => ?_⟩
      obtain rfl : fourth = third := answered
      refine Method.Safe.check_bind
        (fun reason _ => Method.safe_throw_still_iff.mpr
          ⟨keepsWritten _ wrote, .inr wrote⟩) (fun _ _ => ?_)
      apply Method.safe_ask_bind_still_iff.mpr
      refine ⟨keepsWritten _ wrote, fun synced fifth answered => ?_⟩
      obtain rfl : fifth = fourth := answered
      refine Method.Safe.check_bind
        (fun reason _ => Method.safe_throw_still_iff.mpr
          ⟨keepsWritten _ wrote, .inr wrote⟩) (fun _ _ => ?_)
      apply Method.safe_ask_bind_still_iff.mpr
      refine ⟨keepsWritten _ wrote, fun last sixth answered => ?_⟩
      obtain rfl : sixth = fifth := answered
      refine Method.safe_check_still_iff.mpr ⟨keepsWritten _ wrote, ?_⟩
      cases last with
      | error reason => exact .inr wrote
      | ok value => exact wrote

theorem replaceJournal_safe {writer : Writer} {next : Record Raw}
    {wrapped : Raw} (wrappedEq : codec.wrap next = .ok wrapped)
    (still : Quiet world here)
    (keeps : ∀ after, Quiet world after → stable after)
    (keepsWritten : ∀ after, Writes codec writer next world after →
      stable after) :
    Method.Safe environment stable
      (fun outcome _ after => match outcome with
        | .ok _ => Writes codec writer next world after
        | .error _ => Quiet world after ∨
            Writes codec writer next world after)
      (replaceJournal writer wrapped) () here := by
  apply Method.Safe.attempt_bind (fillTemporary_safe still keeps)
  rintro (reason | _) _ filledDirectory _ ⟨stillFilled, filled⟩
  · apply Method.safe_ask_bind_still_iff.mpr
    refine ⟨keeps _ stillFilled, fun closed first answered => ?_⟩
    obtain rfl : first = filledDirectory := answered
    apply Method.safe_ask_bind_still_iff.mpr
    refine ⟨keeps _ stillFilled, fun unlinked last answered => ?_⟩
    have stillLast := stillFilled.trans (answered.quiet (by simp))
    refine Method.safe_check_still_iff.mpr ⟨keeps _ stillLast, ?_⟩
    cases closed <;> cases unlinked <;> exact .inl stillLast
  · apply Method.Safe.attempt_bind (installTemporary_safe wrappedEq stillFilled
      (filled rfl) keeps keepsWritten)
    rintro installed _ second stableSecond posted
    apply Method.safe_ask_bind_still_iff.mpr
    refine ⟨stableSecond, fun unlinked last answered => ?_⟩
    have unlinkedStill := answered.quiet (by simp)
    apply Method.safe_check_still_iff.mpr
    cases installed with
    | error reason =>
        rcases posted with stillSecond | wrote
        · have stillLast := stillSecond.trans unlinkedStill
          refine ⟨keeps _ stillLast, ?_⟩
          cases unlinked <;> exact .inl stillLast
        · have wroteLast := wrote.then_quiet unlinkedStill
          refine ⟨keepsWritten _ wroteLast, ?_⟩
          cases unlinked <;> exact .inr wroteLast
    | ok value =>
        have wroteLast := Writes.then_quiet posted unlinkedStill
        refine ⟨keepsWritten _ wroteLast, ?_⟩
        cases unlinked with
        | error reason => exact .inr wroteLast
        | ok value => exact wroteLast

theorem persistFile_safe {writer : Writer} {next : Record Raw}
    (keeps : ∀ after, Quiet world after → stable after)
    (keepsWritten : ∀ after, Writes codec writer next world after →
      stable after) :
    Method.Safe environment stable
      (fun outcome _ after => match outcome with
        | .ok _ => Writes codec writer next world after
        | .error _ => Quiet world after ∨
            Writes codec writer next world after)
      (persistFile codec writer next) () world := by
  have refused : ∀ (reason : GoError) (there : Directory Raw),
      Quiet world there →
      Method.Safe environment stable
        (fun outcome _ after => match outcome with
          | .ok _ => Writes codec writer next world after
          | .error _ => Quiet world after ∨
              Writes codec writer next world after)
        (throw reason : FileMethod Raw Unit) () there :=
    fun reason there stillThere => Method.safe_throw_still_iff.mpr
      ⟨keeps there stillThere, .inl stillThere⟩
  refine safe_ask_quiet (.refl world) keeps (by simp)
    (fun locked first _ still => ?_)
  refine Method.Safe.check_bind (fun reason _ => refused reason _ still)
    (fun _ _ => ?_)
  refine Method.Safe.check_bind (fun reason _ => refused reason _ still)
    (fun wrapped wrappedEq => ?_)
  refine safe_ask_quiet still keeps (by simp)
    (fun reached second _ still => ?_)
  refine Method.Safe.check_bind (fun reason _ => refused reason _ still)
    (fun _ _ => ?_)
  refine safe_ask_quiet still keeps (by simp)
    (fun created third _ still => ?_)
  refine Method.Safe.check_bind (fun reason _ => refused reason _ still)
    (fun _ _ => ?_)
  exact replaceJournal_safe wrappedEq still keeps keepsWritten

end Persist

/-- The file operations of `persist` are an atomic store. -/
theorem fileStore_durable :
    (fileStore codec).Durable environment Quiet (Writes codec) :=
  { refl := .refl
    trans := .trans
    writesAfter := .after_quiet
    writesThen := .then_quiet
    lock := by
      intro stable world keeps
      refine Interactive.Safe.ask_still_iff.mpr
        ⟨keeps _ (.refl _), fun reply after answered => ?_⟩
      obtain rfl : after = world := answered
      exact Interactive.Safe.done_still_iff.mpr ⟨keeps _ (.refl _), .refl _⟩
    write := by
      intro stable writer next world keeps keepsWritten
      exact Interactive.Safe.bind (persistFile_safe keeps keepsWritten)
        (fun out after stableAfter posted =>
          Interactive.Safe.done_still_iff.mpr ⟨stableAfter, posted⟩)
    release := by
      intro stable world keeps
      refine Interactive.Safe.ask_still_iff.mpr
        ⟨keeps _ (.refl _), fun reply after answered => ?_⟩
      obtain rfl : after = world := answered
      exact Interactive.Safe.done_still_iff.mpr ⟨keeps _ (.refl _), .refl _⟩
    drift := fun moved => moved.elim }

end Directory

/-- The records a journal file can have had, newest first, each with the
method that wrote it. -/
inductive History (codec : Codec Value Raw) :
    List (Writer × Record Raw) → Prop where
  | absent : History codec []
  | opened (domain : Domain) :
      History codec [(.opening, initialRecord codec domain)]
  | begun {writer : Writer} {record : Record Raw}
      {older : List (Writer × Record Raw)} {operation : String} {data : Raw} :
      History codec ((writer, record) :: older) → record.pending = none →
      codec.Written data →
      History codec ((.beginning, Journal.begun record operation data) ::
        (writer, record) :: older)
  | committed {writer : Writer} {record : Record Raw}
      {older : List (Writer × Record Raw)} {pending : Intent Raw}
      {data : Raw} :
      History codec ((writer, record) :: older) →
      record.pending = some pending → codec.Written data →
      History codec ((.committing pending.sequence,
        Journal.committed record data) :: (writer, record) :: older)

namespace History

variable {history older : List (Writer × Record Raw)} {writer : Writer}
  {record : Record Raw}

theorem recordWritten (past : History codec history) :
    ∀ entry ∈ history, codec.RecordWritten entry.2 := by
  induction past with
  | absent => simp
  | opened domain =>
      simp [Codec.RecordWritten, Codec.Written, initialRecord]
  | begun older noPending written induction =>
      intro entry member
      rcases List.mem_cons.mp member with rfl | earlier
      · have last := induction _ List.mem_cons_self
        refine ⟨last.1, ?_⟩
        rintro pending same
        cases same
        exact written
      · exact induction entry earlier
  | committed older outstanding written induction =>
      intro entry member
      rcases List.mem_cons.mp member with rfl | earlier
      · exact ⟨written, fun pending impossible => by
          simp [Journal.committed] at impossible⟩
      · exact induction entry earlier

/-- An outstanding intent has the sequence of its record. -/
theorem pending_sequence (past : History codec history) :
    ∀ entry ∈ history, ∀ pending, entry.2.pending = some pending →
      pending.sequence = entry.2.sequence := by
  induction past with
  | absent => simp
  | opened domain => simp [initialRecord]
  | begun older noPending written induction =>
      intro entry member pending outstanding
      rcases List.mem_cons.mp member with rfl | earlier
      · cases outstanding
        rfl
      · exact induction entry earlier pending outstanding
  | committed older outstanding written induction =>
      intro entry member pending found
      rcases List.mem_cons.mp member with rfl | earlier
      · simp [Journal.committed] at found
      · exact induction entry earlier pending found

/-- Sequences never decrease. -/
theorem sequence_le (past : History codec ((writer, record) :: older)) :
    ∀ entry ∈ older, entry.2.sequence ≤ record.sequence := by
  generalize same : (writer, record) :: older = history at past
  induction past generalizing writer record older with
  | absent => cases same
  | opened domain =>
      cases same
      simp
  | begun earlier noPending written induction =>
      cases same
      intro entry member
      rcases List.mem_cons.mp member with rfl | oldest
      · exact Nat.le_succ _
      · exact Nat.le_succ_of_le (induction rfl entry oldest)
  | committed earlier outstanding written induction =>
      cases same
      intro entry member
      rcases List.mem_cons.mp member with rfl | oldest
      · exact Nat.le_refl _
      · exact induction rfl entry oldest

/-- The sequences of the intents of a history, newest first. -/
def intents (history : List (Writer × Record Raw)) : List Nat :=
  history.filterMap fun entry =>
    if entry.1 = .beginning then some entry.2.sequence else none

theorem intents_bounded {bound : Nat}
    (bounded : ∀ entry ∈ history, entry.2.sequence ≤ bound) :
    ∀ sequence ∈ intents history, sequence ≤ bound := by
  intro sequence member
  obtain ⟨entry, inHistory, found⟩ := List.mem_filterMap.mp member
  split at found
  · cases found
    exact bounded entry inHistory
  · cases found

/-- Every intent has a larger sequence than the intents before it. -/
theorem intents_increase (past : History codec history) :
    (intents history).Pairwise (· > ·) := by
  induction past with
  | absent => exact .nil
  | opened domain => simp [intents]
  | @begun writer record older operation data earlier _ _ induction =>
      have bounded : ∀ entry ∈ (writer, record) :: older,
          entry.2.sequence ≤ record.sequence := by
        intro entry member
        rcases List.mem_cons.mp member with rfl | oldest
        · exact Nat.le_refl _
        · exact earlier.sequence_le entry oldest
      have top : intents ((.beginning, Journal.begun record operation data) ::
          (writer, record) :: older) =
          (record.sequence + 1) :: intents ((writer, record) :: older) := by
        simp [intents, Journal.begun]
      rw [top]
      refine .cons (fun sequence member => ?_) induction
      exact Nat.lt_succ_of_le (intents_bounded bounded sequence member)
  | @committed writer record older pending data earlier _ _ induction =>
      have top : intents ((.committing pending.sequence,
          Journal.committed record data) :: (writer, record) :: older) =
          intents ((writer, record) :: older) := by
        simp [intents]
      rw [top]
      exact induction

theorem tail {entry : Writer × Record Raw}
    (past : History codec (entry :: history)) : History codec history := by
  cases past with
  | opened domain => exact .absent
  | begun earlier _ _ => exact earlier
  | committed earlier _ _ => exact earlier

/-- Nothing is written over an outstanding intent but its own commit. -/
theorem outstanding_until_committed {pending : Intent Raw}
    {newer : List (Writer × Record Raw)}
    (past : History codec (newer ++ (writer, record) :: older))
    (outstanding : record.pending = some pending) :
    newer = [] ∨
      ∃ later, (Writer.committing pending.sequence, later) ∈ newer := by
  induction newer with
  | nil => exact .inl rfl
  | cons entry newer induction =>
      right
      rcases induction past.tail with rfl | ⟨later, member⟩
      · rw [List.cons_append, List.nil_append] at past
        cases past with
        | begun earlier noPending _ =>
            rw [outstanding] at noPending
            cases noPending
        | committed earlier found _ =>
            rw [outstanding] at found
            cases found
            exact ⟨_, List.mem_cons_self⟩
      · exact ⟨later, List.mem_cons_of_mem _ member⟩

end History

end EvpnForOvn.Ownership

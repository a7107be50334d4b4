import EvpnForOvn.Ownership.Journal

/-!
# Specifications of the journal methods

The methods are specified over any durable store.  `quiet` relates two worlds
between which nothing durable of the journal changed, and `writes` two worlds
between which one record was made durable.  A write either fails with one of
the two, or succeeds with the second.
-/

namespace EvpnForOvn.Ownership

open Interactive Go

variable {signature : Signature} {Raw World : Type}

/-- A store whose writes are atomic, although their failure is not. -/
structure Store.Durable (environment : Environment signature World)
    (store : Store signature Raw) (quiet : World → World → Prop)
    (writes : Writer → Record Raw → World → World → Prop) : Prop where
  refl : ∀ world, quiet world world
  trans : ∀ {first second third},
    quiet first second → quiet second third → quiet first third
  writesAfter : ∀ {writer next first second third},
    quiet first second → writes writer next second third →
    writes writer next first third
  writesThen : ∀ {writer next first second third},
    writes writer next first second → quiet second third →
    writes writer next first third
  lock : ∀ {stable : World → Prop} {world},
    (∀ after, quiet world after → stable after) →
    Safe environment stable (fun _ after => quiet world after)
      store.checkLock world
  write : ∀ {stable : World → Prop} {writer next world},
    (∀ after, quiet world after → stable after) →
    (∀ after, writes writer next world after → stable after) →
    Safe environment stable
      (fun outcome after => match outcome with
        | .ok _ => writes writer next world after
        | .error _ => quiet world after ∨ writes writer next world after)
      (store.write writer next) world
  release : ∀ {stable : World → Prop} {world},
    (∀ after, quiet world after → stable after) →
    Safe environment stable (fun _ after => quiet world after)
      store.release world
  drift : ∀ {before after}, environment.drifts before after →
    quiet before after

namespace Journal

/-- The journal value differs at most by a reason to be blocked. -/
def SameButBlocked (before after : Journal Raw) : Prop :=
  after.record = before.record ∧ after.closed = before.closed ∧
    (before.blocked.isSome = true → after.blocked = before.blocked)

theorem SameButBlocked.refl (journal : Journal Raw) :
    SameButBlocked journal journal :=
  ⟨rfl, rfl, fun _ => rfl⟩

/-- A journal value that can still write. -/
def Usable (journal : Journal Raw) : Prop :=
  journal.closed = false ∧ journal.blocked = none

/-- A call that failed before it wrote anything. -/
def Unchanged (quiet : World → World → Prop) (journal : Journal Raw)
    (world : World) {α : Type} (outcome : Except GoError α)
    (reached : Journal Raw) (after : World) : Prop :=
  (∃ reason, outcome = .error reason) ∧ quiet world after ∧
    SameButBlocked journal reached

/-- How a method that wrote `next` can end.  The first case is the failure
past the rename: the record is durable and the value does not know it. -/
inductive Wrote (writes : World → World → Prop) (next : Record Raw)
    (journal : Journal Raw) (world : World) {α : Type} (value : α) :
    Except GoError α → Journal Raw → World → Prop where
  | torn {reason : GoError} {reached : Journal Raw} {after : World} :
      writes world after → reached.record = journal.record →
      reached.closed = journal.closed → reached.blocked.isSome = true →
      Wrote writes next journal world value (.error reason) reached after
  | written {after : World} :
      writes world after →
      Wrote writes next journal world value
        (.ok value) { journal with record := next } after

/-- How a method can end that writes `next` of the marshalled value once
`ready` is established. -/
def Replaced (quiet : World → World → Prop)
    (writes : Writer → Record Raw → World → World → Prop) (writer : Writer)
    (next : Raw → Record Raw) (marshalled : Except GoError Raw)
    (ready : Prop) (journal : Journal Raw) (world : World) {α : Type}
    (value : α) (outcome : Except GoError α) (reached : Journal Raw)
    (after : World) : Prop :=
  Unchanged quiet journal world outcome reached after ∨
    ∃ data, marshalled = .ok data ∧ ready ∧
      Wrote (writes writer (next data)) (next data) journal world value
        outcome reached after

/-- What `Begin` has checked when it writes. -/
structure Beginnable (journal : Journal Raw) (operation : String) : Prop where
  usable : Usable journal
  noPending : journal.record.pending = none
  named : isBlank operation = false
  counted : journal.record.sequence ≠ maxSequence

/-- What `Commit` has checked when it writes. -/
structure Committable (journal : Journal Raw) (sequence : Nat) : Prop where
  usable : Usable journal
  outstanding : ∃ pending, journal.record.pending = some pending ∧
    pending.sequence = sequence

variable {environment : Environment signature World}
  {store : Store signature Raw} {quiet : World → World → Prop}
  {writes : Writer → Record Raw → World → World → Prop}
  {stable : World → Prop} {journal : Journal Raw} {world : World}

theorem safe_throw {α Memory : Type} {reason : GoError} {memory : Memory}
    {post : Except GoError α → Memory → World → Prop}
    (durable : store.Durable environment quiet writes)
    (keeps : ∀ after, quiet world after →
      stable after ∧ post (.error reason) memory after) :
    Method.Safe environment stable post
      (throw reason : Method signature GoError Memory α) memory world :=
  Interactive.Safe.done (quiet world) (durable.refl world)
    (fun _ _ held moved => durable.trans held (durable.drift moved)) keeps

theorem safe_pure {α Memory : Type} {value : α} {memory : Memory}
    {post : Except GoError α → Memory → World → Prop}
    (durable : store.Durable environment quiet writes)
    (keeps : ∀ after, quiet world after →
      stable after ∧ post (.ok value) memory after) :
    Method.Safe environment stable post
      (pure value : Method signature GoError Memory α) memory world :=
  Interactive.Safe.done (quiet world) (durable.refl world)
    (fun _ _ held moved => durable.trans held (durable.drift moved)) keeps

/-- `check` changes nothing durable; it succeeds only on a usable value. -/
theorem check_safe (durable : store.Durable environment quiet writes)
    (keeps : ∀ after, quiet world after → stable after) :
    Method.Safe environment stable
      (fun outcome reached after => quiet world after ∧
        match outcome with
        | .ok _ => Usable journal ∧ reached = journal
        | .error _ => SameButBlocked journal reached)
      (check store) journal world := by
  apply Method.safe_get_bind.mpr
  apply Method.Safe.refuse_bind
  · intro closed
    exact safe_throw durable
      (fun after still => ⟨keeps after still, still, .refl journal⟩)
  · intro opened
    cases blocked : journal.blocked with
    | some reason =>
        exact safe_throw durable
          (fun after still => ⟨keeps after still, still, .refl journal⟩)
    | none =>
        apply Method.Safe.attempt_call_bind (durable.lock keeps)
        rintro (reason | _) after _ still
        · apply Method.safe_modify_bind.mpr
          refine safe_throw durable (fun later further => ?_)
          have stillLater := durable.trans still further
          exact ⟨keeps later stillLater, stillLater, rfl, rfl,
            by simp [blocked]⟩
        · refine safe_pure durable (fun later further => ?_)
          have stillLater := durable.trans still further
          exact ⟨keeps later stillLater, stillLater,
            ⟨opened, blocked⟩, rfl⟩

theorem snapshot_safe (durable : store.Durable environment quiet writes)
    (keeps : ∀ after, quiet world after → stable after) :
    Method.Safe environment stable
      (fun outcome reached after => quiet world after ∧
        match outcome with
        | .ok value => Usable journal ∧ reached = journal ∧
            value = (journal.record.state, journal.record.pending)
        | .error _ => SameButBlocked journal reached)
      (snapshot store) journal world := by
  apply Method.Safe.bind (check_safe durable keeps)
  · rintro _ reached after _ ⟨still, usable, rfl⟩
    apply Method.safe_get_bind.mpr
    refine safe_pure durable (fun later further => ?_)
    have stillLater := durable.trans still further
    exact ⟨keeps later stillLater, stillLater, usable, rfl, rfl⟩
  · rintro reason reached after _ posted
    exact posted

theorem close_safe (durable : store.Durable environment quiet writes)
    (keeps : ∀ after, quiet world after → stable after) :
    Method.Safe environment stable
      (fun _ reached after => quiet world after ∧
        reached = { journal with closed := true })
      (close store) journal world := by
  apply Method.safe_get_bind.mpr
  cases closed : journal.closed with
  | true =>
      refine safe_pure durable (fun after still =>
        ⟨keeps after still, still, ?_⟩)
      rw [← closed]
  | false =>
      apply Method.safe_modify_bind.mpr
      apply Method.Safe.call
      exact (durable.release keeps).weaken
        (fun _ after _ still => ⟨still, rfl⟩)

/-- A failed `persist` leaves the value blocked; the record may or may not
have become durable. -/
theorem persist_safe {writer : Writer} {next : Record Raw}
    (durable : store.Durable environment quiet writes)
    (keeps : ∀ after, quiet world after → stable after)
    (keepsWritten : ∀ after, writes writer next world after → stable after) :
    Method.Safe environment stable
      (fun outcome reached after =>
        reached.record = journal.record ∧ reached.closed = journal.closed ∧
        match outcome with
        | .ok _ => reached = journal ∧ writes writer next world after
        | .error _ => reached.blocked.isSome = true ∧
            (quiet world after ∨ writes writer next world after))
      (persist store writer next) journal world := by
  apply Method.Safe.attempt_call_bind
    (durable.write keeps keepsWritten)
  rintro (reason | _) after stableAfter posted
  · apply Method.safe_modify_bind.mpr
    refine safe_throw durable (fun later further => ?_)
    rcases posted with still | wrote
    · have stillLater := durable.trans still further
      exact ⟨keeps later stillLater, rfl, rfl, rfl, .inl stillLater⟩
    · have wroteLater := durable.writesThen wrote further
      exact ⟨keepsWritten later wroteLater, rfl, rfl, rfl, .inr wroteLater⟩
  · refine safe_pure durable (fun later further => ?_)
    have wroteLater := durable.writesThen posted further
    exact ⟨keepsWritten later wroteLater, rfl, rfl, rfl, wroteLater⟩

section Replace

variable {α : Type} {writer : Writer} {next : Raw → Record Raw}
  {marshalled : Except GoError Raw} {ready : Prop} {value : α}
  {origin : World}

/-- Nothing of the record is touched before the marshalled value is written. -/
theorem Replaced.throw_safe {reason : GoError}
    (durable : store.Durable environment quiet writes)
    (keeps : ∀ after, quiet origin after → stable after)
    (still : quiet origin world) :
    Method.Safe environment stable
      (Replaced quiet writes writer next marshalled ready journal origin value)
      (throw reason) journal world := by
  refine safe_throw durable (fun later further => ?_)
  have stillLater := durable.trans still further
  exact ⟨keeps later stillLater,
    .inl ⟨⟨reason, rfl⟩, stillLater, .refl journal⟩⟩

/-- The end of `Begin` and of `Commit`. -/
theorem replace_safe (durable : store.Durable environment quiet writes)
    (keeps : ∀ after, quiet origin after → stable after)
    (keepsWritten : ready → ∀ data, marshalled = .ok data → ∀ after,
      writes writer (next data) origin after → stable after)
    (still : quiet origin world) (usable : Usable journal) (met : ready) :
    Method.Safe environment stable
      (Replaced quiet writes writer next marshalled ready journal origin value)
      (do
        let data ← Method.check marshalled
        persist store writer (next data)
        modify fun journal => { journal with record := next data }
        return value) journal world := by
  apply Method.Safe.check_bind
    (fun reason _ => Replaced.throw_safe durable keeps still)
  intro data marshalledEq
  apply Method.Safe.bind (persist_safe durable
    (fun later further => keeps later (durable.trans still further))
    (fun later wrote => keepsWritten met data marshalledEq later
      (durable.writesAfter still wrote)))
  · rintro _ journal later _ ⟨_, _, rfl, wrote⟩
    apply Method.safe_modify_bind.mpr
    refine safe_pure durable (fun last further => ?_)
    have wroteLast := durable.writesAfter still
      (durable.writesThen wrote further)
    exact ⟨keepsWritten met data marshalledEq last wroteLast,
      .inr ⟨data, marshalledEq, met, .written wroteLast⟩⟩
  · rintro reason journal later _
      ⟨sameRecord, sameClosed, blocked, stillLater | wrote⟩
    · refine .inl ⟨⟨reason, rfl⟩, durable.trans still stillLater,
        sameRecord, sameClosed, ?_⟩
      intro wasBlocked
      rw [usable.2] at wasBlocked
      exact absurd wasBlocked (by simp)
    · exact .inr ⟨data, marshalledEq, met,
        .torn (durable.writesAfter still wrote) sameRecord sameClosed
          blocked⟩

end Replace

theorem begin_safe {operation : String} {payload : Except GoError Raw}
    (durable : store.Durable environment quiet writes)
    (keeps : ∀ after, quiet world after → stable after)
    (keepsWritten : Beginnable journal operation →
      ∀ data, payload = .ok data → ∀ after,
      writes .beginning (begun journal.record operation data) world after →
      stable after) :
    Method.Safe environment stable
      (Replaced quiet writes .beginning (begun journal.record operation)
        payload (Beginnable journal operation) journal world
        (journal.record.sequence + 1))
      (begin store operation payload) journal world := by
  apply Method.Safe.bind (check_safe durable keeps)
  · rintro _ reached after _ ⟨still, usable, rfl⟩
    apply Method.safe_get_bind.mpr
    cases pendingEq : reached.record.pending with
    | some pending => exact Replaced.throw_safe durable keeps still
    | none =>
        apply Method.Safe.refuse_bind
          (fun _ => Replaced.throw_safe durable keeps still)
        intro nameChecked
        apply Method.Safe.refuse_bind
          (fun _ => Replaced.throw_safe durable keeps still)
        intro sequenceChecked
        have named : isBlank operation = false := by
          cases blank : isBlank operation with
          | false => rfl
          | true => simp [blank] at nameChecked
        have counted : reached.record.sequence ≠ maxSequence := by
          simpa using sequenceChecked
        exact replace_safe durable keeps keepsWritten still usable
          ⟨usable, pendingEq, named, counted⟩
  · rintro reason reached after _ ⟨still, same⟩
    exact .inl ⟨⟨reason, rfl⟩, still, same⟩

theorem commit_safe {sequence : Nat} {state : Except GoError Raw}
    (durable : store.Durable environment quiet writes)
    (keeps : ∀ after, quiet world after → stable after)
    (keepsWritten : Committable journal sequence →
      ∀ data, state = .ok data → ∀ after,
      writes (.committing sequence) (committed journal.record data)
        world after → stable after) :
    Method.Safe environment stable
      (Replaced quiet writes (.committing sequence)
        (committed journal.record) state (Committable journal sequence)
        journal world ())
      (commit store sequence state) journal world := by
  apply Method.Safe.bind (check_safe durable keeps)
  · rintro _ reached after _ ⟨still, usable, rfl⟩
    apply Method.safe_get_bind.mpr
    apply Method.Safe.refuse_bind
      (fun _ => Replaced.throw_safe durable keeps still)
    intro pendingChecked
    have same : reached.record.pending.map (·.sequence) = some sequence := by
      simpa using pendingChecked
    exact replace_safe durable keeps keepsWritten still usable
      ⟨usable, Option.map_eq_some_iff.mp same⟩
  · rintro reason reached after _ ⟨still, same⟩
    exact .inl ⟨⟨reason, rfl⟩, still, same⟩

end Journal

end EvpnForOvn.Ownership

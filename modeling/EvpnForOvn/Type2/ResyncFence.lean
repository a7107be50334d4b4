import EvpnForOvn.Type2.RunSafety

/-!
# A failed resynchronization as a fence

Both resynchronizations begin by marking the reconciler unsynchronized, and an
unsynchronized reconciler applies nothing.  `resyncDurable` looks at its
context only after it has installed what it found, so one that fails there
leaves no fence.  In the runs in which no `resyncDurable` fails there, the
fence of a failed resynchronization stands until one succeeds.
-/

namespace EvpnForOvn.Evpn

open Interactive Go RouteReconciler

variable {bgp : BgpPackage}

namespace CallRecord

/-- The call is a resynchronization that returned an error. -/
def FailsResync (record : CallRecord bgp) : Prop :=
  record.outcome.isOk = false ∧ record.call.receipts.isSome = true

/-- A `resyncDurable` does not find its context cancelled. -/
def Live (record : CallRecord bgp) : Prop :=
  (∃ receipts, record.call = .resyncDurable receipts) →
    ∀ reason, ⟨.context, .error reason⟩ ∉ record.log

end CallRecord

/-- A resynchronization has failed, and none has succeeded since. -/
def Fenced (past : List (CallRecord bgp)) : Prop :=
  ∃ earlier failed later, past = earlier ++ failed :: later ∧
    failed.FailsResync ∧ ∀ other ∈ later, ¬other.Resyncs

theorem Fenced.of_snoc {past : List (CallRecord bgp)}
    {record : CallRecord bgp} (fenced : Fenced (past ++ [record])) :
    record.FailsResync ∨ (Fenced past ∧ ¬record.Resyncs) := by
  obtain ⟨earlier, failed, later, split, fails, since⟩ := fenced
  rcases List.eq_nil_or_concat later with rfl | ⟨before, last, rfl⟩
  · obtain ⟨_, same⟩ := List.append_inj' split rfl
    cases same
    exact .inl fails
  · rw [List.concat_eq_append, ← List.cons_append, ← List.append_assoc]
      at split
    obtain ⟨rfl, same⟩ := List.append_inj' split rfl
    cases same
    refine .inr ⟨⟨earlier, failed, before, rfl, fails, ?_⟩, ?_⟩
    · intro other member
      exact since other (by simp [member])
    · exact since record (by simp)

theorem planAll_synchronized (operations : List RouteOperation)
    (reconciler : RouteReconciler) (changes : List (Type2Route bgp)) :
    (planAll bgp operations reconciler changes).2.synchronized =
      reconciler.synchronized := by
  induction operations generalizing reconciler changes with
  | nil => rfl
  | cons operation rest induction =>
      unfold planAll
      cases buildType2Route bgp operation.endpoint with
      | error reason => rfl
      | ok route => exact induction _ _

/-- A plan does not synchronize. -/
theorem reconcile_synchronized (desired : List LocalEndpoint)
    (reconciler : RouteReconciler) :
    (reconcile bgp desired reconciler).2.synchronized =
      reconciler.synchronized := by
  unfold reconcile
  dsimp only
  cases collectDesired bgp reconciler.foreign desired .empty with
  | error reason => rfl
  | ok wanted => exact planAll_synchronized _ _ _

section Effect

variable {call : RouteCall bgp} {before after : RouteReconciler}
  {log : RouteLog bgp} {outcome : Except GoError (List (Type2Route bgp))}

/-- Only a successful resynchronization lifts the fence. -/
theorem RouteCall.Effect.unsynchronized
    (effect : call.Effect before log outcome after)
    (fenced : before.synchronized = false)
    (failed : ¬CallRecord.Resyncs ⟨call, before, log, outcome, after⟩)
    (live : CallRecord.Live ⟨call, before, log, outcome, after⟩) :
    after.synchronized = false := by
  cases effect with
  | planned desired =>
      exact (reconcile_synchronized desired before).trans fenced
  | refused reason quiet => exact fenced
  | added reply current _ _ _ =>
      exact absurd (fenced.symm.trans current.synchronized) (by simp)
  | deleted reply current _ _ =>
      exact absurd (fenced.symm.trans current.synchronized) (by simp)
  | unconfirmed reason _ _ => rfl
  | resynced confirmed => exact absurd ⟨rfl, rfl⟩ failed
  | @restored receipts paths found reply confirmed =>
      cases reply with
      | ok value => exact absurd ⟨rfl, rfl⟩ failed
      | error reason => exact absurd (by simp) (live ⟨_, rfl⟩ reason)

theorem RouteCall.Effect.fenced
    (effect : call.Effect before log outcome after)
    (fails : CallRecord.FailsResync ⟨call, before, log, outcome, after⟩)
    (live : CallRecord.Live ⟨call, before, log, outcome, after⟩) :
    after.synchronized = false := by
  obtain ⟨failed, resync⟩ := fails
  cases effect with
  | planned desired => cases resync
  | refused reason quiet => cases resync
  | added reply current _ _ _ => cases resync
  | deleted reply current _ _ => cases resync
  | unconfirmed reason _ _ => rfl
  | resynced confirmed => cases failed
  | @restored receipts paths found reply confirmed =>
      cases reply with
      | ok value => cases failed
      | error reason => exact absurd (by simp) (live ⟨_, rfl⟩ reason)

end Effect

theorem Reached.unsynchronized {past : List (CallRecord bgp)}
    {reconciler : RouteReconciler} (reached : Reached bgp past reconciler)
    (live : ∀ record ∈ past, record.Live) (fenced : Fenced past) :
    reconciler.synchronized = false := by
  induction reached with
  | new =>
      obtain ⟨earlier, failed, later, split, _⟩ := fenced
      simp at split
  | @call past record reached run induction =>
      have effect := CallRecord.effect run
      have liveHere := live record (by simp)
      rcases fenced.of_snoc with fails | ⟨earlier, failed⟩
      · exact effect.fenced fails liveHere
      · exact effect.unsynchronized
          (induction (fun other member => live other (by simp [member]))
            earlier) failed liveHere

/-- `Apply` on an unsynchronized reconciler returns at once. -/
theorem start_apply_unsynchronized {reconciler : RouteReconciler}
    (unsynchronized : reconciler.synchronized = false)
    (delta : Type2Route bgp) (api : Bool) :
    (RouteCall.apply delta api).serve.start (reconciler, ()) =
      .done (.error (.plain .routeResyncRequired), (reconciler, ())) := by
  obtain ⟨operations, applied, foreign, pending, synchronized⟩ := reconciler
  cases unsynchronized
  rfl

/-- In every run in which no `resyncDurable` finds its context cancelled, an
`Apply` that follows a failed resynchronization, with any calls but a
successful resynchronization in between, is rejected. -/
theorem failed_resync_fences_apply {past : List (CallRecord bgp)}
    {reconciler : RouteReconciler} (reached : Reached bgp past reconciler)
    (live : ∀ record ∈ past, record.Live) (fenced : Fenced past)
    (delta : Type2Route bgp) (api : Bool) (log : RouteLog bgp)
    (rest : Program (routeSignature bgp)
      (Except GoError (List (Type2Route bgp)) × RouteReconciler × Unit))
    (run : Runs (logging bgp)
      ((RouteCall.apply delta api).serve.start (reconciler, ())) [] log rest
      log) :
    log = [] ∧
      rest = .done (.error (.plain .routeResyncRequired),
        (reconciler, ())) := by
  rw [start_apply_unsynchronized (reached.unsynchronized live fenced)] at run
  exact run.of_done

/-- A speaker whose RIB cannot be read. -/
def lostAnswer : (request : RouteRequest wireBgp) → request.Reply
  | .snapshot => .error (.new "RIB unavailable" "")
  | request => sampleAnswer false request

/-- A synchronized reconciler with a plan fails to resynchronize. -/
def lostRecord : CallRecord wireBgp :=
  .execute lostAnswer (.resyncDurable [sampleReceipt])
    (drainedRecord false).after

theorem failed_resync_fences_apply_sample :
    (drainedRecord false).after.synchronized = true ∧
      Fenced [resyncedRecord false, drainedRecord false, lostRecord] ∧
      (CallRecord.execute (sampleAnswer false) sampleWithdrawal
        lostRecord.after).log = [] := by
  have fenced :
      Fenced [resyncedRecord false, drainedRecord false, lostRecord] :=
    ⟨[resyncedRecord false, drainedRecord false], lostRecord, [], rfl,
      ⟨by rfl, rfl⟩, by simp⟩
  have first : (resyncedRecord false).log =
      [⟨.snapshot, .ok [samplePath ""]⟩, ⟨.context, .ok ()⟩] := by
    rfl
  have last : lostRecord.log =
      [⟨.snapshot, .error (.new "RIB unavailable" "")⟩] := by
    rfl
  have live : ∀ record ∈
      [resyncedRecord false, drainedRecord false, lostRecord],
      record.Live := by
    intro record member durable
    simp only [List.mem_cons, List.not_mem_nil, or_false] at member
    rcases member with rfl | rfl | rfl
    · rw [first]
      simp
    · obtain ⟨receipts, same⟩ := durable
      cases same
    · rw [last]
      simp
  refine ⟨by rfl, fenced, ?_⟩
  exact (failed_resync_fences_apply
    ((reached_drained false).execute lostAnswer
      (.resyncDurable [sampleReceipt])) live fenced _ true _ _
    (CallRecord.runs_execute (sampleAnswer false) sampleWithdrawal
      lostRecord.after)).1

/-- A `resyncDurable` whose context is cancelled fails and leaves no
fence: the next plan is applied. -/
theorem cancelled_resync_leaves_no_fence :
    Reached wireBgp [resyncedRecord true, drainedRecord true]
      (drainedRecord true).after ∧
    Fenced [resyncedRecord true, drainedRecord true] ∧
    (CallRecord.execute (sampleAnswer false) sampleWithdrawal
      (drainedRecord true).after).outcome = .ok [] ∧
    (CallRecord.execute (sampleAnswer false) sampleWithdrawal
      (drainedRecord true).after).log =
        [⟨.context, .ok ()⟩, ⟨.delete sampleReceipt, .ok ()⟩] := by
  refine ⟨reached_drained true, ?_, by rfl, by rfl⟩
  refine ⟨[], resyncedRecord true, [drainedRecord true], rfl,
    ⟨by rfl, rfl⟩, ?_⟩
  intro other member
  obtain rfl := List.mem_singleton.mp member
  intro resyncs
  cases resyncs.2

end EvpnForOvn.Evpn

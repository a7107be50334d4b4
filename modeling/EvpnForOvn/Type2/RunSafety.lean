import EvpnForOvn.Type2.Plan
import EvpnForOvn.Type2.ReconcilerRuns
import EvpnForOvn.Type2.Resync

/-!
# Safety of the reconciler's runs

What the history of a reconciler says about the mutation it is about to send:
a deleted route was acquired and not deleted since, an added route has a free
wire key, the operation belongs to the latest plan, and it has not been
executed before.
-/

namespace EvpnForOvn.Evpn

open Interactive Go RouteReconciler

namespace CallRecord

variable {bgp : BgpPackage}

/-- The call returned the UUID of a successful `Add`. -/
def Adds (record : CallRecord bgp) (owned : OwnedType2Route) : Prop :=
  record.outcome.isOk = true ∧
    ∃ route : Type2Route bgp, route.endpoint = owned.endpoint ∧
      ⟨.add route, .ok owned.pathUUID⟩ ∈ record.log

/-- The call is a resynchronization that succeeded. -/
def Resyncs (record : CallRecord bgp) : Prop :=
  record.outcome.isOk = true ∧ record.call.receipts.isSome = true

/-- The call is a successful resynchronization with this receipt. -/
def Accepts (record : CallRecord bgp) (owned : OwnedType2Route) : Prop :=
  record.outcome.isOk = true ∧
    ∃ receipts, record.call.receipts = some receipts ∧ owned ∈ receipts

def Deletes (record : CallRecord bgp) (owned : OwnedType2Route) : Prop :=
  ⟨.delete owned, .ok ()⟩ ∈ record.log

/-- The call executed the operation and the applier succeeded. -/
def Executes (record : CallRecord bgp) (address : Nat) : Prop :=
  record.call.operation = some address ∧
    ((∃ route id, ⟨.add route, .ok id⟩ ∈ record.log) ∨
      ∃ owned, ⟨.delete owned, .ok ()⟩ ∈ record.log)

def Plans (record : CallRecord bgp) (address : Nat) : Prop :=
  (∃ desired, record.call = .reconcile desired) ∧
    record.before.operations.length ≤ address ∧
    address < record.after.operations.length

def IsApply (record : CallRecord bgp) : Prop :=
  ∃ delta api, record.call = .apply delta api

end CallRecord

section History

variable {bgp : BgpPackage}

/-- The route was acquired by an `Add`, or accepted by the latest successful
resynchronization, and it has not been deleted since. -/
def Held (past : List (CallRecord bgp)) (owned : OwnedType2Route) : Prop :=
  ∃ earlier record later, past = earlier ++ record :: later ∧
    (∀ other ∈ later, ¬other.Deletes owned) ∧
    (record.Adds owned ∨
      (record.Accepts owned ∧ ∀ other ∈ later, ¬other.Resyncs))

/-- The operation belongs to the latest plan, and nothing but `Apply` has been
called since. -/
def PlannedLast (past : List (CallRecord bgp)) (address : Nat) : Prop :=
  ∃ earlier record later, past = earlier ++ record :: later ∧
    record.Plans address ∧ ∀ other ∈ later, other.IsApply

theorem Held.snoc {past : List (CallRecord bgp)} {owned : OwnedType2Route}
    {record : CallRecord bgp} (held : Held past owned)
    (kept : ¬record.Deletes owned) (running : ¬record.Resyncs) :
    Held (past ++ [record]) owned := by
  obtain ⟨earlier, source, later, rfl, undeleted, acquired⟩ := held
  refine ⟨earlier, source, later ++ [record], by simp, ?_, ?_⟩
  · intro other member
    rcases List.mem_append.mp member with before | last
    · exact undeleted other before
    · rw [List.mem_singleton.mp last]
      exact kept
  · rcases acquired with added | accepted
    · exact .inl added
    · refine .inr ⟨accepted.1, ?_⟩
      intro other member
      rcases List.mem_append.mp member with before | last
      · exact accepted.2 other before
      · rw [List.mem_singleton.mp last]
        exact running

theorem held_last {past : List (CallRecord bgp)} {owned : OwnedType2Route}
    {record : CallRecord bgp}
    (acquired : record.Adds owned ∨ record.Accepts owned) :
    Held (past ++ [record]) owned := by
  refine ⟨past, record, [], rfl, by simp, ?_⟩
  rcases acquired with added | accepted
  · exact .inl added
  · exact .inr ⟨accepted, by simp⟩

theorem PlannedLast.snoc {past : List (CallRecord bgp)} {address : Nat}
    {record : CallRecord bgp} (planned : PlannedLast past address)
    (applies : record.IsApply) : PlannedLast (past ++ [record]) address := by
  obtain ⟨earlier, source, later, rfl, plans, since⟩ := planned
  refine ⟨earlier, source, later ++ [record], by simp, plans, ?_⟩
  intro other member
  rcases List.mem_append.mp member with before | last
  · exact since other before
  · rw [List.mem_singleton.mp last]
    exact applies

theorem Quiet.not_deletes {record : CallRecord bgp} (quiet : Quiet record.log)
    (owned : OwnedType2Route) : ¬record.Deletes owned := by
  intro deletes
  have mutates := quiet _ deletes
  cases mutates

theorem Quiet.not_executes {record : CallRecord bgp}
    (quiet : Quiet record.log) (address : Nat) :
    ¬record.Executes address := by
  intro executes
  rcases executes.2 with added | deleted
  · obtain ⟨route, id, member⟩ := added
    have mutates := quiet _ member
    cases mutates
  · obtain ⟨owned, member⟩ := deleted
    have mutates := quiet _ member
    cases mutates

end History

/-- Every local path read back for a receipt prints as the receipt's own
NLRI. -/
def ReadsBack (bgp : BgpPackage) (receipts : List OwnedType2Route)
    (paths : List (Type2RIBPath bgp)) : Prop :=
  ∀ receipt ∈ receipts, ∀ route, buildType2Route bgp receipt.endpoint =
      .ok route →
    ∀ path ∈ paths, path.isLocal = true →
      path.pathUUID = receipt.pathUUID → ∀ nlri, path.nlri = some nlri →
      bgp.serializeNLRI nlri = bgp.serializeNLRI route.nlri →
      bgp.nlriString nlri = bgp.nlriString route.nlri

/-- The context of a `resyncDurable` is not cancelled when it returns, and
every `Resync` reads its receipts back under their own keys. -/
def CallRecord.Orderly {bgp : BgpPackage} (record : CallRecord bgp) : Prop :=
  match record.call with
  | .resyncDurable _ => ∀ reason, ⟨.context, .error reason⟩ ∉ record.log
  | .resync _ receipts => ∀ paths, ⟨.snapshot, .ok paths⟩ ∈ record.log →
      ReadsBack bgp receipts paths
  | _ => True

/-- What the history says about the state of a reconciler. -/
structure HistoryHolds {bgp : BgpPackage} (past : List (CallRecord bgp))
    (reconciler : RouteReconciler) : Prop where
  filed : Filed bgp reconciler.applied
  held : ∀ key owned, reconciler.applied.get key = some owned →
    Held past owned
  advertised : ∀ operation ∈ reconciler.operations,
    operation.action = .advertise →
    wireKey bgp operation.endpoint = some operation.wireKey
  planned : ∀ address ∈ reconciler.pending, PlannedLast past address
  nodup : reconciler.pending.Nodup
  unexecuted : reconciler.synchronized = true →
    ∀ address ∈ reconciler.pending, ∀ record ∈ past,
      ¬record.Executes address
  executed : ∀ record ∈ past, ∀ address, record.Executes address →
    address < reconciler.operations.length
  once : past.Pairwise fun earlier later => ∀ address,
    earlier.Executes address → ¬later.Executes address

theorem historyHolds_new {bgp : BgpPackage} :
    HistoryHolds ([] : List (CallRecord bgp)) newRouteReconciler :=
  { filed := by
      intro key owned found
      simp [newRouteReconciler] at found
    held := by
      intro key owned found
      simp [newRouteReconciler] at found
    advertised := by simp [newRouteReconciler]
    planned := by simp [newRouteReconciler]
    nodup := List.nodup_nil
    unexecuted := by simp
    executed := by simp
    once := List.Pairwise.nil }

section Step

variable {bgp : BgpPackage} {past : List (CallRecord bgp)}
  {record : CallRecord bgp}

theorem mem_snoc {property : CallRecord bgp → Prop}
    (before : ∀ other ∈ past, property other) (last : property record) :
    ∀ other ∈ past ++ [record], property other := by
  intro other member
  rcases List.mem_append.mp member with earlier | same
  · exact before other earlier
  · rw [List.mem_singleton.mp same]
    exact last

/-- The executions stay distinct when the last call executes something new. -/
theorem HistoryHolds.once_snoc (holds : HistoryHolds past record.before)
    (fresh : ∀ address, record.Executes address →
      ∀ other ∈ past, ¬other.Executes address) :
    (past ++ [record]).Pairwise fun earlier later => ∀ address,
      earlier.Executes address → ¬later.Executes address := by
  apply List.pairwise_append.mpr
  refine ⟨holds.once, List.pairwise_singleton _ _, ?_⟩
  intro earlier member later last address executes again
  rw [List.mem_singleton.mp last] at again
  exact fresh address again earlier member executes

/-- What an `Apply` has to leave behind. -/
theorem HistoryHolds.applied (holds : HistoryHolds past record.before)
    (applies : record.IsApply)
    (operations : record.after.operations = record.before.operations)
    (filed : Filed bgp record.after.applied)
    (held : ∀ key owned, record.after.applied.get key = some owned →
      record.Adds owned ∨ (record.before.applied.get key = some owned ∧
        ¬record.Deletes owned))
    (pending : record.after.pending.Sublist record.before.pending)
    (unexecuted : record.after.synchronized = true →
      record.before.synchronized = true ∧
        ∀ address ∈ record.after.pending, ¬record.Executes address)
    (executed : ∀ address, record.Executes address →
      address < record.before.operations.length ∧
        ∀ other ∈ past, ¬other.Executes address) :
    HistoryHolds (past ++ [record]) record.after := by
  have running : ¬record.Resyncs := by
    intro resyncs
    obtain ⟨delta, api, call⟩ := applies
    have receipts := resyncs.2
    rw [call] at receipts
    cases receipts
  refine
    { filed := filed
      held := ?_
      advertised := by
        rw [operations]
        exact holds.advertised
      planned := fun address member =>
        (holds.planned address (pending.subset member)).snoc applies
      nodup := holds.nodup.sublist pending
      unexecuted := ?_
      executed := ?_
      once := holds.once_snoc fun address executes =>
        (executed address executes).2 }
  · intro key owned found
    rcases held key owned found with added | kept
    · exact held_last (.inl added)
    · exact (holds.held key owned kept.1).snoc kept.2 running
  · intro synchronized address member
    obtain ⟨before, idle⟩ := unexecuted synchronized
    exact mem_snoc
      (holds.unexecuted before address (pending.subset member))
      (idle address member)
  · rw [operations]
    exact mem_snoc holds.executed
      (fun address executes => (executed address executes).1)

/-- What a resynchronization has to leave behind. -/
theorem HistoryHolds.resynchronized
    (holds : HistoryHolds past record.before) (quiet : Quiet record.log)
    (operations : record.after.operations = record.before.operations)
    (pending : record.after.pending = [])
    (filed : Filed bgp record.after.applied)
    (held : ∀ key owned, record.after.applied.get key = some owned →
      record.Accepts owned ∨ (record.before.applied.get key = some owned ∧
        ¬record.Resyncs)) :
    HistoryHolds (past ++ [record]) record.after := by
  refine
    { filed := filed
      held := ?_
      advertised := by
        rw [operations]
        exact holds.advertised
      planned := by simp [pending]
      nodup := by simp [pending]
      unexecuted := by simp [pending]
      executed := ?_
      once := holds.once_snoc fun address executes =>
        (quiet.not_executes address executes).elim }
  · intro key owned found
    rcases held key owned found with accepted | kept
    · exact held_last (.inr accepted)
    · exact (holds.held key owned kept.1).snoc (quiet.not_deletes owned)
        kept.2
  · rw [operations]
    exact mem_snoc holds.executed
      (fun address executes => (quiet.not_executes address executes).elim)

/-- `Reconcile` keeps the routes and plans operations nobody has executed. -/
theorem HistoryHolds.reconciled {desired : List LocalEndpoint}
    (holds : HistoryHolds past record.before)
    (call : record.call = .reconcile desired) (log : record.log = [])
    (after : record.after = (reconcile bgp desired record.before).2) :
    HistoryHolds (past ++ [record]) record.after := by
  have quiet : Quiet record.log := by
    rw [log]
    exact quiet_nil
  have running : ¬record.Resyncs := by
    intro resyncs
    have receipts := resyncs.2
    rw [call] at receipts
    cases receipts
  have held : ∀ key owned, record.before.applied.get key = some owned →
      Held (past ++ [record]) owned := by
    intro key owned found
    exact (holds.held key owned found).snoc (quiet.not_deletes owned) running
  have idle : ∀ address, ¬record.Executes address := quiet.not_executes
  have once := holds.once_snoc fun address executes =>
    (idle address executes).elim
  cases collected : collectDesired bgp record.before.foreign desired
      .empty with
  | error reason =>
      have result : reconcile bgp desired record.before =
          (.error reason, { record.before with pending := [] }) := by
        unfold reconcile
        simp only [collected]
      rw [result] at after
      rw [after]
      exact
        { filed := holds.filed
          held := held
          advertised := holds.advertised
          planned := by simp
          nodup := List.nodup_nil
          unexecuted := by simp
          executed := mem_snoc holds.executed
            (fun address executes => (idle address executes).elim)
          once := once }
  | ok wanted =>
      obtain ⟨deltas, _, result⟩ :=
        reconcile_of_collected holds.filed collected
      have advertised : ∀ operation ∈ plannedAdvertisements
          record.before.applied wanted,
          wireKey bgp operation.endpoint = some operation.wireKey := by
        intro operation member
        obtain ⟨endpoint, found, _, shape⟩ :=
          mem_plannedAdvertisements.mp member
        rw [shape]
        exact ((collected_of_ok collected).only _ endpoint found).2.2
      rw [result] at after
      have plans : ∀ address ∈ record.after.pending,
          record.Plans address := by
        intro address member
        rw [after] at member
        have range := List.mem_range'_1.mp member
        refine ⟨⟨desired, call⟩, range.1, ?_⟩
        rw [after, List.length_append]
        exact range.2
      refine
        { filed := ?_
          held := ?_
          advertised := ?_
          planned := fun address member =>
            ⟨past, record, [], rfl, plans address member, by simp⟩
          nodup := ?_
          unexecuted := ?_
          executed := ?_
          once := once }
      · rw [after]
        exact holds.filed
      · rw [after]
        exact held
      · rw [after]
        intro operation member advertises
        rcases List.mem_append.mp member with before | new
        · exact holds.advertised operation before advertises
        · rcases List.mem_append.mp new with withdrawal | advertisement
          · rw [withdrawal_action withdrawal] at advertises
            cases advertises
          · exact advertised operation advertisement
      · rw [after]
        exact List.nodup_range'
      · intro _ address member
        apply mem_snoc
        · intro other earlier executes
          have bound := holds.executed other earlier address executes
          have planned := (plans address member).2.1
          omega
        · exact idle address
      · rw [after]
        apply mem_snoc
        · intro other earlier address executes
          have bound := holds.executed other earlier address executes
          rw [List.length_append]
          omega
        · intro address executes
          exact (idle address executes).elim

theorem CallRecord.executes_current {delta : Type2Route bgp} {api : Bool}
    {address other : Nat} {operation : RouteOperation}
    (call : record.call = .apply delta api)
    (current : Current record.before delta address operation)
    (executes : record.Executes other) : other = address := by
  have same := executes.1
  rw [call] at same
  have addressed : some address = some other :=
    current.addressed.symm.trans same
  exact (Option.some.inj addressed).symm

section Current

variable {delta : Type2Route bgp} {api : Bool} {address : Nat}
  {operation : RouteOperation}

/-- A pending operation has not been executed. -/
theorem HistoryHolds.fresh_current (holds : HistoryHolds past record.before)
    (call : record.call = .apply delta api)
    (current : Current record.before delta address operation) :
    ∀ other, record.Executes other →
      other < record.before.operations.length ∧
        ∀ earlier ∈ past, ¬earlier.Executes other := by
  intro other executes
  rw [CallRecord.executes_current call current executes]
  exact ⟨(List.getElem?_eq_some_iff.mp current.found).1,
    holds.unexecuted current.synchronized address current.pending⟩

theorem HistoryHolds.not_executes_erase
    (holds : HistoryHolds past record.before)
    (call : record.call = .apply delta api)
    (current : Current record.before delta address operation) :
    ∀ other ∈ record.before.pending.erase address,
      ¬record.Executes other := by
  intro other member executes
  obtain rfl := CallRecord.executes_current call current executes
  exact holds.nodup.not_mem_erase member

/-- An operation that failed at the speaker, or whose outcome is unknown. -/
theorem HistoryHolds.unacknowledged {synchronized : Bool}
    (holds : HistoryHolds past record.before)
    (call : record.call = .apply delta api)
    (current : Current record.before delta address operation)
    (after : record.after =
      { record.before with synchronized := synchronized })
    (undeleted : ∀ owned, ¬record.Deletes owned)
    (unexecuted : synchronized = true → ∀ other, ¬record.Executes other) :
    HistoryHolds (past ++ [record]) record.after := by
  apply holds.applied ⟨delta, api, call⟩
  · rw [after]
  · rw [after]
    exact holds.filed
  · intro key owned found
    rw [after] at found
    exact .inr ⟨found, undeleted owned⟩
  · rw [after]
  · intro still
    rw [after] at still
    exact ⟨current.synchronized, fun other _ => unexecuted still other⟩
  · exact holds.fresh_current call current

theorem HistoryHolds.acknowledged (holds : HistoryHolds past record.before)
    (change : GoMap OwnedType2Route → GoMap OwnedType2Route)
    (call : record.call = .apply delta api)
    (current : Current record.before delta address operation)
    (after : record.after = acknowledge address change record.before)
    (changed : ∀ key owned,
      (change record.before.applied).get key = some owned →
        (record.Adds owned ∧ wireKey bgp owned.endpoint = some key) ∨
          (record.before.applied.get key = some owned ∧
            ¬record.Deletes owned)) :
    HistoryHolds (past ++ [record]) record.after := by
  apply holds.applied ⟨delta, api, call⟩
  · rw [after]
    rfl
  · rw [after]
    intro key owned found
    rcases changed key owned found with ⟨_, keyed⟩ | ⟨kept, _⟩
    · exact keyed
    · exact holds.filed key owned kept
  · intro key owned found
    rw [after] at found
    exact (changed key owned found).imp_left And.left
  · rw [after]
    exact List.erase_sublist
  · intro _
    refine ⟨current.synchronized, ?_⟩
    rw [after]
    exact holds.not_executes_erase call current
  · exact holds.fresh_current call current

theorem HistoryHolds.added {route : Type2Route bgp}
    {reply : Except GoError String}
    (holds : HistoryHolds past record.before)
    (call : record.call = .apply delta api)
    (log : record.log = [⟨.context, .ok ()⟩, ⟨.add route, reply⟩])
    (outcome : record.outcome =
      (afterAdd record.before address operation reply).1.map fun _ => [])
    (after : record.after =
      (afterAdd record.before address operation reply).2)
    (current : Current record.before delta address operation)
    (action : operation.action = .advertise)
    (built : buildType2Route bgp operation.endpoint = .ok route) :
    HistoryHolds (past ++ [record]) record.after := by
  have undeleted : ∀ owned, ¬record.Deletes owned := by
    intro owned deletes
    simp [CallRecord.Deletes, log] at deletes
  cases reply with
  | error reason =>
      refine holds.unacknowledged call current after undeleted ?_
      intro _ other executes
      simpa [log] using executes.2
  | ok id =>
      by_cases empty : id = ""
      · refine @HistoryHolds.unacknowledged _ _ _ _ _ _ _ false holds call
          current ?_ undeleted nofun
        rw [after]
        simp [afterAdd, empty]
      · have acknowledged : afterAdd record.before address operation
            (.ok id) = (.ok (), acknowledge address (fun applied =>
              applied.set operation.wireKey ⟨operation.endpoint, id⟩)
              record.before) := by
          simp [afterAdd, empty]
        rw [acknowledged] at after outcome
        refine holds.acknowledged
          (·.set operation.wireKey ⟨operation.endpoint, id⟩) call current
          after ?_
        intro key owned found
        rw [GoMap.get_set] at found
        split at found
        · rename_i same
          cases found
          refine .inl ⟨⟨by rw [outcome]; rfl, route,
            buildType2Route_endpoint built, by simp [log]⟩, ?_⟩
          rw [same]
          exact holds.advertised operation
            (List.mem_of_getElem? current.found) action
        · exact .inr ⟨found, undeleted owned⟩

theorem HistoryHolds.deleted {owned : OwnedType2Route}
    {reply : Except GoError Unit}
    (holds : HistoryHolds past record.before)
    (call : record.call = .apply delta api)
    (log : record.log = [⟨.context, .ok ()⟩, ⟨.delete owned, reply⟩])
    (after : record.after =
      (afterDelete record.before address operation reply).2)
    (current : Current record.before delta address operation)
    (present : record.before.applied.get operation.wireKey = some owned) :
    HistoryHolds (past ++ [record]) record.after := by
  cases reply with
  | error reason =>
      refine holds.unacknowledged call current after ?_ ?_
      · intro other deletes
        simp [CallRecord.Deletes, log] at deletes
      · intro _ other executes
        simpa [log] using executes.2
  | ok value =>
      refine holds.acknowledged (·.delete operation.wireKey) call current
        after ?_
      intro key other found
      rw [GoMap.get_delete] at found
      split at found
      · cases found
      · rename_i different
        refine .inr ⟨found, fun deletes => different ?_⟩
        have same : other = owned := by
          simpa [CallRecord.Deletes, log] using deletes
        have sameKey : some key = some operation.wireKey := by
          rw [← holds.filed key other found,
            ← holds.filed operation.wireKey owned present, same]
        exact Option.some.inj sameKey

end Current

/-- Every orderly call keeps the invariant. -/
theorem HistoryHolds.step (holds : HistoryHolds past record.before)
    (effect : record.call.Effect record.before record.log record.outcome
      record.after)
    (orderly : record.Orderly) :
    HistoryHolds (past ++ [record]) record.after := by
  obtain ⟨call, before, log, outcome, after⟩ := record
  dsimp only at effect holds ⊢
  cases effect with
  | planned desired => exact holds.reconciled rfl rfl rfl
  | refused reason quiet =>
      apply holds.applied ⟨_, _, rfl⟩ rfl holds.filed
      · intro key owned found
        exact .inr ⟨found, quiet.not_deletes owned⟩
      · exact List.Sublist.refl _
      · intro synchronized
        exact ⟨synchronized, fun other _ => quiet.not_executes other⟩
      · intro other executes
        exact (quiet.not_executes other executes).elim
  | added reply current action absent built =>
      exact holds.added rfl rfl rfl rfl current action built
  | deleted reply current action present =>
      exact holds.deleted rfl rfl rfl current present
  | unconfirmed reason receipts quiet =>
      apply holds.resynchronized quiet rfl rfl holds.filed
      intro key owned found
      refine .inr ⟨found, ?_⟩
      intro resyncs
      cases resyncs.1
  | @resynced receipts paths found confirmed =>
      have quiet : Quiet
          ([⟨.snapshot, .ok paths⟩, ⟨.context, .ok ()⟩] : RouteLog bgp) :=
        (quiet_nil.snapshot _).context _
      have accepted : ∀ key owned, found.applied.get key = some owned →
          owned ∈ receipts ∧ wireKey bgp owned.endpoint = some key := by
        intro key owned installed
        obtain ⟨given, path, uuid, read⟩ := confirm_sound confirmed installed
        refine ⟨given, ?_⟩
        obtain ⟨nlri, present, keyed⟩ := read.found.keyed
        obtain ⟨route, same, bytes, built, samePresent, got, want⟩ :=
          nlri_of_ribPathMatchesEndpoint read.matched
        rw [present] at samePresent
        cases samePresent
        apply wireKey_eq_some_iff.mpr
        refine ⟨route, built, ?_⟩
        rw [← keyed]
        exact (orderly paths (by simp) owned given route built path
          read.member read.found.isLocal uuid nlri present
          (got.trans want.symm)).symm
      apply holds.resynchronized quiet rfl rfl
      · intro key owned installed
        exact (accepted key owned installed).2
      · intro key owned installed
        exact .inl ⟨rfl, receipts, rfl, (accepted key owned installed).1⟩
  | @restored receipts paths found reply confirmed =>
      have restored := confirmDurable_restored confirmed
      have quiet : Quiet
          ([⟨.snapshot, .ok paths⟩, ⟨.context, reply⟩] : RouteLog bgp) :=
        (quiet_nil.snapshot _).context _
      have alive : reply = .ok () := by
        cases reply with
        | ok value => rfl
        | error reason => exact (orderly reason (by simp)).elim
      subst alive
      apply holds.resynchronized quiet rfl rfl
      · intro key owned installed
        exact (restored.only key owned installed).2.1
      · intro key owned installed
        exact .inl ⟨rfl, receipts, rfl,
          (restored.only key owned installed).1⟩

end Step

theorem Reached.historyHolds {bgp : BgpPackage}
    {past : List (CallRecord bgp)} {reconciler : RouteReconciler}
    (reached : Reached bgp past reconciler)
    (orderly : ∀ record ∈ past, record.Orderly) :
    HistoryHolds past reconciler := by
  induction reached with
  | new => exact historyHolds_new
  | call _ run induction =>
      have earlier := induction fun record member =>
        orderly record (List.mem_append_left _ member)
      exact earlier.step (CallRecord.effect run) (orderly _ (by simp))

/-- What every call of a run may send. -/
structure RunSafe {bgp : BgpPackage} (past : List (CallRecord bgp))
    (reconciler : RouteReconciler) : Prop where
  deletes_held : ∀ (call : RouteCall bgp) log owned reply,
    call.Issues reconciler log → ⟨.delete owned, reply⟩ ∈ log →
    Held past owned
  adds_absent : ∀ (call : RouteCall bgp) log route reply,
    call.Issues reconciler log → ⟨.add route, reply⟩ ∈ log →
    reconciler.applied.get (bgp.nlriString route.nlri) = none
  planned_last : ∀ (call : RouteCall bgp) log event,
    call.Issues reconciler log → event ∈ log → event.1.mutates = true →
    ∃ address, call.operation = some address ∧ PlannedLast past address ∧
      ∀ record ∈ past, ¬record.Executes address
  one_mutation : ∀ (call : RouteCall bgp) log,
    call.Issues reconciler log →
    (log.filter fun event => event.1.mutates).length ≤ 1
  executed_once : past.Pairwise fun earlier later => ∀ address,
    earlier.Executes address → ¬later.Executes address

/-- A mutation comes from an `Apply` of a current operation. -/
theorem RouteCall.Sends.mutation {bgp : BgpPackage}
    {reconciler : RouteReconciler} {call : RouteCall bgp}
    {log : RouteLog bgp} (sends : call.Sends reconciler log)
    {event : Event (routeSignature bgp)} (member : event ∈ log)
    (mutates : event.1.mutates = true) :
    ∃ delta api address operation, call = .apply delta api ∧
      Current reconciler delta address operation ∧
      ((∃ route reply, event = ⟨.add route, reply⟩ ∧
          operation.action = .advertise ∧
          reconciler.applied.get operation.wireKey = none ∧
          buildType2Route bgp operation.endpoint = .ok route) ∨
        ∃ owned reply, event = ⟨.delete owned, reply⟩ ∧
          reconciler.applied.get operation.wireKey = some owned) := by
  obtain ⟨outcome, after, effect⟩ := sends
  cases effect with
  | planned desired => cases member
  | refused reason quiet =>
      rw [quiet event member] at mutates
      cases mutates
  | @added delta api address operation route reply current action absent
      built =>
      refine ⟨delta, api, address, operation, rfl, current, .inl ?_⟩
      simp only [List.mem_cons, List.not_mem_nil, or_false] at member
      rcases member with context | add
      · rw [context] at mutates
        cases mutates
      · exact ⟨route, reply, add, action, absent, built⟩
  | @deleted delta api address operation owned reply current action
      present =>
      refine ⟨delta, api, address, operation, rfl, current, .inr ?_⟩
      simp only [List.mem_cons, List.not_mem_nil, or_false] at member
      rcases member with context | delete
      · rw [context] at mutates
        cases mutates
      · exact ⟨owned, reply, delete, present⟩
  | unconfirmed reason receipts quiet =>
      rw [quiet event member] at mutates
      cases mutates
  | resynced confirmed =>
      rw [(quiet_nil.snapshot _).context _ event member] at mutates
      cases mutates
  | restored reply confirmed =>
      rw [(quiet_nil.snapshot _).context _ event member] at mutates
      cases mutates

theorem RouteCall.Sends.one_mutation {bgp : BgpPackage}
    {reconciler : RouteReconciler} {call : RouteCall bgp}
    {log : RouteLog bgp} (sends : call.Sends reconciler log) :
    (log.filter fun event => event.1.mutates).length ≤ 1 := by
  have quiet : ∀ log : RouteLog bgp, Quiet log →
      (log.filter fun event => event.1.mutates).length ≤ 1 := by
    intro log quietLog
    rw [List.filter_eq_nil_iff.mpr]
    · exact Nat.zero_le 1
    · intro event member
      simp [quietLog event member]
  obtain ⟨outcome, after, effect⟩ := sends
  cases effect with
  | planned desired => exact quiet _ quiet_nil
  | refused reason quietLog => exact quiet _ quietLog
  | added reply _ _ _ _ => exact Nat.le_refl 1
  | deleted reply _ _ _ => exact Nat.le_refl 1
  | unconfirmed reason _ quietLog => exact quiet _ quietLog
  | resynced _ => exact Nat.zero_le 1
  | restored _ _ => exact Nat.zero_le 1

theorem reconciler_run_safe {bgp : BgpPackage} {past : List (CallRecord bgp)}
    {reconciler : RouteReconciler} (reached : Reached bgp past reconciler)
    (orderly : ∀ record ∈ past, record.Orderly) :
    RunSafe past reconciler := by
  have holds := reached.historyHolds orderly
  refine
    { deletes_held := ?_
      adds_absent := ?_
      planned_last := ?_
      one_mutation := fun call log issues => issues.sends.one_mutation
      executed_once := holds.once }
  · intro call log owned reply issues member
    obtain ⟨delta, api, address, operation, _, current, sent⟩ :=
      issues.sends.mutation member rfl
    rcases sent with add | delete
    · obtain ⟨route, otherReply, same, _⟩ := add
      cases same
    · obtain ⟨other, otherReply, same, present⟩ := delete
      cases same
      exact holds.held _ _ present
  · intro call log route reply issues member
    obtain ⟨delta, api, address, operation, _, current, sent⟩ :=
      issues.sends.mutation member rfl
    rcases sent with add | delete
    · obtain ⟨other, otherReply, same, action, absent, built⟩ := add
      cases same
      have keyed := holds.advertised operation
        (List.mem_of_getElem? current.found) action
      have sameKey : bgp.nlriString route.nlri = operation.wireKey := by
        obtain ⟨again, builtAgain, key⟩ := wireKey_eq_some_iff.mp keyed
        rw [built] at builtAgain
        cases builtAgain
        exact key
      rw [sameKey]
      exact absent
    · obtain ⟨owned, otherReply, same, _⟩ := delete
      cases same
  · intro call log event issues member mutates
    obtain ⟨delta, api, address, operation, callEq, current, _⟩ :=
      issues.sends.mutation member mutates
    refine ⟨address, ?_, holds.planned address current.pending,
      holds.unexecuted current.synchronized address current.pending⟩
    rw [callEq]
    exact current.addressed

/-- A speaker that holds the sample path, and a context that may be
cancelled. -/
def sampleAnswer (cancelled : Bool) :
    (request : RouteRequest wireBgp) → request.Reply
  | .context => if cancelled then .error (.new "context canceled" "") else .ok ()
  | .snapshot => .ok [samplePath ""]
  | .add _ => .ok "uuid-2"
  | .delete _ => .ok ()

def sampleReceipt : OwnedType2Route :=
  ⟨sampleEndpoint, "uuid-1"⟩

/-- A `resyncDurable` and a `Reconcile` without any endpoint. -/
def resyncedRecord (cancelled : Bool) : CallRecord wireBgp :=
  .execute (sampleAnswer cancelled) (.resyncDurable [sampleReceipt])
    newRouteReconciler

def drainedRecord (cancelled : Bool) : CallRecord wireBgp :=
  .execute (sampleAnswer false) (.reconcile [])
    (resyncedRecord cancelled).after

def sampleWithdrawal : RouteCall wireBgp :=
  .apply { sampleRoute with action := .withdraw, operation := some 0 } true

theorem reached_drained (cancelled : Bool) :
    Reached wireBgp [resyncedRecord cancelled, drainedRecord cancelled]
      (drainedRecord cancelled).after :=
  (Reached.new.execute (sampleAnswer cancelled) _).execute
    (sampleAnswer false) _

theorem reconciler_run_safe_drained :
    (∀ record ∈ [resyncedRecord false, drainedRecord false],
      record.Orderly) ∧
    RunSafe [resyncedRecord false, drainedRecord false]
      (drainedRecord false).after := by
  have orderly : ∀ record ∈ [resyncedRecord false, drainedRecord false],
      record.Orderly := by
    intro record member
    simp only [List.mem_cons, List.not_mem_nil, or_false] at member
    rcases member with first | second
    · subst first
      intro reason cancelled
      have log : (resyncedRecord false).log =
          [⟨.snapshot, .ok [samplePath ""]⟩, ⟨.context, .ok ()⟩] := by
        rfl
      rw [log] at cancelled
      simp at cancelled
    · subst second
      exact trivial
  exact ⟨orderly, reconciler_run_safe (reached_drained false) orderly⟩

/-- The receipt of a resynchronization that has failed is deleted. -/
theorem cancelled_resync_deletes :
    Reached wireBgp [resyncedRecord true, drainedRecord true]
      (drainedRecord true).after ∧
    (resyncedRecord true).outcome.isOk = false ∧
    ∃ log, sampleWithdrawal.Issues (drainedRecord true).after log ∧
      ⟨.delete sampleReceipt, .ok ()⟩ ∈ log ∧
      ¬Held [resyncedRecord true, drainedRecord true] sampleReceipt := by
  have failed : (resyncedRecord true).outcome.isOk = false := by rfl
  have log : (CallRecord.execute (sampleAnswer false) sampleWithdrawal
      (drainedRecord true).after).log =
      [⟨.context, .ok ()⟩, ⟨.delete sampleReceipt, .ok ()⟩] := by
    rfl
  refine ⟨reached_drained true, failed,
    [⟨.context, .ok ()⟩, ⟨.delete sampleReceipt, .ok ()⟩], ?_, by simp, ?_⟩
  · have run := CallRecord.runs_execute (sampleAnswer false)
      sampleWithdrawal (drainedRecord true).after
    rw [log] at run
    exact ⟨_, run⟩
  · intro held
    obtain ⟨earlier, record, later, split, _, acquired⟩ := held
    have member : record ∈ [resyncedRecord true, drainedRecord true] := by
      rw [split]
      simp
    simp only [List.mem_cons, List.not_mem_nil, or_false] at member
    rcases member with first | second
    · subst first
      rcases acquired with added | accepted
      · have succeeded := added.1
        rw [failed] at succeeded
        cases succeeded
      · have succeeded := accepted.1.1
        rw [failed] at succeeded
        cases succeeded
    · subst second
      rcases acquired with added | accepted
      · obtain ⟨_, route, _, sent⟩ := added
        cases sent
      · obtain ⟨receipts, given, _⟩ := accepted.1.2
        cases given

end EvpnForOvn.Evpn

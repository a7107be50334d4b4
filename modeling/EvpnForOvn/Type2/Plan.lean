import EvpnForOvn.Type2.ReconcilerSpec
import EvpnForOvn.Type2.Wire

/-!
# Plans of the reconciler

What `Reconcile` accepts, which operations it plans, and where applying them
one after the other leads.  Equivalence of endpoints is equality of the fields
`Equivalent` compares, so it can be chained freely.
-/

namespace EvpnForOvn.Evpn

open Interactive Go

variable {bgp : BgpPackage}

theorem LocalEndpoint.equivalent_refl (endpoint : LocalEndpoint) :
    endpoint.equivalent endpoint = true :=
  equivalent_iff.mpr rfl

theorem LocalEndpoint.equivalent_comm {first second : LocalEndpoint}
    (same : first.equivalent second = true) :
    second.equivalent first = true :=
  equivalent_iff.mpr (equivalent_iff.mp same).symm

theorem LocalEndpoint.equivalent_trans {first second third : LocalEndpoint}
    (before : first.equivalent second = true)
    (after : second.equivalent third = true) :
    first.equivalent third = true :=
  equivalent_iff.mpr ((equivalent_iff.mp before).trans
    (equivalent_iff.mp after))

namespace RouteReconciler

variable {foreign : List String} {desired : List LocalEndpoint}
  {wanted : GoMap LocalEndpoint}

/-- Why `Reconcile` refuses a list of endpoints: an advertised endpoint has no
route, two of them claim one key without being equivalent, or a key is
foreign. -/
inductive Refused (bgp : BgpPackage) (foreign : List String)
    (desired : List LocalEndpoint) : Prop where
  | invalid {endpoint : LocalEndpoint} {reason : GoError} :
      endpoint ∈ desired → endpoint.advertise = true →
      buildType2Route bgp endpoint = .error reason →
      Refused bgp foreign desired
  | conflict {first second : LocalEndpoint} {key : String} :
      first ∈ desired → first.advertise = true →
      second ∈ desired → second.advertise = true →
      wireKey bgp first = some key → wireKey bgp second = some key →
      first.equivalent second = false → Refused bgp foreign desired
  | unclaimed {endpoint : LocalEndpoint} {key : String} :
      endpoint ∈ desired → endpoint.advertise = true →
      wireKey bgp endpoint = some key → key ∈ foreign →
      Refused bgp foreign desired

theorem Refused.of_subset {other : List LocalEndpoint}
    (refused : Refused bgp foreign desired)
    (subset : ∀ endpoint ∈ desired, endpoint ∈ other) :
    Refused bgp foreign other := by
  cases refused with
  | invalid member advertised failed =>
      exact .invalid (subset _ member) advertised failed
  | conflict first firstAdvertised second secondAdvertised firstKey secondKey
      different =>
      exact .conflict (subset _ first) firstAdvertised (subset _ second)
        secondAdvertised firstKey secondKey different
  | unclaimed member advertised key inForeign =>
      exact .unclaimed (subset _ member) advertised key inForeign

/-- The wanted routes are the advertised endpoints, one for each key. -/
structure Collected (bgp : BgpPackage) (foreign : List String)
    (desired : List LocalEndpoint) (wanted : GoMap LocalEndpoint) :
    Prop where
  all : ∀ endpoint ∈ desired, endpoint.advertise = true →
    ∃ key, wireKey bgp endpoint = some key ∧ key ∉ foreign ∧
      ∃ other, wanted.get key = some other ∧
        other.equivalent endpoint = true
  only : ∀ key endpoint, wanted.get key = some endpoint →
    endpoint ∈ desired ∧ endpoint.advertise = true ∧
      wireKey bgp endpoint = some key

/-- What one more pass over the list does to a map. -/
theorem collectDesired_sound {start : GoMap LocalEndpoint}
    (collected : collectDesired bgp foreign desired start = .ok wanted) :
    (∀ endpoint ∈ desired, endpoint.advertise = true →
      ∃ key, wireKey bgp endpoint = some key ∧ key ∉ foreign ∧
        ∃ other, wanted.get key = some other ∧
          other.equivalent endpoint = true) ∧
    (∀ key endpoint, start.get key = some endpoint →
      ∃ other, wanted.get key = some other ∧
        other.equivalent endpoint = true) ∧
    (∀ key endpoint, wanted.get key = some endpoint →
      start.get key = some endpoint ∨
        (endpoint ∈ desired ∧ endpoint.advertise = true ∧
          wireKey bgp endpoint = some key)) := by
  induction desired generalizing start with
  | nil =>
      cases collected
      refine ⟨by simp, ?_, ?_⟩
      · intro key endpoint found
        exact ⟨endpoint, found, endpoint.equivalent_refl⟩
      · intro key endpoint found
        exact .inl found
  | cons head rest induction =>
      by_cases advertised : head.advertise = true
      · have step := collected
        unfold collectDesired at step
        simp only [advertised, Bool.not_true, Bool.false_eq_true,
          if_false] at step
        cases built : buildType2Route bgp head with
        | error reason => simp [built] at step
        | ok route =>
            simp only [built] at step
            generalize keyEq : bgp.nlriString route.nlri = key at step
            have headKey : wireKey bgp head = some key :=
              wireKey_eq_some_iff.mpr ⟨route, built, keyEq⟩
            split at step
            · cases step
            · rename_i agreed
              split at step
              · cases step
              · rename_i claimed
                have notForeign : key ∉ foreign := by simpa using claimed
                obtain ⟨all, kept, only⟩ := induction step
                have headKept := kept key head GoMap.get_set_self
                refine ⟨?_, ?_, ?_⟩
                · intro endpoint member endpointAdvertised
                  rcases List.mem_cons.mp member with same | later
                  · subst endpoint
                    exact ⟨key, headKey, notForeign, headKept⟩
                  · exact all endpoint later endpointAdvertised
                · intro other endpoint found
                  by_cases same : other = key
                  · subst other
                    obtain ⟨last, lastFound, lastSame⟩ := headKept
                    have firstSame : endpoint.equivalent head = true := by
                      simpa [found] using agreed
                    exact ⟨last, lastFound,
                      LocalEndpoint.equivalent_trans lastSame
                        (LocalEndpoint.equivalent_comm firstSame)⟩
                  · apply kept
                    rw [GoMap.get_set_of_ne same]
                    exact found
                · intro other endpoint found
                  rcases only other endpoint found with earlier | later
                  · by_cases same : other = key
                    · subst other
                      rw [GoMap.get_set_self] at earlier
                      cases earlier
                      exact .inr ⟨List.mem_cons_self, advertised, headKey⟩
                    · rw [GoMap.get_set_of_ne same] at earlier
                      exact .inl earlier
                  · exact .inr ⟨List.mem_cons_of_mem _ later.1, later.2⟩
      · have step := collected
        unfold collectDesired at step
        have skipped : (!head.advertise) = true := by simpa using advertised
        simp only [skipped, if_true] at step
        obtain ⟨all, kept, only⟩ := induction step
        refine ⟨?_, kept, ?_⟩
        · intro endpoint member endpointAdvertised
          rcases List.mem_cons.mp member with same | later
          · subst endpoint
            exact absurd endpointAdvertised advertised
          · exact all endpoint later endpointAdvertised
        · intro key endpoint found
          rcases only key endpoint found with earlier | later
          · exact .inl earlier
          · exact .inr ⟨List.mem_cons_of_mem _ later.1, later.2⟩

theorem collectDesired_complete {start : GoMap LocalEndpoint}
    (keyed : ∀ endpoint ∈ desired, endpoint.advertise = true →
      ∃ key, wireKey bgp endpoint = some key ∧ key ∉ foreign ∧
        ∀ other, start.get key = some other →
          other.equivalent endpoint = true)
    (agreed : ∀ first ∈ desired, first.advertise = true →
      ∀ second ∈ desired, second.advertise = true →
      ∀ key, wireKey bgp first = some key → wireKey bgp second = some key →
        first.equivalent second = true) :
    ∃ wanted, collectDesired bgp foreign desired start = .ok wanted := by
  induction desired generalizing start with
  | nil => exact ⟨start, rfl⟩
  | cons head rest induction =>
      have restAgreed := fun first firstMember firstAdvertised second
          secondMember => agreed first (List.mem_cons_of_mem head firstMember)
        firstAdvertised second (List.mem_cons_of_mem head secondMember)
      unfold collectDesired
      by_cases advertised : head.advertise = true
      · obtain ⟨key, headKey, notForeign, same⟩ :=
          keyed head List.mem_cons_self advertised
        obtain ⟨route, built, keyEq⟩ := wireKey_eq_some_iff.mp headKey
        have noConflict : (start.get key).any
            (fun other => !other.equivalent head) = false := by
          cases found : start.get key with
          | none => rfl
          | some other => simp [same other found]
        have notContained : foreign.contains key = false := by
          simpa using notForeign
        simp only [advertised, Bool.not_true, Bool.false_eq_true, if_false,
          built, keyEq, noConflict, notContained]
        apply induction
        · intro endpoint member endpointAdvertised
          obtain ⟨other, otherKey, otherForeign, otherSame⟩ := keyed endpoint
            (List.mem_cons_of_mem head member) endpointAdvertised
          refine ⟨other, otherKey, otherForeign, ?_⟩
          intro found
          by_cases sameKey : other = key
          · subst other
            rw [GoMap.get_set_self]
            intro foundEq
            cases foundEq
            exact agreed head List.mem_cons_self advertised endpoint
              (List.mem_cons_of_mem head member) endpointAdvertised key
              headKey otherKey
          · rw [GoMap.get_set_of_ne sameKey]
            exact otherSame found
        · exact restAgreed
      · have skipped : (!head.advertise) = true := by simpa using advertised
        simp only [skipped, if_true]
        apply induction
        · intro endpoint member
          exact keyed endpoint (List.mem_cons_of_mem head member)
        · exact restAgreed

theorem collected_of_ok
    (ok : collectDesired bgp foreign desired .empty = .ok wanted) :
    Collected bgp foreign desired wanted := by
  obtain ⟨all, _, only⟩ := collectDesired_sound ok
  refine ⟨all, fun key endpoint found => ?_⟩
  rcases only key endpoint found with impossible | present
  · simp at impossible
  · exact present

theorem Collected.not_refused (collected : Collected bgp foreign desired wanted) :
    ¬Refused bgp foreign desired := by
  intro refused
  cases refused with
  | invalid member advertised failed =>
      obtain ⟨key, keyEq, _⟩ := collected.all _ member advertised
      obtain ⟨route, built, _⟩ := wireKey_eq_some_iff.mp keyEq
      rw [failed] at built
      cases built
  | conflict first firstAdvertised second secondAdvertised firstKey secondKey
      different =>
      obtain ⟨key, keyEq, _, other, found, same⟩ :=
        collected.all _ first firstAdvertised
      obtain ⟨key', keyEq', _, other', found', same'⟩ :=
        collected.all _ second secondAdvertised
      have sameKey : key = key' := by
        rw [firstKey] at keyEq
        rw [secondKey] at keyEq'
        cases keyEq
        cases keyEq'
        rfl
      subst key'
      rw [found] at found'
      cases found'
      have equivalent := LocalEndpoint.equivalent_trans
        (LocalEndpoint.equivalent_comm same) same'
      rw [different] at equivalent
      cases equivalent
  | unclaimed member advertised keyEq inForeign =>
      obtain ⟨key, keyEq', notForeign, _⟩ := collected.all _ member advertised
      rw [keyEq] at keyEq'
      cases keyEq'
      exact notForeign inForeign

/-- The list is collected exactly when there is no reason to refuse it. -/
theorem collectDesired_ok_iff :
    (∃ wanted, collectDesired bgp foreign desired .empty = .ok wanted) ↔
      ¬Refused bgp foreign desired := by
  constructor
  · intro ok
    obtain ⟨wanted, ok⟩ := ok
    exact (collected_of_ok ok).not_refused
  · intro accepted
    apply collectDesired_complete
    · intro endpoint member advertised
      cases built : buildType2Route bgp endpoint with
      | error reason =>
          exact absurd (.invalid member advertised built) accepted
      | ok route =>
          have keyEq : wireKey bgp endpoint =
              some (bgp.nlriString route.nlri) :=
            wireKey_eq_some_iff.mpr ⟨route, built, rfl⟩
          refine ⟨_, keyEq, ?_, by simp⟩
          intro inForeign
          exact accepted (.unclaimed member advertised keyEq inForeign)
    · intro first firstMember firstAdvertised second secondMember
        secondAdvertised key firstKey secondKey
      by_contra different
      exact accepted (.conflict firstMember firstAdvertised secondMember
        secondAdvertised firstKey secondKey (by simpa using different))

variable {applied : GoMap OwnedType2Route}

theorem mem_plannedWithdrawals {operation : RouteOperation} :
    operation ∈ plannedWithdrawals applied wanted ↔
      ∃ existing, applied.get operation.wireKey = some existing ∧
        (wanted.get operation.wireKey).any existing.endpoint.equivalent =
          false ∧
        operation = ⟨.withdraw, existing.endpoint, operation.wireKey,
          existing.pathUUID⟩ := by
  unfold plannedWithdrawals
  rw [List.mem_filterMap]
  constructor
  · intro planned
    obtain ⟨key, _, planned⟩ := planned
    cases found : applied.get key with
    | none => simp [found] at planned
    | some existing =>
        simp only [found, Option.bind_eq_bind, Option.bind_some] at planned
        split at planned
        · cases planned
        · rename_i unwanted
          cases planned
          exact ⟨existing, found, by simpa using unwanted, rfl⟩
  · intro planned
    obtain ⟨existing, found, unwanted, operationEq⟩ := planned
    refine ⟨operation.wireKey, ?_, ?_⟩
    · rw [GoMap.mem_sortedKeys, found]
      rfl
    · simp only [found, Option.bind_eq_bind, Option.bind_some, unwanted,
        Bool.false_eq_true, if_false]
      rw [← operationEq]

theorem mem_plannedAdvertisements {operation : RouteOperation} :
    operation ∈ plannedAdvertisements applied wanted ↔
      ∃ endpoint, wanted.get operation.wireKey = some endpoint ∧
        (applied.get operation.wireKey).any
          (fun existing => existing.endpoint.equivalent endpoint) = false ∧
        operation = ⟨.advertise, endpoint, operation.wireKey, ""⟩ := by
  unfold plannedAdvertisements
  rw [List.mem_filterMap]
  constructor
  · intro planned
    obtain ⟨key, _, planned⟩ := planned
    cases found : wanted.get key with
    | none => simp [found] at planned
    | some endpoint =>
        simp only [found, Option.bind_eq_bind, Option.bind_some] at planned
        split at planned
        · cases planned
        · rename_i missing
          cases planned
          exact ⟨endpoint, found, by simpa using missing, rfl⟩
  · intro planned
    obtain ⟨endpoint, found, missing, operationEq⟩ := planned
    refine ⟨operation.wireKey, ?_, ?_⟩
    · rw [GoMap.mem_sortedKeys, found]
      rfl
    · simp only [found, Option.bind_eq_bind, Option.bind_some, missing,
        Bool.false_eq_true, if_false]
      rw [← operationEq]

/-- Operations planned one for each key have different keys. -/
theorem filterMap_keys {keys : List String}
    {plan : String → Option RouteOperation} (unique : keys.Nodup)
    (keyed : ∀ key operation, plan key = some operation →
      operation.wireKey = key) :
    (keys.filterMap plan).Pairwise
      (fun first second => first.wireKey ≠ second.wireKey) := by
  rw [List.pairwise_filterMap]
  apply unique.imp
  intro first second different firstPlanned firstEq secondPlanned secondEq
  rw [keyed first firstPlanned firstEq, keyed second secondPlanned secondEq]
  exact different

theorem plannedWithdrawals_keys (applied : GoMap OwnedType2Route)
    (wanted : GoMap LocalEndpoint) :
    (plannedWithdrawals applied wanted).Pairwise
      (fun first second => first.wireKey ≠ second.wireKey) := by
  apply filterMap_keys (GoMap.nodup_sortedKeys applied)
  intro key operation planned
  cases found : applied.get key with
  | none => simp [found] at planned
  | some existing =>
      simp only [found, Option.bind_eq_bind, Option.bind_some] at planned
      split at planned
      · cases planned
      · cases planned
        rfl

theorem plannedAdvertisements_keys (applied : GoMap OwnedType2Route)
    (wanted : GoMap LocalEndpoint) :
    (plannedAdvertisements applied wanted).Pairwise
      (fun first second => first.wireKey ≠ second.wireKey) := by
  apply filterMap_keys (GoMap.nodup_sortedKeys wanted)
  intro key operation planned
  cases found : wanted.get key with
  | none => simp [found] at planned
  | some endpoint =>
      simp only [found, Option.bind_eq_bind, Option.bind_some] at planned
      split at planned
      · cases planned
      · cases planned
        rfl

/-- The deltas of a plan whose operations start at an address. -/
inductive Deltas (bgp : BgpPackage) :
    Nat → List RouteOperation → List (Type2Route bgp) → Prop where
  | nil {address : Nat} : Deltas bgp address [] []
  | cons {address : Nat} {operation : RouteOperation}
      {rest : List RouteOperation} {delta : Type2Route bgp}
      {deltas : List (Type2Route bgp)} :
      delta.operation = some address → delta.action = operation.action →
      Deltas bgp (address + 1) rest deltas →
      Deltas bgp address (operation :: rest) (delta :: deltas)

theorem Deltas.append {address : Nat} {first second : List RouteOperation}
    {deltas : List (Type2Route bgp)}
    (planned : Deltas bgp address (first ++ second) deltas) :
    ∃ firstDeltas secondDeltas, deltas = firstDeltas ++ secondDeltas ∧
      Deltas bgp address first firstDeltas ∧
      Deltas bgp (address + first.length) second secondDeltas := by
  induction first generalizing address deltas with
  | nil => exact ⟨[], deltas, rfl, .nil, planned⟩
  | cons operation rest induction =>
      cases planned with
      | cons addressed acted planned =>
          obtain ⟨firstDeltas, secondDeltas, rfl, before, after⟩ :=
            induction planned
          refine ⟨_ :: firstDeltas, secondDeltas, rfl,
            .cons addressed acted before, ?_⟩
          have shifted : address + (operation :: rest).length =
              address + 1 + rest.length := by
            rw [List.length_cons]
            omega
          rw [shifted]
          exact after

theorem Deltas.actions {address : Nat} {operations : List RouteOperation}
    {deltas : List (Type2Route bgp)} {action : RouteAction}
    (planned : Deltas bgp address operations deltas)
    (same : ∀ operation ∈ operations, operation.action = action) :
    ∀ delta ∈ deltas, delta.action = action := by
  induction planned with
  | nil => simp
  | cons addressed acted planned induction =>
      intro delta member
      rcases List.mem_cons.mp member with rfl | later
      · rw [acted]
        exact same _ List.mem_cons_self
      · exact induction
          (fun operation inRest =>
            same operation (List.mem_cons_of_mem _ inRest)) delta later

theorem planAll_ok {operations : List RouteOperation}
    (reconciler : RouteReconciler) (changes : List (Type2Route bgp))
    (buildable : ∀ operation ∈ operations,
      ∃ route, buildType2Route bgp operation.endpoint = .ok route) :
    ∃ deltas, Deltas bgp reconciler.operations.length operations deltas ∧
      planAll bgp operations reconciler changes =
        (.ok (changes ++ deltas),
          { reconciler with
            operations := reconciler.operations ++ operations
            pending := reconciler.pending ++
              List.range' reconciler.operations.length
                operations.length }) := by
  induction operations generalizing reconciler changes with
  | nil => exact ⟨[], .nil, by simp [planAll]⟩
  | cons operation rest induction =>
      obtain ⟨route, built⟩ := buildable operation List.mem_cons_self
      let delta : Type2Route bgp := { route with
        action := operation.action
        operation := some reconciler.operations.length }
      obtain ⟨deltas, planned, result⟩ := induction
        { reconciler with
          operations := reconciler.operations ++ [operation]
          pending := reconciler.pending ++ [reconciler.operations.length] }
        (changes ++ [delta])
        (fun later member => buildable later (List.mem_cons_of_mem _ member))
      rw [List.length_append, List.length_singleton] at planned
      refine ⟨delta :: deltas, .cons rfl rfl planned, ?_⟩
      unfold planAll
      simp only [built]
      rw [result]
      simp [delta, List.range'_succ]

/-- In a plan a key is withdrawn before it is advertised, and neither
twice. -/
def Ordered (first second : RouteOperation) : Prop :=
  first.wireKey = second.wireKey →
    first.action = .withdraw ∧ second.action = .advertise

/-- What the operations done so far have made of the applied routes. -/
inductive Fate (start : GoMap OwnedType2Route) (done : List RouteOperation)
    (applied : GoMap OwnedType2Route) (key : String) : Prop where
  | untouched :
      (∀ operation ∈ done, operation.wireKey ≠ key) →
      applied.get key = start.get key → Fate start done applied key
  | withdrawn {operation : RouteOperation} :
      operation ∈ done → operation.wireKey = key →
      (∀ operation ∈ done, operation.wireKey = key →
        operation.action = .withdraw) →
      applied.get key = none → Fate start done applied key
  | advertised {operation : RouteOperation} {id : String} :
      operation ∈ done → operation.wireKey = key →
      operation.action = .advertise → id ≠ "" →
      applied.get key = some ⟨operation.endpoint, id⟩ →
      Fate start done applied key

section Applying

variable {start : GoMap OwnedType2Route} {done : List RouteOperation}
  {operation : RouteOperation}

/-- An operation does not touch the other keys. -/
theorem Fate.elsewhere {key : String} {next : GoMap OwnedType2Route}
    (fate : Fate start done applied key) (different : key ≠ operation.wireKey)
    (unchanged : next.get key = applied.get key) :
    Fate start (done ++ [operation]) next key := by
  have earlier : ∀ other ∈ done ++ [operation], other.wireKey = key →
      other ∈ done := by
    intro other member sameKey
    rcases List.mem_append.mp member with earlier | last
    · exact earlier
    · rw [List.mem_singleton.mp last] at sameKey
      exact absurd sameKey.symm different
  cases fate with
  | untouched none found =>
      exact .untouched (fun other member sameKey =>
        none other (earlier other member sameKey) sameKey)
        (unchanged.trans found)
  | withdrawn member keyed all found =>
      exact .withdrawn (List.mem_append_left _ member) keyed
        (fun other member sameKey =>
          all other (earlier other member sameKey) sameKey)
        (unchanged.trans found)
  | advertised member keyed acted spoken found =>
      exact .advertised (List.mem_append_left _ member) keyed acted spoken
        (unchanged.trans found)

/-- A withdrawal is the first operation of its key. -/
theorem fresh_of_withdraw (ordered : ∀ earlier ∈ done,
      Ordered earlier operation) (action : operation.action = .withdraw) :
    ∀ earlier ∈ done, earlier.wireKey ≠ operation.wireKey := by
  intro earlier member same
  have advertised := (ordered earlier member same).2
  rw [action] at advertised
  cases advertised

theorem Fate.withdraw
    (fates : ∀ key, Fate start done applied key)
    (ordered : ∀ earlier ∈ done, Ordered earlier operation)
    (action : operation.action = .withdraw) :
    ∀ key, Fate start (done ++ [operation])
      (applied.delete operation.wireKey) key := by
  intro key
  by_cases same : key = operation.wireKey
  · subst key
    refine .withdrawn (List.mem_append_right _ List.mem_cons_self) rfl ?_
      GoMap.get_delete_self
    intro other member sameKey
    rcases List.mem_append.mp member with earlier | last
    · exact absurd sameKey (fresh_of_withdraw ordered action other earlier)
    · rw [List.mem_singleton.mp last]
      exact action
  · exact (fates key).elsewhere same (GoMap.get_delete_of_ne same)

theorem Fate.advertise {id : String}
    (fates : ∀ key, Fate start done applied key)
    (action : operation.action = .advertise) (spoken : id ≠ "") :
    ∀ key, Fate start (done ++ [operation])
      (applied.set operation.wireKey ⟨operation.endpoint, id⟩) key := by
  intro key
  by_cases same : key = operation.wireKey
  · subst key
    exact .advertised (List.mem_append_right _ List.mem_cons_self) rfl action
      spoken GoMap.get_set_self
  · exact (fates key).elsewhere same (GoMap.get_set_of_ne same)

/-- What `Apply` checks of an operation, in terms of the routes the plan
started from. -/
inductive Ready (bgp : BgpPackage) (start : GoMap OwnedType2Route)
    (done : List RouteOperation) (operation : RouteOperation) : Prop where
  | withdraw {existing : OwnedType2Route} :
      start.get operation.wireKey = some existing →
      existing.pathUUID = operation.pathUUID →
      existing.endpoint = operation.endpoint →
      operation.action = .withdraw → Ready bgp start done operation
  | advertise {route : Type2Route bgp} :
      buildType2Route bgp operation.endpoint = .ok route →
      ((start.get operation.wireKey).isSome = true →
        ∃ earlier ∈ done, earlier.wireKey = operation.wireKey) →
      operation.action = .advertise → Ready bgp start done operation

/-- An applier that always succeeds. -/
def willing (bgp : BgpPackage) : Environment (routeSignature bgp) Unit :=
  .still fun _ request reply _ =>
    match request, reply with
    | .context, reply => reply = .ok ()
    | .snapshot, _ => True
    | .add _, reply => ∃ id, id ≠ "" ∧ reply = .ok id
    | .delete _, reply => reply = .ok ()

/-- Apply deltas one after the other, up to the first error. -/
def applyAll (bgp : BgpPackage) (deltas : List (Type2Route bgp)) :
    Method (routeSignature bgp) GoError (RouteReconciler × Unit) Unit :=
  Method.each (fun delta =>
    apply (requestContext bgp) delta (some (requestApplier bgp))) deltas

theorem Ready.absent (ready : Ready bgp start done operation)
    (fates : ∀ key, Fate start done applied key)
    (ordered : ∀ earlier ∈ done, Ordered earlier operation)
    (action : operation.action = .advertise) :
    applied.get operation.wireKey = none := by
  cases ready with
  | withdraw _ _ _ other =>
      rw [action] at other
      cases other
  | advertise _ covered _ =>
      cases fates operation.wireKey with
      | untouched none found =>
          rw [found]
          cases present : start.get operation.wireKey with
          | none => rfl
          | some existing =>
              obtain ⟨earlier, member, same⟩ := covered (by simp [present])
              exact absurd same (none earlier member)
      | withdrawn _ _ _ found => exact found
      | advertised member keyed acted _ _ =>
          have first := (ordered _ member keyed).1
          rw [acted] at first
          cases first

theorem Ready.present (ready : Ready bgp start done operation)
    (fates : ∀ key, Fate start done applied key)
    (ordered : ∀ earlier ∈ done, Ordered earlier operation)
    (action : operation.action = .withdraw) :
    ∃ existing, applied.get operation.wireKey = some existing ∧
      existing.pathUUID = operation.pathUUID ∧
      existing.endpoint.equivalent operation.endpoint = true := by
  have fresh := fresh_of_withdraw ordered action
  cases ready with
  | advertise _ _ other =>
      rw [action] at other
      cases other
  | @withdraw existing found sameUUID sameEndpoint _ =>
      cases fates operation.wireKey with
      | untouched _ unchanged =>
          refine ⟨existing, unchanged.trans found, sameUUID, ?_⟩
          rw [sameEndpoint]
          exact LocalEndpoint.equivalent_refl _
      | withdrawn member keyed _ _ => exact absurd keyed (fresh _ member)
      | advertised member keyed _ _ _ => exact absurd keyed (fresh _ member)

theorem Current.unique {reconciler : RouteReconciler}
    {delta : Type2Route bgp} {first second : Nat}
    {other : RouteOperation}
    (one : Current reconciler delta first operation)
    (two : Current reconciler delta second other) :
    second = first ∧ other = operation := by
  have sameAddress : some second = some first :=
    two.addressed.symm.trans one.addressed
  cases sameAddress
  have sameOperation : some other = some operation :=
    two.found.symm.trans one.found
  cases sameOperation
  exact ⟨rfl, rfl⟩

/-- One delta of the plan, when it is its turn. -/
theorem apply_ready_safe {reconciler : RouteReconciler} {address : Nat}
    {delta : Type2Route bgp}
    (current : Current reconciler delta address operation)
    (fates : ∀ key, Fate start done reconciler.applied key)
    (ordered : ∀ earlier ∈ done, Ordered earlier operation)
    (ready : Ready bgp start done operation) :
    Method.Safe (willing bgp) (fun _ => True)
      (fun outcome memory _ => outcome = .ok () ∧
        ∃ applied, memory.1 = { reconciler with
            applied := applied
            pending := reconciler.pending.erase address } ∧
          ∀ key, Fate start (done ++ [operation]) applied key)
      (apply (requestContext bgp) delta (some (requestApplier bgp)))
      (reconciler, ()) () := by
  apply apply_safe (fun _ => True)
  · intro reason refused
    cases refused with
    | unsynchronized unsynchronized =>
        rw [current.synchronized] at unsynchronized
        cases unsynchronized
    | stale _ none => exact absurd current (none address operation)
    | noApplier missing => cases missing
  · intro _ _ _
    apply Interactive.Safe.ask_still_iff.mpr
    refine ⟨trivial, fun reply after answered => ?_⟩
    obtain rfl : reply = .ok () := answered
    exact Interactive.Safe.done_still_iff.mpr ⟨trivial, trivial⟩
  · intro other otherOperation reason after otherCurrent refused _ _
    obtain ⟨rfl, rfl⟩ := current.unique otherCurrent
    cases refused with
    | order action present =>
        rw [ready.absent fates ordered action] at present
        cases present
    | invalid action failed =>
        cases ready with
        | withdraw _ _ _ other =>
            rw [action] at other
            cases other
        | advertise built _ _ =>
            rw [failed] at built
            cases built
    | stale action none =>
        obtain ⟨existing, found, matched⟩ :=
          ready.present fates ordered action
        exact absurd matched (none existing found)
  · intro applier other otherOperation route after given otherCurrent action
      missing built _ _
    obtain ⟨rfl, rfl⟩ := current.unique otherCurrent
    cases given
    apply Interactive.Safe.ask_still_iff.mpr
    refine ⟨trivial, fun reply after answered => ?_⟩
    obtain ⟨id, spoken, rfl⟩ := answered
    refine Interactive.Safe.done_still_iff.mpr ⟨trivial, ?_⟩
    have ended : afterAdd reconciler other otherOperation (.ok id) =
        (.ok (), acknowledge other (fun applied => applied.set
          otherOperation.wireKey ⟨otherOperation.endpoint, id⟩)
          reconciler) := by
      simp [afterAdd, spoken]
    dsimp only
    rw [ended]
    exact ⟨rfl, _, rfl, Fate.advertise fates action spoken⟩
  · intro applier other otherOperation existing after given otherCurrent
      action found sameUUID equivalent _ _
    obtain ⟨rfl, rfl⟩ := current.unique otherCurrent
    cases given
    apply Interactive.Safe.ask_still_iff.mpr
    refine ⟨trivial, fun reply after answered => ?_⟩
    obtain rfl : reply = .ok () := answered
    refine Interactive.Safe.done_still_iff.mpr ⟨trivial, ?_⟩
    exact ⟨rfl, _, rfl, Fate.withdraw fates ordered action⟩

/-- The rest of a plan, from the point where some of it is done. -/
theorem applyAll_safe {before rest : List RouteOperation}
    {deltas : List (Type2Route bgp)} (reconciler : RouteReconciler)
    (done : List RouteOperation)
    (synchronized : reconciler.synchronized = true)
    (allocated : reconciler.operations = before ++ rest)
    (pending : reconciler.pending = List.range' before.length rest.length)
    (planned : Deltas bgp before.length rest deltas)
    (fates : ∀ key, Fate start done reconciler.applied key)
    (ordered : (done ++ rest).Pairwise Ordered)
    (ready : ∀ earlier operation later,
      done ++ rest = earlier ++ operation :: later →
      Ready bgp start earlier operation) :
    Method.Safe (willing bgp) (fun _ => True)
      (fun outcome memory _ => outcome = .ok () ∧
        memory.1.foreign = reconciler.foreign ∧
        memory.1.synchronized = true ∧
        ∀ key, Fate start (done ++ rest) memory.1.applied key)
      (applyAll bgp deltas) (reconciler, ()) () := by
  induction rest generalizing before deltas reconciler done with
  | nil =>
      cases planned
      refine Method.safe_pure_still_iff.mpr
        ⟨trivial, rfl, rfl, synchronized, ?_⟩
      rw [List.append_nil]
      exact fates
  | cons operation rest induction =>
      cases planned with
      | cons addressed acted planned =>
          have current : Current reconciler _ before.length operation :=
            { synchronized := synchronized
              addressed := addressed
              pending := by
                rw [pending]
                simp [List.mem_range'_1]
              found := by
                rw [allocated]
                simp }
          have earlierOrdered : ∀ earlier ∈ done,
              Ordered earlier operation := by
            intro earlier member
            exact (List.pairwise_append.mp ordered).2.2 earlier member
              operation List.mem_cons_self
          have turn := ready done operation rest rfl
          apply Method.Safe.bind
            (apply_ready_safe current fates earlierOrdered turn)
          · intro _ memory _ _ posted
            obtain ⟨_, applied, memoryEq, nextFates⟩ := posted
            have shifted : done ++ operation :: rest =
                (done ++ [operation]) ++ rest := by simp
            rw [shifted] at ordered ready ⊢
            have longer : (before ++ [operation]).length =
                before.length + 1 := by simp
            have nextAllocated : reconciler.operations =
                (before ++ [operation]) ++ rest := by
              rw [allocated]
              simp
            have nextPending : reconciler.pending.erase before.length =
                List.range' (before ++ [operation]).length rest.length := by
              rw [pending, longer, List.length_cons, List.range'_succ,
                List.erase_cons_head]
            rw [← longer] at planned
            have further := induction
              { reconciler with
                applied := applied
                pending := reconciler.pending.erase before.length }
              (done ++ [operation]) synchronized nextAllocated nextPending
              planned nextFates ordered ready
            obtain ⟨reached, _⟩ := memory
            cases memoryEq
            exact further
          · intro reason memory _ _ posted
            obtain ⟨impossible, _⟩ := posted
            cases impossible

end Applying

section Plans

variable {reconciler planned : RouteReconciler}
  {deltas : List (Type2Route bgp)}

/-- Every applied route is stored under the key of its endpoint. -/
def Filed (bgp : BgpPackage) (applied : GoMap OwnedType2Route) : Prop :=
  ∀ key owned, applied.get key = some owned →
    wireKey bgp owned.endpoint = some key

theorem plan_buildable (filed : Filed bgp applied)
    (collected : Collected bgp foreign desired wanted) :
    ∀ operation ∈ plannedWithdrawals applied wanted ++
        plannedAdvertisements applied wanted,
      ∃ route, buildType2Route bgp operation.endpoint = .ok route := by
  intro operation member
  rcases List.mem_append.mp member with withdrawal | advertisement
  · obtain ⟨existing, found, _, operationEq⟩ :=
      mem_plannedWithdrawals.mp withdrawal
    obtain ⟨route, built, _⟩ :=
      wireKey_eq_some_iff.mp (filed _ existing found)
    rw [operationEq]
    exact ⟨route, built⟩
  · obtain ⟨endpoint, found, _, operationEq⟩ :=
      mem_plannedAdvertisements.mp advertisement
    obtain ⟨route, built, _⟩ :=
      wireKey_eq_some_iff.mp (collected.only _ endpoint found).2.2
    rw [operationEq]
    exact ⟨route, built⟩

theorem withdrawal_action {operation : RouteOperation}
    (member : operation ∈ plannedWithdrawals applied wanted) :
    operation.action = .withdraw := by
  obtain ⟨_, _, _, operationEq⟩ := mem_plannedWithdrawals.mp member
  rw [operationEq]

theorem advertisement_action {operation : RouteOperation}
    (member : operation ∈ plannedAdvertisements applied wanted) :
    operation.action = .advertise := by
  obtain ⟨_, _, _, operationEq⟩ := mem_plannedAdvertisements.mp member
  rw [operationEq]

theorem plan_ordered (applied : GoMap OwnedType2Route)
    (wanted : GoMap LocalEndpoint) :
    (plannedWithdrawals applied wanted ++
      plannedAdvertisements applied wanted).Pairwise Ordered := by
  rw [List.pairwise_append]
  refine ⟨?_, ?_, ?_⟩
  · apply (plannedWithdrawals_keys applied wanted).imp
    intro first second different same
    exact absurd same different
  · apply (plannedAdvertisements_keys applied wanted).imp
    intro first second different same
    exact absurd same different
  · intro first firstMember second secondMember _
    exact ⟨withdrawal_action firstMember, advertisement_action secondMember⟩

/-- An applied key that is advertised anew is withdrawn first. -/
theorem withdrawal_of_advertisement {operation : RouteOperation}
    (member : operation ∈ plannedAdvertisements applied wanted)
    (present : (applied.get operation.wireKey).isSome = true) :
    ∃ earlier ∈ plannedWithdrawals applied wanted,
      earlier.wireKey = operation.wireKey := by
  obtain ⟨endpoint, found, missing, _⟩ :=
    mem_plannedAdvertisements.mp member
  obtain ⟨existing, existingFound⟩ := Option.isSome_iff_exists.mp present
  refine ⟨⟨.withdraw, existing.endpoint, operation.wireKey,
    existing.pathUUID⟩, mem_plannedWithdrawals.mpr
      ⟨existing, existingFound, ?_, rfl⟩, rfl⟩
  simpa [found, existingFound] using missing

theorem plan_ready (collected : Collected bgp foreign desired wanted) :
    ∀ earlier operation later,
      plannedWithdrawals applied wanted ++
        plannedAdvertisements applied wanted =
          earlier ++ operation :: later →
      Ready bgp applied earlier operation := by
  intro earlier operation later split
  have member : operation ∈ plannedWithdrawals applied wanted ++
      plannedAdvertisements applied wanted := by
    rw [split]
    simp
  rcases List.mem_append.mp member with withdrawal | advertisement
  · obtain ⟨existing, found, _, operationEq⟩ :=
      mem_plannedWithdrawals.mp withdrawal
    refine .withdraw found ?_ ?_ (withdrawal_action withdrawal)
    · rw [operationEq]
    · rw [operationEq]
  · obtain ⟨endpoint, found, _, operationEq⟩ :=
      mem_plannedAdvertisements.mp advertisement
    obtain ⟨route, built, _⟩ :=
      wireKey_eq_some_iff.mp (collected.only _ endpoint found).2.2
    have action := advertisement_action advertisement
    have sameEndpoint : operation.endpoint = endpoint := by
      rw [operationEq]
    refine .advertise (by rw [sameEndpoint]; exact built) ?_ action
    intro present
    obtain ⟨first, firstMember, same⟩ :=
      withdrawal_of_advertisement advertisement present
    have inAll : first ∈ earlier ++ operation :: later := by
      rw [← split]
      exact List.mem_append_left _ firstMember
    rcases List.mem_append.mp inAll with inEarlier | notEarlier
    · exact ⟨first, inEarlier, same⟩
    · have ordered := plan_ordered applied wanted
      rw [split, List.pairwise_append] at ordered
      have withdrawn := withdrawal_action firstMember
      rcases List.mem_cons.mp notEarlier with itself | after
      · rw [itself, action] at withdrawn
        cases withdrawn
      · have advertised := (List.pairwise_cons.mp ordered.2.1).1 first after
          same.symm
        rw [withdrawn] at advertised
        cases advertised.2

/-- A plan succeeds exactly when its list is collected. -/
theorem reconcile_of_collected (filed : Filed bgp reconciler.applied)
    (ok : collectDesired bgp reconciler.foreign desired .empty =
      .ok wanted) :
    ∃ deltas,
      Deltas bgp reconciler.operations.length
        (plannedWithdrawals reconciler.applied wanted ++
          plannedAdvertisements reconciler.applied wanted) deltas ∧
      reconcile bgp desired reconciler =
        (.ok deltas,
          { reconciler with
            operations := reconciler.operations ++
              (plannedWithdrawals reconciler.applied wanted ++
                plannedAdvertisements reconciler.applied wanted)
            pending := List.range' reconciler.operations.length
              (plannedWithdrawals reconciler.applied wanted ++
                plannedAdvertisements reconciler.applied wanted).length }) := by
  obtain ⟨deltas, addressed, result⟩ :=
    planAll_ok { reconciler with pending := [] } []
      (plan_buildable filed (collected_of_ok ok))
  refine ⟨deltas, addressed, ?_⟩
  unfold reconcile
  simp only [ok]
  rw [result]
  simp

theorem reconcile_error_iff (filed : Filed bgp reconciler.applied) :
    (∃ reason, (reconcile bgp desired reconciler).1 = .error reason) ↔
      Refused bgp reconciler.foreign desired := by
  constructor
  · intro failed
    by_contra accepted
    obtain ⟨wanted, ok⟩ := collectDesired_ok_iff.mpr accepted
    obtain ⟨deltas, _, result⟩ := reconcile_of_collected filed ok
    obtain ⟨reason, failed⟩ := failed
    rw [result] at failed
    cases failed
  · intro refused
    cases collected : collectDesired bgp reconciler.foreign desired
        .empty with
    | error reason =>
        refine ⟨reason, ?_⟩
        unfold reconcile
        simp only [collected]
    | ok wanted =>
        exact absurd refused (collectDesired_ok_iff.mp ⟨wanted, collected⟩)

theorem collected_of_reconcile
    (result : reconcile bgp desired reconciler = (.ok deltas, planned)) :
    ∃ wanted, collectDesired bgp reconciler.foreign desired .empty =
      .ok wanted := by
  cases collected : collectDesired bgp reconciler.foreign desired .empty with
  | ok wanted => exact ⟨wanted, rfl⟩
  | error reason =>
      unfold reconcile at result
      simp only [collected] at result
      cases result

/-- Where a plan leads: the advertised keys, with equivalent endpoints, the
routes that were already there left alone, and nothing more to do. -/
structure Converged (bgp : BgpPackage) (before : RouteReconciler)
    (desired : List LocalEndpoint) (after : RouteReconciler) : Prop where
  keys : ∀ key, (after.applied.get key).isSome = true ↔
    ∃ endpoint ∈ desired, endpoint.advertise = true ∧
      wireKey bgp endpoint = some key
  equivalent : ∀ key owned, after.applied.get key = some owned →
    ∀ endpoint ∈ desired, endpoint.advertise = true →
      wireKey bgp endpoint = some key →
      owned.endpoint.equivalent endpoint = true
  untouched : ∀ key owned, before.applied.get key = some owned →
    ∀ endpoint ∈ desired, endpoint.advertise = true →
      wireKey bgp endpoint = some key →
      owned.endpoint.equivalent endpoint = true →
      after.applied.get key = some owned
  settled : ∀ other : List LocalEndpoint,
    (∀ endpoint, endpoint ∈ other ↔ endpoint ∈ desired) →
    (reconcile bgp other after).1 = .ok []

/-- The applied routes agree with the wanted ones. -/
def Agrees (applied : GoMap OwnedType2Route)
    (wanted : GoMap LocalEndpoint) : Prop :=
  ∀ key, match applied.get key, wanted.get key with
    | some owned, some endpoint =>
        owned.endpoint.equivalent endpoint = true
    | none, none => True
    | _, _ => False

/-- A key has nothing planned exactly when it agrees. -/
theorem planned_key {key : String}
    (untouched : ∀ operation ∈ plannedWithdrawals applied wanted ++
      plannedAdvertisements applied wanted, operation.wireKey ≠ key) :
    match applied.get key, wanted.get key with
    | some owned, some endpoint =>
        owned.endpoint.equivalent endpoint = true
    | none, none => True
    | _, _ => False := by
  have noWithdrawal : ∀ owned, applied.get key = some owned →
      (wanted.get key).any owned.endpoint.equivalent = true := by
    intro owned found
    by_contra unwanted
    apply untouched ⟨.withdraw, owned.endpoint, key, owned.pathUUID⟩
      (List.mem_append_left _ (mem_plannedWithdrawals.mpr
        ⟨owned, found, by simpa using unwanted, rfl⟩))
    rfl
  have noAdvertisement : ∀ endpoint, wanted.get key = some endpoint →
      (applied.get key).isSome = true := by
    intro endpoint found
    by_contra missing
    have absent : applied.get key = none := by simpa using missing
    apply untouched ⟨.advertise, endpoint, key, ""⟩
      (List.mem_append_right _ (mem_plannedAdvertisements.mpr
        ⟨endpoint, found, by simp [absent], rfl⟩))
    rfl
  cases have_ : applied.get key with
  | none =>
      cases want : wanted.get key with
      | none => trivial
      | some endpoint =>
          have present := noAdvertisement endpoint want
          rw [have_] at present
          cases present
  | some owned =>
      have kept := noWithdrawal owned have_
      cases want : wanted.get key with
      | none =>
          rw [want] at kept
          cases kept
      | some endpoint =>
          rw [want] at kept
          exact kept

theorem Agrees.nothing_planned (agrees : Agrees applied wanted) :
    plannedWithdrawals applied wanted ++
      plannedAdvertisements applied wanted = [] := by
  apply List.eq_nil_iff_forall_not_mem.mpr
  intro operation member
  have here := agrees operation.wireKey
  rcases List.mem_append.mp member with withdrawal | advertisement
  · obtain ⟨existing, found, unwanted, _⟩ :=
      mem_plannedWithdrawals.mp withdrawal
    cases want : wanted.get operation.wireKey with
    | none =>
        rw [found, want] at here
        exact here
    | some endpoint =>
        rw [found, want] at here
        rw [want, Option.any_some, here] at unwanted
        cases unwanted
  · obtain ⟨endpoint, found, missing, _⟩ :=
      mem_plannedAdvertisements.mp advertisement
    cases have_ : applied.get operation.wireKey with
    | none =>
        rw [found, have_] at here
        exact here
    | some existing =>
        rw [found, have_] at here
        rw [have_, Option.any_some, here] at missing
        cases missing

/-- What a whole plan has made of the applied routes. -/
theorem agrees_of_fates {start : GoMap OwnedType2Route}
    (fates : ∀ key, Fate start (plannedWithdrawals start wanted ++
      plannedAdvertisements start wanted) applied key) :
    Agrees applied wanted := by
  intro key
  cases fates key with
  | untouched none found =>
      rw [found]
      exact planned_key none
  | @withdrawn operation member keyed all found =>
      rw [found]
      cases want : wanted.get key with
      | none => trivial
      | some endpoint =>
          rcases List.mem_append.mp member with withdrawal | advertisement
          · obtain ⟨existing, existingFound, unwanted, _⟩ :=
              mem_plannedWithdrawals.mp withdrawal
            rw [keyed] at existingFound unwanted
            have planned : (⟨.advertise, endpoint, key, ""⟩ :
                RouteOperation) ∈ plannedAdvertisements start wanted :=
              mem_plannedAdvertisements.mpr ⟨endpoint, want, by
                simpa [existingFound, want] using unwanted, rfl⟩
            have impossible :=
              all _ (List.mem_append_right _ planned) rfl
            cases impossible
          · have withdrawn := all operation member keyed
            rw [advertisement_action advertisement] at withdrawn
            cases withdrawn
  | @advertised operation id member keyed acted spoken found =>
      rcases List.mem_append.mp member with withdrawal | advertisement
      · rw [withdrawal_action withdrawal] at acted
        cases acted
      · obtain ⟨endpoint, want, _, operationEq⟩ :=
          mem_plannedAdvertisements.mp advertisement
        have sameEndpoint : operation.endpoint = endpoint := by
          rw [operationEq]
        rw [keyed] at want
        rw [found, want, ← sameEndpoint]
        exact LocalEndpoint.equivalent_refl _

theorem untouched_of_fates {start : GoMap OwnedType2Route} {key : String}
    {owned : OwnedType2Route} {endpoint : LocalEndpoint}
    (fates : ∀ key, Fate start (plannedWithdrawals start wanted ++
      plannedAdvertisements start wanted) applied key)
    (found : start.get key = some owned)
    (want : wanted.get key = some endpoint)
    (same : owned.endpoint.equivalent endpoint = true) :
    applied.get key = some owned := by
  have nothing : ∀ operation ∈ plannedWithdrawals start wanted ++
      plannedAdvertisements start wanted, operation.wireKey ≠ key := by
    intro operation member keyed
    rcases List.mem_append.mp member with withdrawal | advertisement
    · obtain ⟨existing, existingFound, unwanted, _⟩ :=
        mem_plannedWithdrawals.mp withdrawal
      rw [keyed, found] at existingFound
      cases existingFound
      rw [keyed, want, Option.any_some, same] at unwanted
      cases unwanted
    · obtain ⟨other, otherFound, missing, _⟩ :=
        mem_plannedAdvertisements.mp advertisement
      rw [keyed, want] at otherFound
      cases otherFound
      rw [keyed, found, Option.any_some, same] at missing
      cases missing
  cases fates key with
  | untouched _ unchanged => exact unchanged.trans found
  | withdrawn member keyed _ _ => exact absurd keyed (nothing _ member)
  | advertised member keyed _ _ _ => exact absurd keyed (nothing _ member)

/-- Two lists with the same members are collected alike. -/
theorem Agrees.of_same_members {other : List LocalEndpoint}
    {otherWanted : GoMap LocalEndpoint} (agrees : Agrees applied wanted)
    (collected : Collected bgp foreign desired wanted)
    (otherCollected : Collected bgp foreign other otherWanted)
    (same : ∀ endpoint, endpoint ∈ other ↔ endpoint ∈ desired) :
    Agrees applied otherWanted := by
  intro key
  have here := agrees key
  cases otherWant : otherWanted.get key with
  | some endpoint =>
      obtain ⟨member, advertised, keyed⟩ :=
        otherCollected.only key endpoint otherWant
      obtain ⟨key', keyed', _, kept, keptFound, keptSame⟩ :=
        collected.all endpoint ((same endpoint).mp member) advertised
      rw [keyed] at keyed'
      cases keyed'
      rw [keptFound] at here
      cases found : applied.get key with
      | none =>
          rw [found] at here
          exact here
      | some owned =>
          rw [found] at here
          exact LocalEndpoint.equivalent_trans here keptSame
  | none =>
      cases want : wanted.get key with
      | some endpoint =>
          obtain ⟨member, advertised, keyed⟩ :=
            collected.only key endpoint want
          obtain ⟨key', keyed', _, kept, keptFound, _⟩ :=
            otherCollected.all endpoint ((same endpoint).mpr member)
              advertised
          rw [keyed] at keyed'
          cases keyed'
          rw [otherWant] at keptFound
          cases keptFound
      | none =>
          rw [want] at here
          exact here

theorem reconcile_of_agrees
    (ok : collectDesired bgp reconciler.foreign desired .empty = .ok wanted)
    (agrees : Agrees reconciler.applied wanted) :
    (reconcile bgp desired reconciler).1 = .ok [] := by
  unfold reconcile
  simp only [ok, agrees.nothing_planned]
  rfl

theorem converged_of_fates {after : RouteReconciler}
    (ok : collectDesired bgp reconciler.foreign desired .empty = .ok wanted)
    (sameForeign : after.foreign = reconciler.foreign)
    (fates : ∀ key, Fate reconciler.applied
      (plannedWithdrawals reconciler.applied wanted ++
        plannedAdvertisements reconciler.applied wanted)
      after.applied key) :
    Converged bgp reconciler desired after := by
  have collected := collected_of_ok ok
  have agrees := agrees_of_fates fates
  have wantedFor : ∀ endpoint ∈ desired, endpoint.advertise = true →
      ∀ key, wireKey bgp endpoint = some key →
      ∃ other, wanted.get key = some other ∧
        other.equivalent endpoint = true := by
    intro endpoint member advertised key keyed
    obtain ⟨key', keyed', _, found⟩ :=
      collected.all endpoint member advertised
    rw [keyed] at keyed'
    cases keyed'
    exact found
  refine ⟨?_, ?_, ?_, ?_⟩
  · intro key
    have here := agrees key
    constructor
    · intro present
      obtain ⟨owned, found⟩ := Option.isSome_iff_exists.mp present
      rw [found] at here
      cases want : wanted.get key with
      | none =>
          rw [want] at here
          exact here.elim
      | some endpoint => exact ⟨endpoint, collected.only key endpoint want⟩
    · intro desiredKey
      obtain ⟨endpoint, member, advertised, keyed⟩ := desiredKey
      obtain ⟨other, want, _⟩ :=
        wantedFor endpoint member advertised key keyed
      rw [want] at here
      cases found : after.applied.get key with
      | none =>
          rw [found] at here
          exact here.elim
      | some owned => rfl
  · intro key owned found endpoint member advertised keyed
    obtain ⟨other, want, same⟩ :=
      wantedFor endpoint member advertised key keyed
    have here := agrees key
    rw [found, want] at here
    exact LocalEndpoint.equivalent_trans here same
  · intro key owned found endpoint member advertised keyed same
    obtain ⟨other, want, otherSame⟩ :=
      wantedFor endpoint member advertised key keyed
    exact untouched_of_fates fates found want
      (LocalEndpoint.equivalent_trans same
        (LocalEndpoint.equivalent_comm otherSame))
  · intro other sameMembers
    have accepted : ¬Refused bgp reconciler.foreign other := by
      intro refused
      exact collected.not_refused
        (refused.of_subset (fun endpoint => (sameMembers endpoint).mp))
    obtain ⟨otherWanted, otherOk⟩ := collectDesired_ok_iff.mpr accepted
    apply reconcile_of_agrees (by rw [sameForeign]; exact otherOk)
    exact agrees.of_same_members collected (collected_of_ok otherOk)
      sameMembers

/-- Applying to a reconciler that is not synchronized stops at once. -/
theorem applyAll_unsynchronized_safe {deltas : List (Type2Route bgp)}
    (unsynchronized : reconciler.synchronized = false) :
    Method.Safe (willing bgp) (fun _ => True)
      (fun outcome memory _ => memory = (reconciler, ()) ∧
        (outcome = .ok () ∨
          outcome = .error (.plain .routeResyncRequired)))
      (applyAll bgp deltas) (reconciler, ()) () := by
  cases deltas with
  | nil => exact Method.safe_pure_still_iff.mpr ⟨trivial, rfl, .inl rfl⟩
  | cons delta deltas =>
      have stops : Method.Safe (willing bgp) (fun _ => True)
          (fun outcome memory _ => memory = (reconciler, ()) ∧
            outcome = .error (.plain .routeResyncRequired))
          (apply (requestContext bgp) delta (some (requestApplier bgp)))
          (reconciler, ()) () := by
        apply Method.safe_get_bind.mpr
        apply Method.Safe.refuse_bind
        · intro _
          exact Method.safe_throw_still_iff.mpr ⟨trivial, rfl, rfl⟩
        · intro synchronized
          simp [unsynchronized] at synchronized
      apply Method.Safe.bind stops
      · intro _ _ _ _ impossible
        cases impossible.2
      · intro reason _ _ _ same
        exact ⟨same.1, .inr same.2⟩

/-- What a plan promises: when it fails, that only the members of the list
matter, its order, and where applying it leads. -/
structure PlanCorrect (bgp : BgpPackage) (reconciler : RouteReconciler)
    (desired : List LocalEndpoint) : Prop where
  fails_iff :
    (∃ reason, (reconcile bgp desired reconciler).1 = .error reason) ↔
      Refused bgp reconciler.foreign desired
  order_independent : ∀ other : List LocalEndpoint,
    (∀ endpoint, endpoint ∈ other ↔ endpoint ∈ desired) →
    ((∃ reason, (reconcile bgp other reconciler).1 = .error reason) ↔
      ∃ reason, (reconcile bgp desired reconciler).1 = .error reason)
  withdrawals_first : ∀ deltas planned,
    reconcile bgp desired reconciler = (.ok deltas, planned) →
    ∃ withdrawals advertisements, deltas = withdrawals ++ advertisements ∧
      (∀ delta ∈ withdrawals, delta.action = .withdraw) ∧
      ∀ delta ∈ advertisements, delta.action = .advertise
  applicable : ∀ deltas planned events outcome final,
    reconcile bgp desired reconciler = (.ok deltas, planned) →
    Runs (willing bgp) ((applyAll bgp deltas).start (planned, ())) () events
      (.done (outcome, final)) () →
    ∀ reason, outcome = .error reason → reason.is .routeOrder = false ∧
      reason.is .staleRouteOperation = false
  converges : ∀ deltas planned, reconciler.synchronized = true →
    reconcile bgp desired reconciler = (.ok deltas, planned) →
    (∃ events outcome final,
      Runs (willing bgp) ((applyAll bgp deltas).start (planned, ())) ()
        events (.done (outcome, final)) ()) ∧
    ∀ events outcome final,
      Runs (willing bgp) ((applyAll bgp deltas).start (planned, ())) ()
        events (.done (outcome, final)) () →
      outcome = .ok () ∧ Converged bgp reconciler desired final.1

/-- The applier that answers every `Add` with the same UUID. -/
def willingAnswer (bgp : BgpPackage) :
    Unit → (request : RouteRequest bgp) → request.Reply × Unit
  | _, .context => (.ok (), ())
  | _, .snapshot => (.ok [], ())
  | _, .add _ => (.ok "uuid", ())
  | _, .delete _ => (.ok (), ())

theorem willingAnswer_allowed (world : Unit)
    (request : (routeSignature bgp).Request) :
    (willing bgp).answers world request (willingAnswer bgp world request).1
      (willingAnswer bgp world request).2 := by
  cases request with
  | context => exact rfl
  | snapshot => exact trivial
  | add route => exact ⟨"uuid", by decide, rfl⟩
  | delete owned => exact rfl

theorem reconcile_plan_correct (filed : Filed bgp reconciler.applied)
    (desired : List LocalEndpoint) : PlanCorrect bgp reconciler desired := by
  have applied : ∀ deltas planned, reconciler.synchronized = true →
      reconcile bgp desired reconciler = (.ok deltas, planned) →
      Method.Safe (willing bgp) (fun _ => True)
        (fun outcome memory _ => outcome = .ok () ∧
          Converged bgp reconciler desired memory.1)
        (applyAll bgp deltas) (planned, ()) () := by
    intro deltas planned synchronized result
    obtain ⟨wanted, ok⟩ := collected_of_reconcile result
    obtain ⟨expected, addressed, expectedResult⟩ :=
      reconcile_of_collected filed ok
    rw [result] at expectedResult
    cases expectedResult
    have fates : ∀ key, Fate reconciler.applied [] reconciler.applied key :=
      fun key => .untouched (by simp) rfl
    refine Method.Safe.weaken (applyAll_safe _ [] synchronized rfl rfl
      addressed fates (plan_ordered _ _) (plan_ready (collected_of_ok ok))) ?_
    intro outcome memory _ _ posted
    obtain ⟨outcomeEq, sameForeign, _, finalFates⟩ := posted
    exact ⟨outcomeEq, converged_of_fates ok sameForeign finalFates⟩
  refine
    { fails_iff := reconcile_error_iff filed
      order_independent := ?_
      withdrawals_first := ?_
      applicable := ?_
      converges := ?_ }
  · intro other same
    rw [reconcile_error_iff filed, reconcile_error_iff filed]
    constructor
    · intro refused
      exact refused.of_subset (fun endpoint => (same endpoint).mp)
    · intro refused
      exact refused.of_subset (fun endpoint => (same endpoint).mpr)
  · intro deltas planned result
    obtain ⟨wanted, ok⟩ := collected_of_reconcile result
    obtain ⟨expected, addressed, expectedResult⟩ :=
      reconcile_of_collected filed ok
    rw [result] at expectedResult
    cases expectedResult
    obtain ⟨withdrawals, advertisements, split, before, after⟩ :=
      addressed.append
    refine ⟨withdrawals, advertisements, split, ?_, ?_⟩
    · exact before.actions (fun operation => withdrawal_action)
    · exact after.actions (fun operation => advertisement_action)
  · intro deltas planned events outcome final result run reason outcomeEq
    cases synchronized : reconciler.synchronized with
    | true =>
        have settled := Interactive.Safe.returned
          (applied deltas planned synchronized result) run
        rw [outcomeEq] at settled
        cases settled.1
    | false =>
        have unsynchronized : planned.synchronized = false := by
          obtain ⟨wanted, ok⟩ := collected_of_reconcile result
          obtain ⟨_, _, expectedResult⟩ := reconcile_of_collected filed ok
          rw [result] at expectedResult
          cases expectedResult
          exact synchronized
        have stopped := Interactive.Safe.returned
          (applyAll_unsynchronized_safe unsynchronized) run
        rw [outcomeEq] at stopped
        rcases stopped.2 with impossible | same
        · cases impossible
        · cases same
          exact ⟨rfl, rfl⟩
  · intro deltas planned synchronized result
    constructor
    · obtain ⟨events, run⟩ := Program.runs_execute
        willingAnswer_allowed
        ((applyAll bgp deltas).start (planned, ())) ()
      exact ⟨events, _, _, run⟩
    · intro events outcome final run
      have settled := Interactive.Safe.returned
        (applied deltas planned synchronized result) run
      exact settled

/-- A synchronized reconciler that has applied a route of an older
incarnation of an endpoint. -/
def sampleReconciler : RouteReconciler :=
  { newRouteReconciler with
    applied := GoMap.empty.set sampleKey
      ⟨{ sampleEndpoint with incarnation := "0" }, "uuid-0"⟩
    synchronized := true }

theorem reconcile_plan_correct_sample :
    Filed wireBgp sampleReconciler.applied ∧
      (reconcile wireBgp [sampleEndpoint] sampleReconciler).1.isOk = true ∧
      PlanCorrect wireBgp sampleReconciler [sampleEndpoint] := by
  have filed : Filed wireBgp sampleReconciler.applied := by
    intro key owned found
    unfold sampleReconciler at found
    rw [GoMap.get_set] at found
    split at found
    · rename_i same
      cases found
      rw [same]
      decide +kernel
    · simp at found
  exact ⟨filed, by decide +kernel, reconcile_plan_correct filed _⟩

/-- A new reconciler plans before its first resynchronization, but its plan
cannot be applied. -/
theorem reconcile_plan_needs_resync :
    Filed wireBgp newRouteReconciler.applied ∧
      ∃ deltas planned,
        reconcile wireBgp [sampleEndpoint] newRouteReconciler =
          (.ok deltas, planned) ∧
        (∃ events outcome final,
          Runs (willing wireBgp)
            ((applyAll wireBgp deltas).start (planned, ())) () events
            (.done (outcome, final)) ()) ∧
        ∀ events outcome final,
          Runs (willing wireBgp)
            ((applyAll wireBgp deltas).start (planned, ())) () events
            (.done (outcome, final)) () →
          ¬Converged wireBgp newRouteReconciler [sampleEndpoint] final.1 := by
  have filed : Filed wireBgp newRouteReconciler.applied := by
    intro key owned found
    simp [newRouteReconciler] at found
  have collects : (collectDesired wireBgp newRouteReconciler.foreign
      [sampleEndpoint] .empty).isOk = true := by
    decide +kernel
  cases ok : collectDesired wireBgp newRouteReconciler.foreign
      [sampleEndpoint] .empty with
  | error reason =>
      rw [ok] at collects
      cases collects
  | ok wanted =>
      obtain ⟨deltas, _, result⟩ := reconcile_of_collected filed ok
      refine ⟨filed, deltas, _, result, ?_, ?_⟩
      · obtain ⟨events, run⟩ := Program.runs_execute willingAnswer_allowed
          ((applyAll wireBgp deltas).start (_, ())) ()
        exact ⟨events, _, _, run⟩
      · intro events outcome final run converged
        have stopped := Interactive.Safe.returned
          (applyAll_unsynchronized_safe rfl) run
        have unchanged : final.1.applied = newRouteReconciler.applied :=
          congrArg (fun memory => memory.1.applied) stopped.1
        have present := (converged.keys sampleKey).mpr
          ⟨sampleEndpoint, List.mem_singleton.mpr rfl, rfl,
            wireKey_sampleEndpoint⟩
        rw [unchanged] at present
        simp [newRouteReconciler] at present

end Plans

end RouteReconciler

end EvpnForOvn.Evpn

import EvpnForOvn.Type2.ReconcilerSpec

/-!
# Runs of a reconciler

A reconciler is called any number of times, with any deltas and receipts, and
every request it sends is answered in any way.  `Effect` says once what a call
can send and what it leaves behind; `Reached` is the run itself, with a record
of every call.
-/

namespace EvpnForOvn.Evpn

open Interactive Go RouteReconciler

/-- The calls of a reconciler.  A `false` flag stands for a nil interface. -/
inductive RouteCall (bgp : BgpPackage) where
  | reconcile (desired : List LocalEndpoint)
  | apply (delta : Type2Route bgp) (api : Bool)
  | resync (source : Bool) (receipts : List OwnedType2Route)
  | resyncDurable (receipts : List OwnedType2Route)

namespace RouteCall

variable {bgp : BgpPackage}

def serve : RouteCall bgp →
    Method (routeSignature bgp) GoError (RouteReconciler × Unit)
      (List (Type2Route bgp))
  | .reconcile desired => planning bgp desired
  | .apply delta api => do
      RouteReconciler.apply (requestContext bgp) delta
        (if api then some (requestApplier bgp) else none)
      return []
  | .resync source receipts => do
      RouteReconciler.resync (requestContext bgp)
        (if source then some (requestSource bgp) else none) receipts
      return []
  | .resyncDurable receipts => do
      RouteReconciler.resyncDurable (requestContext bgp) (requestSource bgp)
        receipts
      return []

/-- The receipts a resynchronization is given. -/
def receipts : RouteCall bgp → Option (List OwnedType2Route)
  | .reconcile _ => none
  | .apply _ _ => none
  | .resync _ receipts => some receipts
  | .resyncDurable receipts => some receipts

/-- The operation a call asks to execute. -/
def operation : RouteCall bgp → Option Nat
  | .apply delta _ => delta.operation
  | _ => none

end RouteCall

/-- The requests that change the routes of the speaker. -/
def RouteRequest.mutates {bgp : BgpPackage} : RouteRequest bgp → Bool
  | .context => false
  | .snapshot => false
  | .add _ => true
  | .delete _ => true

abbrev RouteLog (bgp : BgpPackage) : Type :=
  List (Event (routeSignature bgp))

/-- Any reply is possible; the world is the log of the call. -/
abbrev logging (bgp : BgpPackage) :
    Environment (routeSignature bgp) (RouteLog bgp) :=
  Environment.logging

/-- A log without a mutation. -/
def Quiet {bgp : BgpPackage} (log : RouteLog bgp) : Prop :=
  ∀ event ∈ log, event.1.mutates = false

theorem quiet_nil {bgp : BgpPackage} : Quiet ([] : RouteLog bgp) := by
  intro event member
  cases member

theorem Quiet.context {bgp : BgpPackage} {log : RouteLog bgp}
    (quiet : Quiet log) (reply : Except GoError Unit) :
    Quiet (log ++ [⟨.context, reply⟩]) := by
  intro event member
  rcases List.mem_append.mp member with before | last
  · exact quiet event before
  · rw [List.mem_singleton.mp last]
    rfl

theorem Quiet.snapshot {bgp : BgpPackage} {log : RouteLog bgp}
    (quiet : Quiet log) (reply : Except GoError (List (Type2RIBPath bgp))) :
    Quiet (log ++ [⟨.snapshot, reply⟩]) := by
  intro event member
  rcases List.mem_append.mp member with before | last
  · exact quiet event before
  · rw [List.mem_singleton.mp last]
    rfl

/-- What a call can have sent, what it returns and what it leaves behind. -/
inductive RouteCall.Effect {bgp : BgpPackage} (reconciler : RouteReconciler) :
    RouteCall bgp → RouteLog bgp → Except GoError (List (Type2Route bgp)) →
      RouteReconciler → Prop where
  | planned (desired : List LocalEndpoint) :
      Effect reconciler (.reconcile desired) []
        (RouteReconciler.reconcile bgp desired reconciler).1
        (RouteReconciler.reconcile bgp desired reconciler).2
  | refused {delta : Type2Route bgp} {api : Bool} {log : RouteLog bgp}
      (reason : GoError) :
      Quiet log →
      Effect reconciler (.apply delta api) log (.error reason) reconciler
  | added {delta : Type2Route bgp} {api : Bool} {address : Nat}
      {operation : RouteOperation} {route : Type2Route bgp}
      (reply : Except GoError String) :
      Current reconciler delta address operation →
      operation.action = .advertise →
      reconciler.applied.get operation.wireKey = none →
      buildType2Route bgp operation.endpoint = .ok route →
      Effect reconciler (.apply delta api)
        [⟨.context, .ok ()⟩, ⟨.add route, reply⟩]
        ((afterAdd reconciler address operation reply).1.map fun _ => [])
        (afterAdd reconciler address operation reply).2
  | deleted {delta : Type2Route bgp} {api : Bool} {address : Nat}
      {operation : RouteOperation} {owned : OwnedType2Route}
      (reply : Except GoError Unit) :
      Current reconciler delta address operation →
      operation.action = .withdraw →
      reconciler.applied.get operation.wireKey = some owned →
      Effect reconciler (.apply delta api)
        [⟨.context, .ok ()⟩, ⟨.delete owned, reply⟩]
        ((afterDelete reconciler address operation reply).1.map fun _ => [])
        (afterDelete reconciler address operation reply).2
  | unconfirmed {call : RouteCall bgp} {log : RouteLog bgp}
      (reason : GoError) :
      call.receipts.isSome = true →
      Quiet log →
      Effect reconciler call log (.error reason) (unsynchronize reconciler)
  | resynced {receipts : List OwnedType2Route}
      {paths : List (Type2RIBPath bgp)} {found : Findings} :
      confirm bgp receipts paths = .ok found →
      Effect reconciler (.resync true receipts)
        [⟨.snapshot, .ok paths⟩, ⟨.context, .ok ()⟩] (.ok [])
        (install found (unsynchronize reconciler))
  | restored {receipts : List OwnedType2Route}
      {paths : List (Type2RIBPath bgp)} {found : Findings}
      (reply : Except GoError Unit) :
      confirmDurable bgp receipts paths = .ok found →
      Effect reconciler (.resyncDurable receipts)
        [⟨.snapshot, .ok paths⟩, ⟨.context, reply⟩]
        (reply.map fun _ => []) (install found (unsynchronize reconciler))

namespace RouteCall

variable {bgp : BgpPackage} {reconciler : RouteReconciler}

/-- The log of a call that may still be under way. -/
def Sends (reconciler : RouteReconciler) (call : RouteCall bgp)
    (log : RouteLog bgp) : Prop :=
  ∃ outcome after, call.Effect reconciler log outcome after

theorem safe_return_nil {stable : RouteLog bgp → Prop} {log : RouteLog bgp}
    {post : Except GoError (List (Type2Route bgp)) →
      RouteReconciler × Unit → RouteLog bgp → Prop}
    {method : Method (routeSignature bgp) GoError (RouteReconciler × Unit)
      Unit} {memory : RouteReconciler × Unit}
    (safe : Method.Safe (logging bgp) stable
      (fun outcome memory log => post (outcome.map fun _ => []) memory log)
      method memory log) :
    Method.Safe (logging bgp) stable post (do method; return [])
      memory log := by
  apply Method.Safe.bind safe
  · intro _ reached after stableAfter posted
    exact Method.safe_pure_still_iff.mpr ⟨stableAfter, posted⟩
  · intro reason reached after _ posted
    exact posted

theorem context_err_safe {stable : RouteLog bgp → Prop} {log : RouteLog bgp}
    {post : Except GoError Unit → RouteLog bgp → Prop}
    (here : stable log)
    (there : ∀ reply, stable (log ++ [⟨.context, reply⟩]) ∧
      post reply (log ++ [⟨.context, reply⟩])) :
    Interactive.Safe (logging bgp) stable post (requestContext bgp).err
      log := by
  apply Interactive.Safe.ask_still_iff.mpr
  refine ⟨here, ?_⟩
  intro reply after answered
  subst answered
  exact Interactive.Safe.done_still_iff.mpr (there reply)

theorem snapshot_safe {stable : RouteLog bgp → Prop} {log : RouteLog bgp}
    {post : Except GoError (List (Type2RIBPath bgp)) → Unit →
      RouteLog bgp → Prop}
    (here : stable log)
    (there : ∀ reply, stable (log ++ [⟨.snapshot, reply⟩]) ∧
      post reply () (log ++ [⟨.snapshot, reply⟩])) :
    Method.Safe (logging bgp) stable post (requestSource bgp).snapshot ()
      log := by
  apply Method.Safe.call
  apply Interactive.Safe.ask_still_iff.mpr
  refine ⟨here, ?_⟩
  intro reply after answered
  subst answered
  exact Interactive.Safe.done_still_iff.mpr (there reply)

theorem apply_effect (delta : Type2Route bgp) (api : Bool) :
    Method.Safe (logging bgp) (Sends reconciler (.apply delta api))
      (fun outcome memory log =>
        (RouteCall.apply delta api).Effect reconciler log outcome memory.1)
      (RouteCall.apply delta api).serve (reconciler, ()) [] := by
  have quiet : ∀ log : RouteLog bgp, Quiet log →
      Sends reconciler (.apply delta api) log := by
    intro log quietLog
    exact ⟨_, _, .refused (.plain .routeOwnership) quietLog⟩
  have applierEq : ∀ applier : Type2RouteApplier bgp _ Unit,
      (if api then some (requestApplier bgp) else none) = some applier →
      applier = requestApplier bgp := by
    intro applier given
    cases api with
    | false => cases given
    | true => exact (Option.some.inj given).symm
  apply safe_return_nil
  apply apply_safe (fun log => log = [⟨.context, .ok ()⟩])
  · intro reason _
    exact Method.safe_throw_still_iff.mpr
      ⟨quiet [] quiet_nil, .refused reason quiet_nil⟩
  · intro address operation _
    apply context_err_safe (quiet [] quiet_nil)
    intro reply
    refine ⟨quiet _ (quiet_nil.context reply), ?_⟩
    cases reply with
    | ok value => rfl
    | error reason => exact .refused reason (quiet_nil.context _)
  · intro address operation reason after _ _ stableAfter alive
    subst alive
    exact Method.safe_throw_still_iff.mpr
      ⟨stableAfter, .refused reason (quiet_nil.context _)⟩
  · intro applier address operation route after given current action absent
      built stableAfter alive
    obtain rfl := applierEq applier given
    subst alive
    apply Method.Safe.call
    apply Interactive.Safe.ask_still_iff.mpr
    refine ⟨stableAfter, ?_⟩
    intro reply after answered
    subst answered
    have effect : (RouteCall.apply delta api).Effect reconciler _ _ _ :=
      .added reply current action absent built
    exact Interactive.Safe.done_still_iff.mpr ⟨⟨_, _, effect⟩, effect⟩
  · intro applier address operation owned after given current action present
      _ _ stableAfter alive
    obtain rfl := applierEq applier given
    subst alive
    apply Method.Safe.call
    apply Interactive.Safe.ask_still_iff.mpr
    refine ⟨stableAfter, ?_⟩
    intro reply after answered
    subst answered
    have effect : (RouteCall.apply delta api).Effect reconciler _ _ _ :=
      .deleted reply current action present
    exact Interactive.Safe.done_still_iff.mpr ⟨⟨_, _, effect⟩, effect⟩

theorem resync_effect (source : Bool) (receipts : List OwnedType2Route) :
    Method.Safe (logging bgp) (Sends reconciler (.resync source receipts))
      (fun outcome memory log =>
        (RouteCall.resync source receipts).Effect reconciler log outcome
          memory.1)
      (RouteCall.resync source receipts).serve (reconciler, ()) [] := by
  have quiet : ∀ log : RouteLog bgp, Quiet log →
      Sends reconciler (.resync source receipts) log := by
    intro log quietLog
    exact ⟨_, _, .unconfirmed (.plain .routeOwnership) rfl quietLog⟩
  apply safe_return_nil
  apply resync_safe
    (fun paths _ log => source = true ∧ log = [⟨.snapshot, .ok paths⟩])
    (fun paths _ log => source = true ∧
      log = [⟨.snapshot, .ok paths⟩, ⟨.context, .ok ()⟩])
  · intro _
    exact Method.safe_throw_still_iff.mpr
      ⟨quiet [] quiet_nil, .unconfirmed _ rfl quiet_nil⟩
  · intro given sourceEq
    cases source with
    | false => cases sourceEq
    | true =>
        obtain rfl := Option.some.inj sourceEq
        apply snapshot_safe (quiet [] quiet_nil)
        intro reply
        refine ⟨quiet _ (quiet_nil.snapshot reply), ?_⟩
        cases reply with
        | ok paths => exact ⟨rfl, rfl⟩
        | error reason => exact .unconfirmed _ rfl (quiet_nil.snapshot _)
  · intro paths outer after stableAfter seen
    obtain ⟨given, rfl⟩ := seen
    apply context_err_safe stableAfter
    intro reply
    have quietLog := (quiet_nil.snapshot (.ok paths)).context reply
    refine ⟨quiet _ quietLog, ?_⟩
    cases reply with
    | ok value => exact ⟨given, rfl⟩
    | error reason => exact .unconfirmed _ rfl quietLog
  · intro paths outer after reason stableAfter alive _
    obtain ⟨_, rfl⟩ := alive
    exact Method.safe_throw_still_iff.mpr ⟨stableAfter, .unconfirmed _ rfl
      ((quiet_nil.snapshot (.ok paths)).context _)⟩
  · intro paths outer after found stableAfter alive confirmed
    obtain ⟨rfl, rfl⟩ := alive
    exact Method.safe_pure_still_iff.mpr ⟨stableAfter, .resynced confirmed⟩

theorem resyncDurable_effect (receipts : List OwnedType2Route) :
    Method.Safe (logging bgp) (Sends reconciler (.resyncDurable receipts))
      (fun outcome memory log =>
        (RouteCall.resyncDurable receipts).Effect reconciler log outcome
          memory.1)
      (RouteCall.resyncDurable receipts).serve (reconciler, ()) [] := by
  have quiet : ∀ log : RouteLog bgp, Quiet log →
      Sends reconciler (.resyncDurable receipts) log := by
    intro log quietLog
    exact ⟨_, _, .unconfirmed (.plain .routeOwnership) rfl quietLog⟩
  apply safe_return_nil
  apply resyncDurable_safe (fun paths _ log => log = [⟨.snapshot, .ok paths⟩])
  · apply snapshot_safe (quiet [] quiet_nil)
    intro reply
    refine ⟨quiet _ (quiet_nil.snapshot reply), ?_⟩
    cases reply with
    | ok paths => rfl
    | error reason => exact .unconfirmed _ rfl (quiet_nil.snapshot _)
  · intro paths outer after reason stableAfter seen _
    subst seen
    exact Method.safe_throw_still_iff.mpr
      ⟨stableAfter, .unconfirmed _ rfl (quiet_nil.snapshot _)⟩
  · intro paths outer after found stableAfter seen confirmed
    subst seen
    apply context_err_safe stableAfter
    intro reply
    have effect : (RouteCall.resyncDurable receipts).Effect reconciler _ _ _ :=
      .restored reply confirmed
    exact ⟨⟨_, _, effect⟩, effect⟩

theorem reconcile_effect (desired : List LocalEndpoint) :
    Method.Safe (logging bgp) (Sends reconciler (.reconcile desired))
      (fun outcome memory log =>
        (RouteCall.reconcile desired).Effect reconciler log outcome memory.1)
      (RouteCall.reconcile desired).serve (reconciler, ()) [] := by
  apply Method.safe_get_bind.mpr
  apply Method.safe_modify_bind.mpr
  apply Method.safe_check_still_iff.mpr
  exact ⟨⟨_, _, .planned desired⟩, .planned desired⟩

/-- Every call does what `Effect` says, at every point of it. -/
theorem serve_effect (call : RouteCall bgp) :
    Method.Safe (logging bgp) (call.Sends reconciler)
      (fun outcome memory log =>
        call.Effect reconciler log outcome memory.1)
      call.serve (reconciler, ()) [] := by
  cases call with
  | reconcile desired => exact reconcile_effect desired
  | apply delta api => exact apply_effect delta api
  | resync source receipts => exact resync_effect source receipts
  | resyncDurable receipts => exact resyncDurable_effect receipts

/-- A call in progress has sent `log`. -/
def Issues (reconciler : RouteReconciler) (call : RouteCall bgp)
    (log : RouteLog bgp) : Prop :=
  ∃ rest, Runs (logging bgp) (call.serve.start (reconciler, ())) [] log rest
    log

theorem Issues.sends {call : RouteCall bgp} {log : RouteLog bgp}
    (issues : call.Issues reconciler log) : call.Sends reconciler log := by
  obtain ⟨rest, run⟩ := issues
  exact Interactive.Safe.holds
    (Interactive.Safe.along (serve_effect call) run)

end RouteCall

/-- One call of a run, with what it sent and returned. -/
structure CallRecord (bgp : BgpPackage) where
  call : RouteCall bgp
  before : RouteReconciler
  log : RouteLog bgp
  outcome : Except GoError (List (Type2Route bgp))
  after : RouteReconciler

/-- The runs of a new reconciler, oldest call first. -/
inductive Reached (bgp : BgpPackage) :
    List (CallRecord bgp) → RouteReconciler → Prop where
  | new : Reached bgp [] newRouteReconciler
  | call {past : List (CallRecord bgp)} {record : CallRecord bgp} :
      Reached bgp past record.before →
      Runs (logging bgp) (record.call.serve.start (record.before, ())) []
        record.log (.done (record.outcome, (record.after, ()))) record.log →
      Reached bgp (past ++ [record]) record.after

theorem CallRecord.effect {bgp : BgpPackage} {record : CallRecord bgp}
    (run : Runs (logging bgp) (record.call.serve.start (record.before, ()))
      [] record.log (.done (record.outcome, (record.after, ()))) record.log) :
    record.call.Effect record.before record.log record.outcome
      record.after := by
  have posted := Interactive.Safe.returned
    (RouteCall.serve_effect record.call) run
  exact posted

/-- A call whose requests are answered by a function. -/
def CallRecord.execute {bgp : BgpPackage}
    (answer : (request : RouteRequest bgp) → request.Reply)
    (call : RouteCall bgp) (reconciler : RouteReconciler) : CallRecord bgp :=
  let out := (call.serve.start (reconciler, ())).execute
    (Program.logged answer) []
  { call := call
    before := reconciler
    log := out.2
    outcome := out.1.1
    after := out.1.2.1 }

theorem CallRecord.runs_execute {bgp : BgpPackage}
    (answer : (request : RouteRequest bgp) → request.Reply)
    (call : RouteCall bgp) (reconciler : RouteReconciler) :
    Runs (logging bgp) (call.serve.start (reconciler, ())) []
      (execute answer call reconciler).log
      (.done ((execute answer call reconciler).outcome,
        ((execute answer call reconciler).after, ())))
      (execute answer call reconciler).log := by
  have run : Runs (logging bgp) (call.serve.start (reconciler, ())) []
      _ _ _ :=
    Program.runs_logged answer _
  exact run

theorem Reached.execute {bgp : BgpPackage} {past : List (CallRecord bgp)}
    {reconciler : RouteReconciler} (reached : Reached bgp past reconciler)
    (answer : (request : RouteRequest bgp) → request.Reply)
    (call : RouteCall bgp) :
    Reached bgp (past ++ [CallRecord.execute answer call reconciler])
      (CallRecord.execute answer call reconciler).after := by
  apply Reached.call reached
  exact CallRecord.runs_execute answer call reconciler

end EvpnForOvn.Evpn

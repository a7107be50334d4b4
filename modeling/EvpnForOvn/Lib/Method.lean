import EvpnForOvn.Lib.Program

/-!
# Methods of a stateful object

A method reads and updates the memory of one object, may fail with an error,
and keeps the memory it has reached when it fails.  Its specification is the
crash specification of the underlying program, with a postcondition over the
outcome, the memory and the world.
-/

namespace Interactive

abbrev Method (signature : Signature) (ε Memory α : Type) : Type :=
  ExceptT ε (StateT Memory (Program signature)) α

namespace Method

variable {signature : Signature} {ε Memory Part α β : Type}

/-- The program that a method call on `memory` executes. -/
def start (method : Method signature ε Memory α) (memory : Memory) :
    Program signature (Except ε α × Memory) :=
  StateT.run (ExceptT.run method) memory

/-- Send one request. -/
def ask (message : signature.Request) :
    Method signature ε Memory (signature.Reply message) :=
  fun memory => .ask message (fun reply => .done (.ok reply, memory))

/-- Hand the error of a call to the caller instead of failing with it. -/
def attempt (method : Method signature ε Memory α) :
    Method signature ε Memory (Except ε α) :=
  fun memory => method.start memory >>= fun out => .done (.ok out.1, out.2)

/-- Report the error of a call in other words. -/
def mapError (change : ε → ε) (method : Method signature ε Memory α) :
    Method signature ε Memory α :=
  fun memory => method.start memory >>= fun out =>
    .done (out.1.mapError change, out.2)

/-- Fail when a result carries an error. -/
def check (outcome : Except ε α) : Method signature ε Memory α :=
  fun memory => .done (outcome, memory)

/-- Call a program that reports its own errors. -/
def call (program : Program signature (Except ε α)) :
    Method signature ε Memory α :=
  fun memory => program >>= fun outcome => .done (outcome, memory)

/-- Return early with an error when the condition holds. -/
def refuse (condition : Bool) (reason : ε) :
    Method signature ε Memory Unit :=
  if condition then throw reason else pure ()

/-- The value, or an early return with an error. -/
def require (value : Option α) (reason : ε) : Method signature ε Memory α :=
  match value with
  | some value => pure value
  | none => throw reason

/-- Run a method of a component of the memory. -/
def onPart (get : Memory → Part) (set : Part → Memory → Memory)
    (method : Method signature ε Part α) : Method signature ε Memory α :=
  fun memory => method.start (get memory) >>= fun out =>
    .done (out.1, set out.2 memory)

/-- Run a method for each element in order, stopping at the first error. -/
def each (action : α → Method signature ε Memory Unit) :
    List α → Method signature ε Memory Unit
  | [] => pure ()
  | item :: items => do
      action item
      each action items

section Safety

variable {World : Type} {environment : Environment signature World}
  {stable : World → Prop}

/-- Crash specification of a method call. -/
def Safe (environment : Environment signature World) (stable : World → Prop)
    (post : Except ε α → Memory → World → Prop)
    (method : Method signature ε Memory α) (memory : Memory)
    (world : World) : Prop :=
  Interactive.Safe environment stable
    (fun out after => post out.1 out.2 after) (method.start memory) world

variable {post : Except ε β → Memory → World → Prop}
  {memory : Memory} {world : World}

theorem Safe.holds {post : Except ε α → Memory → World → Prop}
    {method : Method signature ε Memory α}
    (safe : Safe environment stable post method memory world) :
    stable world :=
  Interactive.Safe.holds safe

theorem Safe.weaken {post other : Except ε α → Memory → World → Prop}
    {method : Method signature ε Memory α}
    (safe : Safe environment stable post method memory world)
    (implies : ∀ outcome memory after, stable after →
      post outcome memory after → other outcome memory after) :
    Safe environment stable other method memory world :=
  Interactive.Safe.weaken safe
    (fun out after stableAfter posted =>
      implies out.1 out.2 after stableAfter posted)

theorem Safe.relax {other : World → Prop}
    {post : Except ε α → Memory → World → Prop}
    {method : Method signature ε Memory α}
    (safe : Safe environment stable post method memory world)
    (implies : ∀ after, stable after → other after) :
    Safe environment other post method memory world :=
  Interactive.Safe.relax safe implies

theorem start_bind (method : Method signature ε Memory α)
    (continuation : α → Method signature ε Memory β) (memory : Memory) :
    (method >>= continuation).start memory =
      method.start memory >>= fun out =>
        match out.1 with
        | .ok value => (continuation value).start out.2
        | .error reason => .done (.error reason, out.2) := by
  show (method.start memory).bind _ = (method.start memory).bind _
  congr 1
  funext out
  rcases out with ⟨_ | _, _⟩ <;> rfl

/-- Sequencing of methods: an error of the first call is the outcome.  What
the first call has established still holds after every move of the
environment. -/
theorem Safe.bind_settled {middle : Except ε α → Memory → World → Prop}
    {method : Method signature ε Memory α}
    {continuation : α → Method signature ε Memory β}
    (safe : Safe environment stable middle method memory world)
    (continues : ∀ value memory after,
      (∀ later, environment.Drift after later →
        stable later ∧ middle (.ok value) memory later) →
      Safe environment stable post (continuation value) memory after)
    (fails : ∀ reason memory after, stable after →
      middle (.error reason) memory after →
      post (.error reason) memory after) :
    Safe environment stable post (method >>= continuation) memory world := by
  unfold Safe at safe ⊢
  rw [start_bind]
  generalize method.start memory = program at safe
  induction program generalizing world with
  | done out =>
      obtain ⟨outcome, reached⟩ := out
      cases outcome with
      | ok value => exact continues value reached world safe
      | error reason =>
          intro later moved
          obtain ⟨stableLater, posted⟩ := safe later moved
          exact ⟨stableLater, fails reason reached later stableLater posted⟩
  | ask message next induction =>
      intro later moved
      obtain ⟨stableLater, resumes⟩ := safe later moved
      exact ⟨stableLater, fun reply answered step =>
        induction reply (resumes reply answered step)⟩

theorem Safe.bind {middle : Except ε α → Memory → World → Prop}
    {method : Method signature ε Memory α}
    {continuation : α → Method signature ε Memory β}
    (safe : Safe environment stable middle method memory world)
    (continues : ∀ value memory after, stable after →
      middle (.ok value) memory after →
      Safe environment stable post (continuation value) memory after)
    (fails : ∀ reason memory after, stable after →
      middle (.error reason) memory after →
      post (.error reason) memory after) :
    Safe environment stable post (method >>= continuation) memory world := by
  apply Safe.bind_settled safe _ fails
  intro value reached after settled
  obtain ⟨stableAfter, posted⟩ := settled after .refl
  exact continues value reached after stableAfter posted

theorem Safe.call {post : Except ε α → Memory → World → Prop}
    {program : Program signature (Except ε α)}
    (safe : Interactive.Safe environment stable
      (fun outcome after => post outcome memory after) program world) :
    Safe environment stable post (Method.call program) memory world := by
  show Interactive.Safe environment stable _ (program.bind _) world
  induction program generalizing world with
  | done out => exact safe
  | ask message next induction =>
      intro later moved
      obtain ⟨stableLater, resumes⟩ := safe later moved
      exact ⟨stableLater, fun reply answered step =>
        induction reply (resumes reply answered step)⟩

/-- A called program whose error ends the method. -/
theorem Safe.call_bind {program : Program signature (Except ε α)}
    {continuation : α → Method signature ε Memory β}
    (middle : Except ε α → World → Prop)
    (safe : Interactive.Safe environment stable middle program world)
    (continues : ∀ value after, stable after → middle (.ok value) after →
      Safe environment stable post (continuation value) memory after)
    (fails : ∀ reason after, stable after → middle (.error reason) after →
      post (.error reason) memory after) :
    Safe environment stable post (Method.call program >>= continuation)
      memory world := by
  have called : Safe environment stable
      (fun outcome reached after => reached = memory ∧ middle outcome after)
      (Method.call program) memory world :=
    Safe.call (safe.weaken (fun outcome after _ posted => ⟨rfl, posted⟩))
  apply Safe.bind called
  · intro value reached after stableAfter posted
    obtain ⟨rfl, posted⟩ := posted
    exact continues value after stableAfter posted
  · intro reason reached after stableAfter posted
    obtain ⟨rfl, posted⟩ := posted
    exact fails reason after stableAfter posted

theorem Safe.refuse_bind {condition : Bool} {reason : ε}
    {continuation : Unit → Method signature ε Memory β}
    (refused : condition = true →
      Safe environment stable post (throw reason) memory world)
    (passed : condition = false →
      Safe environment stable post (continuation ()) memory world) :
    Safe environment stable post (refuse condition reason >>= continuation)
      memory world := by
  cases condition with
  | true => exact refused rfl
  | false => exact passed rfl

theorem Safe.require_bind {value : Option α} {reason : ε}
    {continuation : α → Method signature ε Memory β}
    (missing : value = none →
      Safe environment stable post (throw reason) memory world)
    (present : ∀ found, value = some found →
      Safe environment stable post (continuation found) memory world) :
    Safe environment stable post (require value reason >>= continuation)
      memory world := by
  cases value with
  | none => exact missing rfl
  | some found => exact present found rfl

theorem Safe.check_bind {outcome : Except ε α}
    {continuation : α → Method signature ε Memory β}
    (failed : ∀ reason, outcome = .error reason →
      Safe environment stable post (throw reason) memory world)
    (passed : ∀ value, outcome = .ok value →
      Safe environment stable post (continuation value) memory world) :
    Safe environment stable post (check outcome >>= continuation)
      memory world := by
  cases outcome with
  | error reason => exact failed reason rfl
  | ok value => exact passed value rfl

theorem Safe.ask {message : signature.Request}
    {post : Except ε (signature.Reply message) → Memory → World → Prop}
    (assertion : World → Prop) (holdsHere : assertion world)
    (undrifted : ∀ before after, assertion before →
      environment.drifts before after → assertion after)
    (keeps : ∀ here, assertion here → stable here)
    (result : signature.Reply message → World → Prop)
    (answered : ∀ here reply after, assertion here →
      environment.answers here message reply after → result reply after)
    (resultUndrifted : ∀ reply before after, result reply before →
      environment.drifts before after → result reply after)
    (posted : ∀ reply after, result reply after →
      stable after ∧ post (.ok reply) memory after) :
    Safe environment stable post (Method.ask message) memory world := by
  apply Interactive.Safe.ask assertion holdsHere undrifted keeps
  intro here reply after holdsThere step
  exact Interactive.Safe.done (result reply)
    (answered here reply after holdsThere step) (resultUndrifted reply)
    (posted reply)

/-- The caller of an attempted method sees every outcome, and may end with
it. -/
theorem Safe.attempt_bind_settled
    {middle : Except ε α → Memory → World → Prop}
    {method : Method signature ε Memory α}
    {continuation : Except ε α → Method signature ε Memory β}
    (safe : Safe environment stable middle method memory world)
    (continues : ∀ outcome memory after,
      (∀ later, environment.Drift after later →
        stable later ∧ middle outcome memory later) →
      Safe environment stable post (continuation outcome) memory after) :
    Safe environment stable post (attempt method >>= continuation)
      memory world := by
  unfold Safe at safe ⊢
  rw [start_bind]
  show Interactive.Safe environment stable _
    (((method.start memory).bind _).bind _) world
  rw [Program.bind_assoc]
  exact Interactive.Safe.bind_settled safe (fun out after settled =>
    continues out.1 out.2 after settled)

theorem Safe.attempt_bind {middle : Except ε α → Memory → World → Prop}
    {method : Method signature ε Memory α}
    {continuation : Except ε α → Method signature ε Memory β}
    (safe : Safe environment stable middle method memory world)
    (continues : ∀ outcome memory after, stable after →
      middle outcome memory after →
      Safe environment stable post (continuation outcome) memory after) :
    Safe environment stable post (attempt method >>= continuation)
      memory world := by
  apply safe.attempt_bind_settled
  intro outcome reached after settled
  obtain ⟨stableAfter, posted⟩ := settled after .refl
  exact continues outcome reached after stableAfter posted

/-- A called program whose outcome the caller inspects. -/
theorem Safe.attempt_call_bind {middle : Except ε α → World → Prop}
    {program : Program signature (Except ε α)}
    {continuation : Except ε α → Method signature ε Memory β}
    (safe : Interactive.Safe environment stable middle program world)
    (continues : ∀ outcome after, stable after → middle outcome after →
      Safe environment stable post (continuation outcome) memory after) :
    Safe environment stable post
      (attempt (Method.call program) >>= continuation) memory world := by
  have called : Safe environment stable
      (fun outcome reached after => reached = memory ∧ middle outcome after)
      (Method.call program) memory world :=
    Safe.call (safe.weaken (fun outcome after _ posted => ⟨rfl, posted⟩))
  apply Safe.attempt_bind called
  rintro outcome reached after stableAfter ⟨rfl, posted⟩
  exact continues outcome after stableAfter posted

theorem Safe.onPart {get : Memory → Part} {set : Part → Memory → Memory}
    {post : Except ε α → Memory → World → Prop}
    {method : Method signature ε Part α}
    (safe : Safe environment stable
      (fun outcome part after => post outcome (set part memory) after)
      method (get memory) world) :
    Safe environment stable post (onPart get set method) memory world := by
  show Interactive.Safe environment stable _
    ((method.start (get memory)).bind _) world
  generalize reached : method.start (get memory) = program
  unfold Safe at safe
  rw [reached] at safe
  clear reached
  induction program generalizing world with
  | done out => exact safe
  | ask message next induction =>
      intro later moved
      obtain ⟨stableLater, resumes⟩ := safe later moved
      exact ⟨stableLater, fun reply answered step =>
        induction reply (resumes reply answered step)⟩

theorem Safe.mapError {change : ε → ε}
    {post : Except ε α → Memory → World → Prop}
    {method : Method signature ε Memory α}
    (safe : Safe environment stable
      (fun outcome reached after => post (outcome.mapError change) reached
        after) method memory world) :
    Safe environment stable post (mapError change method) memory world := by
  show Interactive.Safe environment stable _
    ((method.start memory).bind _) world
  generalize reached : method.start memory = program
  unfold Safe at safe
  rw [reached] at safe
  clear reached
  induction program generalizing world with
  | done out => exact safe
  | ask message next induction =>
      intro later moved
      obtain ⟨stableLater, resumes⟩ := safe later moved
      exact ⟨stableLater, fun reply answered step =>
        induction reply (resumes reply answered step)⟩

/-- The bind rule for a call whose error is reported in other words. -/
theorem Safe.mapError_bind {change : ε → ε}
    {middle : Except ε α → Memory → World → Prop}
    {method : Method signature ε Memory α}
    {continuation : α → Method signature ε Memory β}
    (safe : Safe environment stable middle method memory world)
    (continues : ∀ value memory after, stable after →
      middle (.ok value) memory after →
      Safe environment stable post (continuation value) memory after)
    (fails : ∀ reason memory after, stable after →
      middle (.error reason) memory after →
      post (.error (change reason)) memory after) :
    Safe environment stable post (Method.mapError change method >>= continuation)
      memory world := by
  have changed : Safe environment stable
      (fun outcome reached after => match outcome with
        | .ok value => middle (.ok value) reached after
        | .error reason => post (.error reason) reached after)
      (Method.mapError change method) memory world := by
    apply Safe.mapError
    apply safe.weaken
    intro outcome reached after stableAfter posted
    cases outcome with
    | ok value => exact posted
    | error reason => exact fails reason reached after stableAfter posted
  apply Safe.bind changed
  · intro value reached after stableAfter posted
    exact continues value reached after stableAfter posted
  · intro reason reached after _ posted
    exact posted

/-- A loop keeps an invariant that every round keeps. -/
theorem Safe.each {action : α → Method signature ε Memory Unit}
    {items : List α} (invariant : Memory → World → Prop)
    {post : Except ε Unit → Memory → World → Prop}
    (holdsHere : invariant memory world)
    (round : ∀ item ∈ items, ∀ memory world, stable world →
      invariant memory world →
      Safe environment stable
        (fun outcome memory after => match outcome with
          | .ok _ => invariant memory after
          | .error reason => post (.error reason) memory after)
        (action item) memory world)
    (finished : ∀ memory world, stable world → invariant memory world →
      Safe environment stable post (pure ()) memory world)
    (stableHere : stable world) :
    Safe environment stable post (Method.each action items) memory world := by
  induction items generalizing memory world with
  | nil => exact finished memory world stableHere holdsHere
  | cons item items induction =>
      apply Safe.bind (round item (by simp) memory world stableHere holdsHere)
      · intro value reached after stableAfter kept
        exact induction kept
          (fun item member => round item (by simp [member])) stableAfter
      · intro reason reached after _ failed
        exact failed

theorem safe_get_bind {continuation : Memory → Method signature ε Memory β} :
    Safe environment stable post (get >>= continuation) memory world ↔
      Safe environment stable post (continuation memory) memory world :=
  Iff.rfl

theorem safe_modify_bind {update : Memory → Memory}
    {continuation : PUnit → Method signature ε Memory β} :
    Safe environment stable post (modify update >>= continuation)
        memory world ↔
      Safe environment stable post (continuation ⟨⟩) (update memory) world :=
  Iff.rfl

theorem safe_modify {update : Memory → Memory}
    {post : Except ε PUnit → Memory → World → Prop} :
    Safe environment stable post (modify update) memory world ↔
      Safe environment stable post (pure ⟨⟩) (update memory) world :=
  Iff.rfl

theorem safe_set_bind {next : Memory}
    {continuation : PUnit → Method signature ε Memory β} :
    Safe environment stable post (set next >>= continuation) memory world ↔
      Safe environment stable post (continuation ⟨⟩) next world :=
  Iff.rfl

theorem safe_pure_bind {value : α}
    {continuation : α → Method signature ε Memory β} :
    Safe environment stable post (pure value >>= continuation)
        memory world ↔
      Safe environment stable post (continuation value) memory world :=
  Iff.rfl

theorem safe_bind_assoc {γ : Type} {method : Method signature ε Memory γ}
    {first : γ → Method signature ε Memory α}
    {second : α → Method signature ε Memory β} :
    Safe environment stable post (method >>= first >>= second)
        memory world ↔
      Safe environment stable post
        (method >>= fun value => first value >>= second) memory world := by
  rw [LawfulMonad.bind_assoc]

section Still

variable {answers : World → (request : signature.Request) →
    signature.Reply request → World → Prop}

theorem safe_ask_bind_still_iff {message : signature.Request}
    {continuation : signature.Reply message →
      Method signature ε Memory β} :
    Safe (Environment.still answers) stable post
        (Method.ask message >>= continuation) memory world ↔
      stable world ∧ ∀ reply after, answers world message reply after →
        Safe (Environment.still answers) stable post (continuation reply)
          memory after :=
  Interactive.Safe.ask_still_iff

theorem safe_pure_still_iff {value : β} :
    Safe (Environment.still answers) stable post (pure value) memory world ↔
      stable world ∧ post (.ok value) memory world :=
  Interactive.Safe.done_still_iff

theorem safe_throw_still_iff {reason : ε} :
    Safe (Environment.still answers) stable post (throw reason)
        memory world ↔
      stable world ∧ post (.error reason) memory world :=
  Interactive.Safe.done_still_iff

theorem safe_check_still_iff {outcome : Except ε β} :
    Safe (Environment.still answers) stable post (check outcome)
        memory world ↔
      stable world ∧ post outcome memory world :=
  Interactive.Safe.done_still_iff

end Still

end Safety

end Method

end Interactive

import EvpnForOvn.Export.ExporterSpec
import EvpnForOvn.Type2.Resync
import EvpnForOvn.Type2.Wire

/-!
# The exporter fences its writes

The exporter is run against objects that answer in any way.  Every mutation in
the log of a call directly follows a successful gate and continuity check; a
call whose observation or RIB read failed has no mutation; and a blocked
exporter sends nothing at all.
-/

namespace EvpnForOvn.Evpn

open Interactive Go RouteReconciler
open Interactive.Method (Leads)

/-- What an exporter asks of its objects. -/
inductive ExportRequest (bgp : BgpPackage) where
  | context
  | observe
  | gate
  | continuity
  | recover
  | snapshot
  | add (route : Type2Route bgp)
  | delete (owned : OwnedType2Route)

namespace ExportRequest

variable {bgp : BgpPackage}

@[reducible] def Result : ExportRequest bgp → Type
  | .context => Unit
  | .observe => List LocalEndpoint
  | .gate => Unit
  | .continuity => Unit
  | .recover => List OwnedType2Route
  | .snapshot => List (Type2RIBPath bgp)
  | .add _ => String
  | .delete _ => Unit

/-- The requests that change the routes of the speaker. -/
def mutates : ExportRequest bgp → Bool
  | .add _ => true
  | .delete _ => true
  | _ => false

/-- The requests whose failure must keep a call from writing. -/
def informs : ExportRequest bgp → Bool
  | .observe => true
  | .snapshot => true
  | _ => false

end ExportRequest

abbrev exportSignature (bgp : BgpPackage) : Signature :=
  { Request := ExportRequest bgp
    Reply := fun request => Except GoError request.Result }

abbrev ExportLog (bgp : BgpPackage) : Type :=
  List (Event (exportSignature bgp))

/-- Any reply is possible; the world is the log of the call. -/
abbrev exportLogging (bgp : BgpPackage) :
    Environment (exportSignature bgp) (ExportLog bgp) :=
  Environment.logging

def ExportRequest.send {bgp : BgpPackage} {Memory : Type}
    (request : ExportRequest bgp) :
    Method (exportSignature bgp) GoError Memory request.Result :=
  Method.call (.ask request .done)

/-- Which of the exporter's fields are set in a call. -/
structure ExportSettings where
  observer : Bool
  gate : Bool
  continuity : Bool
  source : Bool
  applier : Bool
  dryRun : Bool
  recovery : Bool

def ExportSettings.parts (bgp : BgpPackage) (settings : ExportSettings) :
    ExporterParts bgp (exportSignature bgp) Unit :=
  { context := { err := .ask ExportRequest.context .done }
    observer :=
      if settings.observer then some (ExportRequest.send .observe) else none
    gate := if settings.gate then some (ExportRequest.send .gate) else none
    continuity :=
      if settings.continuity then some (ExportRequest.send .continuity)
      else none
    source :=
      if settings.source then
        some { snapshot := ExportRequest.send .snapshot }
      else none
    applier :=
      if settings.applier then
        some
          { add := fun route => ExportRequest.send (.add route)
            delete := fun owned => ExportRequest.send (.delete owned) }
      else none
    dryRun := settings.dryRun
    recovery :=
      if settings.recovery then some (ExportRequest.send .recover)
      else none }

inductive ExportCall where
  | reconcile (settings : ExportSettings)
  | drainNetworks (settings : ExportSettings) (networks : List String)

namespace ExportCall

def settings : ExportCall → ExportSettings
  | .reconcile settings => settings
  | .drainNetworks settings _ => settings

def parts (bgp : BgpPackage) (exporter : EndpointExporter) :
    ExportCall → ExporterParts bgp (exportSignature bgp) Unit
  | .reconcile settings => settings.parts bgp
  | .drainNetworks settings networks =>
      { settings.parts bgp with
        observer := some (pure (exporter.retained networks)) }

def serve (bgp : BgpPackage) (exporter : EndpointExporter) :
    ExportCall → Program (exportSignature bgp)
      ((ExportResult × Except GoError Unit) × (EndpointExporter × Unit))
  | .reconcile settings =>
      EndpointExporter.reconcile (settings.parts bgp) exporter ()
  | .drainNetworks settings networks =>
      EndpointExporter.drainNetworks (settings.parts bgp) networks
        exporter ()

/-- The outcome of the endpoint observation of a call. -/
def Observes {bgp : BgpPackage} (exporter : EndpointExporter)
    (log : ExportLog bgp) (outcome : Except GoError (List LocalEndpoint)) :
    ExportCall → Prop
  | .reconcile _ => ⟨.observe, outcome⟩ ∈ log
  | .drainNetworks _ networks => outcome = .ok (exporter.retained networks)

end ExportCall

namespace Fence

variable {bgp : BgpPackage}

def Quiet (log : ExportLog bgp) : Prop :=
  ∀ event ∈ log, event.1.mutates = false

/-- What stands directly before a mutation. -/
def checks (bgp : BgpPackage) (continuity : Bool) : ExportLog bgp :=
  ⟨.gate, .ok ()⟩ ::
    ((if continuity then [⟨.continuity, .ok ()⟩] else []) ++
      [⟨.context, .ok ()⟩])

/-- Every mutation of the log directly follows its checks. -/
def Fenced (continuity : Bool) (log : ExportLog bgp) : Prop :=
  ∀ earlier event later, log = earlier ++ event :: later →
    event.1.mutates = true →
    ∃ before, earlier = before ++ checks bgp continuity

/-- What must keep a call from writing. -/
inductive Trouble (exporter : EndpointExporter) (call : ExportCall)
    (log : ExportLog bgp) : Prop where
  | dryRun : call.settings.dryRun = true → Trouble exporter call log
  | unobserved {reason : GoError} :
      call.Observes exporter log (.error reason) →
      Trouble exporter call log
  | invalid {desired : List LocalEndpoint} {endpoint : LocalEndpoint}
      {reason : GoError} :
      call.Observes exporter log (.ok desired) → endpoint ∈ desired →
      buildType2Route bgp endpoint = .error reason →
      Trouble exporter call log
  | unread {reason : GoError} :
      call.settings.recovery = false →
      ⟨.snapshot, .error reason⟩ ∈ log → Trouble exporter call log

theorem quiet_nil : Quiet ([] : ExportLog bgp) := by
  intro event member
  cases member

theorem Quiet.snoc {log : ExportLog bgp} (quiet : Quiet log)
    {request : ExportRequest bgp} (harmless : request.mutates = false)
    (reply : Except GoError request.Result) :
    Quiet (log ++ [⟨request, reply⟩]) := by
  intro event member
  rcases List.mem_append.mp member with before | last
  · exact quiet event before
  · rw [List.mem_singleton.mp last]
    exact harmless

theorem Quiet.fenced {log : ExportLog bgp} (quiet : Quiet log)
    (continuity : Bool) : Fenced continuity log := by
  intro earlier event later split mutates
  have harmless := quiet event (by rw [split]; simp)
  rw [harmless] at mutates
  cases mutates

/-- A log grows by a harmless event, or by any event after the checks. -/
theorem Fenced.snoc {continuity : Bool} {log : ExportLog bgp}
    (fenced : Fenced continuity log) {event : Event (exportSignature bgp)}
    (allowed : event.1.mutates = true →
      ∃ before, log = before ++ checks bgp continuity) :
    Fenced continuity (log ++ [event]) := by
  intro earlier other later split mutates
  rcases List.eq_nil_or_concat later with empty | concat
  · subst empty
    obtain ⟨same, sameEvent⟩ := List.append_inj' split rfl
    cases sameEvent
    rw [← same]
    exact allowed mutates
  · obtain ⟨rest, last, rfl⟩ := concat
    have inner : log = earlier ++ other :: rest := by
      have shape : log ++ [event] = (earlier ++ other :: rest) ++ [last] := by
        rw [split]
        simp
      exact (List.append_inj' shape rfl).1
    exact fenced earlier other rest inner mutates

theorem Trouble.of_snoc {exporter : EndpointExporter} {call : ExportCall}
    {log : ExportLog bgp} {event : Event (exportSignature bgp)}
    (trouble : Trouble exporter call (log ++ [event]))
    (unobserving : ∀ outcome, event ≠ ⟨.observe, outcome⟩)
    (read : ∀ reason, event = ⟨.snapshot, .error reason⟩ →
      call.settings.recovery = true) :
    Trouble exporter call log := by
  have observed : ∀ outcome,
      call.Observes exporter (log ++ [event]) outcome →
      call.Observes exporter log outcome := by
    intro outcome observes
    cases call with
    | reconcile settings =>
        rcases List.mem_append.mp observes with before | last
        · exact before
        · exact (unobserving _ (List.mem_singleton.mp last).symm).elim
    | drainNetworks settings networks => exact observes
  cases trouble with
  | dryRun dry => exact .dryRun dry
  | unobserved failed => exact .unobserved (observed _ failed)
  | invalid seen member broken => exact .invalid (observed _ seen) member broken
  | unread unrecovered failed =>
      rcases List.mem_append.mp failed with before | last
      · exact .unread unrecovered before
      · rw [read _ (List.mem_singleton.mp last).symm] at unrecovered
        cases unrecovered

open EndpointExporter

section Phases

variable (bgp : BgpPackage) (exporter : EndpointExporter) (call : ExportCall)

/-- The applied routes are those the call started with. -/
def Same (after : EndpointExporter) : Prop :=
  ∀ key, after.routes.applied.get key = exporter.routes.applied.get key

/-- Without recovery, nothing is applied before the first
resynchronization. -/
def Unstarted (recovery : Bool) (exporter : EndpointExporter) : Prop :=
  recovery = false → exporter.initialized = false →
    ∀ key, exporter.routes.applied.get key = none

def Sound (log : ExportLog bgp) : Prop :=
  Fenced call.settings.continuity log ∧
    (Trouble exporter call log → Quiet log)

def Fails (_ : GoError) (memory : ExporterMemory Unit)
    (log : ExportLog bgp) : Prop :=
  (Trouble exporter call log → Same exporter memory.exporter) ∧
    Unstarted call.settings.recovery memory.exporter

structure Opening (memory : ExporterMemory Unit) (log : ExportLog bgp) :
    Prop where
  empty : log = []
  same : Same exporter memory.exporter
  initialized : memory.exporter.initialized = exporter.initialized

structure Halted (memory : ExporterMemory Unit) (log : ExportLog bgp) :
    Prop where
  quiet : Quiet log
  same : Trouble exporter call log → Same exporter memory.exporter
  unstarted : Unstarted call.settings.recovery memory.exporter

structure Settled (memory : ExporterMemory Unit) (log : ExportLog bgp) :
    Prop where
  quiet : Quiet log
  clear : ¬Trouble exporter call log
  same : Same exporter memory.exporter
  initialized : memory.exporter.initialized = exporter.initialized

structure Resumed (memory : ExporterMemory Unit) (log : ExportLog bgp) :
    Prop where
  quiet : Quiet log
  clear : ¬Trouble exporter call log
  same : call.settings.recovery = false → Same exporter memory.exporter
  initialized : memory.exporter.initialized = true

structure Running (memory : ExporterMemory Unit) (log : ExportLog bgp) :
    Prop where
  fenced : Fenced call.settings.continuity log
  clear : ¬Trouble exporter call log
  initialized : memory.exporter.initialized = true

/-- Some of the checks have been passed since the last mutation. -/
def Passed (checks : ExportLog bgp) (memory : ExporterMemory Unit)
    (log : ExportLog bgp) : Prop :=
  ∃ before, Running bgp exporter call memory before ∧ log = before ++ checks

end Phases

section Objects

variable {bgp : BgpPackage} {exporter : EndpointExporter} {call : ExportCall}
  {memory : ExporterMemory Unit} {log : ExportLog bgp}

theorem send_safe (request : ExportRequest bgp) {Memory : Type}
    {stable : ExportLog bgp → Prop} {part : Memory}
    {post : Except GoError request.Result → Memory → ExportLog bgp → Prop}
    (here : stable log)
    (there : ∀ reply, stable (log ++ [⟨request, reply⟩]) ∧
      post reply part (log ++ [⟨request, reply⟩])) :
    Method.Safe (exportLogging bgp) stable post request.send part log := by
  apply Method.Safe.call
  apply Interactive.Safe.ask_still_iff.mpr
  refine ⟨here, ?_⟩
  intro reply after answered
  subst answered
  exact Interactive.Safe.done_still_iff.mpr (there reply)

theorem given_of_ite {α : Type} {condition : Bool} {value found : α}
    (given : (if condition then some value else none) = some found) :
    condition = true ∧ found = value := by
  cases condition with
  | false => cases given
  | true => exact ⟨rfl, (Option.some.inj given).symm⟩

theorem Quiet.sound (quiet : Quiet log) : Sound bgp exporter call log :=
  ⟨quiet.fenced _, fun _ => quiet⟩

theorem Running.sound (running : Running bgp exporter call memory log) :
    Sound bgp exporter call log :=
  ⟨running.fenced, fun trouble => (running.clear trouble).elim⟩

/-- A clear log stays clear when it grows by a reply that says nothing about
the endpoints or the RIB. -/
theorem clear_snoc (clear : ¬Trouble exporter call log)
    {event : Event (exportSignature bgp)}
    (uninforming : event.1.informs = false) :
    ¬Trouble exporter call (log ++ [event]) := by
  intro trouble
  apply clear
  apply trouble.of_snoc
  · intro outcome same
    rw [same] at uninforming
    cases uninforming
  · intro reason same
    rw [same] at uninforming
    cases uninforming

theorem clear_snapshot (clear : ¬Trouble exporter call log)
    {reply : Except GoError (List (Type2RIBPath bgp))}
    (read : reply.isOk = true ∨ call.settings.recovery = true) :
    ¬Trouble exporter call (log ++ [⟨.snapshot, reply⟩]) := by
  intro trouble
  apply clear
  apply trouble.of_snoc
  · intro outcome same
    cases same
  · intro reason same
    cases same
    rcases read with impossible | recovering
    · cases impossible
    · exact recovering

theorem Running.snoc (running : Running bgp exporter call memory log)
    {event : Event (exportSignature bgp)}
    (harmless : event.1.mutates = false)
    (uninforming : event.1.informs = false) :
    Running bgp exporter call memory (log ++ [event]) :=
  { fenced := running.fenced.snoc (by simp [harmless])
    clear := clear_snoc running.clear uninforming
    initialized := running.initialized }

theorem Settled.snoc (settled : Settled bgp exporter call memory log)
    {request : ExportRequest bgp} (reply : Except GoError request.Result)
    (harmless : request.mutates = false)
    (uninforming : request.informs = false) :
    Settled bgp exporter call memory (log ++ [⟨request, reply⟩]) :=
  { settled with
    quiet := settled.quiet.snoc harmless reply
    clear := clear_snoc settled.clear uninforming }

/-- Nothing drifts here: an assertion rests when it keeps the log sound and
allows every failure. -/
theorem resting_of {assertion : ExporterMemory Unit → ExportLog bgp → Prop}
    (holds : ∀ memory log, assertion memory log →
      Sound bgp exporter call log)
    (same : ∀ memory log, assertion memory log →
      Trouble exporter call log → Same exporter memory.exporter)
    (unstarted : ∀ memory log, assertion memory log →
      Unstarted call.settings.recovery memory.exporter) :
    Resting (exportLogging bgp) (Sound bgp exporter call)
      (Fails bgp exporter call) assertion :=
  { drift := by
      intro memory before after _ moved
      exact moved.elim
    holds := holds
    failed := by
      intro memory log reason here
      exact ⟨same memory log here, unstarted memory log here⟩
    blocked := by
      intro memory log reason here
      exact ⟨same memory log here, unstarted memory log here⟩ }

theorem unstarted_of_same
    (unstarted : Unstarted call.settings.recovery exporter)
    (same : Same exporter memory.exporter)
    (initialized : memory.exporter.initialized = exporter.initialized) :
    Unstarted call.settings.recovery memory.exporter := by
  intro unrecovered uninitialized key
  rw [same key]
  exact unstarted unrecovered (initialized ▸ uninitialized) key

theorem unstarted_of_initialized {recovery : Bool}
    {exporter : EndpointExporter}
    (initialized : exporter.initialized = true) :
    Unstarted recovery exporter := by
  intro _ uninitialized
  rw [initialized] at uninitialized
  cases uninitialized

theorem checkObserved_ok {desired : List LocalEndpoint}
    (ok : checkObserved bgp desired = .ok ()) :
    ∀ endpoint ∈ desired, ∃ route,
      buildType2Route bgp endpoint = .ok route := by
  induction desired with
  | nil =>
      intro endpoint member
      cases member
  | cons first rest induction =>
      unfold checkObserved at ok
      cases built : buildType2Route bgp first with
      | error reason =>
          rw [built] at ok
          cases ok
      | ok route =>
          rw [built] at ok
          intro endpoint member
          rcases List.mem_cons.mp member with same | later
          · rw [same]
            exact ⟨route, built⟩
          · exact induction ok endpoint later

/-- A live call that has only observed valid endpoints is clear. -/
theorem clear_observed {desired : List LocalEndpoint}
    (live : call.settings.dryRun = false)
    (valid : checkObserved bgp desired = .ok ())
    (observed : ∀ outcome, call.Observes exporter log outcome →
      outcome = .ok desired)
    (unread : ∀ reason, ⟨.snapshot, .error reason⟩ ∉ log) :
    ¬Trouble exporter call log := by
  intro trouble
  cases trouble with
  | dryRun dry =>
      rw [live] at dry
      cases dry
  | unobserved failed => cases observed _ failed
  | invalid seen member broken =>
      cases observed _ seen
      obtain ⟨route, built⟩ := checkObserved_ok valid _ member
      rw [built] at broken
      cases broken
  | unread _ failed => exact unread _ failed

theorem observes_safe (unstarted : Unstarted call.settings.recovery exporter)
    {observer : Method (exportSignature bgp) GoError Unit
      (List LocalEndpoint)}
    (given : (call.parts bgp exporter).observer = some observer)
    (opening : Opening bgp exporter memory log) :
    Method.Safe (exportLogging bgp) (Sound bgp exporter call)
      (fun outcome outer after => match outcome with
        | .error _ =>
            Halted bgp exporter call { memory with outer := outer } after
        | .ok desired =>
            Halted bgp exporter call { memory with
              result := { memory.result with desired := desired }
              outer := outer } after ∧
            (checkObserved bgp desired = .ok () →
              (call.parts bgp exporter).dryRun = false →
              Settled bgp exporter call { memory with
                result := { memory.result with desired := desired }
                outer := outer } after))
      observer memory.outer log := by
  obtain ⟨rfl, same, initialized⟩ := opening
  have halts := unstarted_of_same unstarted same initialized
  cases call with
  | reconcile settings =>
      obtain ⟨_, rfl⟩ := given_of_ite given
      apply send_safe .observe quiet_nil.sound
      intro reply
      have quiet : Quiet ([⟨.observe, reply⟩] : ExportLog bgp) :=
        quiet_nil.snoc rfl reply
      refine ⟨quiet.sound, ?_⟩
      cases reply with
      | error reason => exact ⟨quiet, fun _ => same, halts⟩
      | ok desired =>
          refine ⟨⟨quiet, fun _ => same, halts⟩, ?_⟩
          intro valid live
          refine ⟨quiet, clear_observed live valid ?_ ?_, same, initialized⟩
          · intro outcome seen
            cases List.mem_singleton.mp seen
            rfl
          · intro reason seen
            cases List.mem_singleton.mp seen
  | drainNetworks settings networks =>
      obtain rfl := Option.some.inj given
      apply Method.safe_pure_still_iff.mpr
      refine ⟨quiet_nil.sound, ⟨quiet_nil, fun _ => same, halts⟩, ?_⟩
      intro valid live
      refine ⟨quiet_nil, clear_observed live valid ?_ ?_, same, initialized⟩
      · intro outcome seen
        exact seen
      · intro reason seen
        cases seen

theorem settled_keeps {request : ExportRequest bgp}
    (harmless : request.mutates = false)
    (uninforming : request.informs = false) :
    Keeps (exportLogging bgp) (Sound bgp exporter call)
      (Settled bgp exporter call)
      (request.send : Method (exportSignature bgp) GoError Unit _) := by
  intro memory log settled
  apply send_safe request settled.quiet.sound
  intro reply
  have there := settled.snoc reply harmless uninforming
  exact ⟨there.quiet.sound, there⟩

/-- With recovery: the receipts are recovered, then read back. -/
theorem resynchronize_recovering_safe
    {parts : ExporterParts bgp (exportSignature bgp) Unit}
    {source : Type2RIBSource bgp (exportSignature bgp) Unit}
    (context : parts.context.err = .ask ExportRequest.context .done)
    (recovery : parts.recovery = some (ExportRequest.send .recover))
    (recovering : call.settings.recovery = true)
    (snapshot : source.snapshot = ExportRequest.send .snapshot)
    (settled : Settled bgp exporter call memory log) :
    Method.Safe (exportLogging bgp) (Sound bgp exporter call)
      (Leads (fun _ => Resumed bgp exporter call)
        (Fails bgp exporter call))
      (resynchronize parts source) memory log := by
  have unstarted : ∀ exporter,
      Unstarted call.settings.recovery exporter := by
    intro exporter unrecovered
    rw [recovering] at unrecovered
    cases unrecovered
  unfold resynchronize
  rw [recovery]
  have recovered : Method.Safe (exportLogging bgp) (Sound bgp exporter call)
      (Leads (fun _ => Settled bgp exporter call) (Fails bgp exporter call))
      (beyond (ExportRequest.send .recover)) memory log := by
    apply Method.Safe.onPart
    apply send_safe .recover settled.quiet.sound
    intro reply
    have there := settled.snoc reply rfl rfl
    refine ⟨there.quiet.sound, ?_⟩
    cases reply with
    | ok receipts => exact there
    | error reason =>
        exact ⟨fun trouble => (there.clear trouble).elim, unstarted _⟩
  apply Method.Safe.leads_bind recovered
  intro receipts memory log _ settled
  have resynced : Method.Safe (exportLogging bgp) (Sound bgp exporter call)
      (Leads
        (fun _ _ log => Quiet log ∧ ¬Trouble exporter call log)
        (Fails bgp exporter call))
      (onReconciler (resyncDurable parts.context source receipts)) memory
      log := by
    apply Method.Safe.onPart
    apply resyncDurable_safe
      (fun _ _ log => Quiet log ∧ ¬Trouble exporter call log)
    · rw [snapshot]
      apply send_safe .snapshot settled.quiet.sound
      intro reply
      have quiet := settled.quiet.snoc
        (show ExportRequest.mutates .snapshot = false from rfl) reply
      have clear : ¬Trouble exporter call (log ++ [⟨.snapshot, reply⟩]) :=
        clear_snapshot settled.clear (.inr recovering)
      refine ⟨quiet.sound, ?_⟩
      cases reply with
      | ok paths => exact ⟨quiet, clear⟩
      | error reason =>
          exact ⟨fun trouble => (clear trouble).elim, unstarted _⟩
    · intro paths outer after reason sound seen _
      exact Method.safe_throw_still_iff.mpr
        ⟨sound, fun trouble => (seen.2 trouble).elim, unstarted _⟩
    · intro paths outer after found sound seen _
      rw [context]
      apply Interactive.Safe.ask_still_iff.mpr
      refine ⟨sound, ?_⟩
      intro reply later answered
      subst answered
      have quiet := seen.1.snoc
        (show ExportRequest.mutates .context = false from rfl) reply
      have clear : ¬Trouble exporter call (after ++ [⟨.context, reply⟩]) :=
        clear_snoc seen.2 rfl
      apply Interactive.Safe.done_still_iff.mpr
      refine ⟨quiet.sound, ?_⟩
      cases reply with
      | ok value => exact ⟨quiet, clear⟩
      | error reason =>
          exact ⟨fun trouble => (clear trouble).elim, unstarted _⟩
  apply Method.Safe.leads_bind resynced
  intro _ memory log sound there
  apply Method.safe_modify_bind.mpr
  apply Method.safe_modify.mpr
  apply Method.safe_pure_still_iff.mpr
  refine ⟨sound, there.1, there.2, ?_, rfl⟩
  intro unrecovered
  rw [recovering] at unrecovered
  cases unrecovered

/-- A resynchronization without receipts installs nothing. -/
theorem confirm_nil {paths : List (Type2RIBPath bgp)} {found : Findings}
    (confirmed : confirm bgp [] paths = .ok found) (key : String) :
    found.applied.get key = none := by
  cases installed : found.applied.get key with
  | none => rfl
  | some owned => cases (confirm_sound confirmed installed).1

/-- Without recovery: the first call starts from an empty set of routes. -/
theorem resynchronize_first_safe
    {parts : ExporterParts bgp (exportSignature bgp) Unit}
    {source : Type2RIBSource bgp (exportSignature bgp) Unit}
    (context : parts.context.err = .ask ExportRequest.context .done)
    (recovery : parts.recovery = none)
    (unrecovered : call.settings.recovery = false)
    (snapshot : source.snapshot = ExportRequest.send .snapshot)
    (unstarted : Unstarted call.settings.recovery exporter)
    (settled : Settled bgp exporter call memory log) :
    Method.Safe (exportLogging bgp) (Sound bgp exporter call)
      (Leads (fun _ => Resumed bgp exporter call)
        (Fails bgp exporter call))
      (resynchronize parts source) memory log := by
  unfold resynchronize
  rw [recovery]
  apply Method.safe_get_bind.mpr
  cases initialized : memory.exporter.initialized with
  | true =>
      apply Method.safe_pure_still_iff.mpr
      exact ⟨settled.quiet.sound, settled.quiet, settled.clear,
        fun _ => settled.same, initialized⟩
  | false =>
      have empty : ∀ key, exporter.routes.applied.get key = none :=
        unstarted unrecovered (settled.initialized.symm.trans initialized)
      have fails : ∀ reason log, Fails bgp exporter call reason
          { memory with
            exporter := { memory.exporter with
              reconciler := some (unsynchronize memory.exporter.routes) } }
          log := by
        intro reason log
        exact ⟨fun _ => settled.same,
          unstarted_of_same unstarted settled.same settled.initialized⟩
      have resynced : Method.Safe (exportLogging bgp)
          (Sound bgp exporter call)
          (Leads
            (fun _ reached log => Quiet log ∧ ¬Trouble exporter call log ∧
              Same exporter reached.exporter)
            (Fails bgp exporter call))
          (onReconciler (resync parts.context (some source) [])) memory
          log := by
        apply Method.Safe.onPart
        apply resync_safe
          (fun _ _ log => Quiet log ∧ ¬Trouble exporter call log)
          (fun _ _ log => Quiet log ∧ ¬Trouble exporter call log)
        · intro impossible
          cases impossible
        · intro given sourceEq
          obtain rfl := Option.some.inj sourceEq
          rw [snapshot]
          apply send_safe .snapshot settled.quiet.sound
          intro reply
          have quiet := settled.quiet.snoc
            (show ExportRequest.mutates .snapshot = false from rfl) reply
          refine ⟨quiet.sound, ?_⟩
          cases reply with
          | ok paths => exact ⟨quiet, clear_snapshot settled.clear (.inl rfl)⟩
          | error reason => exact fails reason _
        · intro paths outer after sound seen
          rw [context]
          apply Interactive.Safe.ask_still_iff.mpr
          refine ⟨sound, ?_⟩
          intro reply later answered
          subst answered
          have quiet := seen.1.snoc
            (show ExportRequest.mutates .context = false from rfl) reply
          apply Interactive.Safe.done_still_iff.mpr
          refine ⟨quiet.sound, ?_⟩
          cases reply with
          | ok value => exact ⟨quiet, clear_snoc seen.2 rfl⟩
          | error reason => exact fails reason _
        · intro paths outer after reason sound _ _
          exact Method.safe_throw_still_iff.mpr ⟨sound, fails reason _⟩
        · intro paths outer after found sound alive confirmed
          apply Method.safe_pure_still_iff.mpr
          refine ⟨sound, alive.1, alive.2, ?_⟩
          intro key
          rw [empty key]
          exact confirm_nil confirmed key
      apply Method.Safe.leads_bind resynced
      intro _ reached after sound there
      apply Method.safe_modify.mpr
      apply Method.safe_pure_still_iff.mpr
      exact ⟨sound, there.1, there.2.1, fun _ => there.2.2, rfl⟩

theorem verifies_safe
    {source : Type2RIBSource bgp (exportSignature bgp) Unit}
    (snapshot : source.snapshot = ExportRequest.send .snapshot)
    (resumed : Resumed bgp exporter call memory log) :
    Method.Safe (exportLogging bgp) (Sound bgp exporter call)
      (fun outcome outer after =>
        Halted bgp exporter call { memory with outer := outer } after ∧
        ∀ paths, outcome = .ok paths →
          (memory.result.applied.all fun owned => paths.any fun path =>
            path.isLocal &&
              ribPathMatchesEndpoint bgp path owned.endpoint) = true →
          Running bgp exporter call { memory with outer := outer } after)
      source.snapshot memory.outer log := by
  rw [snapshot]
  apply send_safe .snapshot resumed.quiet.sound
  intro reply
  have quiet := resumed.quiet.snoc
    (show ExportRequest.mutates .snapshot = false from rfl) reply
  refine ⟨quiet.sound, ⟨quiet, ?_, ?_⟩, ?_⟩
  · intro trouble
    cases recovery : call.settings.recovery with
    | false => exact resumed.same recovery
    | true =>
        exact (clear_snapshot resumed.clear (.inr recovery) trouble).elim
  · exact unstarted_of_initialized resumed.initialized
  · intro paths outcome _
    exact ⟨quiet.fenced _,
      clear_snapshot resumed.clear (.inl (by rw [outcome]; rfl)),
      resumed.initialized⟩

def continuityCheck (bgp : BgpPackage) (continuity : Bool) : ExportLog bgp :=
  if continuity then [⟨.continuity, .ok ()⟩] else []

theorem fence_kept {parts : ExporterParts bgp (exportSignature bgp) Unit}
    (continuity : parts.continuity =
      if call.settings.continuity then
        some (ExportRequest.send .continuity)
      else none) :
    FenceKept (exportLogging bgp) (Sound bgp exporter call) parts
      (ExportRequest.send .gate) (Running bgp exporter call)
      (Passed bgp exporter call [⟨.gate, .ok ()⟩])
      (Passed bgp exporter call (⟨.gate, .ok ()⟩ ::
        continuityCheck bgp call.settings.continuity)) :=
  { gate := by
      intro memory log running
      apply send_safe .gate running.sound
      intro reply
      have there : Running bgp exporter call memory
          (log ++ [⟨.gate, reply⟩]) := running.snoc rfl rfl
      refine ⟨there.sound, ?_⟩
      cases reply with
      | ok value => exact ⟨log, running, rfl⟩
      | error reason => exact there
    continuity := by
      intro checked given memory log gated
      rw [continuity] at given
      obtain ⟨set, rfl⟩ := given_of_ite given
      obtain ⟨before, running, rfl⟩ := gated
      have here : Running bgp exporter call memory
          (before ++ [⟨.gate, .ok ()⟩]) := running.snoc rfl rfl
      apply send_safe .continuity here.sound
      intro reply
      have there : Running bgp exporter call memory
          (before ++ [⟨.gate, .ok ()⟩] ++ [⟨.continuity, reply⟩]) :=
        here.snoc rfl rfl
      refine ⟨there.sound, ?_⟩
      cases reply with
      | ok value =>
          refine ⟨before, running, ?_⟩
          rw [List.append_assoc, continuityCheck, set]
          rfl
      | error reason => exact there
    recheck := by
      intro checked given memory log running
      rw [continuity] at given
      obtain ⟨_, rfl⟩ := given_of_ite given
      apply send_safe .continuity running.sound
      intro reply
      have there : Running bgp exporter call memory
          (log ++ [⟨.continuity, reply⟩]) := running.snoc rfl rfl
      exact ⟨there.sound, there⟩
    unchecked := by
      intro missing memory log gated
      have unset : call.settings.continuity = false := by
        cases set : call.settings.continuity with
        | false => rfl
        | true => simp [continuity, set] at missing
      rw [unset]
      exact gated }

/-- The checks before a mutation, with the context `Apply` looks at. -/
theorem checks_eq (continuity : Bool) :
    checks bgp continuity =
      ⟨.gate, .ok ()⟩ :: continuityCheck bgp continuity ++
        [⟨.context, .ok ()⟩] :=
  rfl

theorem running_of_passed {passed : ExportLog bgp}
    (harmless : ∀ event ∈ passed,
      event.1.mutates = false ∧ event.1.informs = false)
    (fenced : Passed bgp exporter call passed memory log) :
    Running bgp exporter call memory log := by
  obtain ⟨before, running, rfl⟩ := fenced
  induction passed generalizing before with
  | nil =>
      rw [List.append_nil]
      exact running
  | cons event rest induction =>
      have first := harmless event List.mem_cons_self
      have next : Running bgp exporter call memory (before ++ [event]) :=
        running.snoc first.1 first.2
      have there := induction
        (fun other member => harmless other (List.mem_cons_of_mem _ member))
        (before ++ [event]) next
      rw [List.append_assoc] at there
      exact there

theorem running_of_gated
    (gated : Passed bgp exporter call [⟨.gate, .ok ()⟩] memory log) :
    Running bgp exporter call memory log := by
  apply running_of_passed _ gated
  intro event member
  rw [List.mem_singleton.mp member]
  exact ⟨rfl, rfl⟩

theorem running_of_fenced
    (fenced : Passed bgp exporter call (⟨.gate, .ok ()⟩ ::
      continuityCheck bgp call.settings.continuity) memory log) :
    Running bgp exporter call memory log := by
  apply running_of_passed _ fenced
  intro event member
  rcases List.mem_cons.mp member with first | second
  · rw [first]
    exact ⟨rfl, rfl⟩
  · unfold continuityCheck at second
    split at second
    · rw [List.mem_singleton.mp second]
      exact ⟨rfl, rfl⟩
    · cases second

/-- `Apply` sends at most one mutation, directly after the checks. -/
theorem applies_safe {context : Context (exportSignature bgp)}
    {applier : Type2RouteApplier bgp (exportSignature bgp) Unit}
    {delta : Type2Route bgp}
    (contextErr : context.err = .ask ExportRequest.context .done)
    (adds : applier.add = fun route => ExportRequest.send (.add route))
    (deletes : applier.delete = fun owned =>
      ExportRequest.send (.delete owned))
    (fenced : Passed bgp exporter call (⟨.gate, .ok ()⟩ ::
      continuityCheck bgp call.settings.continuity) memory log) :
    Method.Safe (exportLogging bgp) (Sound bgp exporter call)
      (fun _ part after => Running bgp exporter call
        (reported { memory with
          exporter := { memory.exporter with reconciler := some part.1 }
          outer := part.2 }) after)
      (RouteReconciler.apply context delta (some applier))
      (memory.exporter.routes, memory.outer) log := by
  have here := running_of_fenced fenced
  have anyMemory : ∀ part after, Running bgp exporter call memory after →
      Running bgp exporter call
        (reported { memory with
          exporter := { memory.exporter with reconciler := some part }
          outer := () }) after := by
    intro part after running
    exact ⟨running.fenced, running.clear, running.initialized⟩
  have mutation : ∀ event : Event (exportSignature bgp),
      event.1.informs = false → ∀ after,
      (∃ before, Running bgp exporter call memory after ∧
        after = before ++ checks bgp call.settings.continuity) →
      Running bgp exporter call memory (after ++ [event]) := by
    intro event uninforming after checked
    obtain ⟨before, running, rfl⟩ := checked
    exact
      { fenced := running.fenced.snoc (fun _ => ⟨before, rfl⟩)
        clear := clear_snoc running.clear uninforming
        initialized := running.initialized }
  apply apply_safe (fun after => ∃ before,
    Running bgp exporter call memory after ∧
      after = before ++ checks bgp call.settings.continuity)
  · intro reason _
    exact Method.safe_throw_still_iff.mpr ⟨here.sound, anyMemory _ _ here⟩
  · intro address operation _
    rw [contextErr]
    apply Interactive.Safe.ask_still_iff.mpr
    refine ⟨here.sound, ?_⟩
    intro reply after answered
    subst answered
    have there : Running bgp exporter call memory
        (log ++ [⟨.context, reply⟩]) := here.snoc rfl rfl
    apply Interactive.Safe.done_still_iff.mpr
    refine ⟨there.sound, ?_⟩
    cases reply with
    | error reason => exact anyMemory _ _ there
    | ok value =>
        obtain ⟨before, _, rfl⟩ := fenced
        refine ⟨before, there, ?_⟩
        rw [checks_eq, List.append_assoc]
  · intro address operation reason after _ _ sound alive
    obtain ⟨before, running, _⟩ := alive
    exact Method.safe_throw_still_iff.mpr ⟨sound, anyMemory _ _ running⟩
  · intro given address operation route after sameApplier _ _ _ _ sound alive
    obtain rfl := Option.some.inj sameApplier
    rw [adds]
    apply send_safe (.add route) sound
    intro reply
    have there := mutation ⟨.add route, reply⟩ rfl after alive
    exact ⟨there.sound, anyMemory _ _ there⟩
  · intro given address operation current after sameApplier _ _ _ _ _ sound
      alive
    obtain rfl := Option.some.inj sameApplier
    rw [deletes]
    apply send_safe (.delete current) sound
    intro reply
    have there := mutation ⟨.delete current, reply⟩ rfl after alive
    exact ⟨there.sound, anyMemory _ _ there⟩

/-- The exporter's objects keep its phases. -/
theorem call_kept (unstarted : Unstarted call.settings.recovery exporter) :
    CallKept (exportLogging bgp) (Sound bgp exporter call)
      (Fails bgp exporter call) (call.parts bgp exporter)
      (Opening bgp exporter) (Halted bgp exporter call)
      (fun _ => Settled bgp exporter call)
      (fun _ => Resumed bgp exporter call) (Running bgp exporter call)
      (Passed bgp exporter call [⟨.gate, .ok ()⟩])
      (Passed bgp exporter call (⟨.gate, .ok ()⟩ ::
        continuityCheck bgp call.settings.continuity)) := by
  have context : (call.parts bgp exporter).context.err =
      .ask ExportRequest.context .done := by
    cases call <;> rfl
  have continuity : (call.parts bgp exporter).continuity =
      if call.settings.continuity then
        some (ExportRequest.send .continuity)
      else none := by
    cases call <;> rfl
  have gate : (call.parts bgp exporter).gate =
      if call.settings.gate then some (ExportRequest.send .gate)
      else none := by
    cases call <;> rfl
  have source : (call.parts bgp exporter).source =
      if call.settings.source then
        some { snapshot := ExportRequest.send .snapshot }
      else none := by
    cases call <;> rfl
  have applier : (call.parts bgp exporter).applier =
      if call.settings.applier then
        some
          { add := fun route => ExportRequest.send (.add route)
            delete := fun owned => ExportRequest.send (.delete owned) }
      else none := by
    cases call <;> rfl
  have recovery : (call.parts bgp exporter).recovery =
      if call.settings.recovery then some (ExportRequest.send .recover)
      else none := by
    cases call <;> rfl
  have restingRunning : Resting (exportLogging bgp)
      (Sound bgp exporter call) (Fails bgp exporter call)
      (Running bgp exporter call) := by
    apply resting_of
    · intro memory log running
      exact running.sound
    · intro memory log running trouble
      exact (running.clear trouble).elim
    · intro memory log running
      exact unstarted_of_initialized running.initialized
  have restingPassed : ∀ passed : ExportLog bgp,
      (∀ memory log, Passed bgp exporter call passed memory log →
        Running bgp exporter call memory log) →
      Resting (exportLogging bgp) (Sound bgp exporter call)
        (Fails bgp exporter call) (Passed bgp exporter call passed) := by
    intro passed runs
    apply resting_of
    · intro memory log here
      exact (runs memory log here).sound
    · intro memory log here trouble
      exact ((runs memory log here).clear trouble).elim
    · intro memory log here
      exact unstarted_of_initialized (runs memory log here).initialized
  exact
    { restingOpening := by
        apply resting_of
        · intro memory log opening
          rw [opening.empty]
          exact quiet_nil.sound
        · intro memory log opening _
          exact opening.same
        · intro memory log opening
          exact unstarted_of_same unstarted opening.same opening.initialized
      restingHalted := by
        apply resting_of
        · intro memory log halted
          exact halted.quiet.sound
        · intro memory log halted
          exact halted.same
        · intro memory log halted
          exact halted.unstarted
      restingSettled := by
        intro desired
        apply resting_of
        · intro memory log settled
          exact settled.quiet.sound
        · intro memory log settled _
          exact settled.same
        · intro memory log settled
          exact unstarted_of_same unstarted settled.same settled.initialized
      restingRunning := restingRunning
      restingGated := restingPassed _ fun _ _ => running_of_gated
      restingFenced := restingPassed _ fun _ _ => running_of_fenced
      observes := by
        intro observer given memory log opening
        exact observes_safe unstarted given opening
      checksContinuity := by
        intro desired checked given
        rw [continuity] at given
        obtain ⟨_, rfl⟩ := given_of_ite given
        exact settled_keeps rfl rfl
      checksGate := by
        intro desired checked given
        rw [gate] at given
        obtain ⟨_, rfl⟩ := given_of_ite given
        exact settled_keeps rfl rfl
      resynchronizes := by
        intro desired read given memory log settled
        rw [source] at given
        obtain ⟨_, rfl⟩ := given_of_ite given
        cases set : call.settings.recovery with
        | true =>
            rw [set, if_pos rfl] at recovery
            exact resynchronize_recovering_safe context recovery set rfl
              settled
        | false =>
            rw [set] at recovery
            exact resynchronize_first_safe context recovery set rfl unstarted
              settled
      verifies := by
        intro desired read given memory log resumed
        rw [source] at given
        obtain ⟨_, rfl⟩ := given_of_ite given
        exact verifies_safe rfl resumed
      plans := by
        intro desired memory log running
        exact ⟨running.fenced, running.clear, running.initialized⟩
      fence := by
        intro checked given
        rw [gate] at given
        obtain ⟨_, rfl⟩ := given_of_ite given
        exact fence_kept continuity
      applies := by
        intro writes given delta memory log fenced
        rw [applier] at given
        obtain ⟨_, rfl⟩ := given_of_ite given
        exact applies_safe context rfl rfl fenced
      reports := by
        intro memory log running
        exact ⟨running.fenced, running.clear, running.initialized⟩ }

theorem serve_safe (unstarted : Unstarted call.settings.recovery exporter) :
    Interactive.Safe (exportLogging bgp) (Sound bgp exporter call)
      (fun out log =>
        (Trouble exporter call log → Same exporter out.2.1) ∧
          Unstarted call.settings.recovery out.2.1)
      (call.serve bgp exporter) [] := by
  have program : call.serve bgp exporter =
      EndpointExporter.reconcile (call.parts bgp exporter) exporter () := by
    cases call <;> rfl
  rw [program]
  apply reconcile_safe
  intro result
  apply (call_kept unstarted).body_safe
  · exact ⟨rfl, fun key => rfl, rfl⟩
  · intro reason memory log _ failed
    exact failed
  · intro memory log _ _ halted
    exact ⟨halted.same, halted.unstarted⟩
  · intro memory log _ running
    exact ⟨fun trouble => (running.clear trouble).elim,
      unstarted_of_initialized running.initialized⟩

end Objects

end Fence

/-- One call of an exporter, with what it sent and returned. -/
structure ExportRecord (bgp : BgpPackage) where
  call : ExportCall
  before : EndpointExporter
  log : ExportLog bgp
  result : ExportResult
  outcome : Except GoError Unit
  after : EndpointExporter

/-- The record is a complete run of its call. -/
def ExportRecord.Runs {bgp : BgpPackage} (record : ExportRecord bgp) : Prop :=
  Interactive.Runs (exportLogging bgp)
    (record.call.serve bgp record.before) [] record.log
    (.done ((record.result, record.outcome), (record.after, ()))) record.log

/-- The calls of one exporter.  Its fields may change between two calls; a
recovery that has been set stays set. -/
inductive ExportCalls (bgp : BgpPackage) :
    Bool × EndpointExporter → List (ExportRecord bgp) →
      Bool × EndpointExporter → Prop where
  | none {state : Bool × EndpointExporter} : ExportCalls bgp state [] state
  | snoc {start : Bool × EndpointExporter}
      {records : List (ExportRecord bgp)} {recovering : Bool}
      {record : ExportRecord bgp} :
      ExportCalls bgp start records (recovering, record.before) →
      (recovering = true → record.call.settings.recovery = true) →
      record.Runs →
      ExportCalls bgp start (records ++ [record])
        (record.call.settings.recovery, record.after)

/-- A call in progress has sent `log`. -/
def ExportCall.Issues {bgp : BgpPackage} (exporter : EndpointExporter)
    (call : ExportCall) (log : ExportLog bgp) : Prop :=
  ∃ rest, Interactive.Runs (exportLogging bgp) (call.serve bgp exporter) []
    log rest log

namespace Fence

variable {bgp : BgpPackage} {recovering : Bool} {exporter : EndpointExporter}

theorem unstarted_of_calls {records : List (ExportRecord bgp)}
    {state : Bool × EndpointExporter}
    (reached : ExportCalls bgp (false, newEndpointExporter) records state)
    {recovery : Bool} (kept : state.1 = true → recovery = true) :
    Unstarted recovery state.2 := by
  generalize startEq : (false, newEndpointExporter) = start at reached
  induction reached generalizing recovery with
  | none =>
      subst startEq
      intro _ _ key
      exact GoMap.get_empty
  | snoc _ set run induction =>
      have before : Unstarted _ _ := induction set
      have after := Interactive.Safe.returned (serve_safe before) run
      cases recovery with
      | true =>
          intro impossible
          cases impossible
      | false =>
          intro _ uninitialized
          apply after.2 _ uninitialized
          cases recovered : ExportSettings.recovery _ with
          | false => rfl
          | true => cases kept recovered

/-- A blocked exporter returns without asking for anything. -/
theorem serve_blocked {call : ExportCall} {reason : GoError}
    (blocked : exporter.blocked = some reason) :
    ∃ result, call.serve bgp exporter =
      .done ((result, .error reason),
        ({ exporter with reconciler := some exporter.routes }, ())) := by
  have program : call.serve bgp exporter =
      EndpointExporter.reconcile (call.parts bgp exporter) exporter () := by
    cases call <;> rfl
  obtain ⟨reconciler, initialized, fence⟩ := exporter
  cases blocked
  rw [program]
  exact ⟨_, rfl⟩

theorem blocked_forever {start : Bool × EndpointExporter} {reason : GoError}
    {records : List (ExportRecord bgp)} {state : Bool × EndpointExporter}
    (blocked : start.2.blocked = some reason)
    (calls : ExportCalls bgp start records state) :
    (∀ record ∈ records, record.log = []) ∧ Same start.2 state.2 ∧
      state.2.blocked = some reason := by
  induction calls with
  | none =>
      refine ⟨?_, fun key => rfl, blocked⟩
      intro record member
      cases member
  | @snoc records _ record _ _ run induction =>
      obtain ⟨silent, same, stillBlocked⟩ := induction
      obtain ⟨result, program⟩ : ∃ result,
          record.call.serve bgp record.before = _ :=
        serve_blocked stillBlocked
      unfold ExportRecord.Runs at run
      rw [program] at run
      obtain ⟨empty, returned⟩ := run.of_done
      simp only [Program.done.injEq, Prod.mk.injEq, and_true] at returned
      have after := returned.2
      refine ⟨?_, ?_, ?_⟩
      · intro other member
        rcases List.mem_append.mp member with earlier | last
        · exact silent other earlier
        · rw [List.mem_singleton.mp last]
          exact empty
      · intro key
        rw [after]
        exact same key
      · rw [after]
        exact stillBlocked

end Fence

/-- What holds of every call that follows, and of every call after a
block. -/
structure WritesFenced (bgp : BgpPackage) (recovering : Bool)
    (exporter : EndpointExporter) : Prop where
  fenced : ∀ (call : ExportCall) (log : ExportLog bgp),
    (recovering = true → call.settings.recovery = true) →
    call.Issues exporter log →
    Fence.Fenced call.settings.continuity log
  silent : ∀ (call : ExportCall) (log : ExportLog bgp),
    (recovering = true → call.settings.recovery = true) →
    call.Issues exporter log → Fence.Trouble exporter call log →
    Fence.Quiet log
  unchanged : ∀ record : ExportRecord bgp, record.before = exporter →
    (recovering = true → record.call.settings.recovery = true) →
    record.Runs → Fence.Trouble exporter record.call record.log →
    Fence.Same exporter record.after
  blocked : ∀ reason, exporter.blocked = some reason →
    ∀ (records : List (ExportRecord bgp)) state,
    ExportCalls bgp (recovering, exporter) records state →
    (∀ record ∈ records, record.log = []) ∧ Fence.Same exporter state.2 ∧
      state.2.blocked = some reason

theorem exporter_writes_fenced {bgp : BgpPackage} {recovering : Bool}
    {exporter : EndpointExporter} {past : List (ExportRecord bgp)}
    (reached : ExportCalls bgp (false, newEndpointExporter) past
      (recovering, exporter)) :
    WritesFenced bgp recovering exporter := by
  have sound : ∀ (call : ExportCall) (log : ExportLog bgp),
      (recovering = true → call.settings.recovery = true) →
      call.Issues exporter log → Fence.Sound bgp exporter call log := by
    intro call log set issues
    obtain ⟨rest, run⟩ := issues
    have unstarted := Fence.unstarted_of_calls reached set
    exact Interactive.Safe.holds
      (Interactive.Safe.along (Fence.serve_safe unstarted) run)
  refine
    { fenced := fun call log set issues => (sound call log set issues).1
      silent := fun call log set issues => (sound call log set issues).2
      unchanged := ?_
      blocked := ?_ }
  · intro record before set run trouble
    subst before
    have unstarted := Fence.unstarted_of_calls reached set
    have posted := Interactive.Safe.returned (Fence.serve_safe unstarted) run
    exact posted.1 trouble
  · intro reason isBlocked records state calls
    exact Fence.blocked_forever isBlocked calls

/-- A live exporter without recovery. -/
def sampleSettings : ExportSettings :=
  { observer := true
    gate := true
    continuity := true
    source := true
    applier := true
    dryRun := false
    recovery := false }

/-- One endpoint, an empty RIB, and objects that always succeed. -/
def sampleObjects : (request : ExportRequest wireBgp) →
    Except GoError request.Result
  | .context => .ok ()
  | .observe => .ok [sampleEndpoint]
  | .gate => .ok ()
  | .continuity => .ok ()
  | .recover => .ok []
  | .snapshot => .ok []
  | .add _ => .ok "uuid-1"
  | .delete _ => .ok ()

/-- A call whose requests are answered by a function. -/
def ExportRecord.execute {bgp : BgpPackage}
    (answer : (request : ExportRequest bgp) → Except GoError request.Result)
    (call : ExportCall) (exporter : EndpointExporter) : ExportRecord bgp :=
  let out := (call.serve bgp exporter).execute (Program.logged answer) []
  { call := call
    before := exporter
    log := out.2
    result := out.1.1.1
    outcome := out.1.1.2
    after := out.1.2.1 }

theorem ExportRecord.runs_execute {bgp : BgpPackage}
    (answer : (request : ExportRequest bgp) → Except GoError request.Result)
    (call : ExportCall) (exporter : EndpointExporter) :
    (execute answer call exporter).Runs := by
  have run : Interactive.Runs (exportLogging bgp) (call.serve bgp exporter)
      [] _ _ _ :=
    Program.runs_logged answer _
  exact run

theorem ExportCalls.execute {bgp : BgpPackage}
    {start : Bool × EndpointExporter} {records : List (ExportRecord bgp)}
    {recovering : Bool} {exporter : EndpointExporter}
    (calls : ExportCalls bgp start records (recovering, exporter))
    (answer : (request : ExportRequest bgp) → Except GoError request.Result)
    (call : ExportCall)
    (set : recovering = true → call.settings.recovery = true) :
    ExportCalls bgp start
      (records ++ [ExportRecord.execute answer call exporter])
      (call.settings.recovery,
        (ExportRecord.execute answer call exporter).after) := by
  apply ExportCalls.snoc calls set
  exact ExportRecord.runs_execute answer call exporter

theorem exporter_writes_fenced_sample :
    ((ExportRecord.execute sampleObjects (.reconcile sampleSettings)
        newEndpointExporter).log.any fun event => event.1.mutates) = true ∧
      WritesFenced wireBgp false
        (ExportRecord.execute sampleObjects (.reconcile sampleSettings)
          newEndpointExporter).after := by
  have fresh : ExportCalls wireBgp (false, newEndpointExporter) []
      (false, newEndpointExporter) := .none
  have reached := fresh.execute sampleObjects (.reconcile sampleSettings)
    (fun impossible => impossible)
  exact ⟨by decide +kernel, exporter_writes_fenced reached⟩

end EvpnForOvn.Evpn

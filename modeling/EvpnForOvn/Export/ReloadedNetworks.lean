import EvpnForOvn.Export.CniObserver
import EvpnForOvn.Type2.Wire

/-!
# Reloading the configuration of the exporter

`RunEndpointExporter` reads its configuration file in every tick.  The
observers are made in the first tick that succeeds.  Later ticks give the new
configuration to the observer of the records only: the observer of the
framework networks keeps the networks that it was made with.
-/

namespace EvpnForOvn.Nodeagent

open Go Evpn

/-- `selectedEndpointObserver`, by what its observers were given. -/
structure SelectedObserver where
  cni : ExporterConfig
  framework : Option OVNEndpointObserver
  /-- The observer of the native networks is there. -/
  native : Bool

/-- What the observers read in one call. -/
structure ObserverReads where
  cni : CniReads
  ovn : OVNState
  /-- The answer of the observer of the native networks. -/
  native : Except GoError (List LocalEndpoint)

def frameworkNetworks (config : ExporterConfig) : GoMap EVPNNetworkConfig :=
  networksByID (config.networks.filter fun network =>
    network.enabled && network.exportSource == .framework)

def frameworkObserver (config : ExporterConfig) :
    Option OVNEndpointObserver :=
  if (frameworkNetworks config).size = 0 then none
  else
    some
      { localNode := config.nodeName
        localChassis := config.localChassis
        networks := frameworkNetworks config }

/-- The observers that a tick makes. -/
def newSelectedObserver (config : ExporterConfig) : SelectedObserver :=
  { cni := config
    framework := frameworkObserver config
    native := config.networks.any fun network =>
      network.enabled && network.exportSource == .ovnNetlink }

/-- An observer that is not there has no endpoints. -/
def observeFramework (observer : Option OVNEndpointObserver)
    (state : OVNState) : Except GoError (List LocalEndpoint) :=
  match observer with
  | none => .ok []
  | some observer => observer.desiredLocalEndpoints state

def observeNative (present : Bool)
    (answer : Except GoError (List LocalEndpoint)) :
    Except GoError (List LocalEndpoint) :=
  if present then answer else .ok []

/-- `DesiredLocalEndpoints` of the three observers. -/
def SelectedObserver.desiredLocalEndpoints (observers : SelectedObserver)
    (reads : ObserverReads) : Except GoError (List LocalEndpoint) := do
  let cni ← (cniDesiredEndpoints observers.cni reads.cni).1
  let framework ← observeFramework observers.framework reads.ovn
  let fromKernel ← observeNative observers.native reads.native
  return cni ++ framework ++ fromKernel

/-- What a tick finds: the decoded file, its permissions, the environment,
and the outcome of each step that needs another component. -/
structure TickInputs where
  file : Except GoError ExporterConfig
  secured : Except GoError Unit
  nodeName : String
  addresses : Except GoError (List String)
  authority : Except GoError Unit
  clients : Except GoError Unit
  native : Except GoError Unit
  transport : Except GoError Unit

/-- A step that is needed under a condition. -/
def neededStep (condition : Bool) (step : Except GoError Unit) :
    Except GoError Unit :=
  if condition then step else .ok ()

def loadExporterConfig (bgp : BgpPackage) (inputs : TickInputs) :
    Except GoError ExporterConfig := do
  let config ← inputs.file
  config.validate bgp
  neededStep (config.enabled && config.attestationConfigPath != "")
    inputs.secured
  return config

/-- The first enabled network whose VTEP is on no interface. -/
def unassignedVTEP (addresses : List String) :
    List EVPNNetworkConfig → Except GoError Unit
  | [] => .ok ()
  | network :: rest =>
      if network.enabled && !addresses.any (fun address =>
          ((parseCIDR address).map ipString) == some network.localVTEP) then
        .error (.new "network " (network.networkID ++ " VTEP " ++
          network.localVTEP ++ " is not assigned on this node"))
      else unassignedVTEP addresses rest

def validateLocalExportConfig (inputs : TickInputs)
    (config : ExporterConfig) : Except GoError Unit := do
  LocalEndpoint.refuse
    (inputs.nodeName != "" && inputs.nodeName != config.nodeName)
    (.new "configured node " (LocalEndpoint.quoted config.nodeName ++
      " differs from NODE_NAME " ++ LocalEndpoint.quoted inputs.nodeName))
  let addresses ← inputs.addresses
  unassignedVTEP addresses config.networks

/-- What the ticks share. -/
structure ExporterRuntime where
  authority : Bool
  selected : Option SelectedObserver
  bound : Option ExporterConfig
  connected : Bool

def newExporterRuntime : ExporterRuntime :=
  { authority := false
    selected := none
    bound := none
    connected := false }

namespace ExporterRuntime

/-- The observers, made if they are not there. -/
def openObservers (runtime : ExporterRuntime) (inputs : TickInputs)
    (config : ExporterConfig) : Except GoError SelectedObserver :=
  match runtime.selected with
  | some selected => .ok selected
  | none => do
      inputs.clients
      neededStep (newSelectedObserver config).native inputs.native
      return newSelectedObserver config

/-- The fields that a reload may not change. -/
def immutable (config : ExporterConfig) : ExporterConfig :=
  { config with networks := [], dryRun := false }

/-- The checks against the first configuration. -/
def checkReload (runtime : ExporterRuntime) (config : ExporterConfig) :
    Except GoError Unit :=
  match runtime.bound with
  | none => .ok ()
  | some first => do
      validateExporterAuthorityReload first config
      LocalEndpoint.refuse (decide (immutable first ≠ immutable config))
        (.new "speaker/node identity change requires explicit exporter restart; existing receipts are not transferable" "")

/-- The rest of a tick with observers: the new configuration goes to the
observer of the records, and the exporter is asked to reconcile. -/
def handOver (runtime : ExporterRuntime) (inputs : TickInputs)
    (config : ExporterConfig) (selected : SelectedObserver) :
    ExporterRuntime × Except GoError (Option SelectedObserver) :=
  let observers := { selected with cni := config }
  let bound :=
    { runtime with
      selected := some observers
      bound := some (runtime.bound.getD config) }
  if config.dryRun || bound.connected then (bound, .ok (some observers))
  else
    match inputs.transport with
    | .error reason => (bound, .error reason)
    | .ok _ => ({ bound with connected := true }, .ok (some observers))

/-- A tick with an enabled configuration. -/
def enabledTick (runtime : ExporterRuntime) (inputs : TickInputs)
    (config : ExporterConfig) :
    ExporterRuntime × Except GoError (Option SelectedObserver) :=
  match validateLocalExportConfig inputs config with
  | .error reason => (runtime, .error reason)
  | .ok _ =>
      match neededStep (!runtime.authority) inputs.authority with
      | .error reason => (runtime, .error reason)
      | .ok _ =>
          let holding := { runtime with authority := true }
          match holding.openObservers inputs config with
          | .error reason => (holding, .error reason)
          | .ok selected =>
              let opened := { holding with selected := some selected }
              match opened.checkReload config with
              | .error reason => (opened, .error reason)
              | .ok _ => opened.handOver inputs config selected

/-- One tick: the new state, and the observers that the exporter asks for the
endpoints, if it comes to that. -/
def tick (bgp : BgpPackage) (runtime : ExporterRuntime)
    (inputs : TickInputs) :
    ExporterRuntime ×
      Except GoError (Option (ExporterConfig × SelectedObserver)) :=
  match loadExporterConfig bgp inputs with
  | .error reason => (runtime, .error reason)
  | .ok config =>
      if config.enabled then
        let next := runtime.enabledTick inputs config
        (next.1, next.2.map (·.map fun observers => (config, observers)))
      else (runtime, .ok none)

def run (bgp : BgpPackage) (ticks : List TickInputs) : ExporterRuntime :=
  ticks.foldl (fun runtime inputs => (runtime.tick bgp inputs).1)
    newExporterRuntime

end ExporterRuntime

/-- The observers were made from the first configuration. -/
def MadeFrom (observers : SelectedObserver) (first : ExporterConfig) : Prop :=
  observers.framework = frameworkObserver first ∧
    observers.native = (newSelectedObserver first).native

/-- The observers and the first configuration come together. -/
def ExporterRuntime.Bound (runtime : ExporterRuntime) : Prop :=
  (runtime.selected = none ∧ runtime.bound = none) ∨
    ∃ observers first, runtime.selected = some observers ∧
      runtime.bound = some first ∧ MadeFrom observers first ∧
      (first.networks.map (·.networkID)).Nodup

section Ticks

variable {bgp : BgpPackage} {runtime : ExporterRuntime}
  {inputs : TickInputs} {config first : ExporterConfig}
  {observers selected : SelectedObserver}

theorem validate_of_load (loaded : loadExporterConfig bgp inputs = .ok config) :
    config.validate bgp = .ok () := by
  obtain ⟨decoded, _, loaded⟩ := bind_eq_ok.mp loaded
  obtain ⟨_, valid, loaded⟩ := bind_eq_ok.mp loaded
  obtain ⟨_, _, loaded⟩ := bind_eq_ok.mp loaded
  cases loaded
  exact valid

theorem checkReload_ok
    (checked : runtime.checkReload config = .ok ())
    (bound : runtime.bound = some first) :
    validateExporterAuthorityReload first config = .ok () ∧
      ExporterRuntime.immutable first = ExporterRuntime.immutable config := by
  unfold ExporterRuntime.checkReload at checked
  rw [bound] at checked
  obtain ⟨_, accepted, checked⟩ := bind_eq_ok.mp checked
  refine ⟨accepted, ?_⟩
  unfold LocalEndpoint.refuse at checked
  split at checked
  · cases checked
  · rename_i same
    simpa using same

theorem openObservers_ok
    (opened : runtime.openObservers inputs config = .ok selected) :
    runtime.selected = some selected ∨
      (runtime.selected = none ∧ selected = newSelectedObserver config) := by
  unfold ExporterRuntime.openObservers at opened
  split at opened
  · rename_i present
    cases opened
    exact .inl present
  · rename_i missing
    obtain ⟨_, _, opened⟩ := bind_eq_ok.mp opened
    obtain ⟨_, _, opened⟩ := bind_eq_ok.mp opened
    cases opened
    exact .inr ⟨missing, rfl⟩

/-- An accepted configuration: the first one, or one that passes the checks
against the first one. -/
def ExporterRuntime.Accepts (runtime : ExporterRuntime)
    (config : ExporterConfig) : Prop :=
  match runtime.bound with
  | none => True
  | some first =>
      validateExporterAuthorityReload first config = .ok () ∧
        ExporterRuntime.immutable first = ExporterRuntime.immutable config

theorem handOver_cases :
    (runtime.handOver inputs config selected).1.selected =
        some { selected with cni := config } ∧
      (runtime.handOver inputs config selected).1.bound =
        some (runtime.bound.getD config) ∧
      ∀ handed, (runtime.handOver inputs config selected).2 =
          .ok (some handed) →
        handed = { selected with cni := config } := by
  unfold ExporterRuntime.handOver
  dsimp only
  split
  · refine ⟨rfl, rfl, ?_⟩
    intro handed same
    cases same
    rfl
  · split
    · refine ⟨rfl, rfl, ?_⟩
      intro handed same
      cases same
    · refine ⟨rfl, rfl, ?_⟩
      intro handed same
      cases same
      rfl

/-- A tick with an enabled configuration leaves the observers and the first
configuration alone, or it hands the observers on. -/
theorem enabledTick_cases (bound : runtime.Bound) :
    ((runtime.enabledTick inputs config).1.selected = runtime.selected ∧
        (runtime.enabledTick inputs config).1.bound = runtime.bound ∧
        ∀ handed, (runtime.enabledTick inputs config).2 ≠ .ok (some handed)) ∨
      ∃ selected, MadeFrom selected (runtime.bound.getD config) ∧
        runtime.Accepts config ∧
        (runtime.enabledTick inputs config).1.selected =
          some { selected with cni := config } ∧
        (runtime.enabledTick inputs config).1.bound =
          some (runtime.bound.getD config) ∧
        ∀ handed, (runtime.enabledTick inputs config).2 =
            .ok (some handed) →
          handed = { selected with cni := config } := by
  unfold ExporterRuntime.enabledTick
  split
  · exact .inl ⟨rfl, rfl, fun _ same => by cases same⟩
  · split
    · exact .inl ⟨rfl, rfl, fun _ same => by cases same⟩
    · dsimp only
      split
      · exact .inl ⟨rfl, rfl, fun _ same => by cases same⟩
      · rename_i selected opened
        rcases bound with ⟨noObservers, unbound⟩ |
          ⟨observers, first, present, bound, made, _⟩
        · -- The first configuration that comes this far is accepted.
          have free : ExporterRuntime.checkReload
              { runtime with authority := true, selected := some selected }
              config = .ok () := by
            unfold ExporterRuntime.checkReload
            dsimp only
            rw [unbound]
          rw [free]
          have made : selected = newSelectedObserver config := by
            rcases openObservers_ok opened with some | ⟨_, made⟩
            · cases noObservers.symm.trans some
            · exact made
          obtain ⟨observed, kept, handed⟩ := @handOver_cases
            { runtime with authority := true, selected := some selected }
            inputs config selected
          refine .inr ⟨selected, ?_, ?_, observed, kept, handed⟩
          · rw [unbound, made]
            exact ⟨rfl, rfl⟩
          · unfold ExporterRuntime.Accepts
            rw [unbound]
            trivial
        · have same : observers = selected := by
            rcases openObservers_ok opened with some | ⟨none, _⟩
            · exact Option.some.inj (present.symm.trans some)
            · cases present.symm.trans none
          split
          · refine .inl ⟨?_, rfl, fun _ impossible => by cases impossible⟩
            rw [present, same]
          · rename_i checked
            obtain ⟨observed, kept, handed⟩ := @handOver_cases
              { runtime with authority := true, selected := some selected }
              inputs config selected
            refine .inr ⟨selected, ?_, ?_, observed, kept, handed⟩
            · rw [bound, ← same]
              exact made
            · unfold ExporterRuntime.Accepts
              rw [bound]
              exact checkReload_ok checked bound

theorem bound_tick (bound : runtime.Bound) :
    (runtime.tick bgp inputs).1.Bound := by
  unfold ExporterRuntime.tick
  split
  · exact bound
  · rename_i config loaded
    split
    · rename_i enabled
      rcases @enabledTick_cases runtime inputs config bound with
        ⟨observers, first, _⟩ | ⟨selected, made, _, observers, first, _⟩
      · unfold ExporterRuntime.Bound
        dsimp only
        rw [observers, first]
        exact bound
      · refine .inr ⟨_, _, observers, first, made, ?_⟩
        rcases bound with ⟨_, unbound⟩ | ⟨_, old, _, bound, _, distinct⟩
        · rw [unbound]
          exact config.nodup_networkIDs enabled (validate_of_load loaded)
        · rw [bound]
          exact distinct
    · exact bound

theorem bound_run (ticks : List TickInputs) :
    (ExporterRuntime.run bgp ticks).Bound := by
  induction ticks using List.reverseRecOn with
  | nil => exact .inl ⟨rfl, rfl⟩
  | append_singleton ticks inputs induction =>
      unfold ExporterRuntime.run
      rw [List.foldl_append]
      exact bound_tick induction

theorem handed_of_tick (bound : runtime.Bound)
    (handed : (runtime.tick bgp inputs).2 = .ok (some (config, observers))) :
    (config.networks.map (·.networkID)).Nodup ∧
      runtime.Accepts config ∧ observers.cni = config ∧
      MadeFrom observers (runtime.bound.getD config) := by
  unfold ExporterRuntime.tick at handed
  split at handed
  · cases handed
  · rename_i current loaded
    split at handed
    · rename_i enabled
      dsimp only at handed
      cases result : (runtime.enabledTick inputs current).2 with
      | error reason =>
          rw [result] at handed
          cases handed
      | ok found =>
          cases found with
          | none =>
              rw [result] at handed
              cases handed
          | some given =>
              rw [result] at handed
              cases handed
              have distinct := config.nodup_networkIDs enabled
                (validate_of_load loaded)
              rcases enabledTick_cases bound with ⟨_, _, never⟩ |
                ⟨selected, made, accepted, _, _, only⟩
              · exact absurd result (never observers)
              · rw [only observers result]
                exact ⟨distinct, accepted, rfl, made⟩
    · cases handed

end Ticks

section Native

variable {first config : ExporterConfig}

theorem native_listed (distinct : (config.networks.map (·.networkID)).Nodup)
    {network : EVPNNetworkConfig} (listed : network ∈ config.networks) :
    (networksByID config.networks).get network.networkID = some network ∧
      sourceOf (networksByID config.networks) network.networkID =
        network.exportSource := by
  have found := (get_networksByID_iff distinct).mpr ⟨listed, rfl⟩
  unfold sourceOf
  rw [found]
  exact ⟨rfl, rfl⟩

theorem native_kept
    (accepted : validateExporterAuthorityReload first config = .ok ())
    (firstDistinct : (first.networks.map (·.networkID)).Nodup)
    (distinct : (config.networks.map (·.networkID)).Nodup) :
    (newSelectedObserver first).native =
      (newSelectedObserver config).native := by
  unfold newSelectedObserver
  rw [Bool.eq_iff_iff, List.any_eq_true, List.any_eq_true]
  constructor
  · intro native
    obtain ⟨network, listed, settings⟩ := native
    refine ⟨network, ?_, settings⟩
    rw [Bool.and_eq_true, beq_iff_eq] at settings
    obtain ⟨found, source⟩ := native_listed firstDistinct listed
    have same := (kept_of_reload accepted network.networkID).2
      (source.trans settings.2)
    exact (mem_of_get_networksByID (same.symm.trans found)).1
  · intro native
    obtain ⟨network, listed, settings⟩ := native
    refine ⟨network, ?_, settings⟩
    rw [Bool.and_eq_true, beq_iff_eq] at settings
    obtain ⟨found, source⟩ := native_listed distinct listed
    obtain ⟨kept, same⟩ := kept_of_reload accepted network.networkID
    exact (mem_of_get_networksByID
      ((same (kept.trans (source.trans settings.2))).trans found)).1

end Native

/-- What a network is advertised with. -/
def advertisedSettings (network : EVPNNetworkConfig) :
    Nat × String × List String × String :=
  (network.vni, network.routeDistinguisher, network.routeTargets,
    network.localVTEP)

/-- The enabled framework networks of two configurations are advertised in the
same way.  An identifier with white space around it is the one of no port, and
no port is on a chassis without a name. -/
structure FrameworkUnchanged (first config : ExporterConfig) : Prop where
  present : (frameworkNetworks first).size = 0 ↔
    (frameworkNetworks config).size = 0
  settings : isBlank config.localChassis = false → ∀ id, trimSpace id = id →
    ((frameworkNetworks first).get id).map advertisedSettings =
      ((frameworkNetworks config).get id).map advertisedSettings

section Framework

open OVNEndpointObserver

variable {first config : ExporterConfig} {network : EVPNNetworkConfig}
  {id : String}

theorem of_get_frameworkNetworks
    (found : (frameworkNetworks config).get id = some network) :
    network ∈ config.networks ∧ network.networkID = id ∧
      network.enabled = true ∧ network.exportSource = .framework := by
  obtain ⟨listed, same⟩ := mem_of_get_networksByID found
  rw [List.mem_filter, Bool.and_eq_true, beq_iff_eq] at listed
  exact ⟨listed.1, same, listed.2⟩

private def normalizeKeys (ids : GoMap String) (keys : List String)
    (start : GoMap String) : GoMap String :=
  keys.foldl (fun normalized key =>
    normalized.set (trimSpace key) (trimSpace ((ids.get key).getD ""))) start

private theorem trimmed_normalizeKeys {ids start : GoMap String}
    {keys : List String}
    (trimmed : ∀ key value, start.get key = some value →
      trimSpace value = value) :
    ∀ key value, (normalizeKeys ids keys start).get key = some value →
      trimSpace value = value := by
  induction keys generalizing start with
  | nil => exact trimmed
  | cons first rest induction =>
      apply @induction (start.set (trimSpace first)
        (trimSpace ((ids.get first).getD "")))
      intro key value found
      rw [GoMap.get_set] at found
      split at found
      · cases found
        exact trimSpace_trimSpace _
      · exact trimmed key value found

/-- A normalized identifier has no white space around it. -/
theorem trimSpace_idOf_normalizeExternalIDs (ids : GoMap String)
    (key : String) :
    trimSpace (idOf (normalizeExternalIDs ids) key) =
      idOf (normalizeExternalIDs ids) key := by
  unfold idOf
  cases found : (normalizeExternalIDs ids).get key with
  | none => rfl
  | some value =>
      refine @trimmed_normalizeKeys ids GoMap.empty ids.sortedKeys ?_ key
        value found
      intro key value impossible
      rw [GoMap.get_empty] at impossible
      cases impossible

private theorem get_normalizeKeys {ids start : GoMap String}
    {keys : List String} (trimmed : ∀ key ∈ keys, trimSpace key = key)
    {key : String} :
    (normalizeKeys ids keys start).get key =
      if key ∈ keys then some (trimSpace ((ids.get key).getD ""))
      else start.get key := by
  induction keys generalizing start with
  | nil => rfl
  | cons first rest induction =>
      change (normalizeKeys ids rest _).get key = _
      rw [induction fun key listed => trimmed key (.tail _ listed),
        GoMap.get_set, trimmed first (.head _)]
      by_cases later : key ∈ rest
      · simp [later]
      · by_cases same : key = first
        · simp [same]
        · simp [later, same]

/-- Identifiers that normalization leaves alone. -/
def TrimmedIDs (ids : GoMap String) : Prop :=
  ∀ key value, ids.get key = some value →
    trimSpace key = key ∧ trimSpace value = value

theorem TrimmedIDs.set {ids : GoMap String} {key value : String}
    (trimmed : TrimmedIDs ids) (key_trimmed : trimSpace key = key)
    (value_trimmed : trimSpace value = value) :
    TrimmedIDs (ids.set key value) := by
  intro other held found
  rw [GoMap.get_set] at found
  split at found
  · rename_i same
    cases found
    rw [same]
    exact ⟨key_trimmed, value_trimmed⟩
  · exact trimmed other held found

theorem TrimmedIDs.get_normalize {ids : GoMap String}
    (trimmed : TrimmedIDs ids) (key : String) :
    (normalizeExternalIDs ids).get key = ids.get key := by
  have keys : ∀ key ∈ ids.sortedKeys, trimSpace key = key := by
    intro key listed
    obtain ⟨value, found⟩ := Option.isSome_iff_exists.mp
      (GoMap.mem_sortedKeys.mp listed)
    exact (trimmed key value found).1
  refine (get_normalizeKeys keys).trans ?_
  cases found : ids.get key with
  | none =>
      have absent : key ∉ ids.sortedKeys := by
        rw [GoMap.mem_sortedKeys, found]
        simp
      rw [if_neg absent, GoMap.get_empty]
  | some value =>
      have present : key ∈ ids.sortedKeys := by
        rw [GoMap.mem_sortedKeys, found]
        rfl
      rw [if_pos present, Option.getD_some, (trimmed key value found).2]

theorem observePort_eq
    (node : first.nodeName = config.nodeName)
    (chassis : first.localChassis = config.localChassis)
    (settings : ∀ id, trimSpace id = id →
      ((frameworkNetworks first).get id).map advertisedSettings =
        ((frameworkNetworks config).get id).map advertisedSettings)
    (byPort : GoMap String) (port : OVNLogicalSwitchPort) :
    (OVNEndpointObserver.mk first.nodeName first.localChassis
        (frameworkNetworks first)).observePort byPort port =
      (OVNEndpointObserver.mk config.nodeName config.localChassis
        (frameworkNetworks config)).observePort byPort port := by
  rw [node, chassis]
  unfold observePort
  dsimp only
  have same := settings _ (trimSpace_idOf_normalizeExternalIDs
    port.externalIDs frameworkNetworkID)
  cases old : (frameworkNetworks first).get
      (idOf (normalizeExternalIDs port.externalIDs) frameworkNetworkID) with
  | none =>
      rw [old] at same
      rw [Option.map_eq_none_iff.mp same.symm]
  | some before =>
      rw [old] at same
      obtain ⟨after, found, settings⟩ := Option.map_eq_some_iff.mp same.symm
      have enabled := (of_get_frameworkNetworks old).2.2.1
      have enabledAfter := (of_get_frameworkNetworks found).2.2.1
      unfold advertisedSettings at settings
      simp only [Prod.mk.injEq] at settings
      rw [found]
      cases parseAddressPair port.addresses with
      | none => rfl
      | some pair =>
          simp only [enabled, enabledAfter, portEndpoint, settings]
          rfl

/-- The observers of two configurations with the same networks agree. -/
theorem observeFramework_eq
    (node : first.nodeName = config.nodeName)
    (chassis : first.localChassis = config.localChassis)
    (unchanged : FrameworkUnchanged first config) (state : OVNState) :
    observeFramework (frameworkObserver first) state =
      observeFramework (frameworkObserver config) state := by
  unfold frameworkObserver
  by_cases none : (frameworkNetworks config).size = 0
  · rw [if_pos none, if_pos (unchanged.present.mpr none)]
  · rw [if_neg none, if_neg (fun empty => none (unchanged.present.mp empty))]
    change OVNEndpointObserver.desiredLocalEndpoints _ state =
      OVNEndpointObserver.desiredLocalEndpoints _ state
    unfold OVNEndpointObserver.desiredLocalEndpoints
    dsimp only
    rw [chassis]
    cases blank : isBlank config.localChassis with
    | true => rfl
    | false =>
        unfold candidates
        have ports := observePort_eq node chassis (unchanged.settings blank)
        rw [chassis] at ports
        simp only [funext fun byPort => funext (ports byPort)]

/-- A port of a network on the local chassis. -/
def probePort (id : String) : OVNLogicalSwitchPort :=
  { name := "p"
    addresses := ["00:00:00:00:00:01 10.0.0.1"]
    externalIDs := ((((GoMap.empty.set frameworkNetworkID id).set
      frameworkEndpointID "e").set
      frameworkIncarnation "i").set
      frameworkAttachID "a").set
      frameworkWorkloadUID "w" }

def probeState (id chassis : String) : OVNState :=
  { ports := .ok [probePort id]
    bindings := .ok [⟨"p", chassis⟩] }

theorem trimmedIDs_probePort (trimmed : trimSpace id = id) :
    TrimmedIDs (probePort id).externalIDs := by
  have none : TrimmedIDs GoMap.empty := by
    intro key value impossible
    rw [GoMap.get_empty] at impossible
    cases impossible
  exact ((((none.set (by decide +kernel) trimmed).set (by decide +kernel)
    (by decide +kernel)).set (by decide +kernel) (by decide +kernel)).set
    (by decide +kernel) (by decide +kernel)).set (by decide +kernel)
    (by decide +kernel)

theorem idOf_probePort (trimmed : trimSpace id = id) :
    idOf (normalizeExternalIDs (probePort id).externalIDs)
        frameworkNetworkID = id ∧
      completeIDs (normalizeExternalIDs (probePort id).externalIDs) =
        true := by
  have gets := (trimmedIDs_probePort trimmed).get_normalize
  unfold completeIDs idOf
  simp only [gets]
  simp [probePort, GoMap.get_set, frameworkNetworkID, frameworkEndpointID,
    frameworkIncarnation, frameworkAttachID, frameworkWorkloadUID]

/-- The endpoint of the probe in a network. -/
def probeEndpoint (config : ExporterConfig) (id : String)
    (network : EVPNNetworkConfig) : LocalEndpoint :=
  (OVNEndpointObserver.mk config.nodeName config.localChassis
    (frameworkNetworks config)).portEndpoint network
      (normalizeExternalIDs (probePort id).externalIDs) "00:00:00:00:00:01"
      "10.0.0.1"

theorem observePort_probe (trimmed : trimSpace id = id) :
    (OVNEndpointObserver.mk config.nodeName config.localChassis
        (frameworkNetworks config)).observePort
          (bindingByPort [⟨"p", config.localChassis⟩]) (probePort id) =
      ((frameworkNetworks config).get id).map (probeEndpoint config id) := by
  obtain ⟨network, complete⟩ := idOf_probePort trimmed
  have address : parseAddressPair (probePort id).addresses =
      some ("00:00:00:00:00:01", "10.0.0.1") := by
    change parseAddressPair ["00:00:00:00:00:01 10.0.0.1"] = _
    decide +kernel
  have bound : isLocal (OVNEndpointObserver.mk config.nodeName
      config.localChassis (frameworkNetworks config))
      (bindingByPort [⟨"p", config.localChassis⟩]) (probePort id) =
        true := by
    have name : trimSpace "p" = "p" := by decide +kernel
    have named : isBlank "p" = false := by decide +kernel
    unfold isLocal bindingByPort
    simp [probePort, name, named, idOf, trimSpace_trimSpace]
  unfold observePort
  dsimp only
  rw [network, address, complete, bound]
  cases found : (frameworkNetworks config).get id with
  | none => rfl
  | some network =>
      dsimp only
      rw [(of_get_frameworkNetworks found).2.2.1]
      rfl

/-- The probe is advertised with the settings of its network. -/
theorem observeFramework_probe (trimmed : trimSpace id = id)
    (named : isBlank config.localChassis = false) :
    observeFramework (frameworkObserver config)
        (probeState id config.localChassis) =
      .ok (((frameworkNetworks config).get id).toList.map
        (probeEndpoint config id)) := by
  unfold frameworkObserver
  by_cases none : (frameworkNetworks config).size = 0
  · rw [if_pos none, GoMap.get_eq_none_of_size_eq_zero none]
    rfl
  · rw [if_neg none]
    change OVNEndpointObserver.desiredLocalEndpoints _ _ = _
    unfold OVNEndpointObserver.desiredLocalEndpoints
    dsimp only
    rw [named]
    change Except.ok (sortedEndpoints (resultByKey (candidates _
      [probePort id] [⟨"p", config.localChassis⟩]))) = _
    unfold candidates
    rw [List.filterMap_cons, observePort_probe trimmed, List.filterMap_nil]
    cases (frameworkNetworks config).get id with
    | none => rfl
    | some network =>
        refine congrArg Except.ok ?_
        change sortedEndpoints (GoMap.empty.set _ _) = _
        unfold sortedEndpoints
        rw [GoMap.sortedKeys_set_empty]
        simp

/-- An observer that is there fails when the databases cannot be read. -/
theorem observeFramework_failing (reason : GoError) :
    (observeFramework (frameworkObserver config)
      ⟨.error reason, .error reason⟩).isOk = true ↔
        (frameworkNetworks config).size = 0 := by
  unfold frameworkObserver
  by_cases none : (frameworkNetworks config).size = 0
  · rw [if_pos none]
    exact ⟨fun _ => none, fun _ => rfl⟩
  · rw [if_neg none]
    change (OVNEndpointObserver.desiredLocalEndpoints _ _).isOk = true ↔ _
    unfold OVNEndpointObserver.desiredLocalEndpoints
    constructor
    · intro impossible
      split at impossible
      · cases impossible
      · cases impossible
    · exact fun empty => absurd empty none

/-- Observers that always agree have networks with the same settings. -/
theorem unchanged_of_observeFramework
    (chassis : first.localChassis = config.localChassis)
    (agree : ∀ state, observeFramework (frameworkObserver first) state =
      observeFramework (frameworkObserver config) state) :
    FrameworkUnchanged first config where
  present := by
    have reason : GoError := .new "read Logical_Switch_Port" ""
    rw [← observeFramework_failing reason, ← observeFramework_failing reason,
      agree]
  settings := by
    intro named id trimmed
    have observed := agree (probeState id config.localChassis)
    rw [observeFramework_probe trimmed named, ← chassis,
      observeFramework_probe trimmed (chassis ▸ named)] at observed
    have lists := Except.ok.inj observed
    cases old : (frameworkNetworks first).get id with
    | none =>
        rw [old] at lists
        cases new : (frameworkNetworks config).get id with
        | none => rfl
        | some network =>
            rw [new] at lists
            cases lists
    | some before =>
        rw [old] at lists
        cases new : (frameworkNetworks config).get id with
        | none =>
            rw [new] at lists
            cases lists
        | some after =>
            rw [new] at lists
            have same : probeEndpoint first id before =
                probeEndpoint config id after := List.head_eq_of_cons_eq lists
            exact congrArg (fun endpoint : LocalEndpoint =>
              some (endpoint.vni, endpoint.routeDistinguisher,
                endpoint.routeTargets, endpoint.localVTEP)) same

/-- The endpoints of the framework networks carry the settings of the
configuration. -/
theorem advertised_of_framework {state : OVNState}
    {endpoints : List LocalEndpoint}
    (observed : observeFramework (frameworkObserver config) state =
      .ok endpoints) :
    ∀ endpoint ∈ endpoints, ∃ network, Advertised config endpoint network ∧
      network.exportSource = .framework := by
  unfold frameworkObserver at observed
  split at observed
  · cases observed
    exact fun _ listed => absurd listed List.not_mem_nil
  · change OVNEndpointObserver.desiredLocalEndpoints _ state = _ at observed
    unfold OVNEndpointObserver.desiredLocalEndpoints at observed
    split at observed
    · cases observed
    · obtain ⟨ports, _, observed⟩ := bind_eq_ok.mp observed
      obtain ⟨bindings, _, observed⟩ := bind_eq_ok.mp observed
      cases observed
      intro endpoint listed
      have candidate := List.mem_reverse.mp (List.mem_of_find?_eq_some
        (mem_sortedEndpoints_resultByKey.mp listed))
      obtain ⟨port, _, observed⟩ := List.mem_filterMap.mp candidate
      unfold observePort at observed
      dsimp only at observed
      split at observed
      · rename_i network _ _ found _
        split at observed
        · cases observed
          obtain ⟨member, id, enabled, source⟩ :=
            of_get_frameworkNetworks found
          exact ⟨network, ⟨member, id, enabled, rfl, rfl, rfl, rfl⟩, source⟩
        · cases observed
      · cases observed

end Framework

/-- The endpoints are those of observers made from this configuration, and
those of the records and of the framework networks carry its settings. -/
structure Latest (config : ExporterConfig) (observers : SelectedObserver) :
    Prop where
  endpoints : ∀ reads, observers.desiredLocalEndpoints reads =
    (newSelectedObserver config).desiredLocalEndpoints reads
  settings : ∀ reads endpoints,
    observers.desiredLocalEndpoints reads = .ok endpoints →
    ∀ endpoint ∈ endpoints,
      (∃ network, Advertised config endpoint network ∧
        ∀ other ∈ config.networks,
          other.networkID = endpoint.networkID → other = network) ∨
      ∃ native, reads.native = .ok native ∧ endpoint ∈ native

section Latest

variable {first config : ExporterConfig} {observers : SelectedObserver}

theorem only_network (distinct : (config.networks.map (·.networkID)).Nodup)
    {endpoint : LocalEndpoint} {network : EVPNNetworkConfig}
    (advertised : Advertised config endpoint network) :
    ∀ other ∈ config.networks,
      other.networkID = endpoint.networkID → other = network := by
  intro other listed same
  exact List.inj_on_of_nodup_map distinct listed advertised.listed
    (same.trans advertised.id.symm)

/-- Observers made from a configuration hand on its settings. -/
theorem settings_of_new
    (distinct : (config.networks.map (·.networkID)).Nodup)
    {reads : ObserverReads} {endpoints : List LocalEndpoint}
    (observed : (newSelectedObserver config).desiredLocalEndpoints reads =
      .ok endpoints) :
    ∀ endpoint ∈ endpoints,
      (∃ network, Advertised config endpoint network ∧
        ∀ other ∈ config.networks,
          other.networkID = endpoint.networkID → other = network) ∨
      ∃ native, reads.native = .ok native ∧ endpoint ∈ native := by
  obtain ⟨cni, records, observed⟩ := bind_eq_ok.mp observed
  obtain ⟨framework, frameworks, observed⟩ := bind_eq_ok.mp observed
  obtain ⟨native, natives, observed⟩ := bind_eq_ok.mp observed
  cases observed
  intro endpoint listed
  rcases List.mem_append.mp listed with known | nativeListed
  · left
    rcases List.mem_append.mp known with record | port
    · obtain ⟨network, advertised, _⟩ := advertised_of_cni records endpoint
        record
      exact ⟨network, advertised, only_network distinct advertised⟩
    · obtain ⟨network, advertised, _⟩ := advertised_of_framework frameworks
        endpoint port
      exact ⟨network, advertised, only_network distinct advertised⟩
  · right
    unfold observeNative at natives
    split at natives
    · exact ⟨native, natives, nativeListed⟩
    · cases natives
      cases nativeListed

/-- Reads without records and native endpoints. -/
def frameworkReads (state : OVNState) : ObserverReads :=
  { cni :=
      { snapshot := .ok ⟨[], [], [], [], [], [], []⟩
        records := []
        check := fun _ _ => .ok () }
    ovn := state
    native := .ok [] }

theorem desired_frameworkReads (state : OVNState) :
    observers.desiredLocalEndpoints (frameworkReads state) =
      observeFramework observers.framework state := by
  unfold SelectedObserver.desiredLocalEndpoints
  change (do
    let framework ← observeFramework observers.framework state
    let fromKernel ← observeNative observers.native (.ok [])
    return [] ++ framework ++ fromKernel) = _
  unfold observeNative
  rw [ite_self]
  cases observeFramework observers.framework state with
  | error reason => rfl
  | ok endpoints =>
      refine congrArg Except.ok ?_
      rw [List.nil_append, List.append_nil]

/-- The observers of a tick are those of its configuration exactly when the
framework networks are advertised as they were at first. -/
theorem latest_iff
    (node : first.nodeName = config.nodeName)
    (chassis : first.localChassis = config.localChassis)
    (distinct : (config.networks.map (·.networkID)).Nodup)
    (current : observers.cni = config)
    (framework : observers.framework = frameworkObserver first)
    (native : observers.native = (newSelectedObserver config).native) :
    Latest config observers ↔ FrameworkUnchanged first config := by
  constructor
  · intro latest
    apply unchanged_of_observeFramework chassis
    intro state
    have same := latest.endpoints (frameworkReads state)
    rw [desired_frameworkReads, desired_frameworkReads, framework] at same
    exact same
  · intro unchanged
    have endpoints : ∀ reads, observers.desiredLocalEndpoints reads =
        (newSelectedObserver config).desiredLocalEndpoints reads := by
      intro reads
      unfold SelectedObserver.desiredLocalEndpoints
      rw [current, native, framework,
        observeFramework_eq node chassis unchanged]
      rfl
    refine ⟨endpoints, ?_⟩
    intro reads found observed
    exact settings_of_new distinct ((endpoints reads).symm.trans observed)

end Latest

/-- In every run, a tick that comes to reconcile hands on the endpoints of the
configuration that it loaded exactly when the enabled framework networks are
advertised as in the first configuration. -/
theorem reloaded_networks_iff (bgp : BgpPackage) (ticks : List TickInputs)
    (inputs : TickInputs) {config : ExporterConfig}
    {observers : SelectedObserver}
    (handed : ((ExporterRuntime.run bgp ticks).tick bgp inputs).2 =
      .ok (some (config, observers))) :
    Latest config observers ↔
      FrameworkUnchanged ((ExporterRuntime.run bgp ticks).bound.getD config)
        config := by
  have bound := @bound_run bgp ticks
  obtain ⟨distinct, accepted, current, framework, native⟩ :=
    handed_of_tick bound handed
  rcases bound with ⟨_, unbound⟩ | ⟨_, first, _, bound, _, firstDistinct⟩
  · rw [unbound] at framework native ⊢
    exact latest_iff rfl rfl distinct current framework native
  · rw [bound] at framework native ⊢
    unfold ExporterRuntime.Accepts at accepted
    rw [bound] at accepted
    have node := congrArg ExporterConfig.nodeName accepted.2
    have chassis := congrArg ExporterConfig.localChassis accepted.2
    exact latest_iff node chassis distinct current framework
      (native.trans (native_kept accepted.1 firstDistinct distinct))

/-- A configuration with one framework network. -/
def frameworkConfig (vni : Nat) : ExporterConfig :=
  { enabled := true
    dryRun := true
    processContinuity := false
    nodeName := "n"
    localChassis := "c"
    grpcEndpoint := "127.0.0.1:50051"
    asn := 65000
    routerID := "192.0.2.1"
    networks :=
      [{ networkID := "net"
         logicalSwitch := "ls"
         enabled := true
         vni := vni
         routeDistinguisher := "65000:1"
         routeTargets := ["65000:1"]
         localVTEP := "192.0.2.1"
         exportSource := .framework
         bridgeDevice := ""
         vxlanDevice := ""
         advertiseDevice := "" }]
    attestationConfigPath := "" }

/-- A tick in which nothing else fails. -/
def loads (config : ExporterConfig) : TickInputs :=
  { file := .ok config
    secured := .ok ()
    nodeName := ""
    addresses := .ok ["192.0.2.1/24"]
    authority := .ok ()
    clients := .ok ()
    native := .ok ()
    transport := .ok () }

/-- The VNIs of the configuration that a second tick accepts, and those of the
endpoints that it hands on. -/
def secondTick (first second : Nat) :
    Option (List Nat × Option (List Nat)) :=
  ((((ExporterRuntime.run wireBgp [loads (frameworkConfig first)]).tick
    wireBgp (loads (frameworkConfig second))).2.toOption.bind id).map
      fun handed =>
        (handed.1.networks.map (·.vni),
          ((handed.2.desiredLocalEndpoints
            (frameworkReads (probeState "net" "c"))).toOption.map
              (List.map (·.vni)))))

/-- The VNI of a framework network is changed, the configuration is accepted,
and the network is advertised with its first VNI. -/
theorem framework_vni_not_reloaded :
    secondTick 100 200 = some ([200], some [100]) := by
  decide +kernel

/-- The framework network beside a network of the CNI plugin. -/
def mixedConfig (vni : Nat) : ExporterConfig :=
  { frameworkConfig 100 with
    networks := (frameworkConfig 100).networks ++
      [{ networkID := "pods"
         logicalSwitch := "pods"
         enabled := true
         vni := vni
         routeDistinguisher := "65000:2"
         routeTargets := ["65000:2"]
         localVTEP := "192.0.2.1"
         exportSource := .cni
         bridgeDevice := ""
         vxlanDevice := ""
         advertiseDevice := "" }] }

/-- The VNI of the network of the CNI plugin is changed. -/
theorem reloaded_networks_sample :
    ∃ observers, ((ExporterRuntime.run wireBgp
        [loads (mixedConfig 300)]).tick wireBgp
          (loads (mixedConfig 400))).2 =
            .ok (some (mixedConfig 400, observers)) ∧
      Latest (mixedConfig 400) observers := by
  have again : ((ExporterRuntime.run wireBgp
      [loads (mixedConfig 300)]).tick wireBgp
        (loads (mixedConfig 400))).2 =
          .ok (some (mixedConfig 400,
            newSelectedObserver (mixedConfig 400))) := by
    rfl
  refine ⟨_, again, ?_⟩
  refine (reloaded_networks_iff wireBgp [loads (mixedConfig 300)]
    (loads (mixedConfig 400)) again).mpr ?_
  have first : (ExporterRuntime.run wireBgp
      [loads (mixedConfig 300)]).bound = some (mixedConfig 300) := by
    rfl
  have framework : frameworkNetworks (mixedConfig 300) =
      frameworkNetworks (mixedConfig 400) := by
    rfl
  rw [first]
  exact ⟨by rw [← framework]; exact Iff.rfl,
    fun _ _ _ => by rw [← framework]; rfl⟩

end EvpnForOvn.Nodeagent

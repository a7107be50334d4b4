import EvpnForOvn.Cni.Bookkeeping
import EvpnForOvn.Export.OvnObserver
import EvpnForOvn.Type2.Wire

/-!
# Identities joined by separators

The node agent finds its records by a key that joins three identifiers, tells
a repeated ADD from a conflicting one by joined texts, and the observer keeps
one endpoint for each joined route key.  Nothing keeps the separator out of
the identifiers.  Two joins of the same text come from the same fields exactly
when corresponding fields contain the separator equally often.
-/

namespace EvpnForOvn.Nodeagent

open Go Evpn

def keyFields (identity : EndpointIdentity) : List String :=
  [trimSpace identity.networkId, trimSpace identity.attachmentId,
    trimSpace identity.endpointId]

def identityFields (identity : EndpointIdentity) : List String :=
  [trimSpace identity.endpointId, trimSpace identity.networkId,
    trimSpace identity.attachmentId, trimSpace identity.workloadUid,
    trimSpace identity.incarnation]

def runtimeFields (runtime : CNIRuntimeContext) : List String :=
  [trimSpace runtime.cniVersion, trimSpace runtime.containerId,
    trimSpace runtime.netnsPath, trimSpace runtime.ifName]

def attachmentFields (attachment : AttachmentRequest) : List String :=
  [trimSpace attachment.logicalSwitch, trimSpace attachment.ovsInterfaceName,
    trimSpace attachment.staticIpCidr, trimSpace attachment.staticMac]

def specFields (spec : EndpointSpec) : List String :=
  [trimSpace spec.id, trimSpace spec.networkID, trimSpace spec.attachmentID,
    trimSpace spec.incarnation, trimSpace spec.workload.uid,
    trimSpace spec.workload.name, trimSpace spec.workload.namespaceName,
    trimSpace spec.workload.nodeName, trimSpace spec.logicalSwitch,
    trimSpace spec.logicalSwitchPort, trimSpace spec.ovsInterfaceName,
    trimSpace spec.macAddress, join ',' spec.ipAddresses]

structure SameFields (existing requested : EndpointRecord) : Prop where
  identity : existing.identity.map identityFields =
    requested.identity.map identityFields
  runtime : existing.runtime.map runtimeFields =
    requested.runtime.map runtimeFields
  attachment : existing.attachment.map attachmentFields =
    requested.attachment.map attachmentFields
  spec : specFields existing.endpointSpec = specFields requested.endpointSpec
  addresses : existing.endpointSpec.ipAddresses =
    requested.endpointSpec.ipAddresses
  kind : trimSpace existing.endpointSpec.workload.kind =
    trimSpace requested.endpointSpec.workload.kind

/-- Where both messages are present, their fields contain the separator
equally often. -/
def SameSeparatorsIfPresent {Message : Type} (parts : Message → List String)
    (left right : Option Message) : Prop :=
  ∀ first second, left = some first → right = some second →
    SameSeparators '|' (parts first) (parts second)

/-- Corresponding fields of two records contain the separators equally often.
The kind of a workload is not joined at all. -/
structure RecordSeparators (existing requested : EndpointRecord) : Prop where
  identity : SameSeparatorsIfPresent identityFields existing.identity
    requested.identity
  runtime : SameSeparatorsIfPresent runtimeFields existing.runtime
    requested.runtime
  attachment : SameSeparatorsIfPresent attachmentFields existing.attachment
    requested.attachment
  spec : SameSeparators '|' (specFields existing.endpointSpec)
    (specFields requested.endpointSpec)
  addresses : SameSeparators ',' existing.endpointSpec.ipAddresses
    requested.endpointSpec.ipAddresses
  kind : trimSpace existing.endpointSpec.workload.kind =
    trimSpace requested.endpointSpec.workload.kind

theorem SameSeparatorsIfPresent.refl {Message : Type}
    (parts : Message → List String) (message : Option Message) :
    SameSeparatorsIfPresent parts message message := by
  intro first second left right
  cases left.symm.trans right
  exact .refl '|' _

/-- Under one join, equal fields and equally many separators are the same. -/
theorem eq_iff_sameSeparators {separator : Char} {left right : List String}
    (joined : join separator left = join separator right) :
    left = right ↔ SameSeparators separator left right := by
  constructor
  · intro same
    rw [same]
    exact .refl separator right
  · intro counts
    exact eq_of_join_eq counts joined

theorem separator_mem_join (separator : Char) (first second : String)
    (rest : List String) :
    separator ∈ (join separator (first :: second :: rest)).toList := by
  unfold join
  simp [List.intercalate]

theorem ne_nil_text {first second : String} {rest : List String} :
    join '|' (first :: second :: rest) ≠ "<nil>" := by
  intro same
  have member := separator_mem_join '|' first second rest
  rw [same] at member
  revert member
  decide

/-- Two optional messages with one normal form: they are absent together, and
their fields are equal when the separators agree. -/
theorem map_eq_iff_sameSeparators {Message : Type}
    (parts : Message → List String) (normalize : Option Message → String)
    (absent : normalize none = "<nil>")
    (present : ∀ message, normalize (some message) = join '|' (parts message))
    (several : ∀ message, ∃ first second rest,
      parts message = first :: second :: rest)
    {left right : Option Message}
    (same : normalize left = normalize right) :
    left.map parts = right.map parts ↔
      SameSeparatorsIfPresent parts left right := by
  cases left with
  | none =>
      cases right with
      | none =>
          constructor
          · intro _ _ _ given
            cases given
          · intro _
            rfl
      | some second =>
          obtain ⟨one, two, rest, shape⟩ := several second
          rw [absent, present, shape] at same
          exact absurd same.symm ne_nil_text
  | some first =>
      cases right with
      | none =>
          obtain ⟨one, two, rest, shape⟩ := several first
          rw [absent, present, shape] at same
          exact absurd same ne_nil_text
      | some second =>
          rw [present, present] at same
          have equivalent := eq_iff_sameSeparators same
          simp only [Option.map_some, Option.some.injEq]
          constructor
          · intro equal left right leftIs rightIs
            cases leftIs
            cases rightIs
            exact equivalent.mp equal
          · intro separators
            exact equivalent.mpr (separators first second rfl rfl)

theorem equivalentRecord_eq_true {existing requested : EndpointRecord}
    (equivalent : equivalentRecord existing requested = true) :
    normalizeIdentity existing.identity =
        normalizeIdentity requested.identity ∧
      normalizeRuntime existing.runtime =
        normalizeRuntime requested.runtime ∧
      normalizeAttachment existing.attachment =
        normalizeAttachment requested.attachment ∧
      normalizeEndpointSpec existing.endpointSpec =
        normalizeEndpointSpec requested.endpointSpec := by
  simp only [equivalentRecord, isIdentityMismatch, Bool.and_eq_true,
    Bool.not_eq_true', bne_eq_false_iff_eq, beq_iff_eq] at equivalent
  obtain ⟨⟨⟨⟨identity, runtime⟩, attachment⟩, _⟩, spec⟩ := equivalent
  exact ⟨identity, runtime, attachment, spec⟩

/-- Equivalent records have the same fields exactly when the separators
agree. -/
theorem sameFields_iff {existing requested : EndpointRecord}
    (equivalent : equivalentRecord existing requested = true) :
    SameFields existing requested ↔
      RecordSeparators existing requested := by
  obtain ⟨identity, runtime, attachment, spec⟩ :=
    equivalentRecord_eq_true equivalent
  have identityIff := map_eq_iff_sameSeparators identityFields
    normalizeIdentity rfl (fun _ => rfl) (fun _ => ⟨_, _, _, rfl⟩) identity
  have runtimeIff := map_eq_iff_sameSeparators runtimeFields
    normalizeRuntime rfl (fun _ => rfl) (fun _ => ⟨_, _, _, rfl⟩) runtime
  have attachmentIff := map_eq_iff_sameSeparators attachmentFields
    normalizeAttachment rfl (fun _ => rfl) (fun _ => ⟨_, _, _, rfl⟩)
    attachment
  have specJoin : join '|' (specFields existing.endpointSpec) =
      join '|' (specFields requested.endpointSpec) := spec
  have specIff := eq_iff_sameSeparators specJoin
  constructor
  · intro same
    refine ⟨identityIff.mp same.identity, runtimeIff.mp same.runtime,
      attachmentIff.mp same.attachment, specIff.mp same.spec, ?_, same.kind⟩
    rw [same.addresses]
    exact .refl ',' _
  · intro separators
    have specs := specIff.mpr separators.spec
    have joined : join ',' existing.endpointSpec.ipAddresses =
        join ',' requested.endpointSpec.ipAddresses :=
      congrArg (fun parts => parts.getLastD "") specs
    exact ⟨identityIff.mpr separators.identity,
      runtimeIff.mpr separators.runtime,
      attachmentIff.mpr separators.attachment, specs,
      eq_of_join_eq separators.addresses joined, separators.kind⟩

/-- An ADD is a replay only of a record that is equivalent to its own. -/
theorem stored_of_replay {World : Type} {backends : ServerBackends World}
    {request : CNIAddRequest} {server : PlainServer World}
    {response : PlainAddResponse}
    (served : (PlainServer.add backends request server).1 = .ok response)
    (replay : response.idempotentReplay = true) :
    ∃ identity record state created world stored,
      requestedRecord request = .ok (identity, record) ∧
      backends.network.ensure (endpointKey (some identity)) record
        server.world = (.ok (state, created), world) ∧
      server.store.get (endpointKey (some identity)) = some stored ∧
      equivalentRecord stored (attachedRecord record state) = true := by
  unfold PlainServer.add at served
  split at served
  · cases served
  · split at served
    · cases served
    next identity record requested =>
      dsimp only at served
      split at served
      · cases served
      next state created world ensured =>
        unfold PlainServer.addAttached at served
        split at served
        next stored found =>
          unfold PlainServer.addExisting at served
          split at served
          next equivalent =>
            exact ⟨identity, record, state, created, world, stored,
              requested, ensured, found, equivalent⟩
          · cases served
        · unfold PlainServer.addCreated at served
          split at served
          · cases served
          · cases served
            cases replay

section Observer

open OVNEndpointObserver

/-- Every candidate is observed, up to fields outside its route key, exactly
when candidates with one key agree in their separators. -/
theorem forall_observed_iff (endpoints : List LocalEndpoint) :
    (∀ endpoint ∈ endpoints,
        ∃ observed ∈ sortedEndpoints (resultByKey endpoints),
          observed.routeFields = endpoint.routeFields) ↔
      ∀ first ∈ endpoints, ∀ second ∈ endpoints,
        first.routeKey = second.routeKey →
          SameSeparators '/' first.routeFields second.routeFields := by
  constructor
  · intro observed first firstIn second secondIn same
    obtain ⟨left, leftIn, leftFields⟩ := observed first firstIn
    obtain ⟨right, rightIn, rightFields⟩ := observed second secondIn
    rw [mem_sortedEndpoints_resultByKey] at leftIn rightIn
    have leftKey : left.routeKey = first.routeKey :=
      congrArg (join '/') leftFields
    have rightKey : right.routeKey = second.routeKey :=
      congrArg (join '/') rightFields
    rw [leftKey, same] at leftIn
    rw [rightKey] at rightIn
    have one : left = right := Option.some.inj (leftIn.symm.trans rightIn)
    rw [← leftFields, ← rightFields, one]
    exact .refl '/' _
  · intro separators endpoint member
    have present : (endpoints.reverse.find? fun other =>
        other.routeKey == endpoint.routeKey).isSome := by
      rw [List.find?_isSome]
      exact ⟨endpoint, List.mem_reverse.mpr member, by simp⟩
    obtain ⟨observed, found⟩ := Option.isSome_iff_exists.mp present
    have observedIn := List.mem_reverse.mp (List.mem_of_find?_eq_some found)
    have same := List.find?_some found
    rw [beq_iff_eq] at same
    refine ⟨observed, ?_, ?_⟩
    · rw [mem_sortedEndpoints_resultByKey, same]
      exact found
    · exact eq_of_join_eq (separators observed observedIn endpoint member same)
        same

end Observer

/-- The joins of the node agent and of the observer tell two identities apart
exactly when corresponding fields contain the separators equally often. -/
theorem joined_identities_faithful_iff (left right : EndpointIdentity)
    (existing requested : EndpointRecord) {World : Type}
    (backends : ServerBackends World) (request : CNIAddRequest)
    (server : PlainServer World) (first second : LocalEndpoint)
    (observer : OVNEndpointObserver) (state : OVNState) :
    (endpointKey (some left) = endpointKey (some right) →
      (keyFields left = keyFields right ↔
        SameSeparators '|' (keyFields left) (keyFields right))) ∧
    (equivalentRecord existing requested = true →
      (SameFields existing requested ↔
        RecordSeparators existing requested)) ∧
    (∀ response,
      (PlainServer.add backends request server).1 = .ok response →
      response.idempotentReplay = true →
      ∃ identity record attached created world stored,
        requestedRecord request = .ok (identity, record) ∧
        backends.network.ensure (endpointKey (some identity)) record
          server.world = (.ok (attached, created), world) ∧
        server.store.get (endpointKey (some identity)) = some stored ∧
        (SameFields stored (attachedRecord record attached) ↔
          RecordSeparators stored (attachedRecord record attached))) ∧
    (first.routeKey = second.routeKey →
      (first.routeFields = second.routeFields ↔
        SameSeparators '/' first.routeFields second.routeFields)) ∧
    (∀ ports bindings, state.ports = .ok ports →
      state.bindings = .ok bindings → isBlank observer.localChassis = false →
        ∃ endpoints, observer.desiredLocalEndpoints state = .ok endpoints ∧
          ((∀ candidate ∈ observer.candidates ports bindings,
              ∃ observed ∈ endpoints,
                observed.routeFields = candidate.routeFields) ↔
            ∀ one ∈ observer.candidates ports bindings,
              ∀ other ∈ observer.candidates ports bindings,
                one.routeKey = other.routeKey →
                  SameSeparators '/' one.routeFields
                    other.routeFields)) := by
  refine ⟨?_, sameFields_iff, ?_, ?_, ?_⟩
  · intro same
    have joined : join '|' (keyFields left) = join '|' (keyFields right) :=
      same
    exact eq_iff_sameSeparators joined
  · intro response served replay
    obtain ⟨identity, record, attached, created, world, stored, asked,
      ensured, found, equivalent⟩ := stored_of_replay served replay
    exact ⟨identity, record, attached, created, world, stored, asked,
      ensured, found, sameFields_iff equivalent⟩
  · intro same
    have joined : join '/' first.routeFields = join '/' second.routeFields :=
      same
    exact eq_iff_sameSeparators joined
  · intro ports bindings portsRead bindingsRead chassis
    refine ⟨_, ?_, forall_observed_iff _⟩
    unfold OVNEndpointObserver.desiredLocalEndpoints
    rw [chassis, portsRead, bindingsRead]
    rfl

/-- An ADD of one pod, up to its workload and its incarnation. -/
def sampleAdd (workload incarnation : String) : CNIAddRequest :=
  { plainAdd workload with
    identity := some ⟨"e", "n", "a", workload, incarnation⟩ }

def sampleServer : MemoryServer Unit :=
  .run agreeingManager none [.add (sampleAdd "x|x" "x")] (.fresh ())

def sampleAddRecord (workload incarnation : String) : EndpointRecord :=
  { identity := some ⟨"e", "n", "a", workload, incarnation⟩
    runtime := some ⟨"1.0.0", "c", "/proc/1", "eth0"⟩
    attachment := some ⟨"ls", "h", "10.0.0.1/24", "00:00:5e:00:53:01"⟩
    result := some
      { cniVersion := "1.0.0"
        interfaces := [⟨"eth0", "00:00:5e:00:53:01", "/proc/1"⟩]
        ips := [⟨"10.0.0.1/24", 0, ""⟩] }
    endpointSpec :=
      { id := "e"
        networkID := "n"
        attachmentID := "a"
        incarnation := incarnation
        workload := ⟨"pod", workload, "", "", ""⟩
        logicalSwitch := "ls"
        logicalSwitchPort := "h-n-a-e"
        ovsInterfaceName := "h"
        macAddress := "00:00:5e:00:53:01"
        ipAddresses := ["10.0.0.1/24"] } }

def sampleObserver : OVNEndpointObserver :=
  { localNode := "node-a"
    localChassis := "c"
    networks := GoMap.empty.set "n"
      { networkID := "n"
        logicalSwitch := "ls"
        enabled := true
        vni := 1000
        routeDistinguisher := "65000:1000"
        routeTargets := ["65000:1000"]
        localVTEP := "192.0.2.1"
        exportSource := .framework
        bridgeDevice := ""
        vxlanDevice := ""
        advertiseDevice := "" } }

def sampleObservedPort (name endpoint incarnation : String) :
    OVNLogicalSwitchPort :=
  { name := name
    addresses := ["00:00:5e:00:53:01 10.0.0.1"]
    externalIDs := ((((GoMap.empty.set frameworkNetworkID "n").set
      frameworkEndpointID endpoint).set frameworkIncarnation incarnation).set
      frameworkAttachID "a").set frameworkWorkloadUID "w" }

def sampleObservedState : OVNState :=
  { ports := .ok [sampleObservedPort "p" "e/f" "g",
      sampleObservedPort "q" "e" "f/g"]
    bindings := .ok [⟨"p", "c"⟩, ⟨"q", "c"⟩] }

def sampleObserved (endpoint incarnation : String) : LocalEndpoint :=
  { networkID := "n"
    endpointID := endpoint
    incarnation := incarnation
    macAddress := "00:00:5e:00:53:01"
    ipAddresses := ["10.0.0.1"]
    vni := 1000
    routeDistinguisher := "65000:1000"
    routeTargets := ["65000:1000"]
    localVTEP := "192.0.2.1"
    nodeName := "node-a"
    chassis := "c"
    advertise := true
    macOnly := false }

theorem not_sameFields_sampleAddRecord :
    ¬ SameFields (sampleAddRecord "x|x" "x") (sampleAddRecord "x" "x|x") := by
  intro same
  have identity := same.identity
  revert identity
  decide +kernel

/-- With separators inside the identifiers two networks share a key, another
workload and incarnation pass for a replay, and of two endpoints one is
dropped. -/
theorem joined_identities_conflated :
    (endpointKey (some ⟨"e", "n|m", "a", "", ""⟩) =
        endpointKey (some ⟨"e", "n", "m|a", "", ""⟩) ∧
      keyFields ⟨"e", "n|m", "a", "", ""⟩ ≠
        keyFields ⟨"e", "n", "m|a", "", ""⟩) ∧
    (sampleServer.store.get "n|a|e" = some (sampleAddRecord "x|x" "x") ∧
      (requestedRecord (sampleAdd "x" "x|x")).toOption.map
          (fun requested => storedRecord requested.2) =
        some (sampleAddRecord "x" "x|x") ∧
      (MemoryServer.add agreeingManager none (sampleAdd "x" "x|x")
          sampleServer).1.toOption.map (·.idempotentReplay) = some true ∧
      ¬ SameFields (sampleAddRecord "x|x" "x")
        (sampleAddRecord "x" "x|x")) ∧
    ((sampleObserved "e/f" "g").validate wireBgp = .ok () ∧
      (sampleObserved "e" "f/g").validate wireBgp = .ok () ∧
      (sampleObserved "e/f" "g").routeKey =
        (sampleObserved "e" "f/g").routeKey ∧
      (sampleObserved "e/f" "g").routeFields ≠
        (sampleObserved "e" "f/g").routeFields) ∧
    sampleObserver.candidates
        [sampleObservedPort "p" "e/f" "g", sampleObservedPort "q" "e" "f/g"]
        [⟨"p", "c"⟩, ⟨"q", "c"⟩] =
      [sampleObserved "e/f" "g", sampleObserved "e" "f/g"] ∧
    (sampleObserver.desiredLocalEndpoints sampleObservedState).toOption =
      some [sampleObserved "e" "f/g"] := by
  refine ⟨⟨?_, ?_⟩, ⟨?_, ?_, ?_, not_sameFields_sampleAddRecord⟩,
    ⟨rfl, rfl, ?_, ?_⟩, ?_, ?_⟩
  all_goals decide +kernel

/-- White space around identifiers makes no difference. -/
theorem joined_identities_faithful_sample :
    sampleAddRecord "x" "y" ≠ sampleAddRecord " x" "y " ∧
      SameFields (sampleAddRecord "x" "y") (sampleAddRecord " x" "y ") := by
  have identity : identityFields ⟨"e", "n", "a", "x", "y"⟩ =
      identityFields ⟨"e", "n", "a", " x", "y "⟩ := by
    decide +kernel
  have spec : specFields (sampleAddRecord "x" "y").endpointSpec =
      specFields (sampleAddRecord " x" "y ").endpointSpec := by
    decide +kernel
  refine ⟨by decide +kernel, ((joined_identities_faithful_iff {} {} _ _
    (MemoryWorld.backends agreeingManager none) (sampleAdd "x" "y")
    sampleServer (sampleObserved "e" "g") (sampleObserved "e" "g")
    sampleObserver sampleObservedState).2.1 (by decide +kernel)).mpr
    ⟨?_, .refl _ _, .refl _ _, ?_, .refl ',' _, rfl⟩⟩
  · intro first second left right
    cases left
    cases right
    rw [identity]
    exact .refl '|' _
  · rw [spec]
    exact .refl '|' _

end EvpnForOvn.Nodeagent

import EvpnForOvn.Cni.LinuxVeth

/-!
# What `Ensure` configures and what `Check` compares

`Ensure` parses the MAC address and the address of a request and hands the
parsed values to the kernel.  `Check` compares the texts of the request with
the texts that Go prints for what the kernel reports.  So the pair that
`Ensure` has configured passes `Check` exactly when the texts of the request
are those that Go prints.
-/

namespace EvpnForOvn.Nodeagent

open Go
open Evpn.LocalEndpoint (quoted refuse_eq_ok)

namespace VethMethod

variable {α β : Type} {host after : VethHost}

@[simp] theorem bind_ok_iff {method : VethMethod α}
    {next : α → VethMethod β} {value : β} :
    (method >>= next) host = .ok value after ↔
      ∃ first middle, method host = .ok first middle ∧
        next first middle = .ok value after := by
  change EStateM.bind method next host = _ ↔ _
  unfold EStateM.bind
  cases method host with
  | ok first middle => simp
  | error reason middle => simp

@[simp] theorem pure_ok_iff {value other : α} :
    (pure value : VethMethod α) host = .ok other after ↔
      other = value ∧ after = host := by
  change EStateM.Result.ok value host = .ok other after ↔ _
  simp [eq_comm]

@[simp] theorem get_ok_iff {value : VethHost} :
    (get : VethMethod VethHost) host = .ok value after ↔
      value = host ∧ after = host := by
  change EStateM.Result.ok host host = .ok value after ↔ _
  simp [eq_comm]

@[simp] theorem modify_ok_iff {change : VethHost → VethHost} {value : Unit} :
    (modify change : VethMethod Unit) host = .ok value after ↔
      after = change host := by
  change EStateM.Result.ok () (change host) = .ok value after ↔ _
  simp [eq_comm]

@[simp] theorem throw_ne_ok {reason : NetworkFailure} {value : α} :
    (throw reason : VethMethod α) host ≠ .ok value after := by
  change EStateM.Result.error reason host ≠ .ok value after
  simp

@[simp] theorem fail_ne_ok {reason : GoError} {value : α} :
    (fail reason : VethMethod α) host ≠ .ok value after :=
  throw_ne_ok

@[simp] theorem refuse_ok_iff {condition : Bool} {reason : GoError}
    {value : Unit} :
    refuse condition reason host = .ok value after ↔
      condition = false ∧ after = host := by
  unfold refuse
  cases condition with
  | true => simp
  | false => simp

@[simp] theorem orElse_ok_iff {method : VethMethod α}
    {report : NetworkFailure → GoError} {value : α} :
    method.orElse report host = .ok value after ↔
      method host = .ok value after := by
  unfold orElse
  cases method host with
  | ok first middle => simp
  | error reason middle => simp

end VethMethod

open VethMethod

section Calls

variable {α : Type} {policy : Policy} {host after : VethHost}

@[simp] theorem netlink_eq_ok {call : NetlinkCall}
    {carry : Kernel → Except GoError (α × Kernel)} {value : α} :
    netlink policy call carry host = .ok value after ↔
      policy.refuses call host.kernel = none ∧
        ∃ kernel, carry host.kernel = .ok (value, kernel) ∧
          after = { host with kernel := kernel } := by
  unfold netlink
  cases policy.refuses call host.kernel with
  | some reason => simp
  | none =>
      cases carry host.kernel with
      | error reason => simp
      | ok carried =>
          obtain ⟨first, kernel⟩ := carried
          simp [eq_comm, and_assoc]

theorem linkByName_eq_ok {netns : Nat} {name : String}
    {found : Option VethLink} :
    linkByName policy netns name host = .ok found after ↔
      policy.refuses (.linkByName netns name) host.kernel = none ∧
        found = host.kernel.find netns name ∧ after = host := by
  simp only [linkByName, netlink_eq_ok, Except.ok.injEq, Prod.mk.injEq]
  constructor
  · intro succeeded
    obtain ⟨allowed, _, ⟨rfl, rfl⟩, rfl⟩ := succeeded
    exact ⟨allowed, rfl, rfl⟩
  · intro given
    obtain ⟨allowed, rfl, rfl⟩ := given
    exact ⟨allowed, _, ⟨rfl, rfl⟩, rfl⟩

theorem demandLink_eq_ok {netns : Nat} {name beginning rest : String}
    {spoken : beginning ≠ ""} {link : VethLink} :
    demandLink policy netns name beginning rest spoken host =
        .ok link after ↔
      policy.refuses (.linkByName netns name) host.kernel = none ∧
        host.kernel.find netns name = some link ∧ after = host := by
  simp only [demandLink, bind_ok_iff, orElse_ok_iff, linkByName_eq_ok]
  constructor
  · intro succeeded
    obtain ⟨found, middle, ⟨allowed, rfl, rfl⟩, returned⟩ := succeeded
    cases present : middle.kernel.find netns name with
    | none => simp [present] at returned
    | some other =>
        simp only [present, pure_ok_iff] at returned
        exact ⟨allowed, by rw [returned.1], returned.2⟩
  · intro given
    obtain ⟨allowed, present, rfl⟩ := given
    exact ⟨_, _, ⟨allowed, rfl, rfl⟩, by simp [present]⟩

theorem setLink_eq_ok {call : NetlinkCall} {link : Nat}
    {change : VethLink → VethLink} {value : Unit} :
    setLink policy call link change host = .ok value after ↔
      policy.refuses call host.kernel = none ∧
        after = { host with kernel := host.kernel.update link change } := by
  simp [setLink]

theorem withNetNSPath_eq_ok {path : String}
    {function : Nat → VethMethod α} {value : α} :
    withNetNSPath policy path function host = .ok value after ↔
      policy.refuses .netnsGet host.kernel = none ∧
        policy.refuses (.netnsGetFromPath path) host.kernel = none ∧
        ∃ netns, host.kernel.netnsAt path = some netns ∧
          policy.refuses (.netnsSet netns) host.kernel = none ∧
          function netns host = .ok value after := by
  simp only [withNetNSPath, netnsGetFromPath, bind_ok_iff, orElse_ok_iff,
    netlink_eq_ok]
  constructor
  · intro succeeded
    obtain ⟨_, _, ⟨got, _, same, rfl⟩, netns, _, ⟨opened, _, found, rfl⟩,
      _, _, ⟨set, _, sameLast, rfl⟩, ran⟩ := succeeded
    cases same
    cases sameLast
    cases present : host.kernel.netnsAt path with
    | none => simp [present] at found
    | some other =>
        simp only [present, Except.ok.injEq, Prod.mk.injEq] at found
        obtain ⟨rfl, rfl⟩ := found
        exact ⟨got, opened, other, rfl, set, ran⟩
  · intro given
    obtain ⟨got, opened, netns, present, set, ran⟩ := given
    exact ⟨(), host, ⟨got, _, rfl, rfl⟩, netns, host,
      ⟨opened, host.kernel, by simp [present], rfl⟩, (), host,
      ⟨set, _, rfl, rfl⟩, ran⟩

end Calls

namespace Kernel

/-- A kernel with two more links. -/
def withPair (kernel : Kernel) (first second : VethLink) : Kernel :=
  { kernel with
    nextID := kernel.nextID + 2
    links := first :: second :: kernel.links }

/-- The two links are not one of the others. -/
structure Fresh (kernel : Kernel) (first second : VethLink) : Prop where
  apart : first.id ≠ second.id
  others : ∀ link ∈ kernel.links, link.id ≠ first.id ∧ link.id ≠ second.id

variable {kernel : Kernel} {first second : VethLink} {netns : Nat}
  {name : String}

theorem update_first (fresh : kernel.Fresh first second)
    (change : VethLink → VethLink) :
    (kernel.withPair first second).update first.id change =
      kernel.withPair (change first) second := by
  have others : kernel.links.map (fun link =>
      if link.id = first.id then change link else link) = kernel.links :=
    (List.map_congr_left fun link member =>
      if_neg (fresh.others link member).1).trans (List.map_id _)
  simp [update, withPair, fresh.apart.symm, others]

theorem update_second (fresh : kernel.Fresh first second)
    (change : VethLink → VethLink) :
    (kernel.withPair first second).update second.id change =
      kernel.withPair first (change second) := by
  have others : kernel.links.map (fun link =>
      if link.id = second.id then change link else link) = kernel.links :=
    (List.map_congr_left fun link member =>
      if_neg (fresh.others link member).2).trans (List.map_id _)
  simp [update, withPair, fresh.apart, others]

theorem find_first (here : first.netns = netns) (named : first.name = name) :
    (kernel.withPair first second).find netns name = some first := by
  simp [find, withPair, here, named]

theorem find_second (other : ¬(first.netns = netns ∧ first.name = name))
    (here : second.netns = netns) (named : second.name = name) :
    (kernel.withPair first second).find netns name = some second := by
  simp only [find, withPair]
  rw [List.find?_cons_of_neg (by simpa using other)]
  simp [here, named]

theorem other_of_isFree
    (free : (kernel.withPair first second).isFree netns name = true) :
    ¬(first.netns = netns ∧ first.name = name) := by
  intro same
  rw [isFree, find_first same.1 same.2] at free
  cases free

theorem byID_first : (kernel.withPair first second).byID first.id =
    some first := by
  simp [byID, withPair]

theorem byID_second (apart : first.id ≠ second.id) :
    (kernel.withPair first second).byID second.id = some second := by
  simp [byID, withPair, apart]

theorem parentIndex_first (apart : first.id ≠ second.id)
    (peer : first.peer = second.id) :
    (kernel.withPair first second).parentIndex first = second.index := by
  rw [parentIndex, peer, byID_second apart]
  rfl

theorem parentIndex_second (peer : second.peer = first.id) :
    (kernel.withPair first second).parentIndex second = first.index := by
  rw [parentIndex, peer, byID_first]
  rfl

end Kernel

namespace LinuxVeth

variable {policy : Policy} {key : String} {record : EndpointRecord}
  {state : NetworkState} {host after : VethHost}

/-- The texts of a state against what is printed for a link. -/
structure TextsMatch (kernel : Kernel) (state : NetworkState)
    (link : VethLink) : Prop where
  mac : isBlank state.macAddress = false →
    equalFold (macString link.hardwareAddr) state.macAddress = true
  address : isBlank state.staticIPCIDR = false →
    ∃ address ∈ ((kernel.byID link.id).map (·.addresses)).getD [],
      address.string = state.staticIPCIDR

/-- A pair that `Check` accepts, up to the texts. -/
structure Joined (kernel : Kernel) (key path : String)
    (state : NetworkState) (first link : VethLink) : Prop where
  host : kernel.find agentNetns state.hostIfName = some first
  hostOwned : first.ifAlias = ownerAliasForKey key
  hostUp : first.isVeth = true ∧ first.up = true
  named : path ≠ ""
  container : ∃ netns, kernel.netnsAt path = some netns ∧
    kernel.find netns state.containerIfName = some link
  containerOwned : link.ifAlias = ownerAliasForKey key
  containerUp : link.isVeth = true ∧ link.up = true
  peers : kernel.parentIndex first = link.index ∧
    kernel.parentIndex link = first.index

/-- The state that `Check` compares with is the one of the records, or the
one of the record. -/
structure Compares (key : String) (record : EndpointRecord)
    (records : GoMap NetworkState) (state : NetworkState) : Prop where
  recorded : ∀ other, records.get key = some other → other = state
  inferred : records.get key = none →
    record.runtime.isSome = true ∧ record.attachment.isSome = true ∧
      isBlank (record.runtime.getD {}).ifName = false ∧
      state = desiredState key record

theorem stateToCheck_eq_ok :
    stateToCheck key record host = .ok state after ↔
      Compares key record host.records state ∧ after = host := by
  simp only [stateToCheck, bind_ok_iff, get_ok_iff]
  constructor
  · intro succeeded
    obtain ⟨_, start, ⟨rfl, rfl⟩, returned⟩ := succeeded
    cases recorded : start.records.get key with
    | some other =>
        simp only [recorded, pure_ok_iff] at returned
        obtain ⟨rfl, rfl⟩ := returned
        refine ⟨⟨?_, ?_⟩, rfl⟩
        · intro another found
          rw [recorded] at found
          exact (Option.some.inj found).symm
        · intro missing
          rw [recorded] at missing
          cases missing
    | none =>
        simp only [recorded] at returned
        split at returned
        · exact absurd returned throw_ne_ok
        · rename_i given
          simp only [Bool.or_eq_true, not_or, Option.isNone_iff_eq_none,
            Bool.not_eq_true] at given
          obtain ⟨rfl, rfl⟩ := pure_ok_iff.mp returned
          refine ⟨⟨?_, fun _ => ⟨?_, ?_, given.2, rfl⟩⟩, rfl⟩
          · intro other found
            rw [recorded] at found
            cases found
          · exact Option.isSome_iff_ne_none.mpr given.1.1
          · exact Option.isSome_iff_ne_none.mpr given.1.2
  · intro given
    obtain ⟨compares, rfl⟩ := given
    refine ⟨_, _, ⟨rfl, rfl⟩, ?_⟩
    cases recorded : after.records.get key with
    | some other => simp [compares.recorded other recorded]
    | none =>
        obtain ⟨runtime, attachment, named, same⟩ :=
          compares.inferred recorded
        simp [Option.isNone_iff_eq_none, Option.isSome_iff_ne_none.mp runtime,
          Option.isSome_iff_ne_none.mp attachment, named, same]

theorem checkTexts_eq_ok {link : VethLink} {value : Unit}
    (succeeded : checkTexts policy state link host = .ok value after) :
    TextsMatch host.kernel state link ∧ after = host := by
  simp only [checkTexts, bind_ok_iff, refuse_ok_iff] at succeeded
  obtain ⟨_, _, ⟨mac, rfl⟩, listed⟩ := succeeded
  cases blank : isBlank state.staticIPCIDR with
  | true =>
      simp only [blank, if_true, pure_ok_iff] at listed
      refine ⟨⟨?_, ?_⟩, listed.2⟩
      · simpa using mac
      · simp [blank]
  | false =>
      simp only [blank, Bool.false_eq_true, if_false, addrList, bind_ok_iff,
        orElse_ok_iff, netlink_eq_ok, refuse_ok_iff] at listed
      obtain ⟨_, _, ⟨_, _, same, rfl⟩, present, rfl⟩ := listed
      cases same
      refine ⟨⟨?_, fun _ => ?_⟩, rfl⟩
      · simpa using mac
      · simpa using present

theorem checkTexts_willing {link : VethLink}
    (matched : TextsMatch host.kernel state link) :
    checkTexts .willing state link host = .ok () host := by
  simp only [checkTexts, bind_ok_iff, refuse_ok_iff]
  refine ⟨(), host, ⟨?_, rfl⟩, ?_⟩
  · simpa using matched.mac
  · cases blank : isBlank state.staticIPCIDR with
    | true => simp
    | false =>
        simp only [Bool.false_eq_true, if_false, addrList, bind_ok_iff,
          orElse_ok_iff, netlink_eq_ok, refuse_ok_iff]
        refine ⟨_, host, ⟨rfl, _, rfl, rfl⟩, ?_, rfl⟩
        simpa using matched.address blank

/-- What a successful `Check` has seen, whatever the kernel refuses. -/
theorem check_eq_ok (succeeded : check policy key record host =
      .ok state after) :
    Compares key record host.records state ∧
      after = { host with records := host.records.set key state } ∧
      ∃ first link,
        Joined host.kernel key (netnsPathOf record) state first link ∧
        TextsMatch host.kernel state link := by
  simp only [check, bind_ok_iff, stateToCheck_eq_ok, demandLink_eq_ok,
    refuse_ok_iff, withNetNSPath_eq_ok, checkContainer, get_ok_iff,
    modify_ok_iff, pure_ok_iff] at succeeded
  obtain ⟨_, _, ⟨compares, rfl⟩, first, _, ⟨_, found, rfl⟩, _, _,
    ⟨owned, rfl⟩, _, _, ⟨hostUp, rfl⟩, _, _, ⟨path, rfl⟩, _, _,
    ⟨_, _, netns, opened, _, link, _, ⟨_, foundLink, rfl⟩, _, _,
      ⟨linkOwned, rfl⟩, _, _, ⟨linkUp, rfl⟩, _, _, ⟨rfl, rfl⟩, _, _,
      ⟨peers, rfl⟩, texts⟩, _, _, rfl, rfl, rfl⟩ := succeeded
  obtain ⟨matched, rfl⟩ := checkTexts_eq_ok texts
  refine ⟨compares, rfl, first, link, ?_, matched⟩
  simp only [bne_eq_false_iff_eq, Bool.or_eq_false_iff, Bool.not_eq_false',
    beq_eq_false_iff_ne] at owned hostUp path linkOwned linkUp peers
  exact ⟨found, owned, hostUp, path, ⟨netns, opened, foundLink⟩, linkOwned,
    linkUp, peers⟩

theorem check_willing {first link : VethLink}
    (compares : Compares key record host.records state)
    (joined : Joined host.kernel key (netnsPathOf record) state first link)
    (matched : TextsMatch host.kernel state link) :
    check .willing key record host =
      .ok state { host with records := host.records.set key state } := by
  obtain ⟨netns, opened, found⟩ := joined.container
  simp only [check, bind_ok_iff, stateToCheck_eq_ok, demandLink_eq_ok,
    refuse_ok_iff, withNetNSPath_eq_ok, checkContainer, get_ok_iff,
    modify_ok_iff, pure_ok_iff]
  refine ⟨state, host, ⟨compares, rfl⟩, first, host, ⟨rfl, joined.host, rfl⟩,
    (), host, ⟨?_, rfl⟩, (), host, ⟨?_, rfl⟩, (), host, ⟨?_, rfl⟩, (), host,
    ⟨rfl, rfl, netns, opened, rfl, link, host, ⟨rfl, found, rfl⟩, (), host,
      ⟨?_, rfl⟩, (), host, ⟨?_, rfl⟩, host, host, ⟨rfl, rfl⟩, (), host,
      ⟨?_, rfl⟩, checkTexts_willing matched⟩, (), _, rfl, rfl, rfl⟩
  · simp [joined.hostOwned]
  · simp [joined.hostUp]
  · simpa using joined.named
  · simp [joined.containerOwned]
  · simp [joined.containerUp]
  · simp [joined.peers]

section Creation

variable {rest : Kernel} {first second : VethLink}
  {records : GoMap NetworkState} {netnsPath : String} {value : Unit}

theorem linkSetNsFd_eq_ok {link : VethLink} {netns : Nat}
    (fresh : rest.Fresh first second) (same : link.id = second.id)
    (current : link.netns = second.netns)
    (succeeded : linkSetNsFd policy link netns
      ⟨rest.withPair first second, records⟩ = .ok value after) :
    ∃ index, after = ⟨rest.withPair first
      { second with netns := netns, index := index }, records⟩ := by
  simp only [linkSetNsFd, netlink_eq_ok, same, current] at succeeded
  obtain ⟨_, kernel, carried, rfl⟩ := succeeded
  split at carried
  · rename_i here
    cases carried
    exact ⟨second.index, by rw [← here]⟩
  · split at carried
    · simp only [Kernel.update_second fresh, Except.ok.injEq, Prod.mk.injEq,
        true_and] at carried
      exact ⟨_, by rw [← carried]⟩
    · cases carried

theorem renamePeer_eq_ok {peerIfName containerIfName : String} {netns : Nat}
    {link : VethLink} (fresh : rest.Fresh first second)
    (here : second.netns = netns) (named : second.name = peerIfName)
    (apart : first.name ≠ second.name)
    (succeeded : renamePeer policy peerIfName containerIfName netns second
      ⟨rest.withPair first second, records⟩ = .ok link after) :
    link = { second with name := containerIfName } ∧
      after = ⟨rest.withPair first { second with name := containerIfName },
        records⟩ ∧
      ¬(first.netns = netns ∧ first.name = containerIfName) := by
  unfold renamePeer at succeeded
  split at succeeded
  · rename_i same
    obtain ⟨rfl, rfl⟩ := pure_ok_iff.mp succeeded
    rw [← same, ← named]
    exact ⟨rfl, rfl, fun clash => apart clash.2⟩
  · simp only [linkSetName, bind_ok_iff, orElse_ok_iff, netlink_eq_ok,
      demandLink_eq_ok] at succeeded
    obtain ⟨_, _, ⟨_, kernel, carried, rfl⟩, _, found, rfl⟩ := succeeded
    split at carried
    · rename_i free
      have other := Kernel.other_of_isFree free
      rw [here] at other
      simp only [Kernel.update_second fresh, Except.ok.injEq, Prod.mk.injEq,
        true_and] at carried
      subst carried
      have located : (rest.withPair first
          { second with name := containerIfName }).find netns
            containerIfName = some _ :=
        Kernel.find_second other here rfl
      exact ⟨Option.some.inj (found.symm.trans located), rfl, other⟩
    · cases carried

theorem configureAddresses_eq_ok {link : VethLink}
    (fresh : rest.Fresh first second) (same : link.id = second.id)
    (unaddressed : second.addresses = [])
    (succeeded : configureAddresses policy state link
      ⟨rest.withPair first second, records⟩ = .ok value after) :
    ∃ hardware address, parseMAC state.macAddress = some hardware ∧
      parseIPNet state.staticIPCIDR = some address ∧
      after = ⟨rest.withPair first
        { second with hardwareAddr := hardware, addresses := [address] },
        records⟩ := by
  unfold configureAddresses at succeeded
  cases hardware : parseMAC state.macAddress with
  | none =>
      rw [hardware] at succeeded
      exact absurd succeeded fail_ne_ok
  | some bytes =>
      simp only [hardware, linkSetHardwareAddr, bind_ok_iff, orElse_ok_iff,
        setLink_eq_ok] at succeeded
      obtain ⟨_, _, ⟨_, rfl⟩, added⟩ := succeeded
      cases address : parseIPNet state.staticIPCIDR with
      | none =>
          rw [address] at added
          exact absurd added fail_ne_ok
      | some network =>
          simp only [address, addrAdd, orElse_ok_iff, setLink_eq_ok, same,
            Kernel.update_second fresh] at added
          have freshAgain : rest.Fresh first
              { second with hardwareAddr := bytes } :=
            ⟨fresh.apart, fresh.others⟩
          refine ⟨bytes, network, rfl, rfl, ?_⟩
          rw [added.2]
          have updated := Kernel.update_second freshAgain fun found =>
            if found.addresses.contains network then found
            else { found with addresses := found.addresses ++ [network] }
          rw [updated]
          simp [unaddressed]

def configuredHost (key : String) (link : VethLink) : VethLink :=
  { link with
    ifAlias := ownerAliasForKey key
    up := true }

def configuredPeer (key : String) (state : NetworkState)
    (netns index : Nat) (hardware : Bytes) (address : IPNet)
    (link : VethLink) : VethLink :=
  { link with
    netns := netns
    index := index
    name := state.containerIfName
    ifAlias := ownerAliasForKey key
    hardwareAddr := hardware
    addresses := [address]
    up := true }

theorem ignoring_linkSetAlias {link : Nat} {ifAlias : String}
    (allowed : policy.refuses (.linkSetAlias link ifAlias) host.kernel =
      none)
    (succeeded : ignoring (linkSetAlias policy link ifAlias) host =
      .ok value after) :
    after = { host with kernel := host.kernel.update link fun found =>
      { found with ifAlias := ifAlias } } := by
  have set : linkSetAlias policy link ifAlias host = .ok () _ :=
    setLink_eq_ok.mpr ⟨allowed, rfl⟩
  simp only [ignoring, set] at succeeded
  cases succeeded
  rfl

theorem configurePeer_eq_ok {netns : Nat} {before : Kernel} {link : Nat}
    (fresh : rest.Fresh first second)
    (aliased : policy.refuses (.linkSetAlias link (ownerAliasForKey key))
      before = none)
    (here : second.netns = netns) (named : second.name = peerNameFor key)
    (apart : first.name ≠ second.name) (unaddressed : second.addresses = [])
    (succeeded : configurePeer policy key state netns
      ⟨rest.withPair first second, records⟩ = .ok value after) :
    ∃ hardware address, parseMAC state.macAddress = some hardware ∧
      parseIPNet state.staticIPCIDR = some address ∧
      ¬(first.netns = netns ∧ first.name = state.containerIfName) ∧
      after = ⟨rest.withPair first
        (configuredPeer key state netns second.index hardware address second),
        records⟩ := by
  simp only [configurePeer, bind_ok_iff, demandLink_eq_ok, orElse_ok_iff,
    linkSetUp, setLink_eq_ok] at succeeded
  obtain ⟨moved, _, ⟨_, found, rfl⟩, renamed, _, rename, _, _, setAlias, _, _,
    addressed, _, up⟩ := succeeded
  have located : (rest.withPair first second).find netns (peerNameFor key) =
      some second :=
    Kernel.find_second (fun clash => apart (clash.2.trans named.symm)) here
      named
  cases Option.some.inj (found.symm.trans located)
  obtain ⟨rfl, rfl, other⟩ := renamePeer_eq_ok fresh here named apart rename
  have freshRenamed : rest.Fresh first
      { second with name := state.containerIfName } :=
    ⟨fresh.apart, fresh.others⟩
  obtain rfl := ignoring_linkSetAlias
    ((policy.alias_only _ _ _ _ _).trans aliased) setAlias
  rw [Kernel.update_second freshRenamed] at addressed
  have freshAliased : rest.Fresh first
      { second with
        name := state.containerIfName
        ifAlias := ownerAliasForKey key } :=
    ⟨fresh.apart, fresh.others⟩
  obtain ⟨hardware, address, parsedMAC, parsedIP, rfl⟩ :=
    configureAddresses_eq_ok freshAliased rfl unaddressed addressed
  have freshAddressed : rest.Fresh first
      { second with
        name := state.containerIfName
        ifAlias := ownerAliasForKey key
        hardwareAddr := hardware
        addresses := [address] } :=
    ⟨fresh.apart, fresh.others⟩
  refine ⟨hardware, address, parsedMAC, parsedIP, other, ?_⟩
  rw [up, Kernel.update_second freshAddressed, ← here]
  rfl

theorem netnsGetFromPath_eq_ok {path : String} {netns : Nat} :
    netnsGetFromPath policy path host = .ok netns after ↔
      policy.refuses (.netnsGetFromPath path) host.kernel = none ∧
        host.kernel.netnsAt path = some netns ∧ after = host := by
  simp only [netnsGetFromPath, netlink_eq_ok]
  cases host.kernel.netnsAt path with
  | none => simp
  | some found => simp [and_assoc]

theorem configurePair_eq_ok (fresh : rest.Fresh first second)
    (agent : first.netns = agentNetns ∧ second.netns = agentNetns)
    (hostNamed : first.name = state.hostIfName)
    (named : second.name = peerNameFor key)
    (apart : first.name ≠ second.name) (unaddressed : second.addresses = [])
    (succeeded : configurePair policy key netnsPath state
      ⟨rest.withPair first second, records⟩ = .ok value after) :
    ∃ netns index hardware address, rest.netnsAt netnsPath = some netns ∧
      parseMAC state.macAddress = some hardware ∧
      parseIPNet state.staticIPCIDR = some address ∧
      ¬(first.netns = netns ∧ first.name = state.containerIfName) ∧
      after = ⟨rest.withPair (configuredHost key first)
        (configuredPeer key state netns index hardware address second),
        records⟩ := by
  simp only [configurePair, bind_ok_iff, demandLink_eq_ok, orElse_ok_iff,
    netnsGetFromPath_eq_ok, withNetNSPath_eq_ok] at succeeded
  obtain ⟨foundHost, _, ⟨_, found, rfl⟩, _, _, hostAlias, _, _, hostUp, peer,
    _, ⟨_, foundPeer, rfl⟩, _, _, setAlias, target, _, ⟨_, opened, rfl⟩, _,
    _, moved, _, _, netns, present, _, configured⟩ := succeeded
  cases Option.some.inj
    (found.symm.trans (Kernel.find_first agent.1 hostNamed))
  obtain ⟨aliased, rfl⟩ := setLink_eq_ok.mp hostAlias
  have freshAliased : rest.Fresh
      { first with ifAlias := ownerAliasForKey key } second :=
    ⟨fresh.apart, fresh.others⟩
  rw [Kernel.update_first fresh] at hostUp
  obtain ⟨_, rfl⟩ := setLink_eq_ok.mp hostUp
  -- From here on the host end is the configured one.
  have up : (rest.withPair { first with ifAlias := ownerAliasForKey key }
      second).update first.id (fun link => { link with up := true }) =
        rest.withPair (configuredHost key first) second :=
    Kernel.update_first freshAliased _
  have freshUp : rest.Fresh (configuredHost key first) second :=
    ⟨fresh.apart, fresh.others⟩
  simp only [up] at foundPeer setAlias opened
  have hostApart : ¬((configuredHost key first).netns = agentNetns ∧
      (configuredHost key first).name = peerNameFor key) :=
    fun clash => apart (clash.2.trans named.symm)
  cases Option.some.inj
    (foundPeer.symm.trans (Kernel.find_second hostApart agent.2 named))
  obtain rfl := ignoring_linkSetAlias
    ((policy.alias_only _ _ _ _ _).trans aliased) setAlias
  rw [Kernel.update_second freshUp] at moved
  have freshOwned : rest.Fresh (configuredHost key first)
      { second with ifAlias := ownerAliasForKey key } :=
    ⟨fresh.apart, fresh.others⟩
  obtain ⟨index, rfl⟩ := linkSetNsFd_eq_ok freshOwned rfl rfl moved
  cases Option.some.inj (opened.symm.trans present)
  have freshMoved : rest.Fresh (configuredHost key first)
      { second with
        ifAlias := ownerAliasForKey key
        netns := target
        index := index } :=
    ⟨fresh.apart, fresh.others⟩
  obtain ⟨hardware, address, parsedMAC, parsedIP, other, rfl⟩ :=
    configurePeer_eq_ok freshMoved aliased rfl named apart unaddressed
      configured
  exact ⟨target, index, hardware, address, opened, parsedMAC, parsedIP, other,
    rfl⟩

end Creation

theorem hostVethNameForKey_ne_peerNameFor (key : String) :
    hostVethNameForKey key ≠ peerNameFor key := by
  have different : hostVethNameForKey key ≠ peerVethNameForKey key := by
    intro same
    have characters := congrArg String.toList same
    simp [hostVethNameForKey, peerVethNameForKey] at characters
  rw [peerNameFor, if_neg different]
  exact different

/-- A kernel that has named and numbered its links. -/
structure WellFormed (kernel : Kernel) : Prop where
  ids : ∀ link ∈ kernel.links, link.id < kernel.nextID
  indices : ∀ link ∈ kernel.links, 0 < link.index

/-- A pair of the endpoint in which the peer has what was parsed from the
texts of the state. -/
structure Configured (kernel : Kernel) (key path : String)
    (state : NetworkState) (first link : VethLink) : Prop where
  joined : Joined kernel key path state first link
  positive : 0 < first.index
  mac : parseMAC state.macAddress = some link.hardwareAddr
  address : ∃ address, parseIPNet state.staticIPCIDR = some address ∧
    ((kernel.byID link.id).map (·.addresses)).getD [] = [address]

theorem cleaning_eq_ok {hostIfName : String} {method : VethMethod Unit}
    {value : Unit} :
    cleaning policy hostIfName method host = .ok value after ↔
      method host = .ok () after := by
  unfold cleaning
  cases method host with
  | ok _ middle => simp
  | error reason middle =>
      dsimp only
      split
      · split
        · simp
        · simp
      · simp
      · simp

theorem joined_configured {rest : Kernel} {first second : VethLink}
    {path : String} {netns index : Nat} {hardware : Bytes} {address : IPNet}
    (apart : first.id ≠ second.id) (agent : first.netns = agentNetns)
    (hostNamed : first.name = state.hostIfName)
    (veths : first.isVeth = true ∧ second.isVeth = true)
    (peers : first.peer = second.id ∧ second.peer = first.id)
    (named : path ≠ "") (opened : rest.netnsAt path = some netns)
    (other : ¬(first.netns = netns ∧ first.name = state.containerIfName)) :
    Joined (rest.withPair (configuredHost key first)
        (configuredPeer key state netns index hardware address second))
      key path state (configuredHost key first)
      (configuredPeer key state netns index hardware address second) where
  host := Kernel.find_first agent hostNamed
  hostOwned := rfl
  hostUp := ⟨veths.1, rfl⟩
  named := named
  container := ⟨netns, opened, Kernel.find_second other rfl rfl⟩
  containerOwned := rfl
  containerUp := ⟨veths.2, rfl⟩
  peers := ⟨Kernel.parentIndex_first apart peers.1,
    Kernel.parentIndex_second peers.2⟩

theorem addresses_configured {rest : Kernel} {first second : VethLink}
    {netns index : Nat} {hardware : Bytes} {address : IPNet}
    (apart : first.id ≠ second.id) :
    (((rest.withPair (configuredHost key first)
      (configuredPeer key state netns index hardware address second)).byID
        second.id).map (·.addresses)).getD [] = [address] := by
  have found : (rest.withPair (configuredHost key first)
      (configuredPeer key state netns index hardware address second)).byID
        second.id =
      some (configuredPeer key state netns index hardware address second) :=
    Kernel.byID_second apart
  rw [found]
  rfl

theorem create_eq_ok {netnsPath : String} {created : Bool}
    {records : GoMap NetworkState} {kernel : Kernel}
    {result : NetworkState} (wellFormed : WellFormed kernel)
    (named : netnsPath ≠ "") (desired : state.hostIfName =
      hostVethNameForKey key)
    (succeeded : create policy key netnsPath state ⟨kernel, records⟩ =
      .ok (result, created) after) :
    result = state ∧ after.records = records.set key state ∧
      ∃ first link,
        Configured after.kernel key netnsPath state first link := by
  simp only [create, linkAdd, bind_ok_iff, orElse_ok_iff, netlink_eq_ok,
    cleaning_eq_ok, modify_ok_iff, pure_ok_iff, Prod.mk.injEq] at succeeded
  obtain ⟨_, _, ⟨_, added, carried, rfl⟩, _, _, configured, _, _, rfl,
    ⟨rfl, rfl⟩, rfl⟩ := succeeded
  split at carried
  · cases carried
    have fresh : kernel.Fresh
        (Kernel.vethEnd kernel.nextID agentNetns kernel.freshIndex
          result.hostIfName (kernel.nextID + 1))
        (Kernel.vethEnd (kernel.nextID + 1) agentNetns
          (kernel.freshIndex + 1) (peerNameFor key) kernel.nextID) := by
      refine ⟨Nat.ne_of_lt (Nat.lt_succ_self _), fun link member => ?_⟩
      have bound := wellFormed.ids link member
      exact ⟨Nat.ne_of_lt bound, Nat.ne_of_lt (Nat.lt_succ_of_lt bound)⟩
    obtain ⟨netns, index, hardware, address, opened, parsedMAC, parsedIP,
      other, rfl⟩ := configurePair_eq_ok fresh ⟨rfl, rfl⟩ rfl rfl
        (fun same => hostVethNameForKey_ne_peerNameFor key
          (desired.symm.trans same)) rfl configured
    refine ⟨rfl, rfl, _, _, joined_configured fresh.apart rfl rfl ⟨rfl, rfl⟩
      ⟨rfl, rfl⟩ named opened other, Nat.succ_pos _, parsedMAC, address,
      parsedIP, ?_⟩
    exact addresses_configured fresh.apart
  · cases carried

/-- What has to hold of the texts of an attachment. -/
structure Printed (state : NetworkState) : Prop where
  mac : ∀ hardware, parseMAC state.macAddress = some hardware →
    equalFold (macString hardware) state.macAddress = true
  address : ∀ address, parseIPNet state.staticIPCIDR = some address →
    address.string = state.staticIPCIDR

/-- The texts of a configured pair pass exactly when they are those that Go
prints. -/
theorem Configured.textsMatch_iff {kernel : Kernel} {path : String}
    {first link : VethLink}
    (configured : Configured kernel key path state first link)
    (given : isBlank state.macAddress = false ∧
      isBlank state.staticIPCIDR = false) :
    TextsMatch kernel state link ↔ Printed state := by
  obtain ⟨network, parsed, listed⟩ := configured.address
  constructor
  · intro matched
    constructor
    · intro hardware same
      rw [configured.mac] at same
      cases same
      exact matched.mac given.1
    · intro address same
      rw [parsed] at same
      cases same
      obtain ⟨found, member, printed⟩ := matched.address given.2
      rw [listed, List.mem_singleton] at member
      rw [← member]
      exact printed
  · intro printed
    constructor
    · intro _
      exact printed.mac _ configured.mac
    · intro _
      refine ⟨network, ?_, printed.address network parsed⟩
      rw [listed]
      exact List.mem_cons_self

/-- The calls that follow on a host succeed: CHECK, the verification of an
acknowledgement of the same request, a repeated ADD and the deletion of an
acknowledged endpoint. -/
structure Verifies (key : String) (record : EndpointRecord)
    (host : VethHost) (state : NetworkState) : Prop where
  checked : ∀ other : EndpointRecord, other.runtime = record.runtime →
    other.attachment = record.attachment →
    ∃ after, check .willing key other host = .ok state after
  repeated : ∃ after,
    ensure .willing key record host = .ok (state, false) after
  deleted : ∀ (other : EndpointRecord) (link : VethLink),
    other.runtime = record.runtime → other.attachment = record.attachment →
    other.endpointSpec.ovsInterfaceName = hostVethNameForKey key →
    host.kernel.find agentNetns (hostVethNameForKey key) = some link →
    ∃ after, deleteAcknowledged .willing key other link.index host =
      .ok () after

/-- A successful `Ensure` is verified on the unchanged host, by the process
that called it and by one that has been restarted. -/
def EnsureEstablishes (key : String) (record : EndpointRecord) : Prop :=
  ∀ (policy : Policy) (host after : VethHost) (state : NetworkState)
    (created : Bool), WellFormed host.kernel →
    ensure policy key record host = .ok (state, created) after →
    Verifies key record after state ∧
      Verifies key record { after with records := .empty } state

theorem Compares.congr {other : EndpointRecord}
    {records : GoMap NetworkState}
    (compares : Compares key record records state)
    (runtime : other.runtime = record.runtime)
    (attachment : other.attachment = record.attachment) :
    Compares key other records state where
  recorded := compares.recorded
  inferred := by
    intro missing
    simpa [desiredState, runtime, attachment] using
      compares.inferred missing

theorem verifies_of_textsMatch {first link : VethLink}
    (valid : validateTexts (netnsPathOf record) (desiredState key record) =
      .ok ())
    (compares : Compares key record host.records (desiredState key record))
    (joined : Joined host.kernel key (netnsPathOf record)
      (desiredState key record) first link)
    (positive : 0 < first.index)
    (matched : TextsMatch host.kernel (desiredState key record) link) :
    Verifies key record host (desiredState key record) := by
  have checked : ∀ other : EndpointRecord, other.runtime = record.runtime →
      other.attachment = record.attachment →
      ∃ after, check .willing key other host =
        .ok (desiredState key record) after := by
    intro other runtime attachment
    have samePath : netnsPathOf other = netnsPathOf record := by
      rw [netnsPathOf, runtime, netnsPathOf]
    exact ⟨_, check_willing (compares.congr runtime attachment)
      (samePath ▸ joined) matched⟩
  refine ⟨checked, ?_, ?_⟩
  · obtain ⟨after, passed⟩ := checked record rfl rfl
    refine ⟨after, ?_⟩
    simp only [ensure, valid, ensureState, bind_ok_iff, get_ok_iff,
      refuse_ok_iff, orElse_ok_iff, linkByName_eq_ok]
    refine ⟨host, host, ⟨rfl, rfl⟩, (), host, ⟨?_, rfl⟩, _, host,
      ⟨rfl, rfl, rfl⟩, ?_⟩
    · cases recorded : host.records.get key with
      | none => rfl
      | some other => simp [compares.recorded other recorded]
    · simp only [joined.host, verifyExisting, bind_ok_iff, refuse_ok_iff,
        orElse_ok_iff, pure_ok_iff]
      exact ⟨(), host, ⟨by simp [joined.hostOwned], rfl⟩, _, after, passed,
        rfl, rfl⟩
  · intro other found runtime attachment named located
    obtain ⟨after, passed⟩ := checked other runtime attachment
    have same : found = first :=
      Option.some.inj (located.symm.trans joined.host)
    subst same
    simp only [deleteAcknowledged, deleteFound, linkDel, bind_ok_iff,
      refuse_ok_iff, linkByName_eq_ok, named]
    refine ⟨⟨after.kernel.delete found, after.records.delete key⟩, (), host,
      ⟨by simpa using positive.ne', rfl⟩, _, host, ⟨rfl, rfl, rfl⟩, ?_⟩
    simp only [located, bind_ok_iff, refuse_ok_iff, netlink_eq_ok,
      modify_ok_iff]
    exact ⟨(), host, ⟨by simp, rfl⟩, _, after, passed, (), _,
      ⟨rfl, _, rfl, rfl⟩, rfl⟩

theorem validateTexts_eq_ok {path : String} :
    validateTexts path state = .ok () ↔
      path ≠ "" ∧ state.containerIfName ≠ "" ∧ state.macAddress ≠ "" ∧
        state.staticIPCIDR ≠ "" ∧
        (parseCIDR state.staticIPCIDR).isSome = true ∧
        (parseMAC state.macAddress).isSome = true := by
  simp [validateTexts, Go.bind_eq_ok, Unique.exists_iff, refuse_eq_ok,
    Option.isSome_iff_ne_none]

theorem isBlank_trimSpace {text : String} (given : trimSpace text ≠ "") :
    isBlank (trimSpace text) = false := by
  rw [isBlank, trimSpace_trimSpace]
  simpa using given

theorem compares_desired {records : GoMap NetworkState}
    {runtime : CNIRuntimeContext} {attachment : AttachmentRequest}
    (hasRuntime : record.runtime = some runtime)
    (hasAttachment : record.attachment = some attachment)
    (named : (desiredState key record).containerIfName ≠ "")
    (recorded : ∀ other, records.get key = some other →
      other = desiredState key record) :
    Compares key record records (desiredState key record) where
  recorded := recorded
  inferred := by
    intro _
    refine ⟨by simp [hasRuntime], by simp [hasAttachment], ?_, rfl⟩
    simpa [isBlank, desiredState] using named

/-- What a successful `Ensure` leaves behind: the pair that it has verified,
or the pair that it has configured. -/
theorem ensure_eq_ok {created : Bool} (wellFormed : WellFormed host.kernel)
    (succeeded : ensure policy key record host = .ok (state, created) after) :
    validateTexts (netnsPathOf record) (desiredState key record) = .ok () ∧
      state = desiredState key record ∧
      after.records = host.records.set key (desiredState key record) ∧
      ∃ first link,
        Joined after.kernel key (netnsPathOf record)
          (desiredState key record) first link ∧
        0 < first.index ∧
        (TextsMatch after.kernel (desiredState key record) link ∨
          Configured after.kernel key (netnsPathOf record)
            (desiredState key record) first link) := by
  unfold ensure at succeeded
  cases valid : validateTexts (netnsPathOf record)
      (desiredState key record) with
  | error reason =>
      rw [valid] at succeeded
      exact absurd succeeded fail_ne_ok
  | ok value =>
      simp only [valid, ensureState, bind_ok_iff, get_ok_iff, refuse_ok_iff,
        orElse_ok_iff, linkByName_eq_ok] at succeeded
      obtain ⟨_, _, ⟨rfl, rfl⟩, _, _, ⟨unconflicting, rfl⟩, _, start,
        ⟨_, rfl, rfl⟩, branch⟩ := succeeded
      cases found : start.kernel.find agentNetns
          (desiredState key record).hostIfName with
      | some link =>
          simp only [found, verifyExisting, bind_ok_iff, refuse_ok_iff,
            orElse_ok_iff, pure_ok_iff, Prod.mk.injEq] at branch
          obtain ⟨_, start, ⟨_, rfl⟩, _, _, checked, ⟨rfl, _⟩, rfl⟩ := branch
          obtain ⟨compares, rfl, first, container, joined, matched⟩ :=
            check_eq_ok checked
          have same : state = desiredState key record := by
            cases recorded : start.records.get key with
            | none => exact (compares.inferred recorded).2.2.2
            | some other =>
                rw [← compares.recorded other recorded]
                simpa [recorded] using unconflicting
          subst same
          refine ⟨rfl, rfl, rfl, first, container, joined, ?_, .inl matched⟩
          exact wellFormed.indices first
            (List.mem_of_find?_eq_some joined.host)
      | none =>
          simp only [found] at branch
          have named := (validateTexts_eq_ok.mp valid).1
          obtain ⟨rfl, records, first, link, configured⟩ :=
            create_eq_ok wellFormed named rfl branch
          exact ⟨rfl, rfl, records, first, link, configured.joined,
            configured.positive, .inr configured⟩

/-- A host without links, with one other namespace. -/
def emptyHost : VethHost :=
  { kernel :=
      { links := []
        nextID := 0
        netnsAt := fun _ => some 1 }
    records := .empty }

section EmptyHost

variable {rest : Kernel} {first second : VethLink}
  {records : GoMap NetworkState} {hardware : Bytes} {address : IPNet}

theorem isFree_withPair {netns : Nat} {name : String}
    (others : rest.links = [])
    (notFirst : ¬(first.netns = netns ∧ first.name = name))
    (notSecond : ¬(second.netns = netns ∧ second.name = name)) :
    (rest.withPair first second).isFree netns name = true := by
  simp [Kernel.isFree, Kernel.find, Kernel.withPair, others]
  exact ⟨fun here named => notFirst ⟨here, named⟩,
    fun here named => notSecond ⟨here, named⟩⟩

theorem renamePeer_willing {containerIfName : String} {netns : Nat}
    (fresh : rest.Fresh first second) (others : rest.links = [])
    (elsewhere : first.netns ≠ netns) (here : second.netns = netns) :
    renamePeer .willing second.name containerIfName netns second
      ⟨rest.withPair first second, records⟩ =
        .ok { second with name := containerIfName }
          ⟨rest.withPair first { second with name := containerIfName },
            records⟩ := by
  unfold renamePeer
  split
  · rename_i same
    rw [← same]
    rfl
  · rename_i different
    have free : (rest.withPair first second).isFree second.netns
        containerIfName = true :=
      isFree_withPair others
        (fun clash => elsewhere (clash.1.trans here))
        (fun clash => different clash.2)
    simp only [linkSetName, bind_ok_iff, orElse_ok_iff, netlink_eq_ok,
      demandLink_eq_ok, free, if_true, Kernel.update_second fresh]
    exact ⟨(), _, ⟨rfl, _, rfl, rfl⟩, rfl,
      Kernel.find_second (fun clash => elsewhere clash.1) here rfl, rfl⟩

theorem configurePeer_willing {netns : Nat}
    (fresh : rest.Fresh first second) (others : rest.links = [])
    (elsewhere : first.netns ≠ netns) (here : second.netns = netns)
    (named : second.name = peerNameFor key)
    (parsedMAC : parseMAC state.macAddress = some hardware)
    (parsedIP : parseIPNet state.staticIPCIDR = some address) :
    ∃ after, configurePeer .willing key state netns
      ⟨rest.withPair first second, records⟩ = .ok () after := by
  have renamed : renamePeer .willing second.name state.containerIfName netns
      second ⟨rest.withPair first second, records⟩ = .ok _ _ :=
    renamePeer_willing fresh others elsewhere here
  rw [named] at renamed
  simp only [configurePeer, configureAddresses, parsedMAC, parsedIP,
    linkSetUp, linkSetHardwareAddr, addrAdd, bind_ok_iff, demandLink_eq_ok,
    orElse_ok_iff, setLink_eq_ok]
  exact ⟨_, second, _,
    ⟨rfl, Kernel.find_second (fun clash => elsewhere clash.1) here named,
      rfl⟩, _, _, renamed, (), _, rfl, (), _, ⟨(), _, ⟨rfl, rfl⟩, rfl, rfl⟩,
    rfl, rfl⟩

theorem linkSetNsFd_willing {link : VethLink} {netns : Nat}
    {kernel : Kernel} (records : GoMap NetworkState)
    (elsewhere : link.netns ≠ netns)
    (free : kernel.isFree netns link.name = true) :
    ∃ after, linkSetNsFd .willing link netns ⟨kernel, records⟩ =
      .ok () after := by
  simp only [linkSetNsFd, netlink, Policy.willing, if_neg elsewhere,
    if_pos free]
  exact ⟨_, rfl⟩

theorem configurePair_willing {netnsPath : String} {netns : Nat}
    (fresh : rest.Fresh first second) (others : rest.links = [])
    (agent : first.netns = agentNetns ∧ second.netns = agentNetns)
    (hostNamed : first.name = state.hostIfName)
    (named : second.name = peerNameFor key)
    (apart : first.name ≠ second.name) (elsewhere : agentNetns ≠ netns)
    (opened : rest.netnsAt netnsPath = some netns)
    (parsedMAC : parseMAC state.macAddress = some hardware)
    (parsedIP : parseIPNet state.staticIPCIDR = some address) :
    ∃ after, configurePair .willing key netnsPath state
      ⟨rest.withPair first second, records⟩ = .ok () after := by
  have freshAliased : rest.Fresh
      { first with ifAlias := ownerAliasForKey key } second :=
    ⟨fresh.apart, fresh.others⟩
  have freshUp : rest.Fresh (configuredHost key first) second :=
    ⟨fresh.apart, fresh.others⟩
  have hostAlias : linkSetAlias .willing first.id (ownerAliasForKey key)
      ⟨rest.withPair first second, records⟩ = .ok () ⟨_, records⟩ :=
    setLink_eq_ok.mpr ⟨rfl, rfl⟩
  rw [Kernel.update_first fresh] at hostAlias
  have hostUp : linkSetUp .willing first.id
      ⟨rest.withPair { first with ifAlias := ownerAliasForKey key } second,
        records⟩ = .ok () ⟨_, records⟩ :=
    setLink_eq_ok.mpr ⟨rfl, rfl⟩
  have up : (rest.withPair { first with ifAlias := ownerAliasForKey key }
      second).update first.id (fun link => { link with up := true }) =
        rest.withPair (configuredHost key first) second :=
    Kernel.update_first freshAliased _
  rw [up] at hostUp
  have foundPeer : (rest.withPair (configuredHost key first) second).find
      agentNetns (peerNameFor key) = some second :=
    Kernel.find_second (fun clash => apart (clash.2.trans named.symm))
      agent.2 named
  have peerAlias : ignoring (linkSetAlias .willing second.id
      (ownerAliasForKey key))
      ⟨rest.withPair (configuredHost key first) second, records⟩ =
        .ok () ⟨(rest.withPair (configuredHost key first) second).update
          second.id _, records⟩ := rfl
  rw [Kernel.update_second freshUp] at peerAlias
  have freshOwned : rest.Fresh (configuredHost key first)
      { second with ifAlias := ownerAliasForKey key } :=
    ⟨fresh.apart, fresh.others⟩
  have free : (rest.withPair (configuredHost key first)
      { second with ifAlias := ownerAliasForKey key }).isFree netns
        second.name = true :=
    isFree_withPair others
      (fun clash => elsewhere (agent.1.symm.trans clash.1))
      (fun clash => elsewhere (agent.2.symm.trans clash.1))
  obtain ⟨_, moved⟩ := linkSetNsFd_willing records
    (fun same => elsewhere (agent.2.symm.trans same)) free
  obtain ⟨index, rfl⟩ := linkSetNsFd_eq_ok freshOwned rfl rfl moved
  have freshMoved : rest.Fresh (configuredHost key first)
      { second with
        ifAlias := ownerAliasForKey key
        netns := netns
        index := index } :=
    ⟨fresh.apart, fresh.others⟩
  have hostElsewhere : (configuredHost key first).netns ≠ netns :=
    fun same => elsewhere (agent.1.symm.trans same)
  obtain ⟨after, configured⟩ : ∃ after, configurePeer .willing key state netns
      ⟨rest.withPair _ _, records⟩ = .ok () after :=
    configurePeer_willing freshMoved others hostElsewhere rfl named parsedMAC
      parsedIP
  refine ⟨after, ?_⟩
  simp only [configurePair, bind_ok_iff, demandLink_eq_ok, orElse_ok_iff,
    netnsGetFromPath_eq_ok, withNetNSPath_eq_ok]
  exact ⟨first, _, ⟨rfl, Kernel.find_first agent.1 hostNamed, rfl⟩, (), _,
    hostAlias, (), _, hostUp, second, _, ⟨rfl, foundPeer, rfl⟩, (), _,
    peerAlias, netns, _, ⟨rfl, opened, rfl⟩, (), _, moved, rfl, rfl, netns,
    opened, rfl, configured⟩

theorem create_emptyHost {netnsPath : String}
    (desired : state.hostIfName = hostVethNameForKey key)
    (parsedMAC : parseMAC state.macAddress = some hardware)
    (parsedIP : parseIPNet state.staticIPCIDR = some address) :
    ∃ after, create .willing key netnsPath state emptyHost =
      .ok (state, true) after := by
  have different : state.hostIfName ≠ peerNameFor key := by
    rw [desired]
    exact hostVethNameForKey_ne_peerNameFor key
  have fresh : emptyHost.kernel.Fresh
      (Kernel.vethEnd 0 agentNetns 1 state.hostIfName 1)
      (Kernel.vethEnd 1 agentNetns 2 (peerNameFor key) 0) :=
    ⟨by simp [Kernel.vethEnd], by simp [emptyHost]⟩
  obtain ⟨after, configured⟩ : ∃ after, configurePair .willing key netnsPath
      state ⟨emptyHost.kernel.withPair _ _, emptyHost.records⟩ =
        .ok () after :=
    configurePair_willing fresh rfl ⟨rfl, rfl⟩ rfl rfl different (by decide)
      rfl parsedMAC parsedIP
  simp only [create, linkAdd, bind_ok_iff, orElse_ok_iff, netlink_eq_ok,
    cleaning_eq_ok, modify_ok_iff, pure_ok_iff]
  refine ⟨_, (), _, ⟨rfl, emptyHost.kernel.addVeth agentNetns
    state.hostIfName (peerNameFor key), ?_, rfl⟩, (), after, configured, (),
    _, rfl, trivial, rfl⟩
  simp [Kernel.isFree, Kernel.find, emptyHost, different]

theorem ensure_emptyHost
    (valid : validateTexts (netnsPathOf record) (desiredState key record) =
      .ok ()) :
    ∃ after, create .willing key (netnsPathOf record)
        (desiredState key record) emptyHost =
          .ok (desiredState key record, true) after ∧
      ensure .willing key record emptyHost =
        .ok (desiredState key record, true) after := by
  obtain ⟨_, _, _, _, hasAddress, hasMAC⟩ := validateTexts_eq_ok.mp valid
  rw [parseCIDR_eq_map, Option.isSome_map] at hasAddress
  obtain ⟨address, parsedIP⟩ := Option.isSome_iff_exists.mp hasAddress
  obtain ⟨hardware, parsedMAC⟩ := Option.isSome_iff_exists.mp hasMAC
  obtain ⟨after, created⟩ : ∃ after, create .willing key (netnsPathOf record)
      (desiredState key record) emptyHost = .ok _ after :=
    create_emptyHost rfl parsedMAC parsedIP
  refine ⟨after, created, ?_⟩
  simp only [ensure, valid, ensureState, bind_ok_iff, get_ok_iff,
    refuse_ok_iff, orElse_ok_iff, linkByName_eq_ok]
  exact ⟨_, _, ⟨rfl, rfl⟩, (), _, ⟨rfl, rfl⟩, _, _, ⟨rfl, rfl, rfl⟩,
    created⟩

end EmptyHost

/-- `Ensure` is verified afterwards exactly when the texts it needs are given
only in the form that Go prints. -/
theorem ensureEstablishes_iff {runtime : CNIRuntimeContext}
    {attachment : AttachmentRequest}
    (hasRuntime : record.runtime = some runtime)
    (hasAttachment : record.attachment = some attachment) :
    EnsureEstablishes key record ↔
      (validateTexts (netnsPathOf record) (desiredState key record) =
        .ok () → Printed (desiredState key record)) := by
  constructor
  · intro establishes valid
    have blanks : isBlank (desiredState key record).macAddress = false ∧
        isBlank (desiredState key record).staticIPCIDR = false := by
      obtain ⟨_, _, mac, address, _, _⟩ := validateTexts_eq_ok.mp valid
      exact ⟨isBlank_trimSpace mac, isBlank_trimSpace address⟩
    have wellFormed : WellFormed emptyHost.kernel :=
      ⟨by simp [emptyHost], by simp [emptyHost]⟩
    obtain ⟨after, created, ensured⟩ := ensure_emptyHost valid
    obtain ⟨_, _, first, link, configured⟩ := create_eq_ok wellFormed
      (validateTexts_eq_ok.mp valid).1 rfl created
    obtain ⟨_, passed⟩ := (establishes _ _ _ _ _ wellFormed ensured).1.checked
      record rfl rfl
    obtain ⟨_, _, other, container, joined, matched⟩ := check_eq_ok passed
    have same : container = link := by
      obtain ⟨netns, opened, found⟩ := joined.container
      obtain ⟨otherNetns, otherOpened, otherFound⟩ :=
        configured.joined.container
      rw [opened] at otherOpened
      cases otherOpened
      exact Option.some.inj (found.symm.trans otherFound)
    rw [same] at matched
    exact (configured.textsMatch_iff blanks).mp matched
  · intro printed policy host after state created wellFormed ensured
    obtain ⟨valid, rfl, records, first, link, joined, positive, either⟩ :=
      ensure_eq_ok wellFormed ensured
    obtain ⟨_, named, mac, address, _, _⟩ := validateTexts_eq_ok.mp valid
    have matched : TextsMatch after.kernel (desiredState key record) link := by
      rcases either with verified | configured
      · exact verified
      · exact (configured.textsMatch_iff
          ⟨isBlank_trimSpace mac, isBlank_trimSpace address⟩).mpr
            (printed valid)
    constructor
    · refine verifies_of_textsMatch valid ?_ joined positive matched
      apply compares_desired hasRuntime hasAttachment named
      intro other found
      rw [records, GoMap.get_set_self] at found
      exact (Option.some.inj found).symm
    · refine verifies_of_textsMatch valid ?_ joined positive matched
      apply compares_desired hasRuntime hasAttachment named
      intro other found
      rw [GoMap.get_empty] at found
      cases found

theorem parsed_of_validateAddRequest {request : CNIAddRequest}
    {identity : EndpointIdentity} {runtime : CNIRuntimeContext}
    {attachment : AttachmentRequest}
    (accepted : validateAddRequest request =
      .ok (identity, runtime, attachment)) :
    request.attachment.getD {} = attachment ∧
      (trimSpace attachment.staticIpCidr ≠ "" →
        (parseCIDR (trimSpace attachment.staticIpCidr)).isSome = true) ∧
      (trimSpace attachment.staticMac ≠ "" →
        (parseMAC (trimSpace attachment.staticMac)).isSome = true) := by
  obtain ⟨_, _, accepted⟩ := Go.bind_eq_ok.mp accepted
  cases hasRuntime : request.runtime with
  | none =>
      rw [hasRuntime] at accepted
      cases accepted
  | some given =>
      simp only [hasRuntime, Go.bind_eq_ok, validateStaticConfig,
        Unique.exists_iff] at accepted
      obtain ⟨_, ⟨address, mac⟩, same⟩ := accepted
      cases same
      refine ⟨rfl, ?_, ?_⟩
      · intro present
        simpa [present, Option.isSome_iff_ne_none] using
          refuse_eq_ok.mp address
      · intro present
        simpa [present, Option.isSome_iff_ne_none] using refuse_eq_ok.mp mac

theorem staticMac_of_mapped {request : CNIAddRequest} {spec : EndpointSpec}
    (mapped : mapCNIAddRequestToEndpointSpec request = .ok spec) :
    trimSpace (request.attachment.getD {}).staticMac ≠ "" := by
  unfold mapCNIAddRequestToEndpointSpec at mapped
  split at mapped
  · obtain ⟨_, given, _⟩ := Go.bind_eq_ok.mp mapped
    have present := refuse_eq_ok.mp given
    simpa [isBlank] using present
  · cases mapped

/-- The texts without which `Ensure` does nothing, besides the MAC address
that every accepted request has. -/
structure Complete (runtime : CNIRuntimeContext)
    (attachment : AttachmentRequest) : Prop where
  netnsPath : isBlank runtime.netnsPath = false
  ifName : isBlank runtime.ifName = false
  staticIpCidr : isBlank attachment.staticIpCidr = false

theorem add_verified_iff_printed {request : CNIAddRequest}
    {identity : EndpointIdentity} {runtime : CNIRuntimeContext}
    {attachment : AttachmentRequest} {spec : EndpointSpec}
    (accepted : validateAddRequest request =
      .ok (identity, runtime, attachment))
    (mapped : mapCNIAddRequestToEndpointSpec request = .ok spec)
    {record : EndpointRecord} (hasRuntime : record.runtime = some runtime)
    (hasAttachment : record.attachment = some attachment) :
    EnsureEstablishes (endpointKey (some identity)) record ↔
      (Complete runtime attachment →
        Printed (desiredState (endpointKey (some identity)) record)) := by
  obtain ⟨given, parsedIP, parsedMAC⟩ := parsed_of_validateAddRequest accepted
  have mac := staticMac_of_mapped mapped
  rw [given] at mac
  have complete : validateTexts (netnsPathOf record)
      (desiredState (endpointKey (some identity)) record) = .ok () ↔
        Complete runtime attachment := by
    rw [validateTexts_eq_ok]
    simp only [netnsPathOf, desiredState, hasRuntime, hasAttachment,
      Option.getD_some]
    constructor
    · intro valid
      obtain ⟨path, name, _, address, _, _⟩ := valid
      exact ⟨by simpa [isBlank] using path, by simpa [isBlank] using name,
        by simpa [isBlank] using address⟩
    · intro whole
      have address : trimSpace attachment.staticIpCidr ≠ "" := by
        simpa [isBlank] using whole.staticIpCidr
      exact ⟨by simpa [isBlank] using whole.netnsPath,
        by simpa [isBlank] using whole.ifName, mac, address,
        parsedIP address, parsedMAC mac⟩
  rw [ensureEstablishes_iff hasRuntime hasAttachment, complete]

def sampleIdentity : EndpointIdentity :=
  { endpointId := "e", networkId := "n", attachmentId := "a" }

def sampleRuntime : CNIRuntimeContext :=
  { cniVersion := "1", netnsPath := "/n", ifName := "eth0" }

def sampleAttachment (mac : String) : AttachmentRequest :=
  { staticIpCidr := "10.0.0.1/8", staticMac := mac }

def sampleRequest (mac : String) : CNIAddRequest :=
  { identity := some sampleIdentity
    runtime := some sampleRuntime
    attachment := some (sampleAttachment mac)
    k8s := none }

def sampleRecord (mac : String) : EndpointRecord :=
  { identity := some sampleIdentity
    runtime := some sampleRuntime
    attachment := some (sampleAttachment mac)
    result := none
    endpointSpec := requestedSpec sampleIdentity sampleRuntime
      (sampleAttachment mac) {} }

theorem add_verified_iff_printed_sample :
    (validateAddRequest (sampleRequest "02:00:00:00:00:01")).isOk = true ∧
      (mapCNIAddRequestToEndpointSpec
        (sampleRequest "02:00:00:00:00:01")).isOk = true ∧
      EnsureEstablishes (endpointKey (some sampleIdentity))
        (sampleRecord "02:00:00:00:00:01") := by
  have accepted : validateAddRequest (sampleRequest "02:00:00:00:00:01") =
      .ok (sampleIdentity, sampleRuntime,
        sampleAttachment "02:00:00:00:00:01") := by
    decide +kernel
  have mapped : mapCNIAddRequestToEndpointSpec
      (sampleRequest "02:00:00:00:00:01") =
        .ok (requestedSpec sampleIdentity sampleRuntime
          (sampleAttachment "02:00:00:00:00:01") {}) := by
    decide +kernel
  refine ⟨by rw [accepted]; rfl, by rw [mapped]; rfl,
    (add_verified_iff_printed accepted mapped rfl rfl).mpr fun _ => ?_⟩
  constructor
  · intro hardware parsed
    have same : parseMAC (desiredState (endpointKey (some sampleIdentity))
        (sampleRecord "02:00:00:00:00:01")).macAddress =
          some [2, 0, 0, 0, 0, 1] := by
      decide +kernel
    rw [same] at parsed
    cases parsed
    decide +kernel
  · intro address parsed
    have same : parseIPNet (desiredState (endpointKey (some sampleIdentity))
        (sampleRecord "02:00:00:00:00:01")).staticIPCIDR =
          some ⟨[0, 0, 0, 0, 0, 0, 0, 0, 0, 0, 255, 255, 10, 0, 0, 1], 8,
            32⟩ := by
      decide +kernel
    rw [same] at parsed
    cases parsed
    decide +kernel

/-- The agent accepts a MAC address with dashes and configures it, but does not
verify what it has configured. -/
theorem dashed_mac_unverified :
    (validateAddRequest (sampleRequest "02-00-00-00-00-01")).isOk = true ∧
      (mapCNIAddRequestToEndpointSpec
        (sampleRequest "02-00-00-00-00-01")).isOk = true ∧
      ¬EnsureEstablishes (endpointKey (some sampleIdentity))
        (sampleRecord "02-00-00-00-00-01") := by
  refine ⟨by decide +kernel, by decide +kernel, ?_⟩
  intro establishes
  have valid : validateTexts (netnsPathOf (sampleRecord "02-00-00-00-00-01"))
      (desiredState (endpointKey (some sampleIdentity))
        (sampleRecord "02-00-00-00-00-01")) = .ok () := by
    decide +kernel
  have printed := (ensureEstablishes_iff rfl rfl).mp establishes valid
  have folded := printed.mac [2, 0, 0, 0, 0, 1] (by decide +kernel)
  exact absurd folded (by decide +kernel)

end LinuxVeth

end EvpnForOvn.Nodeagent

import EvpnForOvn.Cni.Continuity

/-!
# The veth pairs of endpoints

The network backend of the node agent on Linux.  `Ensure` creates a veth pair,
moves one end into the namespace of the workload and configures it; `Check`
reads both ends back.  The kernel is a list of links in network namespaces.
It may refuse any call, for reasons of its own, but whether it takes an alias
depends on the alias only: `Ensure` does not look at the result when it sets
the alias of the end it has moved.
-/

namespace EvpnForOvn.Nodeagent

open Go
open Evpn.LocalEndpoint (quoted)

/-- `id` tells a link from all others for as long as it exists; `peer` is the
`id` of the other end. -/
structure VethLink where
  id : Nat
  netns : Nat
  index : Nat
  name : String
  ifAlias : String
  isVeth : Bool
  peer : Nat
  up : Bool
  hardwareAddr : Bytes
  addresses : List IPNet
  deriving DecidableEq, Repr

structure Kernel where
  links : List VethLink
  nextID : Nat
  netnsAt : String → Option Nat

def agentNetns : Nat := 0

namespace Kernel

def find (kernel : Kernel) (netns : Nat) (name : String) : Option VethLink :=
  kernel.links.find? fun link => link.netns == netns && link.name == name

def byID (kernel : Kernel) (id : Nat) : Option VethLink :=
  kernel.links.find? fun link => link.id == id

def update (kernel : Kernel) (id : Nat) (change : VethLink → VethLink) :
    Kernel :=
  { kernel with
    links := kernel.links.map fun link =>
      if link.id = id then change link else link }

/-- `Attrs().ParentIndex`: the index of the other end. -/
def parentIndex (kernel : Kernel) (link : VethLink) : Nat :=
  ((kernel.byID link.peer).map (·.index)).getD 0

def freshIndex (kernel : Kernel) : Nat :=
  (kernel.links.map (·.index)).foldl max 0 + 1

def isFree (kernel : Kernel) (netns : Nat) (name : String) : Bool :=
  (kernel.find netns name).isNone

def vethEnd (id netns index : Nat) (name : String) (peer : Nat) : VethLink :=
  { id := id
    netns := netns
    index := index
    name := name
    ifAlias := ""
    isVeth := true
    peer := peer
    up := false
    hardwareAddr := []
    addresses := [] }

def addVeth (kernel : Kernel) (netns : Nat) (name peerName : String) :
    Kernel :=
  { kernel with
    nextID := kernel.nextID + 2
    links :=
      vethEnd kernel.nextID netns kernel.freshIndex name (kernel.nextID + 1) ::
      vethEnd (kernel.nextID + 1) netns (kernel.freshIndex + 1) peerName
        kernel.nextID :: kernel.links }

/-- Deleting one end of a pair deletes the other one. -/
def delete (kernel : Kernel) (link : VethLink) : Kernel :=
  { kernel with
    links := kernel.links.filter fun other =>
      other.id != link.id && (!link.isVeth || other.id != link.peer) }

end Kernel

/-- The calls of the backend to `netlink` and `netns`. -/
inductive NetlinkCall where
  | linkByName (netns : Nat) (name : String)
  | linkAdd (name peerName ifAlias : String)
  | linkSetAlias (link : Nat) (ifAlias : String)
  | linkSetUp (link : Nat)
  | linkSetNsFd (link netns : Nat)
  | linkSetName (link : Nat) (name : String)
  | linkSetHardwareAddr (link : Nat) (address : Bytes)
  | addrAdd (link : Nat) (address : IPNet)
  | addrList (link : Nat)
  | linkDel (link : Nat)
  | netnsGet
  | netnsGetFromPath (path : String)
  | netnsSet (netns : Nat)

/-- Which calls a kernel refuses. -/
structure Policy where
  refuses : NetlinkCall → Kernel → Option GoError
  alias_only : ∀ (first second : Nat) (ifAlias : String)
    (before after : Kernel),
    refuses (.linkSetAlias first ifAlias) before =
      refuses (.linkSetAlias second ifAlias) after

def Policy.willing : Policy :=
  { refuses := fun _ _ => none
    alias_only := fun _ _ _ _ _ => rfl }

/-- The kernel and the `records` of the backend. -/
structure VethHost where
  kernel : Kernel
  records : GoMap NetworkState

/-- A method of the backend; the host is kept when it fails. -/
abbrev VethMethod (α : Type) : Type :=
  EStateM NetworkFailure VethHost α

namespace VethMethod

variable {α : Type}

def fail (reason : GoError) : VethMethod α :=
  throw (.other reason)

def refuse (condition : Bool) (reason : GoError) : VethMethod Unit :=
  if condition then fail reason else pure ()

/-- The error of a call in other words. -/
def orElse (method : VethMethod α) (report : NetworkFailure → GoError) :
    VethMethod α := fun host =>
  match method host with
  | .ok value after => .ok value after
  | .error reason after => .error (.other (report reason)) after

/-- A call whose error is ignored. -/
def ignoring (method : VethMethod Unit) : VethMethod Unit := fun host =>
  match method host with
  | .ok _ after => .ok () after
  | .error _ after => .ok () after

end VethMethod

open VethMethod

section Calls

variable (policy : Policy)

/-- The answer of the kernel to a call that it may refuse. -/
def netlink {α : Type} (call : NetlinkCall)
    (carry : Kernel → Except GoError (α × Kernel)) : VethMethod α :=
  fun host =>
    match policy.refuses call host.kernel with
    | some reason => .error (.other reason) host
    | none =>
        match carry host.kernel with
        | .error reason => .error (.other reason) host
        | .ok (value, kernel) => .ok value { host with kernel := kernel }

/-- `LinkByName`; `none` is a `LinkNotFoundError`. -/
def linkByName (netns : Nat) (name : String) :
    VethMethod (Option VethLink) :=
  netlink policy (.linkByName netns name) fun kernel =>
    .ok (kernel.find netns name, kernel)

/-- `LinkByName` where every error is final. -/
def demandLink (netns : Nat) (name beginning rest : String)
    (spoken : beginning ≠ "" := by decide) : VethMethod VethLink := do
  let found ← (linkByName policy netns name).orElse fun reason =>
    .extend beginning rest reason.error spoken
  match found with
  | some link => return link
  | none => fail (.new beginning (rest ++ "Link not found") spoken)

def setLink (call : NetlinkCall) (link : Nat)
    (change : VethLink → VethLink) : VethMethod Unit :=
  netlink policy call fun kernel => .ok ((), kernel.update link change)

def linkAdd (name peerName ifAlias : String) : VethMethod Unit :=
  netlink policy (.linkAdd name peerName ifAlias) fun kernel =>
    if kernel.isFree agentNetns name && kernel.isFree agentNetns peerName &&
        name != peerName then
      .ok ((), kernel.addVeth agentNetns name peerName)
    else .error (.new "file exists" "")

def linkSetAlias (link : Nat) (ifAlias : String) : VethMethod Unit :=
  setLink policy (.linkSetAlias link ifAlias) link fun found =>
    { found with ifAlias := ifAlias }

def linkSetUp (link : Nat) : VethMethod Unit :=
  setLink policy (.linkSetUp link) link fun found => { found with up := true }

/-- A link keeps its index in the other namespace when it is free there. -/
def linkSetNsFd (link : VethLink) (netns : Nat) : VethMethod Unit :=
  netlink policy (.linkSetNsFd link.id netns) fun kernel =>
    if link.netns = netns then .ok ((), kernel)
    else if kernel.isFree netns link.name then
      .ok ((), kernel.update link.id fun found =>
        { found with
          netns := netns
          index :=
            if kernel.links.any fun other =>
                other.netns == netns && other.index == found.index then
              kernel.freshIndex
            else found.index })
    else .error (.new "file exists" "")

def linkSetName (link : VethLink) (name : String) : VethMethod Unit :=
  netlink policy (.linkSetName link.id name) fun kernel =>
    if kernel.isFree link.netns name then
      .ok ((), kernel.update link.id fun found => { found with name := name })
    else .error (.new "file exists" "")

def linkSetHardwareAddr (link : Nat) (address : Bytes) : VethMethod Unit :=
  setLink policy (.linkSetHardwareAddr link address) link fun found =>
    { found with hardwareAddr := address }

/-- An address that the link has is there already: `file exists`, which the
caller ignores. -/
def addrAdd (link : Nat) (address : IPNet) : VethMethod Unit :=
  setLink policy (.addrAdd link address) link fun found =>
    if found.addresses.contains address then found
    else { found with addresses := found.addresses ++ [address] }

def addrList (link : VethLink) : VethMethod (List IPNet) :=
  netlink policy (.addrList link.id) fun kernel =>
    .ok (((kernel.byID link.id).map (·.addresses)).getD [], kernel)

def linkDel (link : VethLink) : VethMethod Unit :=
  netlink policy (.linkDel link.id) fun kernel =>
    .ok ((), kernel.delete link)

def netnsGetFromPath (path : String) : VethMethod Nat :=
  netlink policy (.netnsGetFromPath path) fun kernel =>
    match kernel.netnsAt path with
    | some netns => .ok (netns, kernel)
    | none => .error (.new "no such file or directory" "")

/-- `withNetNSPath`: the function runs in the namespace at the path. -/
def withNetNSPath {α : Type} (path : String)
    (function : Nat → VethMethod α) : VethMethod α := do
  (netlink policy .netnsGet fun kernel => .ok ((), kernel)).orElse
    fun reason => .extend "get current netns: " "" reason.error
  let netns ← (netnsGetFromPath policy path).orElse fun reason =>
    .extend "open target netns " (quoted path ++ ": ") reason.error
  (netlink policy (.netnsSet netns) fun kernel => .ok ((), kernel)).orElse
    fun reason => .extend "switch to netns " (quoted path ++ ": ") reason.error
  function netns

end Calls

def peerVethNameForKey (key : String) : String :=
  "evc" ++ shortHash key (ifNameMaxLen - 3)

/-- The name of the peer, which must not be the one of the host end. -/
def peerNameFor (key : String) : String :=
  if hostVethNameForKey key = peerVethNameForKey key then
    String.ofList (takeBytes ifNameMaxLen
      (peerVethNameForKey key ++ "p").toList)
  else peerVethNameForKey key

def ownerAliasForKey (key : String) : String :=
  "evpn-node-agent|" ++ key

/-- The second word of the hash is computed from the first. -/
theorem shortHash_congr {key other : String}
    (collision : fnv32a key = fnv32a other) (chars : Int) :
    shortHash key chars = shortHash other chars := by
  have second : fnv32a (key ++ "-alt") = fnv32a (other ++ "-alt") := by
    rw [fnv32a_append, fnv32a_append, collision]
  unfold shortHash
  rw [collision, second]

/-- Keys whose 32-bit hashes collide get the same names at any length. -/
theorem vethNames_of_collision {key other : String}
    (collision : fnv32a key = fnv32a other) :
    (∀ chars : Int, shortHash key chars = shortHash other chars) ∧
      hostVethNameForKey key = hostVethNameForKey other ∧
      peerVethNameForKey key = peerVethNameForKey other ∧
      peerNameFor key = peerNameFor other ∧
      ∀ (text : String) (length : Int),
        text ++ shortHash key (length - 3) =
          text ++ shortHash other (length - 3) := by
  have host : hostVethNameForKey key = hostVethNameForKey other := by
    unfold hostVethNameForKey
    rw [shortHash_congr collision]
  have peer : peerVethNameForKey key = peerVethNameForKey other := by
    unfold peerVethNameForKey
    rw [shortHash_congr collision]
  refine ⟨shortHash_congr collision, host, peer, ?_, ?_⟩
  · unfold peerNameFor
    rw [host, peer]
  · intro text length
    rw [shortHash_congr collision]

theorem vethNames_of_collision_words :
    fnv32a "costarring" = fnv32a "liquid" ∧
      hostVethNameForKey "costarring" = hostVethNameForKey "liquid" :=
  ⟨by decide +kernel,
    (@vethNames_of_collision "costarring" "liquid"
      (by decide +kernel)).2.1⟩

namespace LinuxVeth

def desiredState (key : String) (record : EndpointRecord) : NetworkState :=
  let runtime := record.runtime.getD {}
  let attachment := record.attachment.getD {}
  { hostIfName := hostVethNameForKey key
    containerIfName := trimSpace runtime.ifName
    macAddress := trimSpace attachment.staticMac
    staticIPCIDR := trimSpace attachment.staticIpCidr }

def netnsPathOf (record : EndpointRecord) : String :=
  trimSpace (record.runtime.getD {}).netnsPath

section Backend

variable (policy : Policy)

/-- The state to check: the one in the records, or the one of the record after
a restart. -/
def stateToCheck (key : String) (record : EndpointRecord) :
    VethMethod NetworkState := do
  let host ← get
  match host.records.get key with
  | some state => return state
  | none =>
      if record.runtime.isNone || record.attachment.isNone ||
          isBlank (record.runtime.getD {}).ifName then
        throw .notFound
      else return desiredState key record

/-- The texts of a state against the link in the container. -/
def checkTexts (state : NetworkState) (link : VethLink) :
    VethMethod Unit := do
  refuse (!isBlank state.macAddress &&
      !equalFold (macString link.hardwareAddr) state.macAddress)
    (.new "container mac mismatch on " (quoted state.containerIfName))
  if isBlank state.staticIPCIDR then pure ()
  else do
    let addresses ← (addrList policy link).orElse fun reason =>
      .extend "list addrs for " (quoted state.containerIfName ++ ": ")
        reason.error
    refuse (!addresses.any fun address =>
        address.string == state.staticIPCIDR)
      (.new "container ip "
        (quoted state.staticIPCIDR ++ " missing on " ++
          quoted state.containerIfName))

/-- The part of `Check` in the namespace of the container. -/
def checkContainer (key : String) (state : NetworkState) (host : VethLink)
    (netns : Nat) : VethMethod Unit := do
  let link ← demandLink policy netns state.containerIfName
    "container interface " (quoted state.containerIfName ++ " not found: ")
  refuse (link.ifAlias != ownerAliasForKey key)
    (.new "container interface "
      (quoted state.containerIfName ++ " ownership mismatch"))
  refuse (!link.isVeth || !link.up)
    (.new "container interface "
      (quoted state.containerIfName ++ " is not an up veth"))
  let current ← get
  refuse (current.kernel.parentIndex host != link.index ||
      current.kernel.parentIndex link != host.index)
    (.new "veth peer mismatch for "
      (quoted state.hostIfName ++ "/" ++ quoted state.containerIfName))
  checkTexts policy state link

def check (key : String) (record : EndpointRecord) :
    VethMethod NetworkState := do
  let state ← stateToCheck key record
  let host ← demandLink policy agentNetns state.hostIfName
    "host interface " (quoted state.hostIfName ++ " not found: ")
  refuse (host.ifAlias != ownerAliasForKey key)
    (.new "host interface "
      (quoted state.hostIfName ++ " ownership mismatch"))
  refuse (!host.isVeth || !host.up)
    (.new "host interface " (quoted state.hostIfName ++ " is not an up veth"))
  refuse (netnsPathOf record == "")
    (.new "runtime.netns_path is required for check" "")
  withNetNSPath policy (netnsPathOf record)
    (checkContainer policy key state host)
  modify fun host => { host with records := host.records.set key state }
  return state

/-- The moved end under its name in the container. -/
def renamePeer (peerIfName containerIfName : String) (netns : Nat)
    (link : VethLink) : VethMethod VethLink :=
  if peerIfName = containerIfName then pure link
  else do
    (linkSetName policy link containerIfName).orElse fun reason =>
      .extend "rename peer "
        (quoted peerIfName ++ " to " ++ quoted containerIfName ++ ": ")
        reason.error
    demandLink policy netns containerIfName
      "find renamed interface " (quoted containerIfName ++ ": ")

/-- The addresses of the end in the container. -/
def configureAddresses (state : NetworkState) (link : VethLink) :
    VethMethod Unit := do
  match parseMAC state.macAddress with
  | none => fail (.new "address " (state.macAddress ++ ": invalid MAC address"))
  | some hardware => do
      (linkSetHardwareAddr policy link.id hardware).orElse fun reason =>
        .extend "set mac on " (quoted state.containerIfName ++ ": ")
          reason.error
      match parseIPNet state.staticIPCIDR with
      | none => fail (.new "parse static ip " (quoted state.staticIPCIDR))
      | some address =>
          (addrAdd policy link.id address).orElse fun reason =>
            .extend "set ip on " (quoted state.containerIfName ++ ": ")
              reason.error

/-- The part of `Ensure` in the namespace of the container. -/
def configurePeer (key : String) (state : NetworkState) (netns : Nat) :
    VethMethod Unit := do
  let moved ← demandLink policy netns (peerNameFor key)
    "find moved peer " (quoted (peerNameFor key) ++ ": ")
  let link ← renamePeer policy (peerNameFor key) state.containerIfName netns
    moved
  ignoring (linkSetAlias policy link.id (ownerAliasForKey key))
  configureAddresses policy state link
  (linkSetUp policy link.id).orElse fun reason =>
    .extend "set container interface "
      (quoted state.containerIfName ++ " up: ") reason.error

/-- What follows the creation of the pair. -/
def configurePair (key netnsPath : String) (state : NetworkState) :
    VethMethod Unit := do
  let host ← demandLink policy agentNetns state.hostIfName
    "find host interface " (quoted state.hostIfName ++ " after creation: ")
  (linkSetAlias policy host.id (ownerAliasForKey key)).orElse fun reason =>
    .extend "set host interface "
      (quoted state.hostIfName ++ " alias " ++
        quoted (ownerAliasForKey key) ++ ": ") reason.error
  (linkSetUp policy host.id).orElse fun reason =>
    .extend "set host interface " (quoted state.hostIfName ++ " up: ")
      reason.error
  let peer ← demandLink policy agentNetns (peerNameFor key)
    "find peer interface " (quoted (peerNameFor key) ++ ": ")
  ignoring (linkSetAlias policy peer.id (ownerAliasForKey key))
  let target ← (netnsGetFromPath policy netnsPath).orElse fun reason =>
    .extend "open netns " (quoted netnsPath ++ ": ") reason.error
  (linkSetNsFd policy peer target).orElse fun reason =>
    .extend "move peer "
      (quoted (peerNameFor key) ++ " to netns " ++ quoted netnsPath ++ ": ")
      reason.error
  withNetNSPath policy netnsPath (configurePeer policy key state)

/-- Delete the pair that a failed call has created. -/
def cleaning (hostIfName : String) (method : VethMethod Unit) :
    VethMethod Unit := fun host =>
  match method host with
  | .ok _ after => .ok () after
  | .error reason after =>
      match linkByName policy agentNetns hostIfName after with
      | .ok (some link) found =>
          match linkDel policy link found with
          | .ok _ last => .error reason last
          | .error _ last => .error reason last
      | .ok none found => .error reason found
      | .error _ found => .error reason found

/-- The branch of `Ensure` without a host link. -/
def create (key netnsPath : String) (state : NetworkState) :
    VethMethod (NetworkState × Bool) := do
  (linkAdd policy state.hostIfName (peerNameFor key)
      (ownerAliasForKey key)).orElse fun reason =>
    .extend "create veth pair "
      (quoted state.hostIfName ++ "/" ++ quoted (peerNameFor key) ++ ": ")
      reason.error
  cleaning policy state.hostIfName (configurePair policy key netnsPath state)
  modify fun host => { host with records := host.records.set key state }
  return (state, true)

/-- The branch of `Ensure` with a host link. -/
def verifyExisting (key : String) (record : EndpointRecord)
    (host : VethLink) : VethMethod (NetworkState × Bool) := do
  refuse (host.ifAlias != ownerAliasForKey key)
    (.new "host interface "
      (quoted host.name ++ " exists and is not owned by endpoint"))
  let state ← (check policy key record).orElse fun reason =>
    .extend "verify existing network attachment: " "" reason.error
  return (state, false)

/-- The texts of a request that `Ensure` needs. -/
def validateTexts (netnsPath : String) (state : NetworkState) :
    Except GoError Unit := do
  Evpn.LocalEndpoint.refuse (netnsPath == "")
    (.new "runtime.netns_path is required for linux backend" "")
  Evpn.LocalEndpoint.refuse (state.containerIfName == "")
    (.new "runtime.if_name is required for linux backend" "")
  Evpn.LocalEndpoint.refuse (state.macAddress == "")
    (.new "attachment.static_mac is required for linux backend" "")
  Evpn.LocalEndpoint.refuse (state.staticIPCIDR == "")
    (.new "attachment.static_ip_cidr is required for linux backend" "")
  Evpn.LocalEndpoint.refuse (parseCIDR state.staticIPCIDR).isNone
    (.new "attachment.static_ip_cidr invalid" "")
  Evpn.LocalEndpoint.refuse (parseMAC state.macAddress).isNone
    (.new "attachment.static_mac invalid" "")

def ensureState (key netnsPath : String) (record : EndpointRecord)
    (state : NetworkState) : VethMethod (NetworkState × Bool) := do
  let host ← get
  refuse ((host.records.get key).any (· != state))
    (.new "network attachment conflict for " (quoted key))
  let found ← (linkByName policy agentNetns state.hostIfName).orElse
    fun reason =>
      .extend "find host interface " (quoted state.hostIfName ++ ": ")
        reason.error
  match found with
  | some link => verifyExisting policy key record link
  | none => create policy key netnsPath state

/-- `Ensure`.  The second result tells whether the pair was created. -/
def ensure (key : String) (record : EndpointRecord) :
    VethMethod (NetworkState × Bool) :=
  match validateTexts (netnsPathOf record) (desiredState key record) with
  | .error reason => fail reason
  | .ok _ =>
      ensureState policy key (netnsPathOf record) record
        (desiredState key record)

/-- The deletion of a host link that was found. -/
def deleteFound (key : String) (record : EndpointRecord) (index : Int)
    (link : VethLink) : VethMethod Unit := do
  refuse ((link.index : Int) != index)
    (.new "acknowledged host veth index changed" "")
  let _ ← check policy key record
  linkDel policy link
  modify fun host => { host with records := host.records.delete key }

def deleteAcknowledged (key : String) (record : EndpointRecord)
    (index : Int) : VethMethod Unit := do
  refuse (decide (index ≤ 0))
    (.new "missing acknowledged host veth index" "")
  let found ← linkByName policy agentNetns
    record.endpointSpec.ovsInterfaceName
  match found with
  | none => pure ()
  | some link => deleteFound policy key record index link

end Backend

end LinuxVeth

end EvpnForOvn.Nodeagent

import EvpnForOvn.Export.OvnObserver

/-!
# The configuration of the exporter

`ExporterConfig` without recovery, its validation, and the check that a
reloaded configuration does not hand a network over to another source.
-/

namespace EvpnForOvn.Go

def splitHostPort (text : String) : Option (String × String) :=
  match text.toList with
  | '[' :: rest =>
      match rest.dropWhile (· != ']') with
      | ']' :: ':' :: port =>
          if rest.contains '[' || port.contains ']' || port.contains ':' then
            none
          else
            some (String.ofList (rest.takeWhile (· != ']')),
              String.ofList port)
      | _ => none
  | characters =>
      match characters.splitOn ':' with
      | [host, port] =>
          if characters.contains '[' || characters.contains ']' then none
          else some (String.ofList host, String.ofList port)
      | _ => none

/-- `strconv.ParseUint` for a decimal number of 16 bits. -/
def parseUint16 (text : String) : Option Nat := do
  let digits ← text.toList.mapM decimalDigit
  let value := digits.foldl (fun value digit => value * 10 + digit) 0
  if digits = [] ∨ 65535 < value then none else some value

def isLoopback (ip : Bytes) : Bool :=
  match to4 ip with
  | some bytes => bytes.head? == some 127
  | none => ip == List.replicate 15 0 ++ [1]

end EvpnForOvn.Go

namespace EvpnForOvn.Evpn

open Go
open LocalEndpoint (refuse)

/-- `ExporterConfig`, without recovery. -/
structure ExporterConfig where
  enabled : Bool
  dryRun : Bool
  processContinuity : Bool
  nodeName : String
  localChassis : String
  grpcEndpoint : String
  asn : Nat
  routerID : String
  networks : List EVPNNetworkConfig
  attestationConfigPath : String
  deriving DecidableEq, Repr

/-- An IPv4 address that is neither unspecified nor a multicast one. -/
def singleIPv4 (text : String) : Option Bytes :=
  match parseAddr text with
  | some (.v4 bytes) =>
      if bytes == [0, 0, 0, 0] ||
          bytes.head?.any (fun first => 224 ≤ first && first < 240) then
        none
      else some bytes
  | _ => none

/-- The socket of the speaker is on the node. -/
def validateGRPCEndpoint (processContinuity : Bool) (endpoint : String) :
    Except GoError Unit :=
  if "unix:///".toList.isPrefixOf endpoint.toList then
    refuse (endpoint == "unix:///")
      (.new "node-local gRPC socket path is required" "")
  else do
    refuse processContinuity
      (.new "process continuity requires a node-local Unix socket" "")
    match splitHostPort endpoint with
    | none =>
        .error (.new "GoBGP endpoint must be an absolute Unix socket or loopback host:port, not a cluster Service" "")
    | some (host, port) =>
        refuse (!((parseIP host).any isLoopback) ||
            !((parseUint16 port).any (0 < ·)))
          (.new "GoBGP endpoint must be an absolute Unix socket or loopback host:port, not a cluster Service" "")

/-- What the loop over the networks remembers. -/
structure SeenNetworks where
  seen : List String
  switches : List String
  devices : List String
  nativeVNIs : List Nat

/-- A device of a native network. -/
def claimDevice (known : SeenNetworks) (name : String) :
    Except GoError SeenNetworks :=
  if name == "" || name == "." || name == ".." || 15 < name.utf8ByteSize ||
      name.toList.any (fun character => character == '/' ||
        character == ' ' || character == '\t' || character == '\n') ||
      known.devices.contains name then
    .error (.new "native exporter requires distinct explicit Linux device names" "")
  else .ok { known with devices := name :: known.devices }

/-- The case split on the source of a network. -/
def claimSource (config : ExporterConfig) (known : SeenNetworks)
    (network : EVPNNetworkConfig) : Except GoError SeenNetworks :=
  match network.exportSource with
  | .ovnNetlink =>
      if !config.dryRun && !config.processContinuity then
        .error (.new "native live export requires process continuity and a shared host PID namespace" "")
      else if known.nativeVNIs.contains network.vni then
        .error (.new "native exporter requires unique VNI mapping" "")
      else
        [network.bridgeDevice, network.vxlanDevice,
          network.advertiseDevice].foldlM claimDevice
          { known with nativeVNIs := network.vni :: known.nativeVNIs }
  | _ =>
      if network.bridgeDevice != "" || network.vxlanDevice != "" ||
          network.advertiseDevice != "" then
        .error (.new "network" (" " ++ network.networkID ++
          ": Netlink devices require ovn-netlink authority"))
      else .ok known

/-- The first route target that is not one. -/
def validateRouteTargets (bgp : BgpPackage) (networkID : String) :
    List String → Except GoError Unit
  | [] => .ok ()
  | target :: rest =>
      match bgp.parseRouteTarget target with
      | .error reason =>
          .error (.extend "network" (" " ++ networkID ++ ": invalid RT: ")
            reason)
      | .ok _ => validateRouteTargets bgp networkID rest

/-- What is advertised for a network. -/
def validateAdvertised (bgp : BgpPackage) (network : EVPNNetworkConfig) :
    Except GoError Unit := do
  refuse (network.vni = 0 || 16777215 < network.vni)
    (.new "network" (" " ++ network.networkID ++
      ": VNI outside 1..16777215"))
  refuse (!(singleIPv4 network.localVTEP).any fun bytes =>
      bytes.head? != some 127)
    (.new "network" (" " ++ network.networkID ++
      ": explicit unicast VTEP IPv4 required"))
  match bgp.parseRouteDistinguisher network.routeDistinguisher with
  | .error reason =>
      .error (.extend "network" (" " ++ network.networkID ++
        ": invalid RD: ") reason)
  | .ok _ =>
      if network.routeTargets.isEmpty then
        .error (.new "network" (" " ++ network.networkID ++
          ": export RT required"))
      else validateRouteTargets bgp network.networkID network.routeTargets

/-- The names of a network are new. -/
def claimNames (known : SeenNetworks) (network : EVPNNetworkConfig) :
    Except GoError SeenNetworks :=
  if network.networkID == "" || network.logicalSwitch == "" ||
      known.seen.contains network.networkID ||
      known.switches.contains network.logicalSwitch then
    .error (.new "networks require unique nonempty NetworkID and LogicalSwitch" "")
  else
    .ok
      { known with
        seen := network.networkID :: known.seen
        switches := network.logicalSwitch :: known.switches }

/-- The loop of `Validate` over the networks. -/
def validateNetworks (bgp : BgpPackage) (config : ExporterConfig) :
    SeenNetworks → List EVPNNetworkConfig → Except GoError Unit
  | _, [] => .ok ()
  | known, network :: rest => do
      let named ← claimNames known network
      let claimed ← claimSource config named network
      validateAdvertised bgp network
      validateNetworks bgp config claimed rest

/-- `Validate`.  A disabled configuration is not looked at. -/
def ExporterConfig.validate (bgp : BgpPackage) (config : ExporterConfig) :
    Except GoError Unit :=
  if config.enabled then do
    refuse (config.nodeName == "" || config.localChassis == "" ||
        config.asn == 0)
      (.new "export requires node name, local chassis and nonzero expected ASN" "")
    refuse (singleIPv4 config.routerID).isNone
      (.new "expected router ID must be a unicast IPv4 address" "")
    validateGRPCEndpoint config.processContinuity config.grpcEndpoint
    validateNetworks bgp config ⟨[], [], [], []⟩ config.networks
  else .ok ()

section Names

variable {bgp : BgpPackage} {config : ExporterConfig} {known : SeenNetworks}
  {network : EVPNNetworkConfig}

theorem seen_of_claimDevices {names : List String} {after : SeenNetworks} :
    ∀ {known : SeenNetworks}, names.foldlM claimDevice known = .ok after →
      after.seen = known.seen := by
  induction names with
  | nil =>
      intro known folded
      cases folded
      rfl
  | cons name rest induction =>
      intro known folded
      rw [List.foldlM_cons] at folded
      obtain ⟨middle, claimed, folded⟩ := bind_eq_ok.mp folded
      rw [induction folded]
      unfold claimDevice at claimed
      split at claimed
      · cases claimed
      · cases claimed
        rfl

theorem seen_of_claimSource {after : SeenNetworks}
    (claimed : claimSource config known network = .ok after) :
    after.seen = known.seen := by
  unfold claimSource at claimed
  split at claimed
  · split at claimed
    · cases claimed
    · split at claimed
      · cases claimed
      · have kept := seen_of_claimDevices claimed
        exact kept
  · split at claimed
    · cases claimed
    · cases claimed
      rfl

theorem of_claimNames {after : SeenNetworks}
    (named : claimNames known network = .ok after) :
    network.networkID ∉ known.seen ∧
      after.seen = network.networkID :: known.seen := by
  unfold claimNames at named
  split at named
  · cases named
  · rename_i accepted
    cases named
    simp only [Bool.or_eq_true, not_or, List.contains_iff_mem] at accepted
    exact ⟨accepted.1.2, rfl⟩

theorem nodup_of_validateNetworks {networks : List EVPNNetworkConfig} :
    ∀ {known : SeenNetworks},
      validateNetworks bgp config known networks = .ok () →
      (networks.map (·.networkID)).Nodup ∧
        ∀ network ∈ networks, network.networkID ∉ known.seen := by
  induction networks with
  | nil =>
      intro known _
      exact ⟨.nil, fun _ listed => absurd listed List.not_mem_nil⟩
  | cons network rest induction =>
      intro known valid
      obtain ⟨named, names, valid⟩ := bind_eq_ok.mp valid
      obtain ⟨claimed, source, valid⟩ := bind_eq_ok.mp valid
      obtain ⟨_, _, valid⟩ := bind_eq_ok.mp valid
      obtain ⟨new, seen⟩ := of_claimNames names
      obtain ⟨distinct, unseen⟩ := induction valid
      rw [seen_of_claimSource source, seen] at unseen
      refine ⟨List.nodup_cons.mpr ⟨?_, distinct⟩, ?_⟩
      · intro repeated
        obtain ⟨other, listed, same⟩ := List.mem_map.mp repeated
        exact unseen other listed (same ▸ .head _)
      · intro other listed
        rcases List.mem_cons.mp listed with rfl | later
        · exact new
        · exact fun known => unseen other later (.tail _ known)

/-- The networks of an accepted configuration have different identifiers. -/
theorem ExporterConfig.nodup_networkIDs (enabled : config.enabled = true)
    (valid : config.validate bgp = .ok ()) :
    (config.networks.map (·.networkID)).Nodup := by
  unfold ExporterConfig.validate at valid
  rw [if_pos enabled] at valid
  obtain ⟨_, _, valid⟩ := bind_eq_ok.mp valid
  obtain ⟨_, _, valid⟩ := bind_eq_ok.mp valid
  obtain ⟨_, _, valid⟩ := bind_eq_ok.mp valid
  exact (nodup_of_validateNetworks valid).1

end Names

/-- A map of networks; a later one replaces an earlier one. -/
def networksByID (networks : List EVPNNetworkConfig) :
    GoMap EVPNNetworkConfig :=
  networks.foldl (fun byID network => byID.set network.networkID network)
    GoMap.empty

section ByID

variable {networks : List EVPNNetworkConfig} {network : EVPNNetworkConfig}
  {id : String}

theorem get_networksByID :
    (networksByID networks).get id =
      networks.reverse.find? fun network => network.networkID == id := by
  unfold networksByID
  rw [GoMap.get_foldl_set EVPNNetworkConfig.networkID, GoMap.get_empty,
    Option.or_none]

theorem mem_of_get_networksByID
    (found : (networksByID networks).get id = some network) :
    network ∈ networks ∧ network.networkID = id := by
  rw [get_networksByID] at found
  exact ⟨List.mem_reverse.mp (List.mem_of_find?_eq_some found),
    by simpa using List.find?_some found⟩

/-- Identifiers that differ are all found. -/
theorem get_networksByID_iff
    (distinct : (networks.map (·.networkID)).Nodup) :
    (networksByID networks).get id = some network ↔
      network ∈ networks ∧ network.networkID = id := by
  constructor
  · exact mem_of_get_networksByID
  · intro listed
    have present : ((networksByID networks).get id).isSome := by
      rw [get_networksByID, List.find?_isSome]
      exact ⟨network, List.mem_reverse.mpr listed.1, by simp [listed.2]⟩
    obtain ⟨other, found⟩ := Option.isSome_iff_exists.mp present
    obtain ⟨otherListed, same⟩ := mem_of_get_networksByID found
    rw [found, List.inj_on_of_nodup_map distinct otherListed listed.1
      (same.trans listed.2.symm)]

end ByID

/-- `ExportSource` of a map entry; a missing network reads as `cni`. -/
def sourceOf (networks : GoMap EVPNNetworkConfig) (id : String) :
    ExportSource :=
  ((networks.get id).map (·.exportSource)).getD .cni

/-- A network keeps its source, and a native one all of its settings. -/
def handedOver (prior current : GoMap EVPNNetworkConfig) (id : String) :
    Bool :=
  sourceOf prior id != sourceOf current id ||
    (sourceOf prior id == .ovnNetlink &&
      decide (prior.get id ≠ current.get id))

def validateExporterAuthorityReload (old next : ExporterConfig) :
    Except GoError Unit :=
  let prior := networksByID old.networks
  let current := networksByID next.networks
  match (prior.sortedKeys ++ current.sortedKeys).find?
      (handedOver prior current) with
  | some id =>
      .error (.new "network" (" " ++ id ++ " exporter authority/topology change requires controlled shutdown and restart; no live handoff"))
  | none => .ok ()

section Reload

variable {old next : ExporterConfig}

theorem sourceOf_of_missing {networks : GoMap EVPNNetworkConfig}
    {id : String} (missing : id ∉ networks.sortedKeys) :
    networks.get id = none ∧ sourceOf networks id = .cni := by
  have absent : networks.get id = none := by
    rw [← Option.not_isSome_iff_eq_none, ← GoMap.mem_sortedKeys]
    exact missing
  unfold sourceOf
  rw [absent]
  exact ⟨rfl, rfl⟩

/-- What an accepted reload keeps. -/
theorem kept_of_reload
    (accepted : validateExporterAuthorityReload old next = .ok ())
    (id : String) :
    sourceOf (networksByID old.networks) id =
        sourceOf (networksByID next.networks) id ∧
      (sourceOf (networksByID old.networks) id = .ovnNetlink →
        (networksByID old.networks).get id =
          (networksByID next.networks).get id) := by
  have kept : handedOver (networksByID old.networks)
      (networksByID next.networks) id = false := by
    by_cases listed : id ∈ (networksByID old.networks).sortedKeys ++
        (networksByID next.networks).sortedKeys
    · unfold validateExporterAuthorityReload at accepted
      dsimp only at accepted
      split at accepted
      · cases accepted
      · rename_i none
        simpa using List.find?_eq_none.mp none id listed
    · rw [List.mem_append, not_or] at listed
      unfold handedOver
      rw [(sourceOf_of_missing listed.1).2, (sourceOf_of_missing listed.2).2]
      rfl
  unfold handedOver at kept
  simp only [Bool.or_eq_false_iff, bne_eq_false_iff_eq, Bool.and_eq_false_iff,
    decide_eq_false_iff_not, not_not, beq_eq_false_iff_ne] at kept
  exact ⟨kept.1, fun native => kept.2.resolve_left (not_not.mpr native)⟩

end Reload

end EvpnForOvn.Evpn

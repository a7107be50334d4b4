import EvpnForOvn.Go.Error
import EvpnForOvn.Go.Map
import EvpnForOvn.Go.Net
import Mathlib.Logic.Equiv.List
import Mathlib.Tactic.DeriveCountable

/-!
# Remote Type-2 paths

The decoding of a path of the speaker's table and the import policy.  The
messages of GoBGP are modelled by what `apiutil` and `bgp` make of them; any
combination of their results is allowed.
-/

namespace EvpnForOvn.Evpn

open Go

structure RemotePathIdentity where
  key : String
  neighborIP : String
  sourceID : String
  sourceASN : Nat
  identifier : Nat
  localIdentifier : Nat
  deriving DecidableEq, Repr

inductive Classification where
  | invalid
  | withdrawn
  | «local»
  | remote
  deriving DecidableEq, Repr

structure DecodedRemoteType2 where
  source : RemotePathIdentity
  classification : Classification
  routeType : Nat
  rd : String
  ethernetTag : Nat
  esi : String
  mac : String
  ip : String
  labels : List Nat
  routeTargets : List String
  encapsulation : List String
  nextHop : String
  best : Bool
  stale : Bool
  filtered : Bool
  nexthopInvalid : Bool
  attributeKey : String
  deriving DecidableEq, Repr

structure ValidatedRemoteRoute where
  networkID : String
  vni : Nat
  route : DecodedRemoteType2
  deriving DecidableEq, Repr

inductive ValidationState where
  | unset
  | validated
  deriving DecidableEq, Repr

structure DesiredRemoteEndpoint where
  key : String
  networkID : String
  vni : Nat
  mac : String
  ip : String
  remoteVTEP : String
  validationState : ValidationState
  routes : List ValidatedRemoteRoute
  deriving DecidableEq, Repr

structure RemoteImportIssue where
  pathKey : String
  reason : String
  deriving DecidableEq, Repr

structure RemoteImportSnapshot where
  authoritative : Bool
  generation : UInt64
  endpoints : List DesiredRemoteEndpoint
  issues : List RemoteImportIssue
  deriving DecidableEq, Repr

/-- The values that the code gives to `remoteHash`. -/
inductive RemoteValue where
  | strings (values : List String)
  | path (nlri : String) (source : RemotePathIdentity)
  | endpoints (values : List DesiredRemoteEndpoint)
  | snapshot (value : RemoteImportSnapshot)

/-- `remoteHash`: the SHA-256 digest of the JSON text, taken to be free of
collisions. -/
structure RemoteHash where
  hash : RemoteValue → String
  injective : Function.Injective hash
  spoken : ∀ value, hash value ≠ ""

namespace RemoteHash

variable (digest : RemoteHash)

instance : CoeFun RemoteHash (fun _ => RemoteValue → String) :=
  ⟨RemoteHash.hash⟩

@[simp] theorem hash_eq_iff {left right : RemoteValue} :
    digest left = digest right ↔ left = right :=
  digest.injective.eq_iff

/-- The key of an endpoint. -/
def endpointKey (networkID mac ip : String) : String :=
  digest (.strings [networkID, mac, ip])

end RemoteHash

instance countableChar : Countable Char :=
  Function.Injective.countable (f := Char.toNat)
    (fun _ _ same => Char.toNat_inj.mp same)

instance countableString : Countable String :=
  Function.Injective.countable (f := String.toList)
    (fun _ _ => String.toList_injective)

instance countableUInt64 : Countable UInt64 :=
  Function.Injective.countable (f := UInt64.toNat)
    (fun _ _ same => UInt64.toNat_inj.mp same)

deriving instance Countable for RemotePathIdentity
deriving instance Countable for Classification
deriving instance Countable for DecodedRemoteType2
deriving instance Countable for ValidatedRemoteRoute
deriving instance Countable for ValidationState
deriving instance Countable for DesiredRemoteEndpoint
deriving instance Countable for RemoteImportIssue
deriving instance Countable for RemoteImportSnapshot
deriving instance Countable for RemoteValue

/-- A digest without collisions: the hashed values are countable. -/
noncomputable def sampleHash : RemoteHash :=
  let number := Classical.choose (exists_injective_nat RemoteValue)
  have injective := Classical.choose_spec (exists_injective_nat RemoteValue)
  { hash := fun value => String.ofList (List.replicate (number value + 1) 'x')
    injective := by
      intro left right same
      have lengths := congrArg String.length same
      simp only [String.length_ofList, List.length_replicate] at lengths
      exact injective (Nat.succ.inj lengths)
    spoken := by
      intro value empty
      have lengths := congrArg String.length empty
      simp at lengths }

/-- An extended community: its types, its text and the tunnel type of an
`EncapExtended`. -/
structure RemoteCommunity where
  type : Nat
  subtype : Nat
  text : String
  encapsulation : Option String

/-- A path attribute by its dynamic type.  An entry of `MP_REACH_NLRI` is the
serialization of its NLRI, or `none` for a nil NLRI; an invalid next hop is
`none`. -/
inductive RemoteAttributeValue where
  | origin (value : Nat)
  | mpReachNLRI (afi safi : Nat) (linkLocal : Bool)
      (value : List (Option (Except GoError Bytes))) (nexthop : Option Addr)
  | nextHop
  | extendedCommunities (value : List RemoteCommunity)
  | tunnelEncap
  /-- The types that the decoder accepts and does not look into. -/
  | accepted
  | other

structure RemoteAttribute where
  type : Nat
  serialize : Except GoError Bytes
  value : RemoteAttributeValue

/-- `bgp.EVPNMacIPAdvertisementRoute`. -/
structure MacIPAdvertisement where
  rd : Option String
  macAddress : Bytes
  macAddressLength : Nat
  ethernetTag : Nat
  ipAddress : Option Addr
  ipAddressLength : Nat
  esi : Except GoError Bytes
  labels : List Nat

/-- `bgp.EVPNNLRI`. -/
structure RemoteNLRI where
  routeType : Nat
  serialize : Except GoError Bytes
  routeTypeData : Option MacIPAdvertisement

/-- `api.Path`.  A native NLRI of another family is `none`; an entry of
`pattrs` is `none` for a nil attribute, and holds the number of next hops of
an `MpReach`. -/
structure RemotePath where
  afi : Nat
  safi : Nat
  neighborIP : String
  sourceID : String
  sourceASN : Nat
  identifier : Nat
  localIdentifier : Nat
  best : Bool
  stale : Bool
  filtered : Bool
  isNexthopInvalid : Bool
  isWithdraw : Bool
  isFromExternal : Bool
  nativeNLRI : Except GoError (Option RemoteNLRI)
  pattrs : List (Option (Option Nat))
  nativePathAttributes : Except GoError (List RemoteAttribute)

def afiL2VPN : Nat := 25
def safiEVPN : Nat := 70

/-- `bgp.EVPN_ROUTE_TYPE_MAC_IP_ADVERTISEMENT` -/
def macIPAdvertisementType : Nat := 2

def hexEncode (bytes : Bytes) : String :=
  String.ofList (bytes.flatMap byteHex)

/-- `Addr.String`, also for the zero value. -/
def addrText : Option Addr → String
  | some address => address.string
  | none => "invalid IP"

namespace DecodedRemoteType2

/-- `DecodedRemoteType2{Classification: "invalid"}`. -/
def blank : DecodedRemoteType2 :=
  { source := ⟨"", "", "", 0, 0, 0⟩
    classification := .invalid
    routeType := 0
    rd := ""
    ethernetTag := 0
    esi := ""
    mac := ""
    ip := ""
    labels := []
    routeTargets := []
    encapsulation := []
    nextHop := ""
    best := false
    stale := false
    filtered := false
    nexthopInvalid := false
    attributeKey := "" }

end DecodedRemoteType2

/-- The decoder returns what it has read so far with its error. -/
abbrev Decoding : Type :=
  Except (DecodedRemoteType2 × GoError) DecodedRemoteType2

section Decoding

variable (digest : RemoteHash)

/-- The identity and the flags of a path with the given NLRI bytes. -/
def identifyPath (path : RemotePath) (routeType : Nat) (wire : Bytes) :
    DecodedRemoteType2 :=
  let source : RemotePathIdentity :=
    { key := ""
      neighborIP := path.neighborIP
      sourceID := path.sourceID
      sourceASN := path.sourceASN
      identifier := path.identifier
      localIdentifier := path.localIdentifier }
  { DecodedRemoteType2.blank with
    routeType := routeType
    source := { source with key := digest (.path (hexEncode wire) source) }
    best := path.best
    stale := path.stale
    filtered := path.filtered
    nexthopInvalid := path.isNexthopInvalid }

def classifyPath (path : RemotePath) : Option Classification :=
  if path.isWithdraw then some .withdrawn
  else if path.neighborIP = "" ∧ !path.isFromExternal then some .local
  else if (parseIP path.neighborIP).isSome ∧ (parseIP path.sourceID).isSome ∧
      path.sourceASN ≠ 0 then some .remote
  else none

/-- The loop over `path.Pattrs`. -/
def checkPattrs : List (Option (Option Nat)) → Except GoError Unit
  | [] => .ok ()
  | none :: _ => .error (.new "nil path attribute" "")
  | some none :: rest => checkPattrs rest
  | some (some nextHops) :: rest =>
      if nextHops ≠ 1 then
        .error (.new "exactly one MP_REACH next-hop required" "")
      else checkPattrs rest

def isRouteTarget (community : RemoteCommunity) : Bool :=
  community.subtype == 2 &&
    (community.type == 0 || community.type == 1 || community.type == 2)

/-- The loop over the extended communities. -/
def readCommunities (route : DecodedRemoteType2) :
    List RemoteCommunity → Decoding
  | [] => .ok route
  | community :: rest =>
      if isRouteTarget community then
        readCommunities { route with
          routeTargets := route.routeTargets ++ [community.text] } rest
      else
        match community.encapsulation with
        | some tunnel =>
            readCommunities { route with
              encapsulation := route.encapsulation ++ [tunnel] } rest
        | none =>
            .error (route, .new "unsupported extended community "
              community.text)

/-- One attribute, after its type has been found new. -/
def readAttribute (wire : Bytes) (route : DecodedRemoteType2)
    (type : Nat) : RemoteAttributeValue → Decoding
  | .origin value =>
      if 2 < value then .error (route, .new "invalid origin" "") else .ok route
  | .mpReachNLRI afi safi linkLocal value nexthop =>
      if afi ≠ afiL2VPN ∨ safi ≠ safiEVPN ∨ linkLocal = true then
        .error (route, .new "unsupported MP_REACH family/next-hop" "")
      else
        match value with
        | [some reached] =>
            match reached with
            | .ok bytes =>
                if bytes ≠ wire then
                  .error (route,
                    .new "MP_REACH NLRI differs from path NLRI" "")
                else .ok { route with nextHop := addrText nexthop }
            | .error _ =>
                .error (route, .new "MP_REACH NLRI differs from path NLRI" "")
        | _ =>
            .error (route,
              .new "exactly one matching MP_REACH NLRI required" "")
  | .nextHop =>
      .error (route, .new "EVPN requires MP_REACH next-hop" "")
  | .extendedCommunities value => readCommunities route value
  | .tunnelEncap =>
      .error (route, .new "tunnel encapsulation attribute unsupported; "
        "VXLAN extended community required")
  | .accepted => .ok route
  | .other =>
      .error (route, .new "unsupported path attribute " (toString type))

/-- The loop over the native attributes; `seen` and `bytes` are those of the
attributes before. -/
def readAttributes (wire : Bytes) :
    List RemoteAttribute → List Nat → List String → DecodedRemoteType2 →
      Except (DecodedRemoteType2 × GoError)
        (DecodedRemoteType2 × List Nat × List String)
  | [], seen, bytes, route => .ok (route, seen, bytes)
  | item :: rest, seen, bytes, route =>
      if item.type ∈ seen then
        .error (route,
          .new "duplicate path attribute " (toString item.type))
      else
        match item.serialize with
        | .error reason => .error (route, reason)
        | .ok text => do
            let read ← readAttribute wire route item.type item.value
            readAttributes wire rest (item.type :: seen)
              (bytes ++ [hexEncode text]) read

def decodeAttributes (path : RemotePath) (wire : Bytes)
    (route : DecodedRemoteType2) : Decoding :=
  match checkPattrs path.pattrs with
  | .error reason => .error (route, reason)
  | .ok _ =>
      match path.nativePathAttributes with
      | .error reason =>
          .error (route, reason.extend "decode path attributes: " "")
      | .ok attributes => do
          let (read, seen, bytes) ← readAttributes wire attributes [] [] route
          if 1 ∈ seen ∧ 14 ∈ seen ∧ 16 ∈ seen then
            .ok { read with
              attributeKey := digest (.strings (sortStrings bytes))
              routeTargets := sortStrings read.routeTargets
              encapsulation := sortStrings read.encapsulation }
          else
            .error (read, .new "missing required origin, MP_REACH or "
              "extended communities")

def inconsistentIPLength (advertised : MacIPAdvertisement) : Bool :=
  match advertised.ipAddress with
  | some (.v4 _) => advertised.ipAddressLength != 32
  | some (.v6 _ _) => advertised.ipAddressLength != 128
  | none => true

/-- The part of the decoder for MAC/IP advertisements. -/
def decodeMacIP (path : RemotePath) (wire : Bytes)
    (route : DecodedRemoteType2) (advertised : MacIPAdvertisement)
    (rd : String) : Decoding :=
  let route := { route with
    rd := rd
    mac := macString advertised.macAddress
    ethernetTag := advertised.ethernetTag
    ip := if advertised.ipAddressLength = 0 then route.ip
      else addrText advertised.ipAddress }
  if advertised.ipAddressLength ≠ 0 ∧
      inconsistentIPLength advertised = true then
    .error (route, .new "inconsistent IP length" "")
  else if advertised.macAddressLength ≠ 48 ∨
      advertised.macAddress.length ≠ 6 then
    .error (route, .new "invalid MAC length" "")
  else
    match advertised.esi with
    | .error reason => .error (route, reason)
    | .ok esi =>
        let route := { route with
          esi := hexEncode esi
          labels := advertised.labels }
        if path.isWithdraw = true ∨ route.classification = .local then
          .ok route
        else decodeAttributes digest path wire route

def decodeRemoteType2 : Option RemotePath → Decoding
  | none => .error (.blank, .new "expected EVPN AFI/SAFI" "")
  | some path =>
      if path.afi ≠ afiL2VPN ∨ path.safi ≠ safiEVPN then
        .error (.blank, .new "expected EVPN AFI/SAFI" "")
      else
        match path.nativeNLRI with
        | .error reason =>
            .error (.blank, reason.extend "decode EVPN NLRI: " "")
        | .ok none =>
            .error (.blank, .new "non-EVPN NLRI in EVPN table" "")
        | .ok (some nlri) =>
            match nlri.serialize with
            | .error reason =>
                .error ({ DecodedRemoteType2.blank with
                  routeType := nlri.routeType }, reason)
            | .ok wire =>
                let route := identifyPath digest path nlri.routeType wire
                match classifyPath path with
                | none => .error (route, .new "ambiguous route source" "")
                | some classification =>
                    let route := { route with
                      classification := classification }
                    if nlri.routeType ≠ macIPAdvertisementType then .ok route
                    else
                      match nlri.routeTypeData with
                      | some advertised =>
                          match advertised.rd with
                          | some rd =>
                              decodeMacIP digest path wire route advertised rd
                          | none =>
                              .error (route,
                                .new "missing Type-2 route data or RD" "")
                      | none =>
                          .error (route,
                            .new "missing Type-2 route data or RD" "")

end Decoding

/-- `IsGlobalUnicast` and not `IsLoopback`, for the bytes of an IPv4
address. -/
def globalUnicastIPv4 : Bytes → Bool
  | [first, second, third, fourth] =>
      [first, second, third, fourth] != [0, 0, 0, 0] &&
        [first, second, third, fourth] != [255, 255, 255, 255] &&
        first != 127 && !(224 ≤ first && first < 240) &&
        !(first == 169 && second == 254)
  | _ => false

def unicastIPv4 (value : String) : Bool :=
  match parseAddr value with
  | some (.v4 bytes) => globalUnicastIPv4 bytes
  | _ => false

structure RemoteImportNetwork where
  networkID : String
  vni : Nat
  importRouteTargets : List String
  allowedVTEPs : List String
  deriving DecidableEq, Repr

structure RemoteImportConfig where
  localVTEP : String
  networks : List RemoteImportNetwork
  deriving DecidableEq, Repr

/-- What the policy uses of GoBGP's `bgp` package: which route distinguishers
it parses, and the text of a parsed route target. -/
structure RoutePackage where
  parsesRouteDistinguisher : String → Bool
  parseRouteTarget : String → Option String

namespace RemoteImportConfig

variable (package : RoutePackage)

/-- The loop of `Validate` over the route targets of a network. -/
def validateTargets (networkID : String) :
    List String → Except GoError Unit
  | [] => .ok ()
  | target :: rest =>
      if package.parseRouteTarget target = some target then
        validateTargets networkID rest
      else
        .error (.new "network "
          (networkID ++ " invalid/noncanonical import RT \"" ++ target ++
            "\""))

/-- The loop of `Validate` over the allowed VTEPs of a network. -/
def validateVTEPs (localVTEP networkID : String) :
    List String → Except GoError Unit
  | [] => .ok ()
  | vtep :: rest =>
      if !unicastIPv4 vtep || vtep == localVTEP then
        .error (.new "network "
          (networkID ++ " invalid/locally owned remote VTEP \"" ++ vtep ++
            "\""))
      else validateVTEPs localVTEP networkID rest

/-- The loop of `Validate` over the networks; `names` and `vnis` are those of
the networks before. -/
def validateNetworks (localVTEP : String) :
    List RemoteImportNetwork → List String → List Nat → Except GoError Unit
  | [], _, _ => .ok ()
  | network :: rest, names, vnis =>
      if isBlank network.networkID || names.contains network.networkID ||
          network.vni == 0 || 16777215 < network.vni ||
          vnis.contains network.vni then
        .error (.new "unique network IDs and explicit unique VNIs in "
          "1..16777215 required")
      else if network.importRouteTargets.isEmpty ||
          network.allowedVTEPs.isEmpty then
        .error (.new "network "
          (network.networkID ++
            " requires explicit import RT and VTEP allowlists"))
      else do
        validateTargets package network.networkID network.importRouteTargets
        validateVTEPs localVTEP network.networkID network.allowedVTEPs
        validateNetworks localVTEP rest (network.networkID :: names)
          (network.vni :: vnis)

def validate (config : RemoteImportConfig) : Except GoError Unit :=
  if !unicastIPv4 config.localVTEP || config.networks.isEmpty then
    .error (.new "explicit local IPv4 VTEP and import networks required" "")
  else validateNetworks package config.localVTEP config.networks [] []

def containsRemote (values : List String) (value : String) : Bool :=
  values.any fun candidate => candidate == value

/-- The multicast bit of a hardware address. -/
def multicastMAC : Bytes → Bool
  | first :: _ => first &&& 1 != 0
  | [] => false

/-- The loop of `ValidateRoute` over the networks. -/
def matchNetwork (route : DecodedRemoteType2) (label : Nat) :
    List RemoteImportNetwork → Except GoError ValidatedRemoteRoute
  | [] => .error (.new "no configured VNI mapping" "")
  | network :: rest =>
      if network.vni ≠ label then matchNetwork route label rest
      else if !containsRemote network.allowedVTEPs route.nextHop then
        .error (.new "remote VTEP not allowlisted" "")
      else if network.importRouteTargets.any fun target =>
          containsRemote route.routeTargets target then
        .ok ⟨network.networkID, network.vni, route⟩
      else .error (.new "no import RT intersection" "")

/-- The hardware address and the optional IPv4 address are supported. -/
def supportedAddresses (route : DecodedRemoteType2) : Bool :=
  match parseMAC route.mac with
  | some mac =>
      mac.length == 6 && !multicastMAC mac &&
        route.mac != "00:00:00:00:00:00" &&
        (route.ip == "" || unicastIPv4 route.ip)
  | none => false

def validateRoute (config : RemoteImportConfig)
    (route : DecodedRemoteType2) : Except GoError ValidatedRemoteRoute :=
  if route.classification ≠ .remote ∨
      route.routeType ≠ macIPAdvertisementType ∨ route.stale = true ∨
      route.filtered = true ∨ route.nexthopInvalid = true then
    .error (.new "not an eligible current remote Type-2 path" "")
  else if package.parsesRouteDistinguisher route.rd = false then
    .error (.new "invalid RD" "")
  else if supportedAddresses route = false then
    .error (.new "unsupported unicast MAC/optional IPv4" "")
  else
    match route.labels with
    | [label] =>
        if route.esi ≠ "00000000000000000000" ∨ route.ethernetTag ≠ 0 ∨
            route.encapsulation ≠ ["vxlan"] then
          .error (.new "only zero ESI/tag, one VXLAN VNI and explicit VXLAN "
            "encapsulation supported")
        else if !unicastIPv4 route.nextHop ||
            route.nextHop == config.localVTEP then
          .error (.new "invalid or local path next-hop" "")
        else matchNetwork route label config.networks
    | _ =>
        .error (.new "only zero ESI/tag, one VXLAN VNI and explicit VXLAN "
          "encapsulation supported")

end RemoteImportConfig

/-- A package that parses everything and finds every text canonical. -/
def samplePackage : RoutePackage :=
  { parsesRouteDistinguisher := fun _ => true
    parseRouteTarget := some }

/-- One network with one remote VTEP. -/
def sampleImportConfig : RemoteImportConfig :=
  { localVTEP := "192.0.2.1"
    networks := [⟨"blue", 100, ["65000:100"], ["192.0.2.2"]⟩] }

example : sampleImportConfig.validate samplePackage = .ok () := by rfl

end EvpnForOvn.Evpn

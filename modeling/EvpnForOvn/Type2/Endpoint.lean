import EvpnForOvn.Go.Error
import EvpnForOvn.Go.Map
import EvpnForOvn.Go.Net

/-!
# Endpoints and their Type-2 routes

A local endpoint, its validation and the EVPN Type-2 route built from it.  The
packet library is a parameter: the code only parses route distinguishers and
route targets with it, builds NLRIs and attributes, and reads their text and
their bytes.
-/

namespace EvpnForOvn.Evpn

open Go

/-- `bgp.PathAttributeInterface`, by the dynamic types the code tells
apart. -/
inductive Attribute (Community Other : Type) where
  | origin (value : Nat)
  | nextHop (value : Addr)
  | mpReachNLRI (nexthop : Option Addr)
  | extendedCommunities (value : List Community)
  | other (value : Other)

/-- What the code uses of GoBGP's `bgp` package. -/
structure BgpPackage where
  RouteDistinguisher : Type
  ExtendedCommunity : Type
  EVPNNLRI : Type
  /-- Attributes the code does not look into. -/
  OtherAttribute : Type
  parseRouteDistinguisher : String → Except GoError RouteDistinguisher
  parseRouteTarget : String → Except GoError ExtendedCommunity
  /-- `&bgp.EncapExtended` with the VXLAN tunnel type. -/
  encapVXLAN : ExtendedCommunity
  /-- `Sequence` and `IsSticky` of a `MacMobilityExtended`. -/
  macMobility : ExtendedCommunity → Option (Nat × Bool)
  serializeCommunity : ExtendedCommunity → Except GoError Bytes
  /-- The `Value` of `NewPathAttributeNextHop`. -/
  newPathAttributeNextHop : Addr → Except GoError Addr
  /-- `NewEVPNNLRI` on a MAC/IP advertisement without an IP address. -/
  newMACOnlyNLRI : RouteDistinguisher → Bytes → Nat → EVPNNLRI
  /-- `NewEVPNMacIPAdvertisementRoute` with the zero segment and tag. -/
  newEVPNMacIPAdvertisementRoute :
    RouteDistinguisher → String → Addr → Nat → Except GoError EVPNNLRI
  nlriString : EVPNNLRI → String
  serializeNLRI : EVPNNLRI → Except GoError Bytes
  serializeAttribute :
    Attribute ExtendedCommunity OtherAttribute → Except GoError Bytes

abbrev PathAttribute (bgp : BgpPackage) : Type :=
  Attribute bgp.ExtendedCommunity bgp.OtherAttribute

/-- `bgp.BGP_ORIGIN_ATTR_TYPE_IGP` -/
def originIGP : Nat := 0

inductive RouteAction where
  | advertise
  | withdraw
  deriving DecidableEq, Repr

structure LocalEndpoint where
  networkID : String
  endpointID : String
  incarnation : String
  macAddress : String
  ipAddresses : List String
  vni : Nat
  routeDistinguisher : String
  routeTargets : List String
  localVTEP : String
  nodeName : String
  chassis : String
  advertise : Bool
  macOnly : Bool
  deriving DecidableEq, Repr

structure OwnedType2Route where
  endpoint : LocalEndpoint
  pathUUID : String
  deriving DecidableEq, Repr

/-- `operation` is the address of the planned operation. -/
structure Type2Route (bgp : BgpPackage) where
  endpoint : LocalEndpoint
  action : RouteAction
  nlri : bgp.EVPNNLRI
  pathAttributes : List (PathAttribute bgp)
  operation : Option Nat

/-- `isLocal` is the field `Local`; `nlri` is a pointer. -/
structure Type2RIBPath (bgp : BgpPackage) where
  pathUUID : String
  isLocal : Bool
  nlri : Option bgp.EVPNNLRI
  pathAttributes : List (PathAttribute bgp)

def equalStringSet (lhs rhs : List String) : Bool :=
  lhs.length == rhs.length && sortStrings lhs == sortStrings rhs

/-- The first address of the list that parses, without its mask. -/
def primaryIP : List String → String
  | [] => ""
  | address :: rest =>
      let trimmed := trimSpace address
      if trimmed = "" then primaryIP rest
      else
        match (if trimmed.toList.contains '/' then parseCIDR trimmed
          else none) with
        | some ip => ipString ip
        | none =>
            match parseIP trimmed with
            | some ip => ipString ip
            | none => primaryIP rest

namespace LocalEndpoint

def equivalent (endpoint other : LocalEndpoint) : Bool :=
  endpoint.networkID == other.networkID &&
    endpoint.endpointID == other.endpointID &&
    endpoint.incarnation == other.incarnation &&
    endpoint.routeDistinguisher == other.routeDistinguisher &&
    endpoint.macAddress == other.macAddress &&
    endpoint.vni == other.vni &&
    endpoint.macOnly == other.macOnly &&
    primaryIP endpoint.ipAddresses == primaryIP other.ipAddresses &&
    endpoint.localVTEP == other.localVTEP &&
    equalStringSet endpoint.routeTargets other.routeTargets

/-- `%q` on a text without characters to escape. -/
def quoted (text : String) : String :=
  "\"" ++ text ++ "\""

/-- A step of `Validate`: an error when the condition holds. -/
def refuse (condition : Bool) (reason : GoError) : Except GoError Unit :=
  if condition then .error reason else .ok ()

theorem refuse_eq_ok {condition : Bool} {reason : GoError} :
    refuse condition reason = .ok () ↔ condition = false := by
  cases condition with
  | true => simp [refuse]
  | false => simp [refuse]

def validate (bgp : BgpPackage) (endpoint : LocalEndpoint) :
    Except GoError Unit := do
  refuse (isBlank endpoint.networkID) (.new "network id is required" "")
  refuse (isBlank endpoint.endpointID) (.new "endpoint id is required" "")
  refuse (isBlank endpoint.incarnation) (.new "incarnation is required" "")
  refuse (isBlank endpoint.macAddress) (.new "mac address is required" "")
  refuse (parseAddr endpoint.localVTEP).isNone
    (.new "invalid local vtep " (quoted endpoint.localVTEP))
  refuse (endpoint.vni == 0) (.new "vni must be non-zero" "")
  refuse (isBlank endpoint.routeDistinguisher)
    (.new "route distinguisher is required" "")
  refuse (bgp.parseRouteDistinguisher endpoint.routeDistinguisher).isOk.not
    (.new "invalid route distinguisher " (quoted endpoint.routeDistinguisher))
  refuse endpoint.routeTargets.isEmpty
    (.new "at least one route target is required" "")
  match endpoint.routeTargets.find? fun target =>
      (bgp.parseRouteTarget target).isOk.not with
  | some target => throw (.new "invalid route target " (quoted target))
  | none => do
      let _ ← bgp.parseRouteTarget (endpoint.routeTargets.headD "")
      refuse (parseMAC endpoint.macAddress).isNone
        (.new "invalid mac address " (quoted endpoint.macAddress))
      if endpoint.macOnly then
        refuse (!endpoint.ipAddresses.isEmpty)
          (.new "MAC-only advertisement cannot contain IP addresses" "")
      else
        refuse (primaryIP endpoint.ipAddresses == "")
          (.new "at least one ip address is required for EVPN Type-2 "
            "advertisement")

end LocalEndpoint

def parseSelectedIP (addresses : List String) : Except GoError Addr :=
  let text := primaryIP addresses
  if text = "" then .error (.new "no host ip available" "")
  else
    match parseAddr text with
    | some address => .ok address
    | none => .error (.new "ParseAddr: " text)

/-- The NLRI of an endpoint. -/
def buildNLRI (bgp : BgpPackage) (endpoint : LocalEndpoint)
    (rd : bgp.RouteDistinguisher) : Except GoError bgp.EVPNNLRI :=
  if endpoint.macOnly then
    .ok (bgp.newMACOnlyNLRI rd
      ((parseMAC endpoint.macAddress).getD []) endpoint.vni)
  else do
    let address ← parseSelectedIP endpoint.ipAddresses
    bgp.newEVPNMacIPAdvertisementRoute rd endpoint.macAddress address
      endpoint.vni

def buildType2Route (bgp : BgpPackage) (endpoint : LocalEndpoint) :
    Except GoError (Type2Route bgp) := do
  endpoint.validate bgp
  let vtep ← match parseAddr endpoint.localVTEP with
    | some address => .ok address
    | none => .error (.new "ParseAddr: " endpoint.localVTEP)
  let rd ← bgp.parseRouteDistinguisher endpoint.routeDistinguisher
  let nlri ← buildNLRI bgp endpoint rd
  let routeTargets ← endpoint.routeTargets.mapM bgp.parseRouteTarget
  let nextHop ← bgp.newPathAttributeNextHop vtep
  return {
    endpoint := endpoint
    action := .advertise
    nlri := nlri
    pathAttributes := [
      .origin originIGP,
      .nextHop nextHop,
      .extendedCommunities (routeTargets ++ [bgp.encapVXLAN])]
    operation := none }

/-- The key of an endpoint's wire route, when its route can be built. -/
def wireKey (bgp : BgpPackage) (endpoint : LocalEndpoint) : Option String :=
  match buildType2Route bgp endpoint with
  | .ok route => some (bgp.nlriString route.nlri)
  | .error _ => none

theorem wireKey_eq_some_iff {bgp : BgpPackage} {endpoint : LocalEndpoint}
    {key : String} :
    wireKey bgp endpoint = some key ↔
      ∃ route, buildType2Route bgp endpoint = .ok route ∧
        bgp.nlriString route.nlri = key := by
  unfold wireKey
  cases built : buildType2Route bgp endpoint with
  | error reason => simp
  | ok route => simp

def pathNextHop {bgp : BgpPackage} : List (PathAttribute bgp) → String
  | [] => ""
  | .nextHop value :: _ => value.string
  | .mpReachNLRI (some nexthop) :: _ => nexthop.string
  | .mpReachNLRI none :: _ => "invalid IP"
  | _ :: rest => pathNextHop rest

/-- `string(value)`: one character for each byte. -/
def byteString (bytes : Bytes) : String :=
  String.ofList (bytes.map fun byte => Char.ofNat byte.toNat)

/-- The serialized extended communities of a route. -/
def communities {bgp : BgpPackage} (attributes : List (PathAttribute bgp)) :
    Except GoError (List String) :=
  (attributes.flatMap fun
    | .extendedCommunities value => value
    | _ => []).mapM fun community =>
      (bgp.serializeCommunity community).map byteString

/-- The communities without an initial, non-sticky MAC mobility. -/
def withoutInitialMobility {bgp : BgpPackage}
    (attributes : List (PathAttribute bgp)) : List (PathAttribute bgp) :=
  attributes.map fun
    | .extendedCommunities value => .extendedCommunities
        (value.filter fun community =>
          bgp.macMobility community != some (0, false))
    | other => other

/-- The last origin attribute decides. -/
def originMatches {bgp : BgpPackage} (attributes : List (PathAttribute bgp)) :
    Bool :=
  attributes.foldl (fun found item =>
    match item with
    | .origin value => value == originIGP
    | _ => found) false

def ribPathMatchesEndpoint (bgp : BgpPackage) (path : Type2RIBPath bgp)
    (endpoint : LocalEndpoint) : Bool :=
  match buildType2Route bgp endpoint, path.nlri with
  | .ok want, some nlri =>
      match bgp.serializeNLRI nlri, bgp.serializeNLRI want.nlri with
      | .ok gotNLRI, .ok wantNLRI =>
          gotNLRI == wantNLRI &&
          pathNextHop path.pathAttributes ==
            pathNextHop want.pathAttributes &&
          originMatches path.pathAttributes &&
          match communities want.pathAttributes,
              communities (withoutInitialMobility path.pathAttributes) with
          | .ok wantRT, .ok filteredRT => equalStringSet filteredRT wantRT
          | _, _ => false
      | _, _ => false
  | _, _ => false

theorem buildType2Route_endpoint {bgp : BgpPackage} {endpoint : LocalEndpoint}
    {route : Type2Route bgp}
    (built : buildType2Route bgp endpoint = .ok route) :
    route.endpoint = endpoint := by
  unfold buildType2Route at built
  simp only [bind, Except.bind] at built
  repeat' split at built
  all_goals cases built
  rfl

theorem equalStringSet_iff_perm {lhs rhs : List String} :
    equalStringSet lhs rhs = true ↔ lhs.Perm rhs := by
  unfold equalStringSet
  rw [Bool.and_eq_true, beq_iff_eq, beq_iff_eq, sortStrings_eq_iff_perm]
  constructor
  · intro both
    exact both.2
  · intro permuted
    exact ⟨permuted.length_eq, permuted⟩

/-- The fields `Equivalent` compares. -/
def LocalEndpoint.advertised (endpoint : LocalEndpoint) :
    LocalEndpoint × String :=
  ({ endpoint with
      ipAddresses := []
      routeTargets := sortStrings endpoint.routeTargets
      nodeName := ""
      chassis := ""
      advertise := true },
    primaryIP endpoint.ipAddresses)

theorem LocalEndpoint.equivalent_iff {endpoint other : LocalEndpoint} :
    endpoint.equivalent other = true ↔
      endpoint.advertised = other.advertised := by
  unfold equivalent advertised
  simp only [Bool.and_eq_true, beq_iff_eq, equalStringSet_iff_perm,
    ← sortStrings_eq_iff_perm, Prod.mk.injEq, LocalEndpoint.mk.injEq]
  tauto

end EvpnForOvn.Evpn

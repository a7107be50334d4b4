import EvpnForOvn.Type2.Endpoint

/-!
# Type-2 routes on the wire

An instance of the packet library, limited to what the code builds: route
distinguishers and route targets of the form `number:number`, MAC/IP
advertisements with one label, and the VXLAN and MAC mobility communities.
The text of an NLRI is the key of GoBGP's table and leaves the label out; its
bytes contain the label and the first six bytes of the MAC address.  A label
of more than three bytes is refused.
-/

namespace EvpnForOvn.Evpn

open Go

structure WireNLRI where
  rd : Nat × Nat
  mac : Bytes
  ip : Option Addr
  label : Nat
  deriving DecidableEq, Repr

inductive WireCommunity where
  | routeTarget (value : Nat × Nat)
  | encapVXLAN
  | macMobility (sequence : Nat) (sticky : Bool)
  deriving DecidableEq, Repr

namespace Wire

def parseNumber (characters : List Char) : Option Nat := do
  let digits ← characters.mapM decimalDigit
  if digits.isEmpty then none
  else some (digits.foldl (fun value digit => value * 10 + digit) 0)

def parsePair (text : String) : Except GoError (Nat × Nat) :=
  match text.toList.splitOn ':' with
  | [first, second] =>
      match parseNumber first, parseNumber second with
      | some high, some low => .ok (high, low)
      | _, _ => .error (.new "failed to parse " text)
  | _ => .error (.new "failed to parse " text)

def numberBytes : Nat → Nat → Bytes
  | 0, _ => []
  | width + 1, value =>
      numberBytes width (value / 256) ++ [UInt8.ofNat (value % 256)]

def pairBytes (value : Nat × Nat) : Bytes :=
  numberBytes 2 value.1 ++ numberBytes 4 value.2

def addressBytes : Option Addr → Bytes
  | none => [0]
  | some (.v4 bytes) => 32 :: bytes
  | some (.v6 bytes _) => 128 :: bytes

def pairText (value : Nat × Nat) : List Char :=
  Nat.toDigits 10 value.1 ++ ':' :: Nat.toDigits 10 value.2

def nlriText (nlri : WireNLRI) : String :=
  String.ofList ("[type:macadv][rd:".toList ++ pairText nlri.rd ++
    "][etag:0][mac:".toList ++ (macString nlri.mac).toList ++
    "][ip:".toList ++
    (match nlri.ip with
      | none => "invalid IP".toList
      | some address => address.string.toList) ++ "]".toList)

/-- The segment identifier and the tag are zero. -/
def nlriBytes (nlri : WireNLRI) : Bytes :=
  [2, 0, 0] ++ pairBytes nlri.rd ++ List.replicate 14 0 ++
    48 :: nlri.mac.take 6 ++ addressBytes nlri.ip ++
    numberBytes 3 nlri.label

def serializeNLRI (nlri : WireNLRI) : Except GoError Bytes :=
  if 0xffffff < nlri.label then
    .error (.new "Out of range Label: " (toString nlri.label))
  else .ok (nlriBytes nlri)

def communityBytes : WireCommunity → Bytes
  | .routeTarget value => [0, 2] ++ pairBytes value
  | .encapVXLAN => [3, 12, 0, 0, 0, 0, 0, 8]
  | .macMobility sequence sticky =>
      [6, 0, if sticky then 1 else 0, 0] ++ numberBytes 4 sequence

/-- An attribute with its flags, its type and its length. -/
def attributeBytes : Attribute WireCommunity Empty → Bytes
  | .origin value => [64, 1, 1] ++ numberBytes 1 value
  | .nextHop value => framed 64 3 (addressBytes (some value))
  | .mpReachNLRI nexthop => framed 128 14 (addressBytes nexthop)
  | .extendedCommunities value =>
      framed 192 16 (value.flatMap communityBytes)
where
  framed (flags kind : UInt8) (value : Bytes) : Bytes :=
    [flags, kind] ++ numberBytes 1 value.length ++ value

end Wire

open Wire in
def wireBgp : BgpPackage :=
  { RouteDistinguisher := Nat × Nat
    ExtendedCommunity := WireCommunity
    EVPNNLRI := WireNLRI
    OtherAttribute := Empty
    parseRouteDistinguisher := parsePair
    parseRouteTarget := fun text => (parsePair text).map .routeTarget
    encapVXLAN := .encapVXLAN
    macMobility := fun
      | .macMobility sequence sticky => some (sequence, sticky)
      | _ => none
    serializeCommunity := fun community => .ok (communityBytes community)
    newPathAttributeNextHop := .ok
    newMACOnlyNLRI := fun rd mac label => ⟨rd, mac, none, label⟩
    newEVPNMacIPAdvertisementRoute := fun rd mac address label =>
      match parseMAC mac with
      | some bytes => .ok ⟨rd, bytes, some address, label⟩
      | none => .error (.new "invalid mac" (" address " ++ mac))
    nlriString := nlriText
    serializeNLRI := serializeNLRI
    serializeAttribute := fun item => .ok (attributeBytes item) }

/-- An endpoint of the pod network. -/
def sampleEndpoint : LocalEndpoint :=
  { networkID := "pods"
    endpointID := "pod-a"
    incarnation := "1"
    macAddress := "00:00:5e:00:53:01"
    ipAddresses := ["10.0.0.1"]
    vni := 1000
    routeDistinguisher := "65000:1000"
    routeTargets := ["65000:1000"]
    localVTEP := "192.0.2.1"
    nodeName := "node-a"
    chassis := "chassis-a"
    advertise := true
    macOnly := false }

def sampleKey : String :=
  "[type:macadv][rd:65000:1000][etag:0]" ++
    "[mac:00:00:5e:00:53:01][ip:10.0.0.1]"

theorem wireKey_sampleEndpoint :
    wireKey wireBgp sampleEndpoint = some sampleKey := by
  decide +kernel

def sampleRoute : Type2Route wireBgp :=
  { endpoint := sampleEndpoint
    action := .advertise
    nlri := ⟨(65000, 1000), [0, 0, 94, 0, 83, 1], some (.v4 [10, 0, 0, 1]),
      1000⟩
    pathAttributes := [
      .origin originIGP,
      .nextHop (.v4 [192, 0, 2, 1]),
      .extendedCommunities [.routeTarget (65000, 1000), .encapVXLAN]]
    operation := none }

/-- The path of the sample route in the RIB of its speaker. -/
def samplePath (uuid : String) : Type2RIBPath wireBgp :=
  { pathUUID := uuid
    isLocal := true
    nlri := some sampleRoute.nlri
    pathAttributes := sampleRoute.pathAttributes }

end EvpnForOvn.Evpn

import EvpnForOvn.Go.NetText
import EvpnForOvn.Type2.Wire

/-!
# What an advertised route carries

The route of a valid endpoint is serialized by the packet library, whose
format has six bytes for a MAC address and three for a label.  Validation
takes any hardware address and any non-zero VNI of 32 bits.  The route
carries the endpoint's own values exactly when they fit those fields.
-/

namespace EvpnForOvn.Evpn

open Go

structure DecodedNLRI (RouteDistinguisher : Type) where
  rd : RouteDistinguisher
  mac : Bytes
  ip : Option Addr
  labels : List Nat
  deriving DecidableEq

/-- An address of a host: without a zone. -/
def HostAddress : Addr → Prop
  | .v4 bytes => bytes.length = 4
  | .v6 bytes zone => bytes.length = 16 ∧ zone = ""

/-- A reader of the NLRIs that a packet library serializes.  It finds six
bytes for the MAC address and three for a label, and it reads back what fits
these fields. -/
structure WireFormat (bgp : BgpPackage) where
  decode : Bytes → Option (DecodedNLRI bgp.RouteDistinguisher)
  mac_width : ∀ bytes nlri, decode bytes = some nlri → nlri.mac.length = 6
  label_width : ∀ bytes nlri, decode bytes = some nlri →
    ∀ label ∈ nlri.labels, label < 2 ^ 24
  nextHop_built : ∀ address,
    ∃ value, bgp.newPathAttributeNextHop address = .ok value
  macIP_built : ∀ rd mac address label, (parseMAC mac).isSome = true →
    ∃ nlri, bgp.newEVPNMacIPAdvertisementRoute rd mac address label = .ok nlri
  decode_macIP : ∀ text rd mac macBytes address label nlri,
    bgp.parseRouteDistinguisher text = .ok rd →
    parseMAC mac = some macBytes → macBytes.length = 6 →
    HostAddress address → label < 2 ^ 24 →
    bgp.newEVPNMacIPAdvertisementRoute rd mac address label = .ok nlri →
    ∃ bytes, bgp.serializeNLRI nlri = .ok bytes ∧
      decode bytes = some ⟨rd, macBytes, some address, [label]⟩
  decode_macOnly : ∀ text rd macBytes label,
    bgp.parseRouteDistinguisher text = .ok rd →
    macBytes.length = 6 → label < 2 ^ 24 →
    ∃ bytes, bgp.serializeNLRI (bgp.newMACOnlyNLRI rd macBytes label) =
        .ok bytes ∧
      decode bytes = some ⟨rd, macBytes, none, [label]⟩

/-- The address that the route of an endpoint carries. -/
def LocalEndpoint.advertisedIP (endpoint : LocalEndpoint) : Option Addr :=
  if endpoint.macOnly then none
  else parseAddr (primaryIP endpoint.ipAddresses)

theorem primaryIP_eq_ipString {addresses : List String}
    (present : primaryIP addresses ≠ "") :
    ∃ ip : Bytes, ip.length = 16 ∧ primaryIP addresses = ipString ip := by
  induction addresses with
  | nil => exact absurd rfl present
  | cons address rest induction =>
      rw [primaryIP] at present ⊢
      split
      · rename_i blank
        rw [if_pos blank] at present
        exact induction present
      · rename_i given
        rw [if_neg given] at present
        cases prefixed : (if (trimSpace address).toList.contains '/' then
            parseCIDR (trimSpace address) else none) with
        | some ip =>
            refine ⟨ip, ?_, rfl⟩
            split at prefixed
            · exact length_of_parseCIDR prefixed
            · cases prefixed
        | none =>
            rw [prefixed] at present
            cases plain : parseIP (trimSpace address) with
            | some ip => exact ⟨ip, length_of_parseIP plain, rfl⟩
            | none =>
                rw [plain] at present
                exact induction present

theorem hostAddress_addrOf {ip : Bytes} (sixteen : ip.length = 16) :
    HostAddress (addrOf ip) := by
  unfold addrOf to4
  rw [if_neg (by rw [sixteen]; decide)]
  split
  · rename_i bytes mapped
    split at mapped
    · cases mapped
      exact (List.length_drop ..).trans (by rw [sixteen])
    · cases mapped
  · exact ⟨sixteen, rfl⟩

/-- The selected address of a list is read from its printed text. -/
theorem parseAddr_primaryIP {addresses : List String}
    (present : primaryIP addresses ≠ "") :
    ∃ address, parseAddr (primaryIP addresses) = some address ∧
      address.string = primaryIP addresses ∧ HostAddress address := by
  obtain ⟨ip, sixteen, same⟩ := primaryIP_eq_ipString present
  refine ⟨addrOf ip, ?_, ?_, hostAddress_addrOf sixteen⟩
  · rw [same, parseAddr_ipString sixteen]
  · rw [same, ipString_eq_string sixteen]

theorem not_refused {condition : Bool} {reason : GoError} {value : Unit}
    (passed : LocalEndpoint.refuse condition reason = .ok value) :
    condition = false := by
  cases condition with
  | false => rfl
  | true => cases passed

/-- What validation establishes for the route. -/
structure Advertisable (bgp : BgpPackage) (endpoint : LocalEndpoint) :
    Prop where
  vtep : (parseAddr endpoint.localVTEP).isSome = true
  rd : ∃ rd, bgp.parseRouteDistinguisher endpoint.routeDistinguisher = .ok rd
  routeTargets : ∀ target ∈ endpoint.routeTargets,
    ∃ value, bgp.parseRouteTarget target = .ok value
  mac : (parseMAC endpoint.macAddress).isSome = true
  ip : endpoint.macOnly = false → primaryIP endpoint.ipAddresses ≠ ""

theorem exists_ok_of_isOk {ε α : Type} {result : Except ε α}
    (passed : result.isOk.not = false) : ∃ value, result = .ok value := by
  cases result with
  | error reason => cases passed
  | ok value => exact ⟨value, rfl⟩

theorem advertisable_of_validate {bgp : BgpPackage} {endpoint : LocalEndpoint}
    (valid : endpoint.validate bgp = .ok ()) : Advertisable bgp endpoint := by
  unfold LocalEndpoint.validate at valid
  obtain ⟨_, _, valid⟩ := bind_eq_ok.mp valid
  obtain ⟨_, _, valid⟩ := bind_eq_ok.mp valid
  obtain ⟨_, _, valid⟩ := bind_eq_ok.mp valid
  obtain ⟨_, _, valid⟩ := bind_eq_ok.mp valid
  obtain ⟨_, vtep, valid⟩ := bind_eq_ok.mp valid
  obtain ⟨_, _, valid⟩ := bind_eq_ok.mp valid
  obtain ⟨_, _, valid⟩ := bind_eq_ok.mp valid
  obtain ⟨_, rd, valid⟩ := bind_eq_ok.mp valid
  obtain ⟨_, _, valid⟩ := bind_eq_ok.mp valid
  split at valid
  · cases valid
  · rename_i targets
    obtain ⟨_, _, valid⟩ := bind_eq_ok.mp valid
    obtain ⟨_, mac, valid⟩ := bind_eq_ok.mp valid
    refine ⟨?_, exists_ok_of_isOk (not_refused rd), ?_, ?_, ?_⟩
    · simpa using not_refused vtep
    · intro target member
      apply exists_ok_of_isOk
      simpa using List.find?_eq_none.mp targets target member
    · simpa using not_refused mac
    · intro withIP
      rw [withIP] at valid
      simpa using not_refused valid

theorem mapM_ok {ε α β : Type} {read : α → Except ε β} :
    ∀ {items : List α}, (∀ item ∈ items, ∃ value, read item = .ok value) →
      ∃ values, items.mapM read = .ok values
  | [], _ => ⟨[], rfl⟩
  | item :: rest, readable => by
      obtain ⟨value, itemRead⟩ := readable item (.head _)
      obtain ⟨values, restRead⟩ := mapM_ok
        fun other member => readable other (.tail _ member)
      refine ⟨value :: values, ?_⟩
      rw [List.mapM_cons, itemRead, restRead]
      rfl

/-- The route is built from the NLRI of the endpoint. -/
theorem buildType2Route_eq_ok {bgp : BgpPackage} {endpoint : LocalEndpoint}
    (valid : endpoint.validate bgp = .ok ())
    (advertisable : Advertisable bgp endpoint)
    (nextHopBuilt : ∀ address,
      ∃ value, bgp.newPathAttributeNextHop address = .ok value)
    {rd : bgp.RouteDistinguisher}
    (rdParsed : bgp.parseRouteDistinguisher endpoint.routeDistinguisher =
      .ok rd) {nlri : bgp.EVPNNLRI}
    (built : buildNLRI bgp endpoint rd = .ok nlri) :
    ∃ route, buildType2Route bgp endpoint = .ok route ∧
      route.nlri = nlri := by
  obtain ⟨vtep, vtepParsed⟩ := Option.isSome_iff_exists.mp advertisable.vtep
  obtain ⟨targets, targetsParsed⟩ := mapM_ok advertisable.routeTargets
  obtain ⟨nextHop, nextHopIs⟩ := nextHopBuilt vtep
  simp only [buildType2Route, bind, Except.bind, valid, vtepParsed, rdParsed,
    built, targetsParsed, nextHopIs, pure, Except.pure]
  exact ⟨_, rfl, rfl⟩

section Faithful

variable {bgp : BgpPackage} {endpoint : LocalEndpoint}

/-- The NLRI of a valid endpoint is built, and it is read back when its
values fit the fields. -/
theorem buildNLRI_decoded (wire : WireFormat bgp)
    (advertisable : Advertisable bgp endpoint)
    {rd : bgp.RouteDistinguisher} {mac : Bytes}
    (rdParsed : bgp.parseRouteDistinguisher endpoint.routeDistinguisher =
      .ok rd) (macParsed : parseMAC endpoint.macAddress = some mac) :
    ∃ nlri, buildNLRI bgp endpoint rd = .ok nlri ∧
      (mac.length = 6 → endpoint.vni < 2 ^ 24 →
        ∃ bytes, bgp.serializeNLRI nlri = .ok bytes ∧
          wire.decode bytes =
            some ⟨rd, mac, endpoint.advertisedIP, [endpoint.vni]⟩) := by
  unfold buildNLRI LocalEndpoint.advertisedIP
  cases only : endpoint.macOnly with
  | true =>
      refine ⟨_, rfl, ?_⟩
      intro six fits
      rw [macParsed]
      exact wire.decode_macOnly _ rd mac endpoint.vni rdParsed six fits
  | false =>
      have present := advertisable.ip only
      obtain ⟨address, parsed, _, host⟩ := parseAddr_primaryIP present
      obtain ⟨nlri, built⟩ := wire.macIP_built rd endpoint.macAddress address
        endpoint.vni advertisable.mac
      have selected : parseSelectedIP endpoint.ipAddresses = .ok address := by
        unfold parseSelectedIP
        dsimp only
        rw [if_neg present, parsed]
      refine ⟨nlri, ?_, ?_⟩
      · rw [selected]
        exact built
      · intro six fits
        rw [parsed]
        exact wire.decode_macIP _ rd _ mac address endpoint.vni nlri rdParsed
          macParsed six host fits built

/-- The serialized NLRI carries the endpoint's own values. -/
def Faithful (wire : WireFormat bgp) (endpoint : LocalEndpoint)
    (route : Type2Route bgp) : Prop :=
  ∃ rd mac bytes,
    bgp.parseRouteDistinguisher endpoint.routeDistinguisher = .ok rd ∧
    parseMAC endpoint.macAddress = some mac ∧
    bgp.serializeNLRI route.nlri = .ok bytes ∧
    wire.decode bytes =
      some ⟨rd, mac, endpoint.advertisedIP, [endpoint.vni]⟩

/-- The values of an endpoint fit the fields of the format. -/
def FitsWire (endpoint : LocalEndpoint) : Prop :=
  (∃ mac, parseMAC endpoint.macAddress = some mac ∧ mac.length = 6) ∧
    endpoint.vni < 2 ^ 24

/-- The route of a valid endpoint is built, and it is faithful when the
values fit. -/
theorem exists_route (wire : WireFormat bgp)
    (valid : endpoint.validate bgp = .ok ()) :
    ∃ route, buildType2Route bgp endpoint = .ok route ∧
      (FitsWire endpoint → Faithful wire endpoint route) := by
  have advertisable := advertisable_of_validate valid
  obtain ⟨rd, rdParsed⟩ := advertisable.rd
  obtain ⟨mac, macParsed⟩ := Option.isSome_iff_exists.mp advertisable.mac
  obtain ⟨nlri, built, decoded⟩ :=
    buildNLRI_decoded wire advertisable rdParsed macParsed
  obtain ⟨route, routeBuilt, same⟩ := buildType2Route_eq_ok valid advertisable
    wire.nextHop_built rdParsed built
  refine ⟨route, routeBuilt, ?_⟩
  intro fits
  obtain ⟨⟨fitting, fittingParsed, six⟩, small⟩ := fits
  cases fittingParsed.symm.trans macParsed
  obtain ⟨bytes, serialized, read⟩ := decoded six small
  exact ⟨rd, mac, bytes, rdParsed, macParsed, by rw [same, serialized], read⟩

theorem fitsWire_of_faithful {wire : WireFormat bgp} {route : Type2Route bgp}
    (faithful : Faithful wire endpoint route) : FitsWire endpoint := by
  obtain ⟨rd, mac, bytes, _, macParsed, _, read⟩ := faithful
  exact ⟨⟨mac, macParsed, wire.mac_width bytes _ read⟩,
    wire.label_width bytes _ read endpoint.vni (by simp)⟩

theorem validate_of_built {route : Type2Route bgp}
    (built : buildType2Route bgp endpoint = .ok route) :
    endpoint.validate bgp = .ok () := by
  unfold buildType2Route at built
  obtain ⟨_, valid, _⟩ := bind_eq_ok.mp built
  exact valid

/-- Faithful routes with the same bytes carry the same values. -/
theorem Faithful.unique {wire : WireFormat bgp} {other : LocalEndpoint}
    {route otherRoute : Type2Route bgp} {bytes : Bytes}
    (first : Faithful wire endpoint route)
    (second : Faithful wire other otherRoute)
    (firstBytes : bgp.serializeNLRI route.nlri = .ok bytes)
    (secondBytes : bgp.serializeNLRI otherRoute.nlri = .ok bytes) :
    bgp.parseRouteDistinguisher endpoint.routeDistinguisher =
        bgp.parseRouteDistinguisher other.routeDistinguisher ∧
      parseMAC endpoint.macAddress = parseMAC other.macAddress ∧
      endpoint.advertisedIP = other.advertisedIP ∧
      endpoint.vni = other.vni := by
  obtain ⟨rd, mac, _, rdParsed, macParsed, serialized, read⟩ := first
  obtain ⟨otherRD, otherMAC, _, otherRDParsed, otherMACParsed,
    otherSerialized, otherRead⟩ := second
  cases serialized.symm.trans firstBytes
  cases otherSerialized.symm.trans secondBytes
  have same := read.symm.trans otherRead
  simp only [Option.some.injEq, DecodedNLRI.mk.injEq, List.cons.injEq,
    and_true] at same
  obtain ⟨sameRD, sameMAC, sameIP, sameVNI⟩ := same
  exact ⟨by rw [rdParsed, otherRDParsed, sameRD],
    by rw [macParsed, otherMACParsed, sameMAC], sameIP, sameVNI⟩

/-- The route of a valid endpoint can be built.  It carries the endpoint's
values exactly when they fit, and routes with the same bytes carry the same
values. -/
theorem advertised_route_faithful_iff (wire : WireFormat bgp)
    (endpoint : LocalEndpoint) (valid : endpoint.validate bgp = .ok ()) :
    (endpoint.macOnly = false → ∃ address,
      endpoint.advertisedIP = some address ∧
        address.string = primaryIP endpoint.ipAddresses) ∧
    ∃ route, buildType2Route bgp endpoint = .ok route ∧
      (Faithful wire endpoint route ↔ FitsWire endpoint) ∧
      (FitsWire endpoint → ∀ other otherRoute bytes, FitsWire other →
        buildType2Route bgp other = .ok otherRoute →
        bgp.serializeNLRI route.nlri = .ok bytes →
        bgp.serializeNLRI otherRoute.nlri = .ok bytes →
          bgp.parseRouteDistinguisher endpoint.routeDistinguisher =
              bgp.parseRouteDistinguisher other.routeDistinguisher ∧
            parseMAC endpoint.macAddress = parseMAC other.macAddress ∧
            endpoint.advertisedIP = other.advertisedIP ∧
            endpoint.vni = other.vni) := by
  constructor
  · intro withIP
    obtain ⟨address, parsed, text, _⟩ :=
      parseAddr_primaryIP ((advertisable_of_validate valid).ip withIP)
    refine ⟨address, ?_, text⟩
    unfold LocalEndpoint.advertisedIP
    rw [withIP, parsed]
    rfl
  · obtain ⟨route, built, faithful⟩ := exists_route wire valid
    refine ⟨route, built, ⟨fitsWire_of_faithful, faithful⟩, ?_⟩
    intro fits other otherRoute bytes otherFits otherBuilt first second
    obtain ⟨same, sameBuilt, otherFaithful⟩ :=
      exists_route wire (validate_of_built otherBuilt)
    cases otherBuilt.symm.trans sameBuilt
    exact (faithful fits).unique (otherFaithful otherFits) first second

end Faithful

namespace Wire

def numberOf (bytes : Bytes) : Nat :=
  bytes.foldl (fun value byte => value * 256 + byte.toNat) 0

theorem length_numberBytes (width value : Nat) :
    (numberBytes width value).length = width := by
  induction width generalizing value with
  | zero => rfl
  | succ width induction =>
      rw [numberBytes, List.length_append, induction]
      rfl

theorem numberOf_numberBytes {width value : Nat}
    (small : value < 256 ^ width) :
    numberOf (numberBytes width value) = value := by
  induction width generalizing value with
  | zero =>
      have zero : value = 0 := by simpa using small
      rw [zero]
      rfl
  | succ width induction =>
      have higher : value / 256 < 256 ^ width := by
        rw [Nat.div_lt_iff_lt_mul (by decide), ← Nat.pow_succ]
        exact small
      have read := induction higher
      unfold numberOf at read ⊢
      rw [numberBytes, List.foldl_append, read]
      simp only [List.foldl_cons, List.foldl_nil, UInt8.toNat_ofNat']
      omega

theorem numberOf_lt (bytes : Bytes) : numberOf bytes < 256 ^ bytes.length := by
  induction bytes using List.reverseRecOn with
  | nil => decide
  | append_singleton bytes byte induction =>
      have small := byte.toNat_lt
      unfold numberOf at induction ⊢
      rw [List.foldl_append, List.length_append, List.length_singleton,
        Nat.pow_succ]
      simp only [List.foldl_cons, List.foldl_nil]
      omega

/-- A field of the given width and what follows it. -/
def field (width : Nat) (bytes : Bytes) : Option (Bytes × Bytes) :=
  if width ≤ bytes.length then some (bytes.take width, bytes.drop width)
  else none

theorem field_append {width : Nat} {bytes : Bytes} (rest : Bytes)
    (wide : bytes.length = width) :
    field width (bytes ++ rest) = some (bytes, rest) := by
  unfold field
  rw [if_pos (by rw [List.length_append]; omega), ← wide, List.take_left,
    List.drop_left]

theorem length_of_field {width : Nat} {bytes value rest : Bytes}
    (read : field width bytes = some (value, rest)) :
    value.length = width := by
  unfold field at read
  split at read
  · cases read
    rw [List.length_take]
    omega
  · cases read

/-- The address after its length in bits. -/
def readAddress : Bytes → Option (Option Addr × Bytes)
  | 0 :: rest => some (none, rest)
  | 32 :: rest => (field 4 rest).map fun (bytes, rest) =>
      (some (.v4 bytes), rest)
  | 128 :: rest => (field 16 rest).map fun (bytes, rest) =>
      (some (.v6 bytes ""), rest)
  | _ => none

/-- The reader of `nlriBytes`. -/
def decodeNLRI (bytes : Bytes) : Option (DecodedNLRI (Nat × Nat)) := do
  let (_, rest) ← field 3 bytes
  let (high, rest) ← field 2 rest
  let (low, rest) ← field 4 rest
  let (_, rest) ← field 15 rest
  let (mac, rest) ← field 6 rest
  let (ip, rest) ← readAddress rest
  let (label, rest) ← field 3 rest
  if rest = [] then
    return ⟨(numberOf high, numberOf low), mac, ip, [numberOf label]⟩
  else none

theorem readAddress_addressBytes {ip : Option Addr} (rest : Bytes)
    (host : ∀ address ∈ ip, HostAddress address) :
    readAddress (addressBytes ip ++ rest) = some (ip, rest) := by
  cases ip with
  | none => rfl
  | some address =>
      have shape := host address rfl
      cases address with
      | v4 bytes =>
          have read := field_append rest shape
          simp [addressBytes, readAddress, read]
      | v6 bytes zone =>
          obtain ⟨sixteen, rfl⟩ := shape
          have read := field_append rest sixteen
          simp [addressBytes, readAddress, read]

theorem decodeNLRI_nlriBytes {nlri : WireNLRI}
    (high : nlri.rd.1 < 2 ^ 16) (low : nlri.rd.2 < 2 ^ 32)
    (six : nlri.mac.length = 6)
    (host : ∀ address ∈ nlri.ip, HostAddress address)
    (label : nlri.label < 2 ^ 24) :
    decodeNLRI (nlriBytes nlri) =
      some ⟨nlri.rd, nlri.mac, nlri.ip, [nlri.label]⟩ := by
  have whole : nlri.mac.take 6 = nlri.mac := List.take_of_length_le six.le
  have shape : nlriBytes nlri = [2, 0, 0] ++ (numberBytes 2 nlri.rd.1 ++
      (numberBytes 4 nlri.rd.2 ++ ((List.replicate 14 0 ++ [48]) ++
        (nlri.mac ++ (addressBytes nlri.ip ++
          (numberBytes 3 nlri.label ++ [])))))) := by
    simp only [nlriBytes, pairBytes, whole, List.append_assoc,
      List.cons_append, List.nil_append, List.append_nil]
  have highRead : numberOf (numberBytes 2 nlri.rd.1) = nlri.rd.1 :=
    numberOf_numberBytes high
  have lowRead : numberOf (numberBytes 4 nlri.rd.2) = nlri.rd.2 :=
    numberOf_numberBytes low
  have labelRead : numberOf (numberBytes 3 nlri.label) = nlri.label :=
    numberOf_numberBytes label
  have header : ∀ rest, field 3 ([2, 0, 0] ++ rest) = some ([2, 0, 0], rest) :=
    fun rest => field_append rest rfl
  have segment : ∀ rest, field 15 ((List.replicate 14 0 ++ [48]) ++ rest) =
      some (List.replicate 14 0 ++ [48], rest) :=
    fun rest => field_append rest rfl
  have number : ∀ width value rest,
      field width (numberBytes width value ++ rest) =
        some (numberBytes width value, rest) :=
    fun width value rest => field_append rest (length_numberBytes width value)
  rw [shape, decodeNLRI]
  simp only [header, number, segment, field_append _ six,
    readAddress_addressBytes _ host, Option.bind_eq_bind, Option.bind_some,
    if_true, highRead, lowRead, labelRead]
  rfl

theorem serializeNLRI_eq_ok {nlri : WireNLRI} (label : nlri.label < 2 ^ 24) :
    serializeNLRI nlri = .ok (nlriBytes nlri) := by
  unfold serializeNLRI
  rw [if_neg (by omega)]

theorem mac_of_decodeNLRI {bytes : Bytes} {nlri : DecodedNLRI (Nat × Nat)}
    (read : decodeNLRI bytes = some nlri) :
    nlri.mac.length = 6 ∧ ∀ label ∈ nlri.labels, label < 2 ^ 24 := by
  unfold decodeNLRI at read
  obtain ⟨_, _, read⟩ := Option.bind_eq_some_iff.mp read
  obtain ⟨_, _, read⟩ := Option.bind_eq_some_iff.mp read
  obtain ⟨_, _, read⟩ := Option.bind_eq_some_iff.mp read
  obtain ⟨_, _, read⟩ := Option.bind_eq_some_iff.mp read
  obtain ⟨mac, macRead, read⟩ := Option.bind_eq_some_iff.mp read
  obtain ⟨_, _, read⟩ := Option.bind_eq_some_iff.mp read
  obtain ⟨⟨label, rest⟩, labelRead, read⟩ := Option.bind_eq_some_iff.mp read
  dsimp only at read
  split at read
  · cases read
    refine ⟨length_of_field macRead, ?_⟩
    intro number member
    rw [List.mem_singleton.mp member]
    have small := numberOf_lt label
    rw [length_of_field labelRead] at small
    exact small
  · cases read

end Wire

open Wire in
/-- The packet library of the wire format, with route distinguishers that fit
their fields. -/
def fittingBgp : BgpPackage :=
  { wireBgp with
    parseRouteDistinguisher := fun text =>
      match parsePair text with
      | .ok pair =>
          if pair.1 < 2 ^ 16 ∧ pair.2 < 2 ^ 32 then .ok pair
          else .error (.new "failed to parse" (" " ++ text))
      | .error reason => .error reason }

open Wire in
theorem fittingBgp_rd {text : String} {rd : Nat × Nat}
    (parsed : fittingBgp.parseRouteDistinguisher text = .ok rd) :
    rd.1 < 2 ^ 16 ∧ rd.2 < 2 ^ 32 := by
  simp only [fittingBgp] at parsed
  split at parsed
  · split at parsed
    · cases parsed
      assumption
    · cases parsed
  · cases parsed

open Wire in
def fittingFormat : WireFormat fittingBgp where
  decode := decodeNLRI
  mac_width := fun _ _ read => (mac_of_decodeNLRI read).1
  label_width := fun _ _ read => (mac_of_decodeNLRI read).2
  nextHop_built := fun address => ⟨address, rfl⟩
  macIP_built := by
    intro rd mac address label parses
    obtain ⟨bytes, parsed⟩ := Option.isSome_iff_exists.mp parses
    exact ⟨⟨rd, bytes, some address, label⟩,
      by simp [fittingBgp, wireBgp, parsed]⟩
  decode_macIP := by
    intro text rd mac macBytes address label nlri rdParsed parsed six host
      small built
    have shape : nlri = ⟨rd, macBytes, some address, label⟩ := by
      simp only [fittingBgp, wireBgp, parsed] at built
      cases built
      rfl
    obtain ⟨high, low⟩ := fittingBgp_rd rdParsed
    rw [shape]
    refine ⟨nlriBytes _, serializeNLRI_eq_ok small, ?_⟩
    apply decodeNLRI_nlriBytes high low six _ small
    intro other same
    cases same
    exact host
  decode_macOnly := by
    intro text rd macBytes label rdParsed six small
    obtain ⟨high, low⟩ := fittingBgp_rd rdParsed
    refine ⟨nlriBytes _, serializeNLRI_eq_ok small, ?_⟩
    apply decodeNLRI_nlriBytes high low six _ small
    intro other same
    cases same

def wideVNIEndpoint : LocalEndpoint :=
  { sampleEndpoint with vni := 2 ^ 24 + 1 }

def wideMACEndpoint : LocalEndpoint :=
  { sampleEndpoint with macAddress := "00:00:5e:00:53:01:00:02" }

/-- A VNI of more than 24 bits is not serialized, and a hardware address of
eight bytes has the bytes of its beginning. -/
theorem wide_values_not_faithful :
    (wideVNIEndpoint.validate fittingBgp = .ok () ∧
      ∃ route, buildType2Route fittingBgp wideVNIEndpoint = .ok route ∧
        ∀ bytes, fittingBgp.serializeNLRI route.nlri ≠ .ok bytes) ∧
    wideMACEndpoint.validate fittingBgp = .ok () ∧
      sampleEndpoint.validate fittingBgp = .ok () ∧
      parseMAC wideMACEndpoint.macAddress ≠
        parseMAC sampleEndpoint.macAddress ∧
      ∃ route other bytes,
        buildType2Route fittingBgp wideMACEndpoint = .ok route ∧
        buildType2Route fittingBgp sampleEndpoint = .ok other ∧
        fittingBgp.serializeNLRI route.nlri = .ok bytes ∧
        fittingBgp.serializeNLRI other.nlri = .ok bytes :=
  ⟨⟨rfl, _, rfl, nofun⟩, rfl, rfl, by decide +kernel, _, _, _, rfl, rfl, rfl,
    rfl⟩

theorem advertised_route_faithful_sample :
    ∃ route, buildType2Route fittingBgp sampleEndpoint = .ok route ∧
      Faithful fittingFormat sampleEndpoint route := by
  obtain ⟨_, route, built, iff, _⟩ := advertised_route_faithful_iff
    fittingFormat sampleEndpoint rfl
  exact ⟨route, built, iff.mpr ⟨⟨_, rfl, rfl⟩, by decide⟩⟩

end EvpnForOvn.Evpn

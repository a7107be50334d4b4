import EvpnForOvn.Ownership.Journal
import EvpnForOvn.Type2.Endpoint

/-!
# Endpoints of the node agent and their acknowledgements

The messages of the CNI service, the endpoint built from an ADD request, and
the durable acknowledgement of an endpoint with its validation.  A pointer of
a message is an option, and a getter on a nil pointer returns the empty
message.  Times are counted from the zero value of `time.Time`.
-/

namespace EvpnForOvn.Nodeagent

open Go Ownership
open Evpn.LocalEndpoint (refuse quoted refuse_eq_ok)

structure EndpointIdentity where
  endpointId : String := ""
  networkId : String := ""
  attachmentId : String := ""
  workloadUid : String := ""
  incarnation : String := ""
  deriving DecidableEq, Repr

structure CNIRuntimeContext where
  cniVersion : String := ""
  containerId : String := ""
  netnsPath : String := ""
  ifName : String := ""
  deriving DecidableEq, Repr

structure AttachmentRequest where
  logicalSwitch : String := ""
  ovsInterfaceName : String := ""
  staticIpCidr : String := ""
  staticMac : String := ""
  deriving DecidableEq, Repr

structure K8SIdentity where
  podNamespace : String := ""
  podName : String := ""
  podUid : String := ""
  nodeName : String := ""
  deriving DecidableEq, Repr

structure CNIInterface where
  name : String
  mac : String
  sandbox : String
  deriving DecidableEq, Repr

structure CNIIPConfig where
  address : String
  interface : Nat
  gateway : String
  deriving DecidableEq, Repr

structure CNIResult where
  cniVersion : String
  interfaces : List CNIInterface
  ips : List CNIIPConfig
  deriving DecidableEq, Repr

structure CNIAddRequest where
  identity : Option EndpointIdentity
  runtime : Option CNIRuntimeContext
  attachment : Option AttachmentRequest
  k8s : Option K8SIdentity
  deriving DecidableEq, Repr

/-- Of a DEL request the continuity reads the identity only. -/
structure CNIDelRequest where
  identity : Option EndpointIdentity
  deriving DecidableEq, Repr

structure CNICheckRequest where
  identity : Option EndpointIdentity
  runtime : Option CNIRuntimeContext
  attachment : Option AttachmentRequest
  k8s : Option K8SIdentity
  deriving DecidableEq, Repr

structure WorkloadRef where
  kind : String
  uid : String
  name : String
  namespaceName : String
  nodeName : String
  deriving DecidableEq, Repr

structure EndpointSpec where
  id : String
  networkID : String
  attachmentID : String
  incarnation : String
  workload : WorkloadRef
  logicalSwitch : String
  logicalSwitchPort : String
  ovsInterfaceName : String
  macAddress : String
  ipAddresses : List String
  deriving DecidableEq, Repr

structure NetworkState where
  hostIfName : String
  containerIfName : String
  macAddress : String
  staticIPCIDR : String
  deriving DecidableEq, Repr

structure EndpointRecord where
  identity : Option EndpointIdentity
  runtime : Option CNIRuntimeContext
  attachment : Option AttachmentRequest
  result : Option CNIResult
  endpointSpec : EndpointSpec
  deriving DecidableEq, Repr

/-- `status.Error` -/
def statusError (code text : String) : GoError :=
  .new "rpc error: code = " (code ++ " desc = " ++ text)

/-- `strings.ToLower` on the characters whose lower case is an ASCII letter.
The others are dropped by the only caller. -/
def lowerRune (character : Char) : Char :=
  if 'A' ≤ character && character ≤ 'Z' then
    Char.ofNat (character.toNat + 32)
  else if character.toNat = 0x212A then 'k'
  else if character.toNat = 0x130 then 'i'
  else character

/-- A byte of a character that is cut in two, which no character encodes. -/
def cutByte (byte : UInt8) : Char :=
  Char.ofNat (0xE000 + byte.toNat)

/-- The first bytes of a text. -/
def takeBytes : Nat → List Char → List Char
  | _, [] => []
  | room, character :: rest =>
      if character.utf8Size ≤ room then
        character :: takeBytes (room - character.utf8Size) rest
      else ((String.utf8EncodeChar character).take room).map cutByte

def maxNameLen : Nat := 63

def trimName (value : String) : String :=
  if value.utf8ByteSize ≤ maxNameLen then value
  else String.ofList (takeBytes maxNameLen value.toList)

def sanitizeName (value : String) : String :=
  let lowered := trimSpace (String.ofList (value.toList.map lowerRune))
  if lowered = "" then "ep"
  else
    let replaced := lowered.toList.map fun character =>
      if ['/', ':', '.', '_', ' '].contains character then '-' else character
    let kept := replaced.filter fun character =>
      ('a' ≤ character && character ≤ 'z') ||
        ('0' ≤ character && character ≤ '9') || character == '-'
    let trimmed := ((kept.dropWhile (· == '-')).reverse.dropWhile
      (· == '-')).reverse
    if trimmed.isEmpty then "ep" else trimName (String.ofList trimmed)

/-- The first text that is not blank, trimmed. -/
def firstNonEmpty : List String → String
  | [] => ""
  | value :: rest =>
      if isBlank value then firstNonEmpty rest else trimSpace value

def ifNameMaxLen : Nat := 15

def fnv32a (value : String) : UInt32 :=
  value.toUTF8.data.toList.foldl
    (fun hash byte => (hash ^^^ byte.toUInt32) * 16777619) 2166136261

/-- The loop goes on from the hash of what it has read. -/
theorem fnv32a_append (value suffix : String) :
    fnv32a (value ++ suffix) =
      suffix.toUTF8.data.toList.foldl
        (fun hash byte => (hash ^^^ byte.toUInt32) * 16777619)
        (fnv32a value) := by
  simp [fnv32a]

/-- `%08x` -/
def hexWord (word : UInt32) : List Char :=
  byteHex (word >>> 24).toUInt8 ++ byteHex (word >>> 16).toUInt8 ++
    byteHex (word >>> 8).toUInt8 ++ byteHex word.toUInt8

def shortHash (value : String) (chars : Int) : String :=
  String.ofList
    ((hexWord (fnv32a value) ++ hexWord (fnv32a (value ++ "-alt"))).take
      chars.toNat)

def hostVethNameForKey (key : String) : String :=
  "evp" ++ shortHash key (ifNameMaxLen - 3)

def validateIdentity (identity : Option EndpointIdentity) :
    Except GoError EndpointIdentity :=
  match identity with
  | none => .error (statusError "InvalidArgument" "identity is required")
  | some identity => do
      refuse (isBlank identity.endpointId)
        (statusError "InvalidArgument" "identity.endpoint_id is required")
      refuse (isBlank identity.networkId)
        (statusError "InvalidArgument" "identity.network_id is required")
      refuse (isBlank identity.attachmentId)
        (statusError "InvalidArgument" "identity.attachment_id is required")
      return identity

def endpointKey (identity : Option EndpointIdentity) : String :=
  let identity := identity.getD {}
  join '|' [trimSpace identity.networkId, trimSpace identity.attachmentId,
    trimSpace identity.endpointId]

def normalizeIdentity : Option EndpointIdentity → String
  | none => "<nil>"
  | some identity =>
      join '|' [trimSpace identity.endpointId, trimSpace identity.networkId,
        trimSpace identity.attachmentId, trimSpace identity.workloadUid,
        trimSpace identity.incarnation]

def normalizeRuntime : Option CNIRuntimeContext → String
  | none => "<nil>"
  | some runtime =>
      join '|' [trimSpace runtime.cniVersion, trimSpace runtime.containerId,
        trimSpace runtime.netnsPath, trimSpace runtime.ifName]

def normalizeAttachment : Option AttachmentRequest → String
  | none => "<nil>"
  | some attachment =>
      join '|' [trimSpace attachment.logicalSwitch,
        trimSpace attachment.ovsInterfaceName,
        trimSpace attachment.staticIpCidr, trimSpace attachment.staticMac]

def normalizeEndpointSpec (spec : EndpointSpec) : String :=
  join '|' [trimSpace spec.id, trimSpace spec.networkID,
    trimSpace spec.attachmentID, trimSpace spec.incarnation,
    trimSpace spec.workload.uid, trimSpace spec.workload.name,
    trimSpace spec.workload.namespaceName, trimSpace spec.workload.nodeName,
    trimSpace spec.logicalSwitch, trimSpace spec.logicalSwitchPort,
    trimSpace spec.ovsInterfaceName, trimSpace spec.macAddress,
    join ',' spec.ipAddresses]

def normalizeResult : Option CNIResult → String
  | none => "<nil>"
  | some result =>
      trimSpace result.cniVersion ++ ";" ++
        String.join (result.interfaces.map fun interface =>
          join ',' [trimSpace interface.name, trimSpace interface.mac,
            trimSpace interface.sandbox] ++ ";") ++
        String.join (result.ips.map fun ip =>
          trimSpace ip.address ++ "," ++ toString ip.interface ++ "," ++
            trimSpace ip.gateway ++ ";")

def isIdentityMismatch (existing requested : Option EndpointIdentity) :
    Bool :=
  normalizeIdentity existing != normalizeIdentity requested

def equivalentRecord (existing requested : EndpointRecord) : Bool :=
  !isIdentityMismatch existing.identity requested.identity &&
    normalizeRuntime existing.runtime == normalizeRuntime requested.runtime &&
    normalizeAttachment existing.attachment ==
      normalizeAttachment requested.attachment &&
    normalizeResult existing.result == normalizeResult requested.result &&
    normalizeEndpointSpec existing.endpointSpec ==
      normalizeEndpointSpec requested.endpointSpec

def validateStaticConfig (attachment : AttachmentRequest) :
    Except GoError Unit := do
  let ip := trimSpace attachment.staticIpCidr
  refuse (ip != "" && (parseCIDR ip).isNone)
    (statusError "InvalidArgument" "attachment.static_ip_cidr invalid")
  let mac := trimSpace attachment.staticMac
  refuse (mac != "" && (parseMAC mac).isNone)
    (statusError "InvalidArgument" "attachment.static_mac invalid")

def validateAddRequest (request : CNIAddRequest) :
    Except GoError
      (EndpointIdentity × CNIRuntimeContext × AttachmentRequest) := do
  let identity ← validateIdentity request.identity
  match request.runtime with
  | none => throw (statusError "InvalidArgument" "runtime is required")
  | some runtime => do
      refuse (isBlank runtime.cniVersion)
        (statusError "InvalidArgument" "runtime.cni_version is required")
      let attachment := request.attachment.getD {}
      validateStaticConfig attachment
      return (identity, runtime, attachment)

/-- The loop of `EndpointSpec.Validate` over the addresses. -/
def validateAddresses : List String → Except GoError Unit
  | [] => .ok ()
  | address :: rest =>
      let ip := trimSpace address
      if ip = "" then validateAddresses rest
      else if ip.toList.contains '/' then do
        refuse (parseCIDR ip).isNone (.new "invalid ip prefix " (quoted ip))
        validateAddresses rest
      else do
        refuse (parseIP ip).isNone (.new "invalid ip address " (quoted ip))
        validateAddresses rest

def EndpointSpec.validate (spec : EndpointSpec) : Except GoError Unit := do
  refuse (isBlank spec.id) (.new "endpoint id" " is required")
  refuse (isBlank spec.networkID) (.new "network id" " is required")
  refuse (isBlank spec.attachmentID) (.new "attachment id is required" "")
  refuse (isBlank spec.logicalSwitch) (.new "logical switch" " is required")
  refuse (isBlank spec.logicalSwitchPort)
    (.new "logical switch port" " is required")
  refuse (isBlank spec.macAddress) (.new "mac address" " is required")
  refuse (parseMAC spec.macAddress).isNone
    (.new "invalid mac address" (" " ++ quoted spec.macAddress))
  validateAddresses spec.ipAddresses

def trimmedList (value : String) : List String :=
  if isBlank value then [] else [trimSpace value]

/-- The endpoint of a request, before its validation.  `buildRecoveredRecord`
and `mapCNIAddRequestToEndpointSpec` fill the same fields. -/
def requestedSpec (identity : EndpointIdentity) (runtime : CNIRuntimeContext)
    (attachment : AttachmentRequest) (k8s : K8SIdentity) : EndpointSpec :=
  let first := firstNonEmpty [attachment.ovsInterfaceName, runtime.ifName]
  let port := trimName (join '-' [if first = "" then "ep" else first,
    sanitizeName identity.networkId, sanitizeName identity.attachmentId,
    sanitizeName identity.endpointId])
  { id := trimSpace identity.endpointId
    networkID := trimSpace identity.networkId
    attachmentID := trimSpace identity.attachmentId
    incarnation := trimSpace identity.incarnation
    workload :=
      { kind := "pod"
        uid := firstNonEmpty [identity.workloadUid, k8s.podUid,
          runtime.containerId]
        name := trimSpace k8s.podName
        namespaceName := trimSpace k8s.podNamespace
        nodeName := trimSpace k8s.nodeName }
    logicalSwitch := firstNonEmpty [attachment.logicalSwitch,
      "ls-" ++ sanitizeName identity.networkId]
    logicalSwitchPort := port
    ovsInterfaceName := firstNonEmpty [attachment.ovsInterfaceName,
      runtime.ifName, port]
    macAddress := trimSpace attachment.staticMac
    ipAddresses := trimmedList attachment.staticIpCidr }

def mapCNIAddRequestToEndpointSpec (request : CNIAddRequest) :
    Except GoError EndpointSpec :=
  match request.identity, request.runtime with
  | some identity, some runtime => do
      let attachment := request.attachment.getD {}
      let spec := requestedSpec identity runtime attachment
        (request.k8s.getD {})
      refuse (isBlank attachment.staticMac)
        (.new "attachment.static_mac is required to create endpoint state" "")
      let spec : EndpointSpec :=
        if spec.workload.uid = "" then
          { spec with
            workload := { spec.workload with uid := runtime.containerId } }
        else spec
      spec.validate
      return spec
  | _, _ => .error (.new "identity and runtime are required" "")

/-- The interfaces and addresses of a result. -/
def resultOf (cniVersion ifName mac sandbox ip : String) : CNIResult :=
  { cniVersion := cniVersion
    interfaces :=
      if ifName != "" || mac != "" || sandbox != "" then
        [⟨ifName, mac, sandbox⟩]
      else []
    ips := if ip = "" then [] else [⟨ip, 0, ""⟩] }

def buildResultFromStaticConfig (runtime : CNIRuntimeContext)
    (attachment : AttachmentRequest) : CNIResult :=
  resultOf (trimSpace runtime.cniVersion) (trimSpace runtime.ifName)
    (trimSpace attachment.staticMac) (trimSpace runtime.netnsPath)
    (trimSpace attachment.staticIpCidr)

def buildResultFromNetworkState (runtime : CNIRuntimeContext)
    (attachment : AttachmentRequest) (state : NetworkState) : CNIResult :=
  resultOf (trimSpace runtime.cniVersion)
    (firstNonEmpty [state.containerIfName, runtime.ifName])
    (firstNonEmpty [state.macAddress, attachment.staticMac])
    (trimSpace runtime.netnsPath)
    (firstNonEmpty [state.staticIPCIDR, attachment.staticIpCidr])

def buildRecoveredRecord (request : CNICheckRequest) :
    Except GoError EndpointRecord := do
  let identity ← validateIdentity request.identity
  match request.runtime with
  | none => throw (.new "runtime is required" "")
  | some runtime =>
      let attachment := request.attachment.getD {}
      return {
        identity := some identity
        runtime := some runtime
        attachment := some attachment
        result := some (buildResultFromStaticConfig runtime attachment)
        endpointSpec := requestedSpec identity runtime attachment
          (request.k8s.getD {}) }

structure CNIProcessEvidence where
  pid : Int
  startTicks : String
  executableSHA256 : String
  bootID : String
  deriving DecidableEq, Repr

structure CNIAdmissionEvidence where
  caller : CNIProcessEvidence
  processes : List CNIProcessEvidence
  netNSDevice : Nat
  netNSInode : Nat
  containerID : String
  podUID : String
  deriving DecidableEq, Repr

/-- `strconv.ParseUint` in base ten with 64 bits. -/
def parseUint (text : String) : Option Nat := do
  let digits ← text.toList.mapM decimalDigit
  let value := digits.foldl (fun value digit => value * 10 + digit) 0
  if digits.isEmpty || 2 ^ 64 ≤ value then none else some value

def validSHA256 (text : String) : Bool :=
  match hexDecode text.toList with
  | none => false
  | some bytes => bytes.length == 32 && toLowerASCII text == text

namespace CNIAdmissionEvidence

variable (uuid : UuidPackage)

/-- The loop of `validate` over the processes; `seen` are the identifiers of
those before. -/
def validateProcesses (bootID : String) (seen : List Int) :
    List CNIProcessEvidence → Except GoError Unit
  | [] => .ok ()
  | process :: rest => do
      refuse (process.pid ≤ 0 || seen.contains process.pid ||
          (parseUint process.startTicks).getD 0 == 0 ||
          (uuid.parse process.bootID).isNone || process.bootID != bootID ||
          !validSHA256 process.executableSHA256)
        (.new "invalid creation-time CNI process evidence" "")
      validateProcesses bootID (process.pid :: seen) rest

def validate (evidence : CNIAdmissionEvidence) : Except GoError Unit := do
  refuse ((evidence.processes.length != 3 &&
        evidence.processes.length != 4) ||
      evidence.processes.head? != some evidence.caller ||
      evidence.netNSDevice == 0 || evidence.netNSInode == 0 ||
      evidence.containerID == "" || 256 < evidence.containerID.utf8ByteSize ||
      evidence.podUID == "" || 128 < evidence.podUID.utf8ByteSize ||
      trimSpace evidence.containerID != evidence.containerID ||
      trimSpace evidence.podUID != evidence.podUID)
    (.new "incomplete creation-time CNI admission evidence" "")
  validateProcesses uuid evidence.caller.bootID [] evidence.processes

end CNIAdmissionEvidence

structure CniReceipt where
  switchUUID : String
  lspUUID : String
  interfaceUUID : String
  portUUID : String
  bridgeUUID : String
  hostIfIndex : Int
  netNSDevice : Nat
  netNSInode : Nat
  deriving DecidableEq, Repr

/-- The values of the field `State`; `unset` is the empty text of a creation
that has not been acknowledged. -/
inductive AckState where
  | unset
  | active
  | deleted
  | pendingCreation
  | quarantined
  deriving DecidableEq, Repr

def AckState.text : AckState → String
  | .unset => ""
  | .active => "active"
  | .deleted => "deleted"
  | .pendingCreation => "pending_creation"
  | .quarantined => "quarantined"

structure CniEndpointACK where
  identity : Option EndpointIdentity
  runtime : Option CNIRuntimeContext
  attachment : Option AttachmentRequest
  result : Option CNIResult
  spec : EndpointSpec
  receipt : CniReceipt
  state : AckState
  admission : Option CNIAdmissionEvidence
  createdAt : Nat
  verifyBy : Nat
  verifiedAt : Nat
  reason : String
  deriving DecidableEq, Repr

namespace CniEndpointACK

def record (ack : CniEndpointACK) : EndpointRecord :=
  ⟨ack.identity, ack.runtime, ack.attachment, ack.result, ack.spec⟩

def containerId (ack : CniEndpointACK) : String :=
  (ack.runtime.getD {}).containerId

def netnsPath (ack : CniEndpointACK) : String :=
  (ack.runtime.getD {}).netnsPath

end CniEndpointACK

/-- `2*time.Minute` -/
def twoMinutes : Nat := 120 * 10 ^ 9

section Validation

variable (uuid : UuidPackage) (key : String)

/-- The part of `validateCNIACK` about durable configuration, which reads
neither the state nor the times of an acknowledgement. -/
def validateConfiguration (identity : EndpointIdentity)
    (runtime : CNIRuntimeContext) (attachment : AttachmentRequest)
    (result : CNIResult) (spec : EndpointSpec) (receipt : CniReceipt) :
    Except GoError Unit := do
  let _ ← validateIdentity (some identity)
  let workload := spec.workload
  refuse (workload.kind != "pod" || workload.uid == "" ||
      workload.name == "" || workload.namespaceName == "" ||
      workload.nodeName == "" || identity.workloadUid != workload.uid ||
      identity.incarnation != runtime.containerId ||
      spec.incarnation != identity.incarnation ||
      spec.id != identity.endpointId ||
      spec.networkID != identity.networkId ||
      spec.attachmentID != identity.attachmentId ||
      spec.id != spec.networkID ++ "|" ++ spec.attachmentID ++ "|" ++
        workload.uid ||
      receipt.switchUUID == "" || receipt.lspUUID == "" ||
      receipt.interfaceUUID == "" || receipt.portUUID == "" ||
      receipt.bridgeUUID == "")
    (.new "incomplete or conflicting durable identity/UUID" "")
  refuse (runtime.netnsPath == "" || runtime.ifName == "" ||
      attachment.staticMac == "" || attachment.staticIpCidr == "")
    (.new "incomplete durable runtime/static configuration" "")
  let expected ← mapCNIAddRequestToEndpointSpec
    { identity := some identity
      runtime := some runtime
      attachment := some attachment
      k8s := some
        { podUid := workload.uid
          podName := workload.name
          podNamespace := workload.namespaceName
          nodeName := workload.nodeName } }
  let expected : EndpointSpec :=
    { expected with ovsInterfaceName := hostVethNameForKey key }
  refuse (normalizeEndpointSpec expected != normalizeEndpointSpec spec ||
      normalizeResult (some result) != normalizeResult
        (some (buildResultFromStaticConfig runtime attachment)))
    (.new "durable spec/result differ from acknowledged CNI configuration" "")

/-- The part of `validateCNIACK` about the evidence of the creation. -/
def validateAdmission (identity : EndpointIdentity)
    (runtime : CNIRuntimeContext) (ack : CniEndpointACK) :
    Option CNIAdmissionEvidence → Except GoError Unit
  | none => .ok ()
  | some admission => do
      refuse (admission.containerID != runtime.containerId ||
          admission.podUID != identity.workloadUid ||
          admission.netNSDevice == 0 || admission.netNSInode == 0 ||
          admission.netNSDevice != ack.receipt.netNSDevice ||
          admission.netNSInode != ack.receipt.netNSInode)
        (.new "durable admission identity differs from endpoint receipt" "")
      (admission.validate uuid).mapError
        (.extend "invalid durable creation authority: " "")
      refuse (ack.state == .active && (ack.verifiedAt == 0 ||
          ack.verifiedAt < ack.createdAt || ack.verifyBy < ack.verifiedAt))
        (.new "active endpoint has no bounded activation acknowledgement" "")

def validateCNIACK (ack : CniEndpointACK) : Except GoError Unit :=
  match ack.identity, ack.runtime, ack.attachment, ack.result with
  | some identity, some runtime, some attachment, some result => do
      refuse (key != endpointKey (some identity) || ack.state == .unset)
        (.new "invalid endpoint ACK metadata" "")
      refuse (ack.state == .pendingCreation && (ack.admission.isNone ||
          ack.createdAt == 0 || ack.verifyBy ≤ ack.createdAt ||
          twoMinutes < ack.verifyBy - ack.createdAt))
        (.new "pending endpoint has no bounded durable creation authority" "")
      validateAdmission uuid identity runtime ack ack.admission
      validateConfiguration key identity runtime attachment result ack.spec
        ack.receipt
  | _, _, _, _ => .error (.new "invalid endpoint ACK metadata" "")

end Validation

section Reading

variable {uuid : UuidPackage} {key : String} {ack : CniEndpointACK}

/-- The conditions `validateCNIACK` checks, in its order. -/
theorem validateCNIACK_eq_ok_iff :
    validateCNIACK uuid key ack = .ok () ↔
      ∃ identity runtime attachment result,
        ack.identity = some identity ∧ ack.runtime = some runtime ∧
        ack.attachment = some attachment ∧ ack.result = some result ∧
        (key != endpointKey (some identity) || ack.state == .unset) =
          false ∧
        (ack.state == .pendingCreation && (ack.admission.isNone ||
          ack.createdAt == 0 || ack.verifyBy ≤ ack.createdAt ||
          twoMinutes < ack.verifyBy - ack.createdAt)) = false ∧
        validateAdmission uuid identity runtime ack ack.admission =
          .ok () ∧
        validateConfiguration key identity runtime attachment result
          ack.spec ack.receipt = .ok () := by
  constructor
  · intro valid
    unfold validateCNIACK at valid
    split at valid
    · rename_i identity runtime attachment result identityEq runtimeEq
        attachmentEq resultEq
      obtain ⟨_, metadata, valid⟩ := bind_eq_ok.mp valid
      obtain ⟨_, window, valid⟩ := bind_eq_ok.mp valid
      obtain ⟨_, admitted, configured⟩ := bind_eq_ok.mp valid
      exact ⟨identity, runtime, attachment, result, identityEq, runtimeEq,
        attachmentEq, resultEq, refuse_eq_ok.mp metadata,
        refuse_eq_ok.mp window, admitted, configured⟩
    · cases valid
  · intro conditions
    obtain ⟨identity, runtime, attachment, result, identityEq, runtimeEq,
      attachmentEq, resultEq, metadata, window, admitted, configured⟩ :=
      conditions
    unfold validateCNIACK
    rw [identityEq, runtimeEq, attachmentEq, resultEq]
    exact bind_eq_ok.mpr ⟨(), refuse_eq_ok.mpr metadata,
      bind_eq_ok.mpr ⟨(), refuse_eq_ok.mpr window,
        bind_eq_ok.mpr ⟨(), admitted, configured⟩⟩⟩

theorem endpointKey_of_validateCNIACK
    (valid : validateCNIACK uuid key ack = .ok ()) :
    endpointKey ack.identity = key ∧ ack.state ≠ .unset := by
  obtain ⟨identity, _, _, _, identityEq, _, _, _, metadata, _⟩ :=
    validateCNIACK_eq_ok_iff.mp valid
  rw [identityEq]
  simp only [Bool.or_eq_false_iff, bne_eq_false_iff_eq,
    beq_eq_false_iff_ne] at metadata
  exact ⟨metadata.1.symm, metadata.2⟩

/-- A pending endpoint has evidence of its creation, and a deadline after
it. -/
theorem bounded_of_validateCNIACK
    (valid : validateCNIACK uuid key ack = .ok ())
    (pending : ack.state = .pendingCreation) :
    ack.createdAt ≠ 0 ∧ ack.createdAt < ack.verifyBy := by
  obtain ⟨_, _, _, _, _, _, _, _, _, window, _⟩ :=
    validateCNIACK_eq_ok_iff.mp valid
  rw [pending] at window
  simp only [beq_self_eq_true, Bool.true_and, Bool.or_eq_false_iff,
    beq_eq_false_iff_ne, decide_eq_false_iff_not, Nat.not_le] at window
  exact ⟨window.1.1.2, window.1.2⟩

/-- Leaving the pending state keeps an acknowledgement valid, as long as an
activation stays within its window. -/
theorem validateCNIACK_restated
    (valid : validateCNIACK uuid key ack = .ok ()) {state : AckState}
    {verifiedAt : Nat} {reason : String} (named : state ≠ .unset)
    (decided : state ≠ .pendingCreation)
    (bounded : state = .active → verifiedAt ≠ 0 ∧
      ack.createdAt ≤ verifiedAt ∧ verifiedAt ≤ ack.verifyBy) :
    validateCNIACK uuid key
      { ack with
        state := state
        verifiedAt := verifiedAt
        reason := reason } = .ok () := by
  obtain ⟨identity, runtime, attachment, result, identityEq, runtimeEq,
    attachmentEq, resultEq, metadata, _, admitted, configured⟩ :=
    validateCNIACK_eq_ok_iff.mp valid
  apply validateCNIACK_eq_ok_iff.mpr
  refine ⟨identity, runtime, attachment, result, identityEq, runtimeEq,
    attachmentEq, resultEq, ?_, ?_, ?_, configured⟩
  · simp only [Bool.or_eq_false_iff] at metadata ⊢
    exact ⟨metadata.1, beq_eq_false_iff_ne.mpr named⟩
  · simp only [beq_eq_false_iff_ne.mpr decided, Bool.false_and]
  · show validateAdmission uuid identity runtime _ ack.admission = .ok ()
    cases evidence : ack.admission with
    | none => rfl
    | some admission =>
        rw [evidence] at admitted
        obtain ⟨_, matched, admitted⟩ := bind_eq_ok.mp admitted
        obtain ⟨_, shaped, _⟩ := bind_eq_ok.mp admitted
        refine bind_eq_ok.mpr ⟨(), matched, bind_eq_ok.mpr ⟨(), shaped, ?_⟩⟩
        apply refuse_eq_ok.mpr
        by_cases active : state = .active
        · obtain ⟨nonzero, after, before⟩ := bounded active
          simp [active, nonzero, Nat.not_lt.mpr after,
            Nat.not_lt.mpr before]
        · simp [active]

end Reading

end EvpnForOvn.Nodeagent

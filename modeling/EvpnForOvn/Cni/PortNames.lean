import EvpnForOvn.Cni.Messages
import Mathlib.Data.String.Basic

/-!
# Names of logical switch ports

The plugin names an endpoint by its network, its attachment and its workload.
The agent joins the interface name with the cleaned identifiers and cuts the
text to 63 bytes.  Cleaning lowers the case, turns five characters into a dash
and drops most others, and the workload stands last, so the cut takes it away
first.  Identifiers of lower-case letters and digits are read back from a name
up to the cut.
-/

namespace EvpnForOvn.Nodeagent

open Go

/-- The fields of the plugin's configuration that its requests carry. -/
structure PluginConfig where
  cniVersion : String
  networkID : String
  logicalSwitch : String := ""
  attachmentID : String
  ipAddress : String := ""
  macAddress : String := ""
  ovsInterfaceName : String := ""
  endpointID : String := ""
  workloadUID : String := ""
  incarnation : String := ""

/-- `CNI_ARGS`. -/
structure CniArgs where
  podNamespace : String := ""
  podName : String := ""
  podUid : String := ""
  nodeName : String := ""
  workloadUid : String := ""
  incarnation : String := ""
  endpointId : String := ""

structure CmdArgs where
  containerID : String
  netns : String
  ifName : String

def buildRuntimeContext (conf : PluginConfig) (args : CmdArgs) :
    CNIRuntimeContext :=
  { cniVersion := conf.cniVersion
    containerId := trimSpace args.containerID
    netnsPath := trimSpace args.netns
    ifName := trimSpace args.ifName }

def buildK8sIdentity (parsed : CniArgs) : K8SIdentity :=
  { podNamespace := parsed.podNamespace
    podName := parsed.podName
    podUid := parsed.podUid
    nodeName := parsed.nodeName }

def buildEndpointIdentity (conf : PluginConfig) (parsed : CniArgs)
    (args : CmdArgs) : EndpointIdentity :=
  let workloadUID := firstNonEmpty [conf.workloadUID, parsed.workloadUid,
    parsed.podUid, trimSpace args.containerID]
  let endpointID := firstNonEmpty [conf.endpointID, parsed.endpointId]
  { endpointId :=
      if endpointID = "" then
        conf.networkID ++ "|" ++ conf.attachmentID ++ "|" ++ workloadUID
      else endpointID
    networkId := conf.networkID
    attachmentId := conf.attachmentID
    workloadUid := workloadUID
    incarnation := firstNonEmpty [conf.incarnation, parsed.incarnation,
      trimSpace args.containerID] }

def buildAttachment (conf : PluginConfig) (args : CmdArgs) :
    AttachmentRequest :=
  { logicalSwitch := conf.logicalSwitch
    ovsInterfaceName :=
      firstNonEmpty [conf.ovsInterfaceName, trimSpace args.ifName]
    staticIpCidr := conf.ipAddress
    staticMac := conf.macAddress }

def buildAddRequest (conf : PluginConfig) (parsed : CniArgs)
    (args : CmdArgs) : CNIAddRequest :=
  { identity := some (buildEndpointIdentity conf parsed args)
    runtime := some (buildRuntimeContext conf args)
    attachment := some (buildAttachment conf args)
    k8s := some (buildK8sIdentity parsed) }

/-- The plugin names an endpoint by its network, attachment and workload. -/
theorem endpointId_buildEndpointIdentity {conf : PluginConfig}
    {parsed : CniArgs} {args : CmdArgs}
    (unnamed : firstNonEmpty [conf.endpointID, parsed.endpointId] = "") :
    let identity := buildEndpointIdentity conf parsed args
    identity.endpointId = identity.networkId ++ "|" ++
      identity.attachmentId ++ "|" ++ identity.workloadUid :=
  if_pos unnamed

def isPlain (character : Char) : Bool :=
  ('a' ≤ character && character ≤ 'z') ||
    ('0' ≤ character && character ≤ '9')

/-- A character that stays in a name. -/
def isClean (character : Char) : Bool :=
  isPlain character || character == '-'

section Characters

variable {character : Char}

theorem toNat_of_isPlain (plain : isPlain character = true) :
    97 ≤ character.toNat ∧ character.toNat ≤ 122 ∨
      48 ≤ character.toNat ∧ character.toNat ≤ 57 := by
  simp only [isPlain, Bool.or_eq_true, Bool.and_eq_true, decide_eq_true_eq]
    at plain
  exact plain

theorem isClean_of_isPlain (plain : isPlain character = true) :
    isClean character = true :=
  Bool.or_eq_true_iff.mpr (.inl plain)

theorem toNat_of_isClean (clean : isClean character = true) :
    97 ≤ character.toNat ∧ character.toNat ≤ 122 ∨
      45 ≤ character.toNat ∧ character.toNat ≤ 57 := by
  rcases Bool.or_eq_true_iff.mp clean with plain | dash
  · have bounds := toNat_of_isPlain plain
    omega
  · rw [beq_iff_eq.mp dash]
    decide

theorem utf8Size_of_isClean (clean : isClean character = true) :
    character.utf8Size = 1 := by
  have bounds := toNat_of_isClean clean
  apply Char.utf8Size_eq_one_iff.mpr
  change character.toNat ≤ 127
  omega

theorem lowerRune_eq_self (lower : character.toNat < 65 ∨
      90 < character.toNat ∧ character.toNat < 128) :
    lowerRune character = character := by
  have upper : ('A' ≤ character && character ≤ 'Z') = false := by
    rw [Bool.and_eq_false_iff, decide_eq_false_iff_not,
      decide_eq_false_iff_not]
    change ¬ 65 ≤ character.toNat ∨ ¬ character.toNat ≤ 90
    omega
  unfold lowerRune
  rw [upper, if_neg (by decide), if_neg (by omega), if_neg (by omega)]

theorem isSpace_of_isPlain (plain : isPlain character = true) :
    isSpace character = false := by
  have bounds := toNat_of_isPlain plain
  simp only [isSpace, Bool.or_eq_false_iff, Bool.and_eq_false_iff,
    decide_eq_false_iff_not, beq_eq_false_iff_ne]
  omega

end Characters

/-- A text is not trimmed when its ends stay. -/
theorem trim_eq_self {drops : Char → Bool} {text : List Char}
    {first last : Char} (head : text.head? = some first)
    (final : text.getLast? = some last) (firstStays : drops first = false)
    (lastStays : drops last = false) :
    ((text.dropWhile drops).reverse.dropWhile drops).reverse = text := by
  have whole : ∀ {characters : List Char} {character : Char},
      characters.head? = some character → drops character = false →
        characters.dropWhile drops = characters := by
    intro characters character head stays
    obtain ⟨rest, rfl⟩ := List.head?_eq_some_iff.mp head
    exact List.dropWhile_cons_of_neg (by simp [stays])
  have reversed : text.reverse.head? = some last :=
    List.head?_reverse.trans final
  rw [whole head firstStays, whole reversed lastStays, List.reverse_reverse]

/-- The separators of the plugin are dropped from a text of clean characters,
and nothing else changes before the cut. -/
theorem sanitizeName_eq {value : String} {first last : Char}
    (characters : ∀ character ∈ value.toList,
      isClean character = true ∨ character = '|')
    (head : value.toList.head? = some first)
    (final : value.toList.getLast? = some last)
    (firstPlain : isPlain first = true) (lastPlain : isPlain last = true) :
    sanitizeName value =
      trimName (String.ofList (value.toList.filter isClean)) := by
  have bounds : ∀ character ∈ value.toList,
      97 ≤ character.toNat ∧ character.toNat ≤ 124 ∨
        45 ≤ character.toNat ∧ character.toNat ≤ 57 := by
    intro character member
    rcases characters character member with clean | rfl
    · have range := toNat_of_isClean clean
      omega
    · decide
  have lowered : value.toList.map lowerRune = value.toList := by
    refine (List.map_congr_left fun character member => ?_).trans
      (List.map_id _)
    have range := bounds character member
    exact lowerRune_eq_self (by omega)
  have trimmed : trimSpace value = value := by
    unfold trimSpace
    rw [trim_eq_self head final (isSpace_of_isPlain firstPlain)
      (isSpace_of_isPlain lastPlain), String.ofList_toList]
  have given : value ≠ "" := by
    rintro rfl
    cases head
  have replaced : (value.toList.map fun character =>
      if ['/', ':', '.', '_', ' '].contains character then '-'
      else character) = value.toList := by
    refine (List.map_congr_left fun character member => ?_).trans
      (List.map_id _)
    rcases characters character member with clean | rfl
    · refine if_neg fun replaces => ?_
      simp only [List.contains_cons, List.contains_nil, Bool.or_false,
        Bool.or_eq_true, beq_iff_eq] at replaces
      rcases replaces with rfl | rfl | rfl | rfl | rfl <;> cases clean
    · rfl
  have keptHead : (value.toList.filter isClean).head? = some first := by
    obtain ⟨rest, shape⟩ := List.head?_eq_some_iff.mp head
    rw [shape, List.filter_cons_of_pos (isClean_of_isPlain firstPlain)]
    rfl
  have keptFinal : (value.toList.filter isClean).getLast? = some last := by
    obtain ⟨before, shape⟩ := List.getLast?_eq_some_iff.mp final
    rw [shape, List.filter_append,
      List.filter_cons_of_pos (isClean_of_isPlain lastPlain)]
    exact List.getLast?_concat
  have dash : ∀ {character}, isPlain character = true →
      (character == '-') = false := by
    intro character plain
    rw [beq_eq_false_iff_ne]
    rintro rfl
    cases plain
  have kept := @trim_eq_self (· == '-') _ _ _ keptHead keptFinal
    (dash firstPlain) (dash lastPlain)
  have present : (value.toList.filter isClean).isEmpty = false := by
    obtain ⟨rest, shape⟩ := List.head?_eq_some_iff.mp keptHead
    rw [shape]
    rfl
  unfold sanitizeName
  dsimp only
  rw [lowered, String.ofList_toList, trimmed, if_neg given, replaced]
  have filtered : (value.toList.filter fun character =>
      ('a' ≤ character && character ≤ 'z') ||
        ('0' ≤ character && character ≤ '9') || character == '-') =
      value.toList.filter isClean := rfl
  rw [filtered, kept, present, if_neg Bool.false_ne_true]

/-- A text that starts with a part that fits is cut after it. -/
theorem takeBytes_append {limit : Nat} {part rest : List Char}
    (fits : String.utf8Len part ≤ limit) :
    takeBytes limit (part ++ rest) =
      part ++ takeBytes (limit - String.utf8Len part) rest := by
  induction part generalizing limit with
  | nil => rfl
  | cons first part induction =>
      rw [String.utf8Len_cons] at fits ⊢
      rw [List.cons_append, takeBytes, if_pos (by omega),
        induction (by omega), List.cons_append]
      congr 3
      omega

theorem takeBytes_clean {limit : Nat} {text : List Char}
    (clean : ∀ character ∈ text, isClean character = true) :
    takeBytes limit text = text.take limit := by
  induction text generalizing limit with
  | nil => exact List.take_nil.symm
  | cons first rest induction =>
      have one := utf8Size_of_isClean (clean first (.head _))
      rw [takeBytes, one, induction fun character member =>
        clean character (.tail _ member)]
      cases limit with
      | zero => rfl
      | succ limit => exact if_pos (by omega)

theorem utf8Len_clean {text : List Char}
    (clean : ∀ character ∈ text, isClean character = true) :
    String.utf8Len text = text.length := by
  induction text with
  | nil => rfl
  | cons first rest induction =>
      rw [String.utf8Len_cons, utf8Size_of_isClean (clean first (.head _)),
        induction fun character member => clean character (.tail _ member)]
      rfl

theorem toList_trimName (value : String) :
    (trimName value).toList = takeBytes maxNameLen value.toList := by
  unfold trimName
  by_cases short : value.utf8ByteSize ≤ maxNameLen
  · have fits : String.utf8Len value.toList ≤ maxNameLen := by
      rw [← String.utf8ByteSize_ofList, String.ofList_toList]
      exact short
    have whole := @takeBytes_append maxNameLen value.toList [] fits
    rw [List.append_nil] at whole
    rw [if_pos short, whole]
    exact (List.append_nil _).symm
  · rw [if_neg short, String.toList_ofList]

/-- What the name of a port begins with. -/
def interfaceName (request : CNIAddRequest) : String :=
  let first := firstNonEmpty [(request.attachment.getD {}).ovsInterfaceName,
    (request.runtime.getD {}).ifName]
  if first = "" then "ep" else first

/-- The text that the name of the port is cut from. -/
def portText (request : CNIAddRequest) : String :=
  let identity := request.identity.getD {}
  join '-' [interfaceName request, sanitizeName identity.networkId,
    sanitizeName identity.attachmentId, sanitizeName identity.endpointId]

/-- The bytes of a name before the workload. -/
def bytesBefore (request : CNIAddRequest) (identity : EndpointIdentity) :
    Nat :=
  (interfaceName request).utf8ByteSize + 3 +
    2 * (identity.networkId.length + identity.attachmentId.length)

section Plain

variable {value : String}
  (plain : ∀ character ∈ value.toList, isPlain character = true)
include plain

theorem clean_of_plain : ∀ character ∈ value.toList, isClean character = true :=
  fun character member => isClean_of_isPlain (plain character member)

theorem no_dash_of_plain : '-' ∉ value.toList := by
  intro member
  cases plain '-' member

end Plain

/-- A request with an identity of the plugin whose identifiers a name keeps:
lower-case letters and digits, and dashes inside of the workload. -/
structure Nameable (request : CNIAddRequest) (identity : EndpointIdentity) :
    Prop where
  given : request.identity = some identity
  composed : identity.endpointId = identity.networkId ++ "|" ++
    identity.attachmentId ++ "|" ++ identity.workloadUid
  network : identity.networkId ≠ "" ∧
    ∀ character ∈ identity.networkId.toList, isPlain character = true
  attachment : identity.attachmentId ≠ "" ∧
    ∀ character ∈ identity.attachmentId.toList, isPlain character = true
  workload : ∀ character ∈ identity.workloadUid.toList,
    isClean character = true
  last : ∃ character,
    identity.workloadUid.toList.getLast? = some character ∧
      isPlain character = true
  fits : bytesBefore request identity ≤ maxNameLen

theorem sanitizeName_plain {value : String} (given : value ≠ "")
    (plain : ∀ character ∈ value.toList, isPlain character = true)
    (short : value.length ≤ maxNameLen) :
    sanitizeName value = value := by
  have nonempty : value.toList ≠ [] := by
    simpa using given
  have head := List.head?_eq_some_head nonempty
  have final := List.getLast?_eq_some_getLast nonempty
  have clean := clean_of_plain plain
  rw [sanitizeName_eq (fun character member => .inl (clean character member))
    head final (plain _ (List.head_mem nonempty))
    (plain _ (List.getLast_mem nonempty)), List.filter_eq_self.mpr clean,
    String.ofList_toList]
  apply String.toList_injective
  rw [toList_trimName, takeBytes_clean clean, List.take_of_length_le]
  rw [String.length_toList]
  exact short

section Nameable

variable {request : CNIAddRequest} {identity : EndpointIdentity}

theorem Nameable.toList_sanitizeName_endpointId
    (named : Nameable request identity) :
    (sanitizeName identity.endpointId).toList =
      (identity.networkId.toList ++ (identity.attachmentId.toList ++
        identity.workloadUid.toList)).take maxNameLen := by
  obtain ⟨last, final, lastPlain⟩ := named.last
  have cleanNetwork := clean_of_plain named.network.2
  have cleanAttachment := clean_of_plain named.attachment.2
  have shape : identity.endpointId.toList = identity.networkId.toList ++
      '|' :: (identity.attachmentId.toList ++
        '|' :: identity.workloadUid.toList) := by
    rw [named.composed]
    simp
  have nonempty : identity.networkId.toList ≠ [] := by
    simpa using named.network.1
  have head : identity.endpointId.toList.head? =
      some (identity.networkId.toList.head nonempty) := by
    rw [shape, List.head?_append_of_ne_nil _ nonempty]
    exact List.head?_eq_some_head nonempty
  have ends : identity.endpointId.toList.getLast? = some last := by
    obtain ⟨before, split⟩ := List.getLast?_eq_some_iff.mp final
    refine List.getLast?_eq_some_iff.mpr ⟨identity.networkId.toList ++
      '|' :: (identity.attachmentId.toList ++ '|' :: before), ?_⟩
    rw [shape, split]
    simp
  have characters : ∀ character ∈ identity.endpointId.toList,
      isClean character = true ∨ character = '|' := by
    intro character member
    rw [shape] at member
    simp only [List.mem_append, List.mem_cons] at member
    rcases member with here | rfl | here | rfl | here
    · exact .inl (cleanNetwork character here)
    · exact .inr rfl
    · exact .inl (cleanAttachment character here)
    · exact .inr rfl
    · exact .inl (named.workload character here)
  have filtered : identity.endpointId.toList.filter isClean =
      identity.networkId.toList ++ (identity.attachmentId.toList ++
        identity.workloadUid.toList) := by
    have separator : isClean '|' = false := by decide
    rw [shape, List.filter_append,
      List.filter_cons_of_neg (by simp [separator]), List.filter_append,
      List.filter_cons_of_neg (by simp [separator]),
      List.filter_eq_self.mpr cleanNetwork,
      List.filter_eq_self.mpr cleanAttachment,
      List.filter_eq_self.mpr named.workload]
  rw [sanitizeName_eq characters head ends
    (named.network.2 _ (List.head_mem nonempty)) lastPlain, toList_trimName,
    String.toList_ofList, takeBytes_clean, filtered]
  intro character member
  exact (List.mem_filter.mp member).2

theorem Nameable.toList_trimName_portText
    (named : Nameable request identity) :
    (trimName (portText request)).toList =
      (interfaceName request).toList ++ '-' :: (identity.networkId.toList ++
        '-' :: (identity.attachmentId.toList ++ '-' ::
          (identity.networkId.toList ++ (identity.attachmentId.toList ++
            identity.workloadUid.toList.take
              (maxNameLen - bytesBefore request identity))))) := by
  have fits := named.fits
  unfold bytesBefore at fits
  obtain ⟨networkGiven, network⟩ := named.network
  obtain ⟨attachmentGiven, attachment⟩ := named.attachment
  have networkIs := sanitizeName_plain networkGiven network (by omega)
  have attachmentIs := sanitizeName_plain attachmentGiven attachment
    (by omega)
  have endpointIs := named.toList_sanitizeName_endpointId
  let start := (interfaceName request).toList ++ '-' ::
    (identity.networkId.toList ++ '-' ::
      (identity.attachmentId.toList ++ ['-']))
  have shape : (portText request).toList =
      start ++ (sanitizeName identity.endpointId).toList := by
    simp only [portText, named.given, Option.getD_some, networkIs,
      attachmentIs, join, start]
    simp [List.intercalate]
  have bytes : String.utf8Len start = (interfaceName request).utf8ByteSize +
      3 + (identity.networkId.length + identity.attachmentId.length) := by
    have interfaceBytes : String.utf8Len (interfaceName request).toList =
        (interfaceName request).utf8ByteSize := by
      rw [← String.utf8ByteSize_ofList, String.ofList_toList]
    have dash : Char.utf8Size '-' = 1 := rfl
    simp only [start, String.utf8Len_append, String.utf8Len_cons,
      String.utf8Len_nil, interfaceBytes, dash,
      utf8Len_clean (clean_of_plain network),
      utf8Len_clean (clean_of_plain attachment), String.length_toList]
    omega
  rw [toList_trimName, shape, takeBytes_append (by omega), takeBytes_clean,
    endpointIs, List.take_take]
  · have room : min (maxNameLen - String.utf8Len start) maxNameLen =
        identity.networkId.toList.length +
          (identity.attachmentId.toList.length +
            (maxNameLen - bytesBefore request identity)) := by
      rw [String.length_toList, String.length_toList, bytesBefore]
      omega
    rw [room, List.take_length_add_append, List.take_length_add_append]
    simp [start]
  · rw [endpointIs]
    intro character member
    have listed := List.mem_of_mem_take member
    simp only [List.mem_append] at listed
    rcases listed with here | here | here
    · exact clean_of_plain network character here
    · exact clean_of_plain attachment character here
    · exact named.workload character here

/-- Parts before a dash that they do not contain are read back. -/
theorem part_inj {left right leftRest rightRest : List Char}
    (parts : left = right ∨ '-' ∉ left ∧ '-' ∉ right)
    (same : left ++ '-' :: leftRest = right ++ '-' :: rightRest) :
    left = right ∧ leftRest = rightRest := by
  rcases parts with rfl | ⟨leftFree, rightFree⟩
  · exact ⟨rfl, (List.cons.inj (List.append_cancel_left same)).2⟩
  · rcases List.append_eq_append_iff.mp same with
      ⟨more, shape, tails⟩ | ⟨more, shape, tails⟩
    · cases more with
      | nil => exact ⟨by simpa using shape.symm, (List.cons.inj tails).2⟩
      | cons character more =>
          obtain ⟨rfl, _⟩ := List.cons.inj tails
          exact absurd (by rw [shape]; simp) rightFree
    · cases more with
      | nil => exact ⟨by simpa using shape, (List.cons.inj tails).2.symm⟩
      | cons character more =>
          obtain ⟨rfl, _⟩ := List.cons.inj tails
          exact absurd (by rw [shape]; simp) leftFree

end Nameable

theorem logicalSwitchPort_of_accepted {request : CNIAddRequest}
    {spec : EndpointSpec}
    (accepted : mapCNIAddRequestToEndpointSpec request = .ok spec) :
    spec.logicalSwitchPort = trimName (portText request) := by
  obtain ⟨identity, runtime, attachment, k8s⟩ := request
  cases identity with
  | none => cases accepted
  | some identity =>
      cases runtime with
      | none => cases accepted
      | some runtime =>
          have named : (requestedSpec identity runtime (attachment.getD {})
              (k8s.getD {})).logicalSwitchPort = trimName (portText
                ⟨some identity, some runtime, attachment, k8s⟩) := by
            simp only [requestedSpec, portText, interfaceName,
              Option.getD_some]
          rw [← named]
          unfold mapCNIAddRequestToEndpointSpec at accepted
          dsimp only at accepted
          generalize requestedSpec identity runtime (attachment.getD {})
            (k8s.getD {}) = built at accepted ⊢
          obtain ⟨_, _, validated⟩ := bind_eq_ok.mp accepted
          obtain ⟨_, _, returned⟩ := bind_eq_ok.mp validated
          obtain rfl := Except.ok.inj returned
          by_cases unnamed : built.workload.uid = ""
          · rw [if_pos unnamed]
          · rw [if_neg unnamed]

section Names

variable {first second : CNIAddRequest} {left right : EndpointIdentity}

/-- Equal names have equal parts: no identifier in front of the last dash
contains one, and the workload stands last. -/
theorem Nameable.port_eq_iff (firstNamed : Nameable first left)
    (secondNamed : Nameable second right)
    (interfaces : interfaceName first = interfaceName second ∨
      '-' ∉ (interfaceName first).toList ∧
        '-' ∉ (interfaceName second).toList) :
    trimName (portText first) = trimName (portText second) ↔
      interfaceName first = interfaceName second ∧
        left.networkId = right.networkId ∧
        left.attachmentId = right.attachmentId ∧
        left.workloadUid.toList.take (maxNameLen - bytesBefore first left) =
          right.workloadUid.toList.take
            (maxNameLen - bytesBefore second right) := by
  rw [← String.toList_inj, firstNamed.toList_trimName_portText,
    secondNamed.toList_trimName_portText]
  constructor
  · intro equal
    obtain ⟨interface, equal⟩ :=
      part_inj (interfaces.imp_left (congrArg String.toList)) equal
    obtain ⟨network, equal⟩ := part_inj
      (.inr ⟨no_dash_of_plain firstNamed.network.2,
        no_dash_of_plain secondNamed.network.2⟩) equal
    obtain ⟨attachment, equal⟩ := part_inj
      (.inr ⟨no_dash_of_plain firstNamed.attachment.2,
        no_dash_of_plain secondNamed.attachment.2⟩) equal
    rw [network, attachment] at equal
    exact ⟨String.toList_injective interface,
      String.toList_injective network, String.toList_injective attachment,
      List.append_cancel_left (List.append_cancel_left equal)⟩
  · intro equal
    obtain ⟨interface, network, attachment, workload⟩ := equal
    rw [interface, network, attachment, workload]

end Names

/-- The configuration of the plugin for one workload of a network. -/
def podConfig (workloadUID : String) : PluginConfig :=
  { cniVersion := "1.0.0"
    networkID := "net"
    logicalSwitch := "ls"
    attachmentID := "att"
    macAddress := "00:00:00:00:00:01"
    workloadUID := workloadUID }

def podArgs : CmdArgs :=
  { containerID := "c", netns := "/n", ifName := "eth0" }

def podRequest (workloadUID : String) : CNIAddRequest :=
  buildAddRequest (podConfig workloadUID) {} podArgs

def podIdentity (workloadUID : String) : EndpointIdentity :=
  buildEndpointIdentity (podConfig workloadUID) {} podArgs

def podSpec (request : CNIAddRequest) : EndpointSpec :=
  requestedSpec (request.identity.getD {}) (request.runtime.getD {})
    (request.attachment.getD {}) (request.k8s.getD {})

theorem interfaceName_podRequest {workloadUID : String} :
    interfaceName (podRequest workloadUID) = "eth0" := by
  have named : firstNonEmpty [firstNonEmpty ["", trimSpace "eth0"],
      trimSpace "eth0"] = "eth0" := by
    decide +kernel
  simp only [interfaceName, podRequest, buildAddRequest, buildAttachment,
    buildRuntimeContext, podConfig, podArgs, Option.getD_some, named]
  exact if_neg (by decide)

theorem nameable_pod {workloadUID : String}
    (clean : (podIdentity workloadUID).workloadUid.toList.all isClean = true)
    (last : ∃ character,
      (podIdentity workloadUID).workloadUid.toList.getLast? =
          some character ∧ isPlain character = true) :
    Nameable (podRequest workloadUID) (podIdentity workloadUID) where
  given := rfl
  composed := endpointId_buildEndpointIdentity (by rfl)
  network := ⟨show "net" ≠ "" by decide,
    List.all_eq_true.mp (show "net".toList.all isPlain = true by decide)⟩
  attachment := ⟨show "att" ≠ "" by decide,
    List.all_eq_true.mp (show "att".toList.all isPlain = true by decide)⟩
  workload := List.all_eq_true.mp clean
  last := last
  fits := by
    unfold bytesBefore
    rw [interfaceName_podRequest]
    show "eth0".utf8ByteSize + 3 + 2 * ("net".length + "att".length) ≤
      maxNameLen
    decide

end EvpnForOvn.Nodeagent

import EvpnForOvn.Model1.Tunnels
import EvpnForOvn.Model1.Vswitch

/-!
# Bridge mappings

The handler records the provider bridge of its physical network in the
`external_ids` of the `Open_vSwitch` row, beside the keys of other clients.
It reads the row, edits a copy of the whole map and writes the map back.
-/

namespace EvpnForOvn.Evpn

open Go

def model1BridgeMappingsKey : String :=
  "ovn-bridge-mappings"

def validateModel1Network (network : Model1Network) : Except GoError Unit :=
  if Model1Config.validNetwork network then .ok ()
  else .error (.new "invalid OVSDB-Programmed provider network identity" "")

/-- `model1BridgeMappingOwnerKey`. -/
def model1BridgeMappingOwnerKey (sha : TextDigest)
    (physicalNetwork : String) : String :=
  "evpn4ovn-model1-bridge-map-" ++ String.ofList ((model1TunnelID sha
    { networkID := physicalNetwork
      logicalSwitch := "provider"
      vni := 1
      remoteVTEP := "" }).toList.take 12)

/-- The loop of `parseModel1BridgeMappings` over the entries. -/
def parseMappingEntries : List String → GoMap String →
    Except GoError (GoMap String)
  | [], mappings => .ok mappings
  | entry :: rest, mappings =>
      match cut ':' entry with
      | none =>
          .error (.new "invalid existing ovn-bridge-mappings entry " entry)
      | some (physicalNetwork, bridge) =>
          if !validModel1BridgeMapping physicalNetwork bridge then
            .error (.new "invalid existing ovn-bridge-mappings entry " entry)
          else if (mappings.get physicalNetwork).isSome then
            .error (.new "duplicate existing ovn-bridge-mappings entry for "
              physicalNetwork)
          else
            parseMappingEntries rest (mappings.set physicalNetwork bridge)

def parseModel1BridgeMappings (raw : String) :
    Except GoError (GoMap String) :=
  if raw = "" then .ok GoMap.empty
  else parseMappingEntries (split ',' raw) GoMap.empty

/-- The text of one mapping. -/
def mappingEntry (mappings : GoMap String) (physicalNetwork : String) :
    String :=
  physicalNetwork ++ ":" ++ (mappings.get physicalNetwork).getD ""

def formatModel1BridgeMappings (mappings : GoMap String) : String :=
  join ',' (mappings.sortedKeys.map (mappingEntry mappings))

section Operations

variable (sha : TextDigest) (network : Model1Network)

def model1OpenvSwitchRoot (database : Vswitch) : Except GoError OpenvSwitch :=
  match database.roots with
  | [root] => .ok root
  | roots =>
      .error (.new "expected exactly one Open_vSwitch root row, got "
        (toString roots.length))

/-- The mappings in the row, `root.ExternalIDs[key]` being empty without the
key. -/
def rootMappings (root : OpenvSwitch) : Except GoError (GoMap String) :=
  parseModel1BridgeMappings
    ((root.externalIDs.get model1BridgeMappingsKey).getD "")

def conflictingOwnership : GoError :=
  .new "physical network " (network.physicalNetwork ++
    " bridge mapping has conflicting OVSDB-Programmed ownership")

/-- `owner, exists := ids[ownerKey]; exists && owner != bridge`. -/
def ownedByAnother (root : OpenvSwitch) : Bool :=
  match root.externalIDs.get
      (model1BridgeMappingOwnerKey sha network.physicalNetwork) with
  | some owner => owner != network.providerBridge
  | none => false

def validateModel1BridgeMappings (root : OpenvSwitch)
    (mappings : GoMap String) : Except GoError Unit :=
  match mappings.get network.physicalNetwork with
  | some bridge =>
      if bridge ≠ network.providerBridge then
        .error (.new "physical network " (network.physicalNetwork ++
          " is already mapped to bridge " ++ bridge))
      else validateOthers
  | none => validateOthers
where
  validateOthers : Except GoError Unit :=
    match mappings.sortedKeys.find? fun physicalNetwork =>
        physicalNetwork != network.physicalNetwork &&
          mappings.get physicalNetwork == some network.providerBridge with
    | some physicalNetwork =>
        .error (.new "provider bridge " (network.providerBridge ++
          " is already assigned to physical network " ++ physicalNetwork))
    | none =>
        if ownedByAnother sha network root then
          .error (conflictingOwnership network)
        else .ok ()

/-- The only bridge with a name, or nil. -/
def uniqueBridge (repeated : GoError) (name : String)
    (bridges : List Bridge) : Except GoError (Option Bridge) :=
  match bridges.filter fun bridge => bridge.name == name with
  | [] => .ok none
  | [bridge] => .ok (some bridge)
  | _ => .error repeated

/-- `ensureModel1BridgeMapping` from its reads to its transaction: the
operations of the transaction, none when there is nothing to do. -/
def ensureModel1BridgeMapping (read : Vswitch) :
    Except GoError (List OvsOperation) := do
  match ← uniqueBridge (.new "provider bridge name is not unique" "")
      network.providerBridge read.bridges with
  | none =>
      .error (.new "dedicated OVSDB-Programmed provider bridge "
        (network.providerBridge ++ " must be provisioned before activation"))
  | some bridge =>
      if !bridge.controller.isEmpty then
        .error (.new "OVSDB-Programmed provider bridge " (bridge.name ++
          " must not have an OpenFlow controller"))
      else if bridge.failMode = some .secure then
        .error (.new "OVSDB-Programmed provider bridge " (bridge.name ++
          " must use standalone fail mode"))
      else do
        let root ← model1OpenvSwitchRoot read
        let mappings ← rootMappings root
        validateModel1BridgeMappings sha network root mappings
        if ownedByAnother sha network root then
          .error (conflictingOwnership network)
        else if mappings.get network.physicalNetwork =
            some network.providerBridge then .ok []
        else
          let mappings :=
            mappings.set network.physicalNetwork network.providerBridge
          let externalIDs :=
            (root.externalIDs.set model1BridgeMappingsKey
              (formatModel1BridgeMappings mappings)).set
              (model1BridgeMappingOwnerKey sha network.physicalNetwork)
              network.providerBridge
          .ok [.updateExternalIDs root.uuid externalIDs]

/-- The mappings without the one of the network, which is refused when it
leads to another bridge. -/
def withoutMapping (mappings : GoMap String) :
    Except GoError (GoMap String) :=
  match mappings.get network.physicalNetwork with
  | some bridge =>
      if bridge = "" then .ok mappings
      else if bridge ≠ network.providerBridge then
        .error (.new "refusing to remove changed physical network mapping to "
          bridge)
      else .ok (mappings.delete network.physicalNetwork)
  | none => .ok mappings

/-- `deleteModel1BridgeMapping` from its read to its transaction. -/
def deleteModel1BridgeMapping (read : Vswitch) :
    Except GoError (List OvsOperation) := do
  let root ← model1OpenvSwitchRoot read
  let ownerKey := model1BridgeMappingOwnerKey sha network.physicalNetwork
  match root.externalIDs.get ownerKey with
  | none => .ok []
  | some owner =>
      if owner ≠ network.providerBridge then
        .error (.new "refusing to remove physical network mapping owned by "
          "another provider bridge")
      else do
        let mappings ← rootMappings root
        let mappings ← withoutMapping network mappings
        let externalIDs := root.externalIDs.delete ownerKey
        let externalIDs :=
          if mappings.size = 0 then externalIDs.delete model1BridgeMappingsKey
          else
            externalIDs.set model1BridgeMappingsKey
              (formatModel1BridgeMappings mappings)
        .ok [.updateExternalIDs root.uuid externalIDs]

end Operations

section Codec

variable {mappings read : GoMap String} {physicalNetwork bridge raw : String}

/-- Every mapping can be written as an entry. -/
def ValidMappings (mappings : GoMap String) : Prop :=
  ∀ physicalNetwork bridge, mappings.get physicalNetwork = some bridge →
    validModel1BridgeMapping physicalNetwork bridge = true

private theorem separator_not_mem {text : String} {separator : Char}
    (plain : text.toList.any mappingSeparator = false)
    (separates : mappingSeparator separator = true) :
    separator ∉ text.toList := by
  intro member
  rw [List.any_eq_false] at plain
  exact plain separator member separates

/-- The parts of a valid mapping contain no separator. -/
theorem validModel1BridgeMapping_plain {separator : Char}
    (valid : validModel1BridgeMapping physicalNetwork bridge = true)
    (separates : mappingSeparator separator = true) :
    separator ∉ physicalNetwork.toList ∧ separator ∉ bridge.toList := by
  simp only [validModel1BridgeMapping, Bool.and_eq_true,
    Bool.not_eq_true'] at valid
  exact ⟨separator_not_mem valid.1.2 separates,
    separator_not_mem valid.2 separates⟩

theorem parseMappingEntries_valid {entries : List String}
    (valid : ValidMappings mappings)
    (parsed : parseMappingEntries entries mappings = .ok read) :
    ValidMappings read := by
  induction entries generalizing mappings with
  | nil =>
      cases parsed
      exact valid
  | cons entry rest induction =>
      unfold parseMappingEntries at parsed
      split at parsed
      · cases parsed
      · rename_i physicalNetwork bridge _
        split at parsed
        · cases parsed
        · rename_i accepted
          split at parsed
          · cases parsed
          · refine induction ?_ parsed
            intro other found got
            rw [GoMap.get_set] at got
            split at got
            · rename_i same
              cases got
              rw [same]
              simpa using accepted
            · exact valid other found got

theorem parseModel1BridgeMappings_valid
    (parsed : parseModel1BridgeMappings raw = .ok read) :
    ValidMappings read := by
  have blank : ValidMappings GoMap.empty := by
    intro physicalNetwork bridge found
    rw [GoMap.get_empty] at found
    cases found
  unfold parseModel1BridgeMappings at parsed
  split at parsed
  · cases parsed
    exact blank
  · exact parseMappingEntries_valid blank parsed

private theorem cut_mappingEntry
    (valid : validModel1BridgeMapping physicalNetwork bridge = true)
    (found : mappings.get physicalNetwork = some bridge) :
    cut ':' (mappingEntry mappings physicalNetwork) =
      some (physicalNetwork, bridge) := by
  apply cut_eq_some
  · unfold mappingEntry
    rw [found]
    simp [String.toList_append]
  · exact (validModel1BridgeMapping_plain valid rfl).1

/-- Entries of different keys are read back. -/
theorem parseMappingEntries_mappingEntry {keys : List String}
    (valid : ValidMappings mappings) (distinct : keys.Nodup)
    (present : ∀ key ∈ keys, (mappings.get key).isSome = true)
    (unread : ∀ key ∈ keys, read.get key = none) :
    ∃ result, parseMappingEntries (keys.map (mappingEntry mappings)) read =
        .ok result ∧
      ∀ key, result.get key =
        if key ∈ keys then mappings.get key else read.get key := by
  induction keys generalizing read with
  | nil => exact ⟨read, rfl, by simp⟩
  | cons key rest induction =>
      rw [List.nodup_cons] at distinct
      obtain ⟨bridge, found⟩ :=
        Option.isSome_iff_exists.mp (present key List.mem_cons_self)
      have accepted := valid key bridge found
      have absent := unread key List.mem_cons_self
      have unreadRest : ∀ other ∈ rest,
          (read.set key bridge).get other = none := by
        intro other member
        have different : other ≠ key := by
          intro same
          exact distinct.1 (same ▸ member)
        rw [GoMap.get_set_of_ne different]
        exact unread other (List.mem_cons_of_mem _ member)
      obtain ⟨result, done, gets⟩ := induction distinct.2
        (fun other member => present other (List.mem_cons_of_mem _ member))
        unreadRest
      refine ⟨result, ?_, ?_⟩
      · rw [List.map_cons]
        unfold parseMappingEntries
        rw [cut_mappingEntry accepted found]
        dsimp only
        rw [if_neg (by simp [accepted]), if_neg (by simp [absent])]
        exact done
      · intro other
        rw [gets other, GoMap.get_set]
        by_cases same : other = key
        · subst same
          rw [if_neg distinct.1, if_pos rfl, if_pos List.mem_cons_self, found]
        · simp [same]

/-- The text of valid mappings is read back as the same mappings. -/
theorem parseModel1BridgeMappings_format (valid : ValidMappings mappings) :
    ∃ result, parseModel1BridgeMappings
        (formatModel1BridgeMappings mappings) = .ok result ∧
      ∀ key, result.get key = mappings.get key := by
  have outside : ∀ key, key ∉ mappings.sortedKeys →
      mappings.get key = none := by
    intro key absent
    rw [GoMap.mem_sortedKeys] at absent
    simpa using absent
  by_cases empty : mappings.sortedKeys = []
  · refine ⟨GoMap.empty, ?_, ?_⟩
    · unfold formatModel1BridgeMappings
      rw [empty]
      rfl
    · intro key
      rw [GoMap.get_empty, outside key (by simp [empty])]
  · have plain : ∀ text ∈ mappings.sortedKeys.map (mappingEntry mappings),
        ',' ∉ text.toList := by
      intro text member
      obtain ⟨key, listed, rfl⟩ := List.mem_map.mp member
      obtain ⟨bridge, found⟩ :=
        Option.isSome_iff_exists.mp (GoMap.mem_sortedKeys.mp listed)
      have comma : mappingSeparator ',' = true := rfl
      obtain ⟨left, right⟩ :=
        validModel1BridgeMapping_plain (valid key bridge found) comma
      unfold mappingEntry
      rw [found]
      simp [String.toList_append, left, right]
    have splits := split_join (by simpa using empty) plain
    have unread : ∀ key ∈ mappings.sortedKeys,
        (GoMap.empty : GoMap String).get key = none :=
      fun _ _ => GoMap.get_empty
    obtain ⟨result, done, gets⟩ := parseMappingEntries_mappingEntry valid
      (GoMap.nodup_sortedKeys mappings)
      (fun key listed => GoMap.mem_sortedKeys.mp listed) unread
    refine ⟨result, ?_, ?_⟩
    · unfold parseModel1BridgeMappings formatModel1BridgeMappings
      rw [if_neg, splits]
      · exact done
      · intro blank
        rw [blank] at splits
        have silent : "" ∈ mappings.sortedKeys.map (mappingEntry mappings) := by
          rw [← splits]
          exact List.mem_singleton_self _
        obtain ⟨key, _, same⟩ := List.mem_map.mp silent
        have characters := congrArg String.toList same
        simp [mappingEntry, String.toList_append] at characters
    · intro key
      rw [gets key]
      split
      · rfl
      · rw [GoMap.get_empty, outside key ‹_›]

/-- The text of an entry `physnet:bridge`. -/
def entryText (entry : String × String) : String :=
  entry.1 ++ ":" ++ entry.2

/-- A comma-separated list of valid entries with distinct physnets. -/
structure MappingText (entries : List (String × String)) (raw : String) :
    Prop where
  listed : raw = join ',' (entries.map entryText)
  valid : ∀ entry ∈ entries,
    validModel1BridgeMapping entry.1 entry.2 = true
  distinct : (entries.map Prod.fst).Nodup

def sortEntries (entries : List (String × String)) :
    List (String × String) :=
  entries.insertionSort fun left right => left.1 ≤ right.1

def setEntries (mappings : GoMap String) (entries : List (String × String)) :
    GoMap String :=
  entries.foldl (fun written entry => written.set entry.1 entry.2) mappings

theorem get_setEntries_of_not_mem {entries : List (String × String)}
    {key : String} (absent : key ∉ entries.map Prod.fst) :
    (setEntries mappings entries).get key = mappings.get key := by
  induction entries generalizing mappings with
  | nil => rfl
  | cons entry rest induction =>
      simp only [List.map_cons, List.mem_cons, not_or] at absent
      exact (induction absent.2).trans (GoMap.get_set_of_ne absent.1)

theorem get_setEntries_of_mem {entries : List (String × String)}
    {entry : String × String} (distinct : (entries.map Prod.fst).Nodup)
    (member : entry ∈ entries) :
    (setEntries mappings entries).get entry.1 = some entry.2 := by
  induction entries generalizing mappings with
  | nil => cases member
  | cons first rest induction =>
      rw [List.map_cons, List.nodup_cons] at distinct
      rcases List.mem_cons.mp member with same | inside
      · subst same
        exact (get_setEntries_of_not_mem distinct.1).trans
          GoMap.get_set_self
      · exact induction distinct.2 inside

theorem get_setEntries_isSome_iff {entries : List (String × String)}
    {key : String} (distinct : (entries.map Prod.fst).Nodup) :
    ((setEntries GoMap.empty entries).get key).isSome = true ↔
      key ∈ entries.map Prod.fst := by
  constructor
  · intro present
    by_contra absent
    rw [get_setEntries_of_not_mem absent, GoMap.get_empty] at present
    cases present
  · intro listed
    obtain ⟨entry, member, rfl⟩ := List.mem_map.mp listed
    rw [get_setEntries_of_mem distinct member]
    rfl

private theorem cut_entryText
    (valid : validModel1BridgeMapping physicalNetwork bridge = true) :
    cut ':' (entryText (physicalNetwork, bridge)) =
      some (physicalNetwork, bridge) := by
  apply cut_eq_some
  · simp [entryText, String.toList_append]
  · exact (validModel1BridgeMapping_plain valid rfl).1

/-- The loop accepts the texts of valid entries with new physnets. -/
theorem parseMappingEntries_entryText {entries : List (String × String)}
    (valid : ∀ entry ∈ entries,
      validModel1BridgeMapping entry.1 entry.2 = true)
    (distinct : (entries.map Prod.fst).Nodup)
    (unread : ∀ key ∈ entries.map Prod.fst, mappings.get key = none) :
    parseMappingEntries (entries.map entryText) mappings =
      .ok (setEntries mappings entries) := by
  induction entries generalizing mappings with
  | nil => rfl
  | cons entry rest induction =>
      obtain ⟨physicalNetwork, bridge⟩ := entry
      rw [List.map_cons, List.nodup_cons] at distinct
      have accepted := valid _ List.mem_cons_self
      have absent := unread physicalNetwork (by simp)
      have unreadRest : ∀ key ∈ rest.map Prod.fst,
          (mappings.set physicalNetwork bridge).get key = none := by
        intro key listed
        have different : key ≠ physicalNetwork := by
          intro same
          exact distinct.1 (same ▸ listed)
        rw [GoMap.get_set_of_ne different]
        exact unread key (List.mem_cons_of_mem _ listed)
      have later := induction
        (fun entry member => valid entry (List.mem_cons_of_mem _ member))
        distinct.2 unreadRest
      rw [List.map_cons]
      unfold parseMappingEntries
      rw [cut_entryText accepted]
      dsimp only
      rw [if_neg (by simp [accepted]), if_neg (by simp [absent])]
      exact later

/-- The loop accepts nothing else. -/
theorem exists_entries_of_parseMappingEntries {pieces : List String}
    (parsed : parseMappingEntries pieces mappings = .ok read) :
    ∃ entries : List (String × String), pieces = entries.map entryText ∧
      (∀ entry ∈ entries,
        validModel1BridgeMapping entry.1 entry.2 = true) ∧
      (entries.map Prod.fst).Nodup ∧
      ∀ key ∈ entries.map Prod.fst, mappings.get key = none := by
  induction pieces generalizing mappings with
  | nil => exact ⟨[], rfl, by simp, by simp, by simp⟩
  | cons piece rest induction =>
      unfold parseMappingEntries at parsed
      split at parsed
      · cases parsed
      · rename_i physicalNetwork bridge split
        split at parsed
        · cases parsed
        · rename_i accepted
          split at parsed
          · cases parsed
          · rename_i unread
            obtain ⟨entries, rfl, valid, distinct, fresh⟩ :=
              induction parsed
            have absent : physicalNetwork ∉ entries.map Prod.fst := by
              intro listed
              have missing := fresh physicalNetwork listed
              rw [GoMap.get_set_self] at missing
              cases missing
            refine ⟨(physicalNetwork, bridge) :: entries, ?_, ?_, ?_, ?_⟩
            · rw [List.map_cons, eq_of_cut_eq_some split]
              rfl
            · intro entry member
              rcases List.mem_cons.mp member with rfl | inside
              · simpa using accepted
              · exact valid entry inside
            · exact List.nodup_cons.mpr ⟨absent, distinct⟩
            · intro key listed
              rcases List.mem_cons.mp listed with rfl | inside
              · simpa using unread
              · have missing := fresh key inside
                rw [GoMap.get_set_of_ne] at missing
                · exact missing
                · intro same
                  exact absent (same ▸ inside)

theorem parseModel1BridgeMappings_of_mappingText
    {entries : List (String × String)} (written : MappingText entries raw) :
    parseModel1BridgeMappings raw =
      .ok (setEntries GoMap.empty entries) := by
  cases entries with
  | nil =>
      rw [written.listed]
      rfl
  | cons entry rest =>
      have plain : ∀ text ∈ (entry :: rest).map entryText,
          ',' ∉ text.toList := by
        intro text member
        obtain ⟨listed, inside, rfl⟩ := List.mem_map.mp member
        have comma : mappingSeparator ',' = true := rfl
        obtain ⟨left, right⟩ := validModel1BridgeMapping_plain
          (written.valid listed inside) comma
        simp [entryText, String.toList_append, left, right]
      have splits := split_join (by simp) plain
      have nonempty : raw ≠ "" := by
        intro blank
        rw [← written.listed, blank] at splits
        have head := congrArg List.head? splits
        simp [split, entryText] at head
      unfold parseModel1BridgeMappings
      rw [if_neg nonempty, written.listed, splits]
      exact parseMappingEntries_entryText written.valid written.distinct
        (fun _ _ => GoMap.get_empty)

theorem exists_mappingText (nonempty : raw ≠ "")
    (parsed : parseModel1BridgeMappings raw = .ok read) :
    ∃ entries, MappingText entries raw := by
  unfold parseModel1BridgeMappings at parsed
  rw [if_neg nonempty] at parsed
  obtain ⟨entries, pieces, valid, distinct, _⟩ :=
    exists_entries_of_parseMappingEntries parsed
  exact ⟨entries, by rw [← pieces, join_split], valid, distinct⟩

theorem sortedKeys_setEntries {entries : List (String × String)}
    (distinct : (entries.map Prod.fst).Nodup) :
    (setEntries GoMap.empty entries).sortedKeys =
      (sortEntries entries).map Prod.fst := by
  have permuted : (setEntries GoMap.empty entries).sortedKeys.Perm
      (entries.map Prod.fst) := by
    apply (List.perm_ext_iff_of_nodup (GoMap.nodup_sortedKeys _)
      distinct).mpr
    intro key
    rw [GoMap.mem_sortedKeys, get_setEntries_isSome_iff distinct]
  have sorted : (sortEntries entries).map Prod.fst =
      sortStrings (entries.map Prod.fst) := by
    unfold sortEntries sortStrings
    apply List.map_insertionSort
    intro left _ right _
    rfl
  rw [sorted]
  exact sortStrings_eq_iff_perm.mpr ((sortStrings_perm _).symm.trans permuted)

theorem formatModel1BridgeMappings_setEntries
    {entries : List (String × String)}
    (distinct : (entries.map Prod.fst).Nodup) :
    formatModel1BridgeMappings (setEntries GoMap.empty entries) =
      join ',' ((sortEntries entries).map entryText) := by
  unfold formatModel1BridgeMappings
  rw [sortedKeys_setEntries distinct, List.map_map]
  congr 1
  apply List.map_congr_left
  intro entry member
  have inside : entry ∈ entries :=
    (List.mem_insertionSort _).mp member
  show mappingEntry _ entry.1 = entryText entry
  unfold mappingEntry entryText
  rw [get_setEntries_of_mem distinct inside]
  rfl

theorem ValidMappings.set (valid : ValidMappings mappings)
    (accepted : validModel1BridgeMapping physicalNetwork bridge = true) :
    ValidMappings (mappings.set physicalNetwork bridge) := by
  intro other found got
  rw [GoMap.get_set] at got
  split at got
  · rename_i same
    cases got
    rw [same]
    exact accepted
  · exact valid other found got

theorem ValidMappings.delete (valid : ValidMappings mappings) :
    ValidMappings (mappings.delete physicalNetwork) := by
  intro other found got
  rw [GoMap.get_delete] at got
  split at got
  · cases got
  · exact valid other found got

/-- The text of mappings is read back, accepted texts are the lists of valid
entries with distinct physnets, they are formatted in the order of their
physnets, and an edit changes no other entry. -/
theorem bridgeMappings_codec :
    (∀ mappings, ValidMappings mappings →
      ∃ read, parseModel1BridgeMappings
          (formatModel1BridgeMappings mappings) = .ok read ∧
        ∀ key, read.get key = mappings.get key) ∧
    (∀ raw, raw ≠ "" →
      ((∃ read, parseModel1BridgeMappings raw = .ok read) ↔
        ∃ entries, MappingText entries raw)) ∧
    (∀ raw read entries, MappingText entries raw →
      parseModel1BridgeMappings raw = .ok read →
      formatModel1BridgeMappings read =
        join ',' ((sortEntries entries).map entryText)) ∧
    (∀ raw read physicalNetwork bridge,
      parseModel1BridgeMappings raw = .ok read →
      validModel1BridgeMapping physicalNetwork bridge = true →
      ∃ edited, parseModel1BridgeMappings (formatModel1BridgeMappings
          (read.set physicalNetwork bridge)) = .ok edited ∧
        edited.get physicalNetwork = some bridge ∧
        ∀ other, other ≠ physicalNetwork →
          edited.get other = read.get other) ∧
    ∀ raw read physicalNetwork, parseModel1BridgeMappings raw = .ok read →
      ∃ edited, parseModel1BridgeMappings (formatModel1BridgeMappings
          (read.delete physicalNetwork)) = .ok edited ∧
        edited.get physicalNetwork = none ∧
        ∀ other, other ≠ physicalNetwork →
          edited.get other = read.get other := by
  refine ⟨fun _ => parseModel1BridgeMappings_format, ?_, ?_, ?_, ?_⟩
  · intro raw nonempty
    constructor
    · intro ⟨read, parsed⟩
      exact exists_mappingText nonempty parsed
    · intro ⟨entries, written⟩
      exact ⟨_, parseModel1BridgeMappings_of_mappingText written⟩
  · intro raw read entries written parsed
    rw [parseModel1BridgeMappings_of_mappingText written] at parsed
    cases parsed
    exact formatModel1BridgeMappings_setEntries written.distinct
  · intro raw read physicalNetwork bridge parsed accepted
    have valid := (parseModel1BridgeMappings_valid parsed).set accepted
    obtain ⟨edited, done, gets⟩ := parseModel1BridgeMappings_format valid
    refine ⟨edited, done, ?_, ?_⟩
    · rw [gets, GoMap.get_set_self]
    · intro other different
      rw [gets, GoMap.get_set_of_ne different]
  · intro raw read physicalNetwork parsed
    have valid : ValidMappings (read.delete physicalNetwork) :=
      (parseModel1BridgeMappings_valid parsed).delete
    obtain ⟨edited, done, gets⟩ := parseModel1BridgeMappings_format valid
    refine ⟨edited, done, ?_, ?_⟩
    · rw [gets, GoMap.get_delete_self]
    · intro other different
      rw [gets, GoMap.get_delete_of_ne different]

/-- Two mappings in the wrong order: read, extended and written again. -/
example : formatModel1BridgeMappings
    ((setEntries GoMap.empty [("red", "br-red"), ("blue", "br-blue")]).set
      "green" "br-green") = "blue:br-blue,green:br-green,red:br-red" := by
  decide

end Codec

end EvpnForOvn.Evpn

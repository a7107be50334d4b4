import EvpnForOvn.Model1.BridgeMapping

/-!
# The shared row

`external_ids` of the `Open_vSwitch` row belongs to every client of the
database.  The handler writes the whole map that it has edited, without a
condition on the map it has read.  What another client has committed between
the read and the write is therefore lost, unless there was nothing to write or
nothing new.
-/

namespace EvpnForOvn.Evpn

open Go

/-- The row maps the physical network to the bridge. -/
def Maps (row : OpenvSwitch) (physicalNetwork bridge : String) : Prop :=
  ∃ mappings, rootMappings row = .ok mappings ∧
    mappings.get physicalNetwork = some bridge

section Rows

variable (sha : TextDigest) (network : Model1Network)

/-- A key that the handler does not use. -/
def ForeignKey (key : String) : Prop :=
  key ≠ model1BridgeMappingsKey ∧
    key ≠ model1BridgeMappingOwnerKey sha network.physicalNetwork

/-- Another client has committed: it has left alone what the handler owns, and
what it has written can be read. -/
structure ForeignCommit (before written : OpenvSwitch) : Prop where
  uuid : written.uuid = before.uuid
  owner : written.externalIDs.get
      (model1BridgeMappingOwnerKey sha network.physicalNetwork) =
    before.externalIDs.get
      (model1BridgeMappingOwnerKey sha network.physicalNetwork)
  mapping : ∀ bridge, Maps written network.physicalNetwork bridge ↔
    Maps before network.physicalNetwork bridge
  parses : ∃ mappings, rootMappings written = .ok mappings

/-- The foreign keys and mappings of one row are in another. -/
def Survives (written kept : OpenvSwitch) : Prop :=
  (∀ key value, ForeignKey sha network key →
    written.externalIDs.get key = some value →
    kept.externalIDs.get key = some value) ∧
  ∀ physicalNetwork bridge, physicalNetwork ≠ network.physicalNetwork →
    Maps written physicalNetwork bridge → Maps kept physicalNetwork bridge

/-- The rows agree on the foreign keys and mappings. -/
structure SameForeign (left right : OpenvSwitch) : Prop where
  keys : ∀ key, ForeignKey sha network key →
    left.externalIDs.get key = right.externalIDs.get key
  mappings : ∀ physicalNetwork bridge,
    physicalNetwork ≠ network.physicalNetwork →
    (Maps left physicalNetwork bridge ↔ Maps right physicalNetwork bridge)

inductive MappingOperation where
  | ensure
  | delete
  deriving DecidableEq, Repr

namespace MappingOperation

/-- The operations that follow from the rows that have been read. -/
def plan : MappingOperation → Vswitch → Except GoError (List OvsOperation)
  | .ensure => ensureModel1BridgeMapping sha network
  | .delete => deleteModel1BridgeMapping sha network

/-- There is nothing to write. -/
def Settled (row : OpenvSwitch) : MappingOperation → Prop
  | .ensure => Maps row network.physicalNetwork network.providerBridge
  | .delete => row.externalIDs.get
      (model1BridgeMappingOwnerKey sha network.physicalNetwork) = none

/-- The whole operation: the rows are read in one state of the database and
the transaction is carried out in another. -/
def run (operation : MappingOperation) (read current : Vswitch) :
    Except GoError Unit × Vswitch :=
  match operation.plan sha network read with
  | .error reason => (.error reason, current)
  | .ok operations => current.transactModel1 operations

end MappingOperation

end Rows

variable {sha : TextDigest} {network : Model1Network}
  {before written kept root : OpenvSwitch} {read current after : Vswitch}
  {operation : MappingOperation} {operations : List OvsOperation}

theorem SameForeign.survives_iff
    (same : SameForeign sha network kept before) :
    Survives sha network written kept ↔
      Survives sha network written before := by
  refine and_congr ?_ ?_
  · refine forall_congr' fun key => forall_congr' fun value =>
      forall_congr' fun foreign => ?_
    rw [same.keys key foreign]
  · refine forall_congr' fun physicalNetwork => forall_congr' fun bridge =>
      forall_congr' fun different => ?_
    rw [same.mappings physicalNetwork bridge different]

theorem survives_refl : Survives sha network written written :=
  ⟨fun _ _ _ found => found, fun _ _ _ found => found⟩

private theorem maps_iff {mappings : GoMap String}
    (parsed : rootMappings root = .ok mappings)
    {physicalNetwork bridge : String} :
    Maps root physicalNetwork bridge ↔
      mappings.get physicalNetwork = some bridge := by
  constructor
  · intro maps
    obtain ⟨found, parsedToo, got⟩ := maps
    cases parsed.symm.trans parsedToo
    exact got
  · exact fun got => ⟨mappings, parsed, got⟩

private theorem root_eq_ok (rows : read.roots = [before])
    (found : model1OpenvSwitchRoot read = .ok root) : root = before := by
  unfold model1OpenvSwitchRoot at found
  rw [rows] at found
  cases found
  rfl

/-- The key of the mappings is not the key of an owner. -/
theorem ownerKey_ne_mappingsKey (sha : TextDigest)
    (physicalNetwork : String) :
    model1BridgeMappingOwnerKey sha physicalNetwork ≠
      model1BridgeMappingsKey := by
  have owner : (model1BridgeMappingOwnerKey sha
      physicalNetwork).toList.head? = some 'e' := by
    unfold model1BridgeMappingOwnerKey
    rw [String.toList_append, List.head?_append]
    rfl
  intro same
  rw [same] at owner
  exact absurd owner (by decide)

/-- A row with new mappings under the same foreign keys. -/
private theorem sameForeign_of_written {mappings : GoMap String}
    (edited : GoMap String) {externalIDs : GoMap String}
    (parsed : rootMappings before = .ok mappings)
    (written : ∃ result, rootMappings
        { root with externalIDs := externalIDs } = .ok result ∧
      ∀ key, result.get key = edited.get key)
    (keys : ∀ key, ForeignKey sha network key →
      externalIDs.get key = before.externalIDs.get key)
    (others : ∀ key, key ≠ network.physicalNetwork →
      edited.get key = mappings.get key) :
    SameForeign sha network { root with externalIDs := externalIDs }
      before := by
  obtain ⟨result, parsedToo, gets⟩ := written
  refine ⟨keys, ?_⟩
  intro physicalNetwork bridge different
  rw [maps_iff parsed, maps_iff parsedToo, gets, others _ different]

theorem ensureModel1BridgeMapping_eq_ok (rows : read.roots = [before])
    (valid : validModel1BridgeMapping network.physicalNetwork
      network.providerBridge = true)
    (planned : ensureModel1BridgeMapping sha network read =
      .ok operations) :
    (Maps before network.physicalNetwork network.providerBridge ∧
      operations = []) ∨
    (¬Maps before network.physicalNetwork network.providerBridge ∧
      ∃ externalIDs, operations = [.updateExternalIDs before.uuid
          externalIDs] ∧
        ∀ root : OpenvSwitch, SameForeign sha network
          { root with externalIDs := externalIDs } before) := by
  unfold ensureModel1BridgeMapping at planned
  obtain ⟨found, _, planned⟩ := bind_eq_ok.mp planned
  split at planned
  · cases planned
  · split at planned
    · cases planned
    · split at planned
      · cases planned
      · obtain ⟨root, rooted, planned⟩ := bind_eq_ok.mp planned
        obtain rfl := root_eq_ok rows rooted
        obtain ⟨mappings, parsed, planned⟩ := bind_eq_ok.mp planned
        obtain ⟨_, _, planned⟩ := bind_eq_ok.mp planned
        split at planned
        · cases planned
        · split at planned
          · rename_i mapped
            cases planned
            exact .inl ⟨(maps_iff parsed).mpr mapped, rfl⟩
          · rename_i unmapped
            cases planned
            refine .inr ⟨fun maps => unmapped ((maps_iff parsed).mp maps), _,
              rfl, ?_⟩
            intro other
            have edited : ValidMappings (mappings.set network.physicalNetwork
                network.providerBridge) := by
              intro physicalNetwork bridge got
              rw [GoMap.get_set] at got
              split at got
              · rename_i same
                cases got
                rw [same]
                exact valid
              · exact parseModel1BridgeMappings_valid parsed _ _ got
            refine sameForeign_of_written (mappings.set
              network.physicalNetwork network.providerBridge) parsed ?_ ?_ ?_
            · unfold rootMappings
              dsimp only
              rw [GoMap.get_set_of_ne
                (ownerKey_ne_mappingsKey sha _).symm, GoMap.get_set_self]
              exact parseModel1BridgeMappings_format edited
            · intro key foreign
              rw [GoMap.get_set_of_ne foreign.2,
                GoMap.get_set_of_ne foreign.1]
            · exact fun key different => GoMap.get_set_of_ne different

theorem withoutMapping_eq_ok {mappings edited : GoMap String}
    (done : withoutMapping network mappings = .ok edited) :
    ∀ key, key ≠ network.physicalNetwork →
      edited.get key = mappings.get key := by
  unfold withoutMapping at done
  split at done
  · split at done
    · cases done
      exact fun _ _ => rfl
    · split at done
      · cases done
      · cases done
        exact fun key different => GoMap.get_delete_of_ne different
  · cases done
    exact fun _ _ => rfl

theorem withoutMapping_valid {mappings edited : GoMap String}
    (valid : ValidMappings mappings)
    (done : withoutMapping network mappings = .ok edited) :
    ValidMappings edited := by
  unfold withoutMapping at done
  split at done
  · split at done
    · cases done
      exact valid
    · split at done
      · cases done
      · cases done
        intro physicalNetwork bridge got
        rw [GoMap.get_delete] at got
        split at got
        · cases got
        · exact valid _ _ got
  · cases done
    exact valid

theorem deleteModel1BridgeMapping_eq_ok (rows : read.roots = [before])
    (planned : deleteModel1BridgeMapping sha network read =
      .ok operations) :
    (before.externalIDs.get
        (model1BridgeMappingOwnerKey sha network.physicalNetwork) = none ∧
      operations = []) ∨
    (before.externalIDs.get
        (model1BridgeMappingOwnerKey sha network.physicalNetwork) ≠ none ∧
      ∃ externalIDs, operations = [.updateExternalIDs before.uuid
          externalIDs] ∧
        ∀ root : OpenvSwitch, SameForeign sha network
          { root with externalIDs := externalIDs } before) := by
  unfold deleteModel1BridgeMapping at planned
  obtain ⟨root, rooted, planned⟩ := bind_eq_ok.mp planned
  obtain rfl := root_eq_ok rows rooted
  dsimp only at planned
  split at planned
  · rename_i absent
    cases planned
    exact .inl ⟨absent, rfl⟩
  · rename_i owner owned
    split at planned
    · cases planned
    · obtain ⟨mappings, parsed, planned⟩ := bind_eq_ok.mp planned
      obtain ⟨edited, without, planned⟩ := bind_eq_ok.mp planned
      cases planned
      refine .inr ⟨by rw [owned]; exact Option.some_ne_none _, _, rfl, ?_⟩
      intro other
      have valid := withoutMapping_valid
        (parseModel1BridgeMappings_valid parsed) without
      refine sameForeign_of_written edited parsed ?_ ?_
        (withoutMapping_eq_ok without)
      · unfold rootMappings
        dsimp only
        split
        · rename_i empty
          rw [GoMap.get_delete_self]
          refine ⟨GoMap.empty, rfl, ?_⟩
          intro key
          rw [GoMap.get_empty, GoMap.get_eq_none_of_size_eq_zero empty]
        · rw [GoMap.get_set_self]
          exact parseModel1BridgeMappings_format valid
      · intro key foreign
        split
        · rw [GoMap.get_delete_of_ne foreign.1,
            GoMap.get_delete_of_ne foreign.2]
        · rw [GoMap.get_set_of_ne foreign.1,
            GoMap.get_delete_of_ne foreign.2]

/-- A successful update replaces the map of the row. -/
private theorem roots_of_update {externalIDs : GoMap String}
    (rows : current.roots = [written]) (uuid : written.uuid = before.uuid)
    (done : current.transactModel1
      [.updateExternalIDs before.uuid externalIDs] = (.ok (), after)) :
    after.roots = [{ written with externalIDs := externalIDs }] := by
  unfold Vswitch.transactModel1 at done
  rw [if_neg (by simp)] at done
  dsimp only at done
  split at done
  · cases done
  · split at done
    · cases done
    · cases done
      simp [Vswitch.applyAll, Vswitch.apply, Vswitch.updateRoot,
        Vswitch.collect, rows, uuid]

/-- What another client commits between the read and the write of an
operation that succeeds survives exactly when the operation had nothing to
write, or when the row it had read contained it already. -/
theorem foreign_commit_survives_iff
    (validated : validateModel1Network network = .ok ())
    (readRows : read.roots = [before])
    (currentRows : current.roots = [written])
    (commit : ForeignCommit sha network before written)
    (done : operation.run sha network read current = (.ok (), after)) :
    ∃ kept, after.roots = [kept] ∧
      (Survives sha network written kept ↔
        operation.Settled sha network before ∨
          Survives sha network written before) := by
  have valid : validModel1BridgeMapping network.physicalNetwork
      network.providerBridge = true := by
    unfold validateModel1Network at validated
    split at validated
    · rename_i accepted
      simp only [Model1Config.validNetwork, Bool.and_eq_true] at accepted
      exact accepted.1.1.2
    · cases validated
  unfold MappingOperation.run at done
  split at done
  · cases done
  · rename_i operations planned
    have cases : (operation.Settled sha network before ∧ operations = []) ∨
        (¬operation.Settled sha network before ∧
          ∃ externalIDs, operations = [.updateExternalIDs before.uuid
              externalIDs] ∧
            ∀ root : OpenvSwitch, SameForeign sha network
              { root with externalIDs := externalIDs } before) := by
      cases operation with
      | ensure =>
          exact ensureModel1BridgeMapping_eq_ok readRows valid planned
      | delete => exact deleteModel1BridgeMapping_eq_ok readRows planned
    rcases cases with ⟨settled, rfl⟩ | ⟨unsettled, externalIDs, rfl, same⟩
    · cases done
      exact ⟨written, currentRows, fun _ => .inl settled,
        fun _ => survives_refl⟩
    · refine ⟨_, roots_of_update currentRows commit.uuid done, ?_⟩
      rw [(same written).survives_iff]
      exact ⟨.inr, fun known => known.resolve_left unsettled⟩

def sampleModel1Network : Model1Network :=
  ⟨"blue", "ls-blue", "physnet-blue", "br-blue", 100⟩

/-- The SHA-256 digest of the text that names the mapping. -/
def sampleSha256 (text : String) : String :=
  if text = "physnet-blue\x00provider\x001\x00" then
    "419c9a444e6bd5d9c4186125e669e363" ++
      "bd4a138530f4c5ade1f61d120bbbeb9c"
  else ""

/-- A database with the provider bridge, and the given keys in its row. -/
def sampleVswitch (externalIDs : GoMap String) : Vswitch :=
  { roots := [⟨"root", ["bridge"], externalIDs⟩]
    bridges := [⟨"bridge", "br-blue", [], some .standalone, [],
      GoMap.empty⟩]
    ports := []
    interfaces := [] }

/-- The keys after another client has written one. -/
def sampleWritten : GoMap String :=
  GoMap.empty.set "system-id" "node"

theorem sample_foreignCommit :
    ForeignCommit sampleSha256 sampleModel1Network
      ⟨"root", ["bridge"], GoMap.empty⟩ ⟨"root", ["bridge"], sampleWritten⟩ :=
  { uuid := rfl
    owner := rfl
    mapping := fun _ => Iff.rfl
    parses := ⟨GoMap.empty, rfl⟩ }

theorem foreign_commit_survives_iff_sample :
    ∃ kept, (MappingOperation.ensure.run sampleSha256 sampleModel1Network
        (sampleVswitch GoMap.empty) (sampleVswitch sampleWritten)).2.roots =
          [kept] ∧
      ¬Survives sampleSha256 sampleModel1Network
        ⟨"root", ["bridge"], sampleWritten⟩ kept := by
  have done : MappingOperation.ensure.run sampleSha256 sampleModel1Network
      (sampleVswitch GoMap.empty) (sampleVswitch sampleWritten) =
        (.ok (), (MappingOperation.ensure.run sampleSha256 sampleModel1Network
          (sampleVswitch GoMap.empty) (sampleVswitch sampleWritten)).2) :=
    rfl
  obtain ⟨kept, rows, survives⟩ := foreign_commit_survives_iff rfl rfl rfl
    sample_foreignCommit done
  refine ⟨kept, rows, ?_⟩
  rw [survives]
  intro known
  rcases known with ⟨mappings, parsed, mapped⟩ | ⟨keys, _⟩
  · cases parsed
    cases mapped
  · have foreign : ForeignKey sampleSha256 sampleModel1Network "system-id" :=
      ⟨by decide, by decide⟩
    cases keys "system-id" "node" foreign rfl

/-- The mapping is written although another client has added a key since the
row was read, and the key is gone. -/
theorem ensureModel1BridgeMapping_loses_key :
    ∃ after kept,
      MappingOperation.ensure.run sampleSha256 sampleModel1Network
        (sampleVswitch GoMap.empty) (sampleVswitch sampleWritten) =
          (.ok (), after) ∧
      after.roots = [kept] ∧
      sampleWritten.get "system-id" = some "node" ∧
      kept.externalIDs.get "system-id" = none :=
  ⟨_, _, rfl, rfl, rfl, rfl⟩

end EvpnForOvn.Evpn

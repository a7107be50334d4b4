import EvpnForOvn.Export.Recovery

/-!
# Export receipts

What the loops of export recovery over its receipts establish: the check on
reopening as a property of a state, the receipts carried over by `Recover`,
and what the comparison with the paths of a RIB finds.
-/

namespace EvpnForOvn.Evpn

open Go Ownership

variable {bgp : BgpPackage} {uuid : UuidPackage}

def durableReceipts (record : Record ExportDocument) : List ExportReceipt :=
  match record.state with
  | .state state => state.receipts
  | _ => []

theorem sameExportPayload_iff {left right : ExportReceipt} :
    sameExportPayload left right = true ↔
      left.nlri = right.nlri ∧ left.attributes = right.attributes := by
  simp [sameExportPayload]

/-- The canonical text of a receipt's UUID. -/
def ExportReceipt.canonicalID (uuid : UuidPackage)
    (receipt : ExportReceipt) : Option String :=
  (uuid.parse receipt.owned.pathUUID).map uuid.text

structure ExportReceipt.Valid (bgp : BgpPackage) (uuid : UuidPackage)
    (incarnation : String) (receipt : ExportReceipt) : Prop where
  identified : uuid.parsesToNonNil receipt.owned.pathUUID = true
  current : receipt.incarnation = incarnation
  rebuilt : ∃ want, durableExportRoute bgp receipt.owned.endpoint
      receipt.incarnation receipt.owned.pathUUID = .ok want ∧
    sameExportPayload want receipt = true

/-- Two receipts for different UUIDs and different wire routes. -/
def ExportReceipt.Apart (uuid : UuidPackage) (left right : ExportReceipt) :
    Prop :=
  left.nlri ≠ right.nlri ∧ left.canonicalID uuid ≠ right.canonicalID uuid

instance : Std.Symm (ExportReceipt.Apart uuid) :=
  ⟨fun _ _ apart => ⟨apart.1.symm, apart.2.symm⟩⟩

/-- What `validate` accepts. -/
structure ExportRecoveryState.Valid (bgp : BgpPackage) (uuid : UuidPackage)
    (state : ExportRecoveryState) : Prop where
  version : state.version = 1
  incarnation : state.incarnation = "" → state.receipts = []
  receipts : ∀ receipt ∈ state.receipts,
    receipt.Valid bgp uuid state.incarnation
  apart : state.receipts.Pairwise (ExportReceipt.Apart uuid)

theorem validateReceipts_cons {incarnation : String} {keys : List Bytes}
    {ids : List String} {receipt : ExportReceipt}
    {rest : List ExportReceipt} :
    validateReceipts bgp uuid incarnation keys ids (receipt :: rest) =
        .ok () ↔
      receipt.Valid bgp uuid incarnation ∧ receipt.nlri ∉ keys ∧
        ∃ id, receipt.canonicalID uuid = some id ∧ id ∉ ids ∧
          validateReceipts bgp uuid incarnation (receipt.nlri :: keys)
            (id :: ids) rest = .ok () := by
  conv_lhs => unfold validateReceipts
  cases parsed : uuid.parse receipt.owned.pathUUID with
  | none =>
      constructor
      · intro accepted
        cases accepted
      · intro valid
        have nonNil := valid.1.identified
        unfold UuidPackage.parsesToNonNil at nonNil
        rw [parsed] at nonNil
        cases nonNil
  | some id =>
      have := uuid.equality
      have canonical : receipt.canonicalID uuid = some (uuid.text id) := by
        simp [ExportReceipt.canonicalID, parsed]
      have nonNilIff : uuid.parsesToNonNil receipt.owned.pathUUID = true ↔
          id ≠ uuid.zero := by
        unfold UuidPackage.parsesToNonNil
        rw [parsed]
        simp
      cases built : durableExportRoute bgp receipt.owned.endpoint
          receipt.incarnation receipt.owned.pathUUID with
      | error reason =>
          constructor
          · intro accepted
            dsimp only at accepted
            split at accepted <;> cases accepted
          · intro valid
            obtain ⟨want, wantEq, _⟩ := valid.1.rebuilt
            rw [built] at wantEq
            cases wantEq
      | ok want =>
          constructor
          · intro accepted
            dsimp only at accepted
            split at accepted
            · cases accepted
            · rename_i stamped
              split at accepted
              · cases accepted
              · rename_i same
                split at accepted
                · cases accepted
                · rename_i unseen
                  simp only [Bool.or_eq_true, decide_eq_true_eq, not_or,
                    List.contains_eq_mem, ne_eq, not_not] at stamped
                  refine ⟨⟨nonNilIff.mpr stamped.1.1, stamped.2, want, built,
                    by simpa using same⟩, by simpa using unseen, uuid.text id,
                    canonical, stamped.1.2, accepted⟩
          · intro valid
            obtain ⟨valid, unseenKey, text, textEq, unseenID, accepted⟩ :=
              valid
            obtain ⟨other, otherEq, same⟩ := valid.rebuilt
            rw [canonical] at textEq
            cases textEq
            rw [built] at otherEq
            cases otherEq
            have nonNil := nonNilIff.mp valid.identified
            simp [nonNil, unseenID, valid.current, same, unseenKey, accepted]

theorem validateReceipts_iff {incarnation : String} {keys : List Bytes}
    {ids : List String} {receipts : List ExportReceipt} :
    validateReceipts bgp uuid incarnation keys ids receipts = .ok () ↔
      (∀ receipt ∈ receipts, receipt.Valid bgp uuid incarnation ∧
        receipt.nlri ∉ keys ∧ ∀ id ∈ ids, receipt.canonicalID uuid ≠ some id) ∧
      receipts.Pairwise (ExportReceipt.Apart uuid) := by
  induction receipts generalizing keys ids with
  | nil => simp [validateReceipts]
  | cons receipt rest induction =>
      rw [validateReceipts_cons, List.pairwise_cons]
      constructor
      · intro accepted
        obtain ⟨valid, unseenKey, id, canonical, unseenID, accepted⟩ :=
          accepted
        obtain ⟨others, apart⟩ := induction.mp accepted
        refine ⟨?_, ?_, apart⟩
        · intro other member
          rcases List.mem_cons.mp member with rfl | later
          · refine ⟨valid, unseenKey, ?_⟩
            intro known knownMember same
            rw [canonical] at same
            cases same
            exact unseenID knownMember
          · obtain ⟨otherValid, otherKey, otherID⟩ := others other later
            refine ⟨otherValid, ?_, ?_⟩
            · intro seen
              exact otherKey (List.mem_cons_of_mem _ seen)
            · intro known knownMember
              exact otherID known (List.mem_cons_of_mem _ knownMember)
        · intro other member
          obtain ⟨_, otherKey, otherID⟩ := others other member
          constructor
          · intro same
            exact otherKey (by simp [same])
          · rw [canonical]
            exact (otherID id (by simp)).symm
      · intro accepted
        obtain ⟨each, apartHead, apart⟩ := accepted
        obtain ⟨valid, unseenKey, unseenID⟩ := each receipt (by simp)
        have nonNil := valid.identified
        obtain ⟨id, canonical⟩ : ∃ id, receipt.canonicalID uuid = some id := by
          unfold UuidPackage.parsesToNonNil at nonNil
          unfold ExportReceipt.canonicalID
          cases parsed : uuid.parse receipt.owned.pathUUID with
          | none => simp [parsed] at nonNil
          | some id => exact ⟨uuid.text id, rfl⟩
        refine ⟨valid, unseenKey, id, canonical,
          fun member => unseenID id member canonical, induction.mpr ⟨?_, apart⟩⟩
        intro other member
        obtain ⟨otherValid, otherKey, otherID⟩ :=
          each other (List.mem_cons_of_mem _ member)
        have headApart := apartHead other member
        refine ⟨otherValid, ?_, ?_⟩
        · intro seen
          rcases List.mem_cons.mp seen with same | earlier
          · exact headApart.1 same.symm
          · exact otherKey earlier
        · intro known knownMember
          rcases List.mem_cons.mp knownMember with rfl | earlier
          · rw [← canonical]
            exact headApart.2.symm
          · exact otherID known earlier

theorem ExportRecoveryState.validate_iff {state : ExportRecoveryState} :
    state.validate bgp uuid = .ok () ↔ state.Valid bgp uuid := by
  unfold validate
  constructor
  · intro accepted
    split at accepted
    · cases accepted
    · rename_i schema
      simp only [Bool.or_eq_true, decide_eq_true_eq, Bool.and_eq_true,
        beq_iff_eq, Bool.not_eq_true', not_or, not_and, ne_eq,
        not_not] at schema
      obtain ⟨each, apart⟩ := validateReceipts_iff.mp accepted
      refine ⟨schema.1, ?_, fun receipt member => (each receipt member).1,
        apart⟩
      intro missing
      simpa using schema.2 missing
  · intro valid
    have schema : ¬((decide (state.version ≠ 1) ||
        (state.incarnation == "" && !state.receipts.isEmpty)) = true) := by
      simp only [valid.version, ne_eq, not_true_eq_false, decide_false,
        Bool.false_or, Bool.and_eq_true, beq_iff_eq, not_and]
      intro missing
      simp [valid.incarnation missing]
    rw [if_neg schema, validateReceipts_iff]
    refine ⟨fun receipt member => ⟨valid.receipts receipt member, ?_, ?_⟩,
      valid.apart⟩
    · simp
    · simp

namespace ExportRecoveryState.Valid

variable {state : ExportRecoveryState}

/-- Receipts of a valid state are told apart by their UUIDs. -/
theorem eq_of_pathUUID (valid : state.Valid bgp uuid)
    {left right : ExportReceipt} (leftMember : left ∈ state.receipts)
    (rightMember : right ∈ state.receipts)
    (same : left.owned.pathUUID = right.owned.pathUUID) :
    left = right := by
  by_contra different
  apply (valid.apart.forall leftMember rightMember different).2
  unfold ExportReceipt.canonicalID
  rw [same]

end ExportRecoveryState.Valid

theorem hasNLRI_iff {nlri : Bytes} {path : Type2RIBPath bgp} :
    hasNLRI bgp nlri path = true ↔
      ∃ value, path.nlri = some value ∧
        bgp.serializeNLRI value = .ok nlri := by
  unfold hasNLRI
  cases path.nlri with
  | none => simp
  | some value =>
      cases serialized : bgp.serializeNLRI value with
      | error reason => simp [serialized]
      | ok bytes => simp [serialized]

theorem mem_matchingExportPaths {paths : List (Type2RIBPath bgp)}
    {receipt : ExportReceipt} {path : Type2RIBPath bgp} :
    path ∈ matchingExportPaths bgp paths receipt ↔
      path ∈ paths ∧ path.isLocal = true ∧
        hasNLRI bgp receipt.nlri path = true := by
  simp [matchingExportPaths]

/-- Only the bytes of a route decide which paths match it. -/
theorem matchingExportPaths_congr {paths : List (Type2RIBPath bgp)}
    {left right : ExportReceipt} (same : left.nlri = right.nlri) :
    matchingExportPaths bgp paths left =
      matchingExportPaths bgp paths right := by
  unfold matchingExportPaths
  rw [same]

/-- `Recover` carries over exactly the receipts that some local path has the
bytes of, and each of them is confirmed by its paths. -/
theorem retainReceipts_eq_ok {seen : RIBObservation bgp}
    {receipts kept : List ExportReceipt}
    (retained : retainReceipts bgp seen receipts = .ok kept) :
    kept.Sublist receipts ∧
      (∀ receipt ∈ receipts, receipt ∈ kept ↔
        matchingExportPaths bgp seen.paths receipt ≠ []) ∧
      ∀ receipt ∈ kept, receipt.incarnation = seen.incarnation := by
  induction receipts generalizing kept with
  | nil =>
      cases retained
      simp
  | cons receipt rest induction =>
      simp only [retainReceipts] at retained
      split at retained
      · rename_i absent
        obtain ⟨sub, members, current⟩ := induction retained
        refine ⟨sub.cons receipt, ?_, current⟩
        intro other member
        rcases List.mem_cons.mp member with rfl | later
        · constructor
          · intro kept
            exact (members other (sub.subset kept)).mp kept
          · intro found
            exact absurd (List.isEmpty_iff.mp absent) found
        · exact members other later
      · rename_i present
        split at retained
        · cases retained
        · rename_i confirmed
          cases recursive : retainReceipts bgp seen rest with
          | error reason => simp [recursive, Except.map] at retained
          | ok others =>
              simp only [recursive, Except.map, Except.ok.injEq] at retained
              subst retained
              obtain ⟨sub, members, current⟩ := induction recursive
              simp only [Bool.or_eq_true, decide_eq_true_eq, not_or, ne_eq,
                not_not] at confirmed
              refine ⟨sub.cons_cons receipt, ?_, ?_⟩
              · intro other member
                rcases List.mem_cons.mp member with rfl | later
                · have found : matchingExportPaths bgp seen.paths other ≠
                      [] := by
                    intro empty
                    exact present (List.isEmpty_iff.mpr empty)
                  simp [found]
                · constructor
                  · intro kept
                    rcases List.mem_cons.mp kept with rfl | keptLater
                    · intro empty
                      exact present (List.isEmpty_iff.mpr empty)
                    · exact (members other later).mp keptLater
                  · intro found
                    exact List.mem_cons_of_mem _
                      ((members other later).mpr found)
              · intro other member
                rcases List.mem_cons.mp member with rfl | later
                · exact confirmed.1.symm
                · exact current other later

theorem mem_withoutExportReceipt {receipts : List ExportReceipt} {id : String}
    {receipt : ExportReceipt} :
    receipt ∈ withoutExportReceipt receipts id ↔
      receipt ∈ receipts ∧ receipt.owned.pathUUID ≠ id := by
  simp [withoutExportReceipt]

end EvpnForOvn.Evpn

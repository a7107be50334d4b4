import EvpnForOvn.Type2.Reconciler

/-!
# What a resynchronization accepts

`Resync` looks receipts up by the UUID of a path, `resyncDurable` by its wire
key.  Both only ever install receipts they were given, and both fail when a
receipt is not read back.
-/

namespace EvpnForOvn.Evpn

open Go

variable {bgp : BgpPackage}

/-- A matching path carries the bytes of the endpoint's own NLRI. -/
theorem nlri_of_ribPathMatchesEndpoint {path : Type2RIBPath bgp}
    {endpoint : LocalEndpoint}
    (matched : ribPathMatchesEndpoint bgp path endpoint = true) :
    ∃ route nlri bytes, buildType2Route bgp endpoint = .ok route ∧
      path.nlri = some nlri ∧ bgp.serializeNLRI nlri = .ok bytes ∧
      bgp.serializeNLRI route.nlri = .ok bytes := by
  unfold ribPathMatchesEndpoint at matched
  cases built : buildType2Route bgp endpoint with
  | error reason => simp [built] at matched
  | ok route =>
      cases present : path.nlri with
      | none => simp [built, present] at matched
      | some nlri =>
          cases got : bgp.serializeNLRI nlri with
          | error reason => simp [built, present, got] at matched
          | ok gotNLRI =>
              cases want : bgp.serializeNLRI route.nlri with
              | error reason => simp [built, present, got, want] at matched
              | ok wantNLRI =>
                  simp only [built, present, got, want, Bool.and_eq_true,
                    beq_iff_eq] at matched
                  have same : gotNLRI = wantNLRI := matched.1.1.1
                  exact ⟨route, nlri, gotNLRI, rfl, rfl, got, same ▸ want⟩

namespace RouteReconciler

/-- Receipts are claimed one after the other, each under a key that is free. -/
inductive Claimed (keyOf : OwnedType2Route → Option String) :
    List OwnedType2Route → GoMap OwnedType2Route → GoMap OwnedType2Route →
      Prop where
  | nil {claims : GoMap OwnedType2Route} : Claimed keyOf [] claims claims
  | cons {receipt : OwnedType2Route} {rest : List OwnedType2Route}
      {key : String} {start claims : GoMap OwnedType2Route} :
      keyOf receipt = some key → start.get key = none →
      Claimed keyOf rest (start.set key receipt) claims →
      Claimed keyOf (receipt :: rest) start claims

section Claims

variable {keyOf : OwnedType2Route → Option String}
  {receipts : List OwnedType2Route} {start claims : GoMap OwnedType2Route}
  {receipt : OwnedType2Route} {key : String}

theorem claimed_of_claimsByUUID
    (ok : claimsByUUID bgp receipts start = .ok claims) :
    Claimed (fun receipt => some receipt.pathUUID) receipts start claims := by
  induction receipts generalizing start with
  | nil =>
      cases ok
      exact .nil
  | cons first rest induction =>
      unfold claimsByUUID at ok
      split at ok
      · cases ok
      split at ok
      · cases ok
      rename_i absent
      split at ok
      · cases ok
      exact .cons rfl (by simpa using absent) (induction ok)

theorem claimed_of_claimsByKey
    (ok : claimsByKey bgp receipts start = .ok claims) :
    Claimed (fun receipt => wireKey bgp receipt.endpoint) receipts start
      claims := by
  induction receipts generalizing start with
  | nil =>
      cases ok
      exact .nil
  | cons first rest induction =>
      unfold claimsByKey at ok
      split at ok
      · cases ok
      rename_i route built
      dsimp only at ok
      split at ok
      · cases ok
      split at ok
      · cases ok
      rename_i absent
      exact .cons (wireKey_eq_some_iff.mpr ⟨route, built, rfl⟩)
        (by simpa using absent) (induction ok)

theorem Claimed.only (claimed : Claimed keyOf receipts start claims)
    (found : claims.get key = some receipt) :
    start.get key = some receipt ∨
      (receipt ∈ receipts ∧ keyOf receipt = some key) := by
  induction claimed with
  | nil => exact .inl found
  | cons keyed _ _ induction =>
      rcases induction found with earlier | later
      · rw [GoMap.get_set] at earlier
        split at earlier
        · rename_i same
          cases earlier
          exact .inr ⟨List.mem_cons_self, same ▸ keyed⟩
        · exact .inl earlier
      · exact .inr ⟨List.mem_cons_of_mem _ later.1, later.2⟩

theorem Claimed.kept (claimed : Claimed keyOf receipts start claims)
    (found : start.get key = some receipt) :
    claims.get key = some receipt := by
  induction claimed with
  | nil => exact found
  | cons _ absent _ induction =>
      apply induction
      rw [GoMap.get_set_of_ne]
      · exact found
      · rintro rfl
        rw [absent] at found
        cases found

theorem Claimed.all (claimed : Claimed keyOf receipts start claims)
    (member : receipt ∈ receipts) :
    ∃ key, keyOf receipt = some key ∧ claims.get key = some receipt := by
  induction claimed with
  | nil => cases member
  | cons keyed _ rest induction =>
      rcases List.mem_cons.mp member with rfl | later
      · exact ⟨_, keyed, rest.kept GoMap.get_set_self⟩
      · exact induction later

theorem Claimed.absent (claimed : Claimed keyOf receipts start claims)
    (member : receipt ∈ receipts) (keyed : keyOf receipt = some key) :
    start.get key = none := by
  induction claimed with
  | nil => cases member
  | cons first absent _ induction =>
      rcases List.mem_cons.mp member with rfl | later
      · rw [first] at keyed
        cases keyed
        exact absent
      · have missing := induction later
        rw [GoMap.get_set] at missing
        split at missing
        · cases missing
        · exact missing

theorem Claimed.nodup (claimed : Claimed keyOf receipts start claims) :
    receipts.Nodup := by
  induction claimed with
  | nil => exact List.nodup_nil
  | cons keyed _ rest induction =>
      refine List.nodup_cons.mpr ⟨fun again => ?_, induction⟩
      have missing := rest.absent again keyed
      rw [GoMap.get_set_self] at missing
      cases missing

end Claims

/-- A local path and the key it is filed under. -/
structure LocalAt (bgp : BgpPackage) (path : Type2RIBPath bgp)
    (key : String) : Prop where
  isLocal : path.isLocal = true
  keyed : ∃ nlri, path.nlri = some nlri ∧ bgp.nlriString nlri = key

/-- One step of the scan of `Resync`. -/
inductive ScanStep (bgp : BgpPackage) (path : Type2RIBPath bgp)
    (start : Findings) : Findings → Prop where
  | remote : path.isLocal = false → ScanStep bgp path start start
  | unclaimed {key : String} :
      LocalAt bgp path key →
      start.claims.get path.pathUUID = none →
      ScanStep bgp path start { start with foreign := key :: start.foreign }
  | owned {key : String} {receipt : OwnedType2Route} :
      LocalAt bgp path key →
      start.claims.get path.pathUUID = some receipt →
      ribPathMatchesEndpoint bgp path receipt.endpoint = true →
      start.applied.get key = none →
      ScanStep bgp path start
        { start with
          claims := start.claims.delete path.pathUUID
          applied := start.applied.set key receipt }

theorem scanPaths_cons {path : Type2RIBPath bgp}
    {rest : List (Type2RIBPath bgp)} {start found : Findings}
    (ok : scanPaths bgp (path :: rest) start = .ok found) :
    ∃ next, ScanStep bgp path start next ∧
      scanPaths bgp rest next = .ok found := by
  unfold scanPaths at ok
  cases present : path.nlri with
  | none =>
      rw [present] at ok
      cases ok
  | some nlri =>
      simp only [present] at ok
      cases isLocal : path.isLocal with
      | false =>
          rw [isLocal] at ok
          exact ⟨start, .remote isLocal, ok⟩
      | true =>
          rw [isLocal] at ok
          have here : LocalAt bgp path (bgp.nlriString nlri) :=
            ⟨isLocal, nlri, present, rfl⟩
          cases claimed : start.claims.get path.pathUUID with
          | none =>
              rw [claimed] at ok
              exact ⟨_, .unclaimed here claimed, ok⟩
          | some receipt =>
              simp only [claimed, Bool.not_true, Bool.false_eq_true,
                if_false] at ok
              split at ok
              · cases ok
              · rename_i matched
                split at ok
                · cases ok
                · rename_i absent
                  exact ⟨_, .owned here claimed (by simpa using matched)
                    (by simpa using absent), ok⟩

/-- A receipt and the path it was read back from. -/
structure ReadFrom (bgp : BgpPackage) (paths : List (Type2RIBPath bgp))
    (key : String) (receipt : OwnedType2Route) (path : Type2RIBPath bgp) :
    Prop where
  member : path ∈ paths
  found : LocalAt bgp path key
  matched : ribPathMatchesEndpoint bgp path receipt.endpoint = true

theorem ReadFrom.cons {paths : List (Type2RIBPath bgp)} {key : String}
    {receipt : OwnedType2Route} {path : Type2RIBPath bgp}
    (read : ReadFrom bgp paths key receipt path)
    (first : Type2RIBPath bgp) :
    ReadFrom bgp (first :: paths) key receipt path :=
  { read with member := List.mem_cons_of_mem _ read.member }

theorem scanPaths_sound {paths : List (Type2RIBPath bgp)}
    {start found : Findings} (ok : scanPaths bgp paths start = .ok found) :
    ∀ key receipt, found.applied.get key = some receipt →
      start.applied.get key = some receipt ∨
        ∃ path, start.claims.get path.pathUUID = some receipt ∧
          ReadFrom bgp paths key receipt path := by
  induction paths generalizing start with
  | nil =>
      intro key receipt installed
      cases ok
      exact .inl installed
  | cons path rest induction =>
      intro key receipt installed
      obtain ⟨next, step, restOk⟩ := scanPaths_cons ok
      have claims_subset : ∀ uuid claim,
          next.claims.get uuid = some claim →
          start.claims.get uuid = some claim := by
        intro uuid claim claimed
        cases step with
        | remote _ => exact claimed
        | unclaimed _ _ => exact claimed
        | owned _ _ _ _ =>
            rw [GoMap.get_delete] at claimed
            split at claimed
            · cases claimed
            · exact claimed
      rcases induction restOk key receipt installed with earlier | later
      · cases step with
        | remote _ => exact .inl earlier
        | unclaimed _ _ => exact .inl earlier
        | owned here claimed matched _ =>
            rw [GoMap.get_set] at earlier
            split at earlier
            · rename_i same
              cases earlier
              subst same
              exact .inr ⟨path, claimed, List.mem_cons_self, here, matched⟩
            · exact .inl earlier
      · obtain ⟨other, claimed, read⟩ := later
        exact .inr ⟨other, claims_subset _ _ claimed, read.cons path⟩

/-- `Resync` installs receipts, each read back under its own UUID. -/
theorem confirm_sound {receipts : List OwnedType2Route}
    {paths : List (Type2RIBPath bgp)} {found : Findings}
    (ok : confirm bgp receipts paths = .ok found) {key : String}
    {receipt : OwnedType2Route}
    (installed : found.applied.get key = some receipt) :
    receipt ∈ receipts ∧
      ∃ path, path.pathUUID = receipt.pathUUID ∧
        ReadFrom bgp paths key receipt path := by
  unfold confirm at ok
  obtain ⟨claims, claimsOk, ok⟩ := bind_eq_ok.mp ok
  obtain ⟨findings, scanned, ok⟩ := bind_eq_ok.mp ok
  split at ok
  · cases ok
  split at ok
  · cases ok
  cases ok
  rcases scanPaths_sound scanned key receipt installed with nothing | read
  · simp at nothing
  · obtain ⟨path, claimed, readPath⟩ := read
    rcases (claimed_of_claimsByUUID claimsOk).only claimed with
      nothing | given
    · simp at nothing
    · exact ⟨given.1, path, Option.some.inj given.2.symm, readPath⟩

/-- One step of the scan of `resyncDurable`. -/
inductive DurableStep (bgp : BgpPackage) (path : Type2RIBPath bgp)
    (start : Findings) : Findings → Prop where
  | remote : path.isLocal = false → DurableStep bgp path start start
  | unclaimed {key : String} :
      LocalAt bgp path key →
      start.claims.get key = none →
      DurableStep bgp path start
        { start with foreign := key :: start.foreign }
  | owned {key : String} {receipt : OwnedType2Route} :
      LocalAt bgp path key →
      start.claims.get key = some receipt →
      start.applied.get key = none →
      ribPathMatchesEndpoint bgp path receipt.endpoint = true →
      (path.pathUUID = "" ∨ path.pathUUID = receipt.pathUUID) →
      DurableStep bgp path start
        { start with applied := start.applied.set key receipt }

theorem scanDurable_cons {path : Type2RIBPath bgp}
    {rest : List (Type2RIBPath bgp)} {start found : Findings}
    (ok : scanDurable bgp (path :: rest) start = .ok found) :
    ∃ next, DurableStep bgp path start next ∧
      scanDurable bgp rest next = .ok found := by
  unfold scanDurable at ok
  cases present : path.nlri with
  | none =>
      rw [present] at ok
      cases ok
  | some nlri =>
      simp only [present] at ok
      cases isLocal : path.isLocal with
      | false =>
          rw [isLocal] at ok
          exact ⟨start, .remote isLocal, ok⟩
      | true =>
          rw [isLocal] at ok
          have here : LocalAt bgp path (bgp.nlriString nlri) :=
            ⟨isLocal, nlri, present, rfl⟩
          cases claimed : start.claims.get (bgp.nlriString nlri) with
          | none =>
              simp only [claimed, Bool.not_true, Bool.false_eq_true,
                if_false] at ok
              exact ⟨_, .unclaimed here claimed, ok⟩
          | some receipt =>
              simp only [claimed, Bool.not_true, Bool.false_eq_true,
                if_false] at ok
              split at ok
              · cases ok
              · rename_i absent
                split at ok
                · cases ok
                · rename_i agrees
                  simp only [Bool.or_eq_true, Bool.not_eq_true',
                    Bool.and_eq_true, decide_eq_true_eq, not_or,
                    Bool.not_eq_false, not_and, not_not] at agrees
                  refine ⟨_, .owned here claimed (by simpa using absent)
                    agrees.1 ?_, ok⟩
                  by_cases empty : path.pathUUID = ""
                  · exact .inl empty
                  · exact .inr (agrees.2 empty)

theorem DurableStep.claims {path : Type2RIBPath bgp} {start next : Findings}
    (step : DurableStep bgp path start next) : next.claims = start.claims := by
  cases step <;> rfl

theorem scanDurable_sound {paths : List (Type2RIBPath bgp)}
    {start found : Findings} (ok : scanDurable bgp paths start = .ok found) :
    ∀ key receipt, found.applied.get key = some receipt →
      start.applied.get key = some receipt ∨
        (start.claims.get key = some receipt ∧
          ∃ path, (path.pathUUID = "" ∨ path.pathUUID = receipt.pathUUID) ∧
            ReadFrom bgp paths key receipt path) := by
  induction paths generalizing start with
  | nil =>
      intro key receipt installed
      cases ok
      exact .inl installed
  | cons path rest induction =>
      intro key receipt installed
      obtain ⟨next, step, restOk⟩ := scanDurable_cons ok
      rcases induction restOk key receipt installed with earlier | later
      · cases step with
        | remote _ => exact .inl earlier
        | unclaimed _ _ => exact .inl earlier
        | owned here claimed _ matched uuid =>
            rw [GoMap.get_set] at earlier
            split at earlier
            · rename_i same
              cases earlier
              subst same
              exact .inr ⟨claimed, path, uuid, List.mem_cons_self, here,
                matched⟩
            · exact .inl earlier
      · obtain ⟨claimed, other, uuid, read⟩ := later
        rw [step.claims] at claimed
        exact .inr ⟨claimed, other, uuid, read.cons path⟩

/-- `resyncDurable` installs exactly the receipts, each under its own wire
key and read back there. -/
structure Restored (bgp : BgpPackage) (receipts : List OwnedType2Route)
    (paths : List (Type2RIBPath bgp)) (found : Findings) : Prop where
  only : ∀ key receipt, found.applied.get key = some receipt →
    receipt ∈ receipts ∧ wireKey bgp receipt.endpoint = some key ∧
      ∃ path, (path.pathUUID = "" ∨ path.pathUUID = receipt.pathUUID) ∧
        ReadFrom bgp paths key receipt path
  all : ∀ receipt ∈ receipts, ∃ key,
    wireKey bgp receipt.endpoint = some key ∧
      found.applied.get key = some receipt

theorem confirmDurable_restored {receipts : List OwnedType2Route}
    {paths : List (Type2RIBPath bgp)} {found : Findings}
    (ok : confirmDurable bgp receipts paths = .ok found) :
    Restored bgp receipts paths found := by
  unfold confirmDurable at ok
  obtain ⟨claims, claimsOk, ok⟩ := bind_eq_ok.mp ok
  obtain ⟨findings, scanned, ok⟩ := bind_eq_ok.mp ok
  split at ok
  · cases ok
  rename_i sameSize
  cases ok
  have filed := claimed_of_claimsByKey claimsOk
  have claimed : ∀ key receipt, found.applied.get key = some receipt →
      claims.get key = some receipt ∧
        ∃ path, (path.pathUUID = "" ∨ path.pathUUID = receipt.pathUUID) ∧
          ReadFrom bgp paths key receipt path := by
    intro key receipt installed
    rcases scanDurable_sound scanned key receipt installed with
      nothing | read
    · simp at nothing
    · exact read
  refine ⟨?_, ?_⟩
  · intro key receipt installed
    obtain ⟨listed, read⟩ := claimed key receipt installed
    rcases filed.only listed with nothing | given
    · simp at nothing
    · exact ⟨given.1, given.2, read⟩
  · intro receipt member
    obtain ⟨key, keyed, listed⟩ := filed.all member
    have present := GoMap.get_isSome_of_size_eq
      (fun other present => by
        obtain ⟨owned, installed⟩ := Option.isSome_iff_exists.mp present
        rw [(claimed other owned installed).1]
        rfl)
      (not_not.mp sameSize) key (by rw [listed]; rfl)
    obtain ⟨owned, installed⟩ := Option.isSome_iff_exists.mp present
    have same := (claimed key owned installed).1
    rw [listed] at same
    cases same
    exact ⟨key, keyed, installed⟩

end RouteReconciler

end EvpnForOvn.Evpn

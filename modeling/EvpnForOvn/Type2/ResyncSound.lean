import EvpnForOvn.Type2.RunSafety

/-!
# What a successful resynchronization has established

`Resync` files a path under the receipt with its UUID, `resyncDurable` under
the receipt with its wire key.  `Files` is what one step of either scan does
to the applied and the foreign routes; both results are assembled from it.
The local paths of the snapshot fall into those matched with a receipt, one
for each receipt, and the rest, whose keys are the foreign ones.
-/

namespace EvpnForOvn.Evpn

open Interactive Go RouteReconciler

variable {bgp : BgpPackage}

/-- The text that a path is filed under. -/
def Type2RIBPath.key (path : Type2RIBPath bgp) : Option String :=
  path.nlri.map bgp.nlriString

/-- The path carries what is advertised for the endpoint: the bytes of its
NLRI, its next hop, the origin IGP and, apart from an initial non-sticky MAC
mobility, its extended communities in any order. -/
def PathOf (path : Type2RIBPath bgp) (endpoint : LocalEndpoint) : Prop :=
  ∃ route nlri bytes wanted found,
    buildType2Route bgp endpoint = .ok route ∧
    path.nlri = some nlri ∧
    bgp.serializeNLRI nlri = .ok bytes ∧
    bgp.serializeNLRI route.nlri = .ok bytes ∧
    pathNextHop path.pathAttributes = pathNextHop route.pathAttributes ∧
    originMatches path.pathAttributes = true ∧
    communities route.pathAttributes = .ok wanted ∧
    communities (withoutInitialMobility path.pathAttributes) = .ok found ∧
    found.Perm wanted

theorem pathOf_of_ribPathMatchesEndpoint {path : Type2RIBPath bgp}
    {endpoint : LocalEndpoint}
    (matched : ribPathMatchesEndpoint bgp path endpoint = true) :
    PathOf path endpoint := by
  obtain ⟨route, nlri, bytes, built, present, got, want⟩ :=
    nlri_of_ribPathMatchesEndpoint matched
  unfold ribPathMatchesEndpoint at matched
  simp only [built, present, got, want, Bool.and_eq_true, beq_iff_eq]
    at matched
  obtain ⟨⟨⟨_, nextHop⟩, origin⟩, sets⟩ := matched
  cases wanted : communities route.pathAttributes with
  | error reason => simp [wanted] at sets
  | ok wantRT =>
      cases found : communities
          (withoutInitialMobility path.pathAttributes) with
      | error reason => simp [wanted, found] at sets
      | ok gotRT =>
          simp only [wanted, found] at sets
          exact ⟨route, nlri, bytes, wantRT, gotRT, built, present, got, want,
            nextHop, origin, wanted, found, equalStringSet_iff_perm.mp sets⟩

theorem RouteReconciler.LocalAt.key {path : Type2RIBPath bgp} {key : String}
    (found : LocalAt bgp path key) : path.key = some key := by
  obtain ⟨nlri, present, same⟩ := found.keyed
  rw [Type2RIBPath.key, present, Option.map_some, same]

inductive Files (path : Type2RIBPath bgp) (start next : Findings) :
    Prop where
  | remote :
      path.isLocal = false → next.applied = start.applied →
      next.foreign = start.foreign → Files path start next
  | unclaimed {key : String} :
      LocalAt bgp path key → next.applied = start.applied →
      next.foreign = key :: start.foreign → Files path start next
  | owned {key : String} {receipt : OwnedType2Route} :
      LocalAt bgp path key → start.applied.get key = none →
      PathOf path receipt.endpoint →
      next.applied = start.applied.set key receipt →
      next.foreign = start.foreign → Files path start next

theorem RouteReconciler.ScanStep.files {path : Type2RIBPath bgp}
    {start next : Findings} (step : ScanStep bgp path start next) :
    Files path start next := by
  cases step with
  | remote elsewhere => exact .remote elsewhere rfl rfl
  | unclaimed here _ => exact .unclaimed here rfl rfl
  | owned here _ matched absent =>
      exact .owned here absent (pathOf_of_ribPathMatchesEndpoint matched) rfl
        rfl

theorem RouteReconciler.DurableStep.files {path : Type2RIBPath bgp}
    {start next : Findings} (step : DurableStep bgp path start next) :
    Files path start next := by
  cases step with
  | remote elsewhere => exact .remote elsewhere rfl rfl
  | unclaimed here _ => exact .unclaimed here rfl rfl
  | owned here _ absent matched _ =>
      exact .owned here absent (pathOf_of_ribPathMatchesEndpoint matched) rfl
        rfl

/-- The steps of a scan over a snapshot. -/
inductive FilesAll : List (Type2RIBPath bgp) → Findings → Findings → Prop
    where
  | nil {found : Findings} : FilesAll [] found found
  | cons {path : Type2RIBPath bgp} {rest : List (Type2RIBPath bgp)}
      {start next found : Findings} :
      Files path start next → FilesAll rest next found →
      FilesAll (path :: rest) start found

theorem filesAll_of_scanPaths {paths : List (Type2RIBPath bgp)}
    {start found : Findings} (ok : scanPaths bgp paths start = .ok found) :
    FilesAll paths start found := by
  induction paths generalizing start with
  | nil =>
      cases ok
      exact .nil
  | cons path rest induction =>
      obtain ⟨next, step, restOk⟩ := scanPaths_cons ok
      exact .cons step.files (induction restOk)

theorem filesAll_of_scanDurable {paths : List (Type2RIBPath bgp)}
    {start found : Findings} (ok : scanDurable bgp paths start = .ok found) :
    FilesAll paths start found := by
  induction paths generalizing start with
  | nil =>
      cases ok
      exact .nil
  | cons path rest induction =>
      obtain ⟨next, step, restOk⟩ := scanDurable_cons ok
      exact .cons step.files (induction restOk)

/-- What a scan has made of the local paths. -/
structure Sorted (paths : List (Type2RIBPath bgp)) (start found : Findings)
    (owned : List (Type2RIBPath bgp × OwnedType2Route))
    (others : List (Type2RIBPath bgp)) : Prop where
  partition : (owned.map Prod.fst ++ others).Perm
    (paths.filter fun path => path.isLocal)
  matched : ∀ pair ∈ owned, PathOf pair.1 pair.2.endpoint
  fresh : ∀ pair ∈ owned, ∃ key, pair.1.key = some key ∧
    start.applied.get key = none
  distinct : (owned.map fun pair => pair.1.key).Nodup
  applied : ∀ key receipt, found.applied.get key = some receipt ↔
    start.applied.get key = some receipt ∨
      ∃ path, (path, receipt) ∈ owned ∧ path.key = some key
  foreign : ∀ key, key ∈ found.foreign ↔
    key ∈ start.foreign ∨ ∃ path ∈ others, path.key = some key

theorem FilesAll.sorted {paths : List (Type2RIBPath bgp)}
    {start found : Findings} (files : FilesAll paths start found) :
    ∃ owned others, Sorted paths start found owned others := by
  induction files with
  | nil =>
      refine ⟨[], [], ?_⟩
      exact
        { partition := .refl _
          matched := by simp
          fresh := by simp
          distinct := List.nodup_nil
          applied := by simp
          foreign := by simp }
  | @cons path rest start next found step _ induction =>
      obtain ⟨owned, others, sorted⟩ := induction
      cases step with
      | remote elsewhere applied foreign =>
          refine ⟨owned, others, ?_⟩
          have partition := sorted.partition
          have fresh := sorted.fresh
          have appliedIff := sorted.applied
          have foreignIff := sorted.foreign
          rw [applied] at fresh appliedIff
          rw [foreign] at foreignIff
          exact
            { partition := by simpa [elsewhere] using partition
              matched := sorted.matched
              fresh := fresh
              distinct := sorted.distinct
              applied := appliedIff
              foreign := foreignIff }
      | @unclaimed key here applied foreign =>
          refine ⟨owned, path :: others, ?_⟩
          have fresh := sorted.fresh
          have appliedIff := sorted.applied
          have foreignIff := sorted.foreign
          rw [applied] at fresh appliedIff
          rw [foreign] at foreignIff
          refine
            { partition := ?_
              matched := sorted.matched
              fresh := fresh
              distinct := sorted.distinct
              applied := appliedIff
              foreign := ?_ }
          · rw [List.filter_cons_of_pos here.isLocal]
            exact List.perm_middle.trans (sorted.partition.cons path)
          · intro other
            rw [foreignIff other]
            simp only [List.mem_cons, exists_eq_or_imp, here.key,
              Option.some.injEq, eq_comm (a := other)]
            tauto
      | @owned key receipt here absent agrees applied foreign =>
          refine ⟨(path, receipt) :: owned, others, ?_⟩
          have foreignIff := sorted.foreign
          rw [foreign] at foreignIff
          have unfiled : ∀ pair ∈ owned, pair.1.key ≠ some key := by
            intro pair member same
            obtain ⟨other, otherKey, missing⟩ := sorted.fresh pair member
            rw [same] at otherKey
            cases otherKey
            rw [applied, GoMap.get_set_self] at missing
            cases missing
          refine
            { partition := ?_
              matched := ?_
              fresh := ?_
              distinct := ?_
              applied := ?_
              foreign := foreignIff }
          · rw [List.filter_cons_of_pos here.isLocal]
            exact sorted.partition.cons path
          · intro pair member
            rcases List.mem_cons.mp member with rfl | later
            · exact agrees
            · exact sorted.matched pair later
          · intro pair member
            rcases List.mem_cons.mp member with rfl | later
            · exact ⟨key, here.key, absent⟩
            · obtain ⟨other, otherKey, missing⟩ := sorted.fresh pair later
              refine ⟨other, otherKey, ?_⟩
              have different : other ≠ key := by
                rintro rfl
                exact unfiled pair later otherKey
              rw [applied, GoMap.get_set_of_ne different] at missing
              exact missing
          · refine List.nodup_cons.mpr ⟨?_, sorted.distinct⟩
            intro member
            obtain ⟨pair, listed, same⟩ := List.mem_map.mp member
            exact unfiled pair listed (same.trans here.key)
          · intro other owner
            rw [sorted.applied other owner, applied, GoMap.get_set]
            constructor
            · intro either
              rcases either with earlier | ⟨elsewhere, listed, keyed⟩
              · split at earlier
                · rename_i same
                  cases earlier
                  exact .inr ⟨path, List.mem_cons_self, same ▸ here.key⟩
                · exact .inl earlier
              · exact .inr
                  ⟨elsewhere, List.mem_cons_of_mem _ listed, keyed⟩
            · intro either
              rcases either with earlier | ⟨elsewhere, listed, keyed⟩
              · left
                have different : other ≠ key := by
                  rintro rfl
                  rw [absent] at earlier
                  cases earlier
                rw [if_neg different]
                exact earlier
              · rcases List.mem_cons.mp listed with same | later
                · cases same
                  rw [here.key] at keyed
                  cases keyed
                  exact .inl (if_pos rfl)
                · exact .inr ⟨elsewhere, later, keyed⟩

/-- A claim of `Resync` is spent on at most one path. -/
structure Exclusive (found : Findings) : Prop where
  filed : ∀ uuid claim, found.claims.get uuid = some claim →
    claim.pathUUID = uuid
  spent : ∀ key owned, found.applied.get key = some owned →
    found.claims.get owned.pathUUID = none
  once : ∀ first second owned, found.applied.get first = some owned →
    found.applied.get second = some owned → first = second

theorem RouteReconciler.ScanStep.exclusive {path : Type2RIBPath bgp}
    {start next : Findings} (step : ScanStep bgp path start next)
    (exclusive : Exclusive start) : Exclusive next := by
  cases step with
  | remote _ => exact exclusive
  | unclaimed _ _ =>
      exact ⟨exclusive.filed, exclusive.spent, exclusive.once⟩
  | @owned key receipt _ claimed _ absent =>
      have uuid := exclusive.filed _ _ claimed
      have unspent : ∀ other, start.applied.get other ≠ some receipt := by
        intro other applied
        have spent := exclusive.spent other receipt applied
        rw [uuid, claimed] at spent
        cases spent
      refine ⟨?_, ?_, ?_⟩
      · intro other claim found
        rw [GoMap.get_delete] at found
        split at found
        · cases found
        · exact exclusive.filed other claim found
      · intro other owned found
        dsimp only at found ⊢
        rw [GoMap.get_delete]
        split
        · rfl
        · rename_i different
          rw [GoMap.get_set] at found
          split at found
          · cases found
            exact absurd uuid different
          · exact exclusive.spent other owned found
      · intro first second owned firstFound secondFound
        dsimp only at firstFound secondFound
        rw [GoMap.get_set] at firstFound secondFound
        split at firstFound
        · rename_i firstKey
          cases firstFound
          split at secondFound
          · rename_i secondKey
            rw [firstKey, secondKey]
          · exact absurd secondFound (unspent second)
        · split at secondFound
          · cases secondFound
            exact absurd firstFound (unspent first)
          · exact exclusive.once first second owned firstFound secondFound

theorem scanPaths_exclusive {paths : List (Type2RIBPath bgp)}
    {start found : Findings} (ok : scanPaths bgp paths start = .ok found)
    (exclusive : Exclusive start) : Exclusive found := by
  induction paths generalizing start with
  | nil =>
      cases ok
      exact exclusive
  | cons path rest induction =>
      obtain ⟨next, step, restOk⟩ := scanPaths_cons ok
      exact induction restOk (step.exclusive exclusive)

/-- A claim is still open at the end of the scan, or it is applied. -/
theorem scanPaths_claims {paths : List (Type2RIBPath bgp)}
    {start found : Findings} (ok : scanPaths bgp paths start = .ok found)
    {uuid : String} {claim : OwnedType2Route}
    (claimed : start.claims.get uuid = some claim) :
    found.claims.get uuid = some claim ∨
      ∃ key, found.applied.get key = some claim := by
  induction paths generalizing start with
  | nil =>
      cases ok
      exact .inl claimed
  | cons path rest induction =>
      obtain ⟨next, step, restOk⟩ := scanPaths_cons ok
      cases step with
      | remote _ => exact induction restOk claimed
      | unclaimed _ _ => exact induction restOk claimed
      | @owned key receipt _ found _ _ =>
          by_cases same : uuid = path.pathUUID
          · right
            rw [same, found] at claimed
            cases claimed
            obtain ⟨owned, others, sorted⟩ :=
              (filesAll_of_scanPaths restOk).sorted
            exact ⟨key, (sorted.applied key claim).mpr
              (.inl GoMap.get_set_self)⟩
          · exact induction restOk
              ((GoMap.get_delete_of_ne same).trans claimed)

theorem scanDurable_foreign {paths : List (Type2RIBPath bgp)}
    {start found : Findings} (ok : scanDurable bgp paths start = .ok found)
    {key : String} (foreign : key ∈ found.foreign) :
    key ∈ start.foreign ∨ start.claims.get key = none := by
  induction paths generalizing start with
  | nil =>
      cases ok
      exact .inl foreign
  | cons path rest induction =>
      obtain ⟨next, step, restOk⟩ := scanDurable_cons ok
      have earlier := induction restOk
      cases step with
      | remote _ => exact earlier
      | unclaimed _ unclaimed =>
          rcases earlier with listed | absent
          · rcases List.mem_cons.mp listed with rfl | before
            · exact .inr unclaimed
            · exact .inl before
          · exact .inr absent
      | owned _ _ _ _ _ => exact earlier

/-- `owned` matches the receipts one to one with local paths of the snapshot,
whose keys are those of the applied routes; the keys of the `others` are the
foreign ones. -/
structure Adopted (receipts : List OwnedType2Route)
    (paths : List (Type2RIBPath bgp)) (applied : GoMap OwnedType2Route)
    (foreign : List String)
    (owned : List (Type2RIBPath bgp × OwnedType2Route))
    (others : List (Type2RIBPath bgp)) : Prop where
  partition : (owned.map Prod.fst ++ others).Perm
    (paths.filter fun path => path.isLocal)
  complete : (owned.map Prod.snd).Perm receipts
  matched : ∀ pair ∈ owned, PathOf pair.1 pair.2.endpoint
  distinct : (owned.map fun pair => pair.1.key).Nodup
  installed : ∀ key receipt, applied.get key = some receipt ↔
    ∃ path, (path, receipt) ∈ owned ∧ path.key = some key
  unclaimed : ∀ key, key ∈ foreign ↔ ∃ path ∈ others, path.key = some key
  apart : ∀ path ∈ others, ∀ key, path.key = some key →
    applied.get key = none

/-- What the two ways of claiming have in common. -/
theorem Sorted.adopted {receipts : List OwnedType2Route}
    {paths : List (Type2RIBPath bgp)} {claims : GoMap OwnedType2Route}
    {found : Findings} {owned : List (Type2RIBPath bgp × OwnedType2Route)}
    {others : List (Type2RIBPath bgp)}
    (sorted : Sorted paths ⟨claims, .empty, []⟩ found owned others)
    (nodup : receipts.Nodup)
    (given : ∀ key receipt, found.applied.get key = some receipt →
      receipt ∈ receipts)
    (all : ∀ receipt ∈ receipts, ∃ key,
      found.applied.get key = some receipt)
    (once : ∀ first second receipt,
      found.applied.get first = some receipt →
      found.applied.get second = some receipt → first = second)
    (apart : ∀ key ∈ found.foreign, found.applied.get key = none) :
    Adopted receipts paths found.applied found.foreign owned others := by
  have applied : ∀ key receipt, found.applied.get key = some receipt ↔
      ∃ path, (path, receipt) ∈ owned ∧ path.key = some key := by
    intro key receipt
    simpa using sorted.applied key receipt
  have foreign : ∀ key, key ∈ found.foreign ↔
      ∃ path ∈ others, path.key = some key := by
    intro key
    simpa using sorted.foreign key
  have filed : ∀ pair ∈ owned, ∃ key, pair.1.key = some key ∧
      found.applied.get key = some pair.2 := by
    intro pair member
    obtain ⟨key, keyed, _⟩ := sorted.fresh pair member
    exact ⟨key, keyed, (applied key pair.2).mpr ⟨pair.1, member, keyed⟩⟩
  have distinctReceipts : (owned.map Prod.snd).Nodup := by
    rw [List.Nodup, List.pairwise_map]
    refine List.Pairwise.imp_of_mem ?_ (List.pairwise_map.mp sorted.distinct)
    intro first second firstMember secondMember different same
    obtain ⟨firstKey, firstKeyed, firstApplied⟩ := filed first firstMember
    obtain ⟨secondKey, secondKeyed, secondApplied⟩ :=
      filed second secondMember
    rw [← same] at secondApplied
    apply different
    rw [firstKeyed, secondKeyed,
      once firstKey secondKey first.2 firstApplied secondApplied]
  refine
    { partition := sorted.partition
      complete := ?_
      matched := sorted.matched
      distinct := sorted.distinct
      installed := applied
      unclaimed := foreign
      apart := ?_ }
  · rw [List.perm_ext_iff_of_nodup distinctReceipts nodup]
    intro receipt
    constructor
    · intro member
      obtain ⟨pair, listed, rfl⟩ := List.mem_map.mp member
      obtain ⟨key, _, installed⟩ := filed pair listed
      exact given key pair.2 installed
    · intro member
      obtain ⟨key, installed⟩ := all receipt member
      obtain ⟨path, listed, _⟩ := (applied key receipt).mp installed
      exact List.mem_map_of_mem listed
  · intro path member key keyed
    exact apart key ((foreign key).mpr ⟨path, member, keyed⟩)

theorem confirm_adopted {receipts : List OwnedType2Route}
    {paths : List (Type2RIBPath bgp)} {found : Findings}
    (ok : confirm bgp receipts paths = .ok found) :
    ∃ owned others,
      Adopted receipts paths found.applied found.foreign owned others := by
  have given : ∀ key receipt, found.applied.get key = some receipt →
      receipt ∈ receipts :=
    fun key receipt installed => (confirm_sound ok installed).1
  obtain ⟨claims, claimsOk, ok⟩ := bind_eq_ok.mp ok
  obtain ⟨findings, scanned, ok⟩ := bind_eq_ok.mp ok
  split at ok
  · cases ok
  rename_i spent
  split at ok
  · cases ok
  rename_i apart
  cases ok
  obtain ⟨owned, others, sorted⟩ := (filesAll_of_scanPaths scanned).sorted
  have filed := claimed_of_claimsByUUID claimsOk
  have exclusive : Exclusive found := by
    apply scanPaths_exclusive scanned
    refine ⟨?_, by simp, by simp⟩
    intro uuid claim claimed
    rcases filed.only claimed with nothing | given
    · simp at nothing
    · exact Option.some.inj given.2
  refine ⟨owned, others, sorted.adopted filed.nodup given ?_ exclusive.once
    ?_⟩
  · intro receipt member
    obtain ⟨_, same, claimed⟩ := filed.all member
    obtain rfl := Option.some.inj same
    rcases scanPaths_claims scanned claimed with unclaimed | applied
    · rw [GoMap.get_eq_none_of_size_eq_zero (not_not.mp spent)] at unclaimed
      cases unclaimed
    · exact applied
  · intro key foreign
    by_contra present
    have listed : key ∈ found.applied.sortedKeys :=
      GoMap.mem_sortedKeys.mpr (Option.isSome_iff_ne_none.mpr present)
    have free := List.find?_eq_none.mp apart key listed
    exact free (by simpa using foreign)

theorem confirmDurable_adopted {receipts : List OwnedType2Route}
    {paths : List (Type2RIBPath bgp)} {found : Findings}
    (ok : confirmDurable bgp receipts paths = .ok found) :
    ∃ owned others,
      Adopted receipts paths found.applied found.foreign owned others := by
  have restored := confirmDurable_restored ok
  obtain ⟨claims, claimsOk, ok⟩ := bind_eq_ok.mp ok
  obtain ⟨findings, scanned, ok⟩ := bind_eq_ok.mp ok
  split at ok
  · cases ok
  cases ok
  obtain ⟨owned, others, sorted⟩ := (filesAll_of_scanDurable scanned).sorted
  refine ⟨owned, others, sorted.adopted
    (claimed_of_claimsByKey claimsOk).nodup ?_ ?_ ?_ ?_⟩
  · intro key receipt installed
    exact (restored.only key receipt installed).1
  · intro receipt member
    obtain ⟨key, _, installed⟩ := restored.all receipt member
    exact ⟨key, installed⟩
  · intro first second receipt firstInstalled secondInstalled
    have firstKey := (restored.only first receipt firstInstalled).2.1
    have secondKey := (restored.only second receipt secondInstalled).2.1
    rw [firstKey] at secondKey
    exact Option.some.inj secondKey
  · intro key foreign
    rcases scanDurable_foreign scanned foreign with nothing | unclaimed
    · cases nothing
    · by_contra present
      obtain ⟨receipt, installed⟩ := Option.ne_none_iff_exists'.mp present
      rcases scanDurable_sound scanned key receipt installed with
        nothing | ⟨claimed, _⟩
      · simp at nothing
      · dsimp only at unclaimed claimed
        rw [unclaimed] at claimed
        cases claimed

/-- The delta allocated for an operation at an address. -/
def Allocated (numbered : RouteOperation × Nat) (delta : Type2Route bgp) :
    Prop :=
  ∃ route, buildType2Route bgp numbered.1.endpoint = .ok route ∧
    delta = { route with
      action := numbered.1.action
      operation := some numbered.2 }

theorem planAll_allocated {operations : List RouteOperation}
    {reconciler planned : RouteReconciler}
    {changes deltas : List (Type2Route bgp)}
    (ok : planAll bgp operations reconciler changes = (.ok deltas, planned)) :
    ∃ new, deltas = changes ++ new ∧
      planned.operations = reconciler.operations ++ operations ∧
      List.Forall₂ Allocated
        (operations.zipIdx reconciler.operations.length) new := by
  induction operations generalizing reconciler changes with
  | nil =>
      cases ok
      exact ⟨[], by simp, by simp, .nil⟩
  | cons operation rest induction =>
      unfold planAll at ok
      cases built : buildType2Route bgp operation.endpoint with
      | error reason =>
          rw [built] at ok
          cases ok
      | ok route =>
          rw [built] at ok
          obtain ⟨new, rfl, operations, allocated⟩ := induction ok
          rw [List.length_append, List.length_singleton] at allocated
          refine ⟨_ :: new, List.append_assoc _ _ _, ?_, ?_⟩
          · rw [operations]
            exact List.append_assoc _ _ _
          · rw [List.zipIdx_cons]
            exact .cons ⟨route, built, rfl⟩ allocated

/-- The operations of a plan split where its deltas do. -/
theorem allocated_split {operations : List RouteOperation} {address : Nat}
    {before later : List (Type2Route bgp)} {delta : Type2Route bgp}
    (allocated : List.Forall₂ Allocated (operations.zipIdx address)
      (before ++ delta :: later)) :
    ∃ earlier operation rest, operations = earlier ++ operation :: rest ∧
      Allocated (operation, address + earlier.length) delta ∧
      List.Forall₂ Allocated (earlier.zipIdx address) before := by
  induction before generalizing operations address with
  | nil =>
      cases operations with
      | nil => cases allocated
      | cons operation rest =>
          rw [List.zipIdx_cons] at allocated
          cases allocated with
          | cons here _ => exact ⟨[], operation, rest, rfl, here, .nil⟩
  | cons first before induction =>
      cases operations with
      | nil => cases allocated
      | cons operation rest =>
          rw [List.zipIdx_cons] at allocated
          cases allocated with
          | cons here allocated =>
              obtain ⟨earlier, found, rest, rfl, there, allocated⟩ :=
                induction allocated
              refine ⟨operation :: earlier, found, rest, rfl, ?_, ?_⟩
              · have shifted : address + (operation :: earlier).length =
                    address + 1 + earlier.length := by
                  rw [List.length_cons]
                  omega
                rw [shifted]
                exact there
              · rw [List.zipIdx_cons]
                exact .cons here allocated

theorem exists_allocated {operations : List RouteOperation} {address : Nat}
    {deltas : List (Type2Route bgp)}
    (allocated : List.Forall₂ Allocated (operations.zipIdx address) deltas)
    {operation : RouteOperation} (member : operation ∈ operations) :
    ∃ delta ∈ deltas, ∃ index, operations[index]? = some operation ∧
      Allocated (operation, address + index) delta := by
  induction operations generalizing address deltas with
  | nil => cases member
  | cons first rest induction =>
      rw [List.zipIdx_cons] at allocated
      cases allocated with
      | cons here allocated =>
          rcases List.mem_cons.mp member with rfl | later
          · exact ⟨_, List.mem_cons_self, 0, rfl, here⟩
          · obtain ⟨delta, listed, index, found, there⟩ :=
              induction allocated later
            refine ⟨delta, List.mem_cons_of_mem _ listed, index + 1, found,
              ?_⟩
            have shifted : address + (index + 1) = address + 1 + index := by
              omega
            rw [shifted]
            exact there

theorem reconcile_allocated {reconciler planned : RouteReconciler}
    {desired : List LocalEndpoint} {deltas : List (Type2Route bgp)}
    (result : reconcile bgp desired reconciler = (.ok deltas, planned)) :
    ∃ wanted, Collected bgp reconciler.foreign desired wanted ∧
      planned.operations = reconciler.operations ++
        (plannedWithdrawals reconciler.applied wanted ++
          plannedAdvertisements reconciler.applied wanted) ∧
      List.Forall₂ Allocated
        ((plannedWithdrawals reconciler.applied wanted ++
          plannedAdvertisements reconciler.applied wanted).zipIdx
            reconciler.operations.length) deltas := by
  obtain ⟨wanted, ok⟩ := collected_of_reconcile result
  unfold reconcile at result
  simp only [ok] at result
  obtain ⟨new, rfl, operations, allocated⟩ := planAll_allocated result
  exact ⟨wanted, collected_of_ok ok, operations, allocated⟩

/-- An applied key that is advertised anew is withdrawn earlier in the
plan. -/
theorem withdrawal_before {applied : GoMap OwnedType2Route}
    {wanted : GoMap LocalEndpoint} {earlier later : List RouteOperation}
    {operation : RouteOperation}
    (split : plannedWithdrawals applied wanted ++
      plannedAdvertisements applied wanted = earlier ++ operation :: later)
    (advertised : operation.action = .advertise) {existing : OwnedType2Route}
    (present : applied.get operation.wireKey = some existing) :
    ⟨.withdraw, existing.endpoint, operation.wireKey, existing.pathUUID⟩ ∈
      earlier := by
  have member : operation ∈ plannedWithdrawals applied wanted ++
      plannedAdvertisements applied wanted := by
    rw [split]
    simp
  have advertisement : operation ∈ plannedAdvertisements applied wanted := by
    rcases List.mem_append.mp member with withdrawal | advertisement
    · rw [withdrawal_action withdrawal] at advertised
      cases advertised
    · exact advertisement
  obtain ⟨first, firstMember, same⟩ :=
    withdrawal_of_advertisement advertisement (by rw [present]; rfl)
  obtain ⟨owned, found, _, firstEq⟩ := mem_plannedWithdrawals.mp firstMember
  rw [same] at found firstEq
  rw [present] at found
  cases found
  have inAll : first ∈ earlier ++ operation :: later := by
    rw [← split]
    exact List.mem_append_left _ firstMember
  rw [← firstEq]
  rcases List.mem_append.mp inAll with inEarlier | notEarlier
  · exact inEarlier
  · have ordered := plan_ordered applied wanted
    rw [split, List.pairwise_append] at ordered
    have withdrawn := withdrawal_action firstMember
    rcases List.mem_cons.mp notEarlier with itself | after
    · rw [itself, advertised] at withdrawn
      cases withdrawn
    · have order := (List.pairwise_cons.mp ordered.2.1).1 first after
        same.symm
      rw [withdrawn] at order
      cases order.2

/-- A plan with an advertisement under the key of a local path of the
snapshot has withdrawn the receipt of that path before. -/
def WithdrawsFirst (paths : List (Type2RIBPath bgp))
    (owned : List (Type2RIBPath bgp × OwnedType2Route))
    (deltas : List (Type2Route bgp)) (planned : RouteReconciler) : Prop :=
  ∀ before add later, deltas = before ++ add :: later →
    add.action = .advertise →
    ∀ path ∈ paths, path.isLocal = true →
      path.key = some (bgp.nlriString add.nlri) →
      ∃ receipt withdrawal address, (path, receipt) ∈ owned ∧
        withdrawal ∈ before ∧ withdrawal.action = .withdraw ∧
        withdrawal.operation = some address ∧
        planned.operations[address]? =
          some ⟨.withdraw, receipt.endpoint, bgp.nlriString add.nlri,
            receipt.pathUUID⟩

theorem Adopted.withdrawsFirst {receipts : List OwnedType2Route}
    {paths : List (Type2RIBPath bgp)} {reconciler planned : RouteReconciler}
    {owned : List (Type2RIBPath bgp × OwnedType2Route)}
    {others : List (Type2RIBPath bgp)} {desired : List LocalEndpoint}
    {deltas : List (Type2Route bgp)}
    (adopted : Adopted receipts paths reconciler.applied reconciler.foreign
      owned others)
    (result : reconcile bgp desired reconciler = (.ok deltas, planned)) :
    WithdrawsFirst paths owned deltas planned := by
  intro before add later split advertised path member isLocal keyed
  obtain ⟨wanted, collected, operations, allocated⟩ :=
    reconcile_allocated result
  rw [split] at allocated
  obtain ⟨earlier, operation, rest, operationsSplit, ⟨route, built, addEq⟩,
    allocatedBefore⟩ := allocated_split allocated
  have operationAction : operation.action = .advertise := by
    rw [addEq] at advertised
    exact advertised
  have advertisement :
      operation ∈ plannedAdvertisements reconciler.applied wanted := by
    have planned : operation ∈ plannedWithdrawals reconciler.applied wanted ++
        plannedAdvertisements reconciler.applied wanted := by
      rw [operationsSplit]
      simp
    rcases List.mem_append.mp planned with withdrawal | advertisement
    · rw [withdrawal_action withdrawal] at operationAction
      cases operationAction
    · exact advertisement
  obtain ⟨endpoint, found, _, operationEq⟩ :=
    mem_plannedAdvertisements.mp advertisement
  obtain ⟨listed, wantsIt, endpointKey⟩ := collected.only _ endpoint found
  have sameKey : operation.wireKey = bgp.nlriString add.nlri := by
    have sameEndpoint : operation.endpoint = endpoint := by
      rw [operationEq]
    obtain ⟨other, otherBuilt, otherKey⟩ :=
      wireKey_eq_some_iff.mp endpointKey
    rw [sameEndpoint, otherBuilt] at built
    cases built
    rw [addEq]
    exact otherKey.symm
  -- The key is wanted, so no path under it is foreign.
  have claimed : path ∈ owned.map Prod.fst := by
    have inSnapshot : path ∈ paths.filter fun path => path.isLocal :=
      List.mem_filter.mpr ⟨member, isLocal⟩
    rcases List.mem_append.mp (adopted.partition.mem_iff.mpr inSnapshot) with
      inOwned | inOthers
    · exact inOwned
    · obtain ⟨key, wireKeyed, notForeign, _⟩ :=
        collected.all endpoint listed wantsIt
      rw [endpointKey] at wireKeyed
      cases wireKeyed
      rw [← sameKey] at keyed
      exact absurd ((adopted.unclaimed _).mpr ⟨path, inOthers, keyed⟩)
        notForeign
  obtain ⟨⟨_, receipt⟩, inOwned, rfl⟩ := List.mem_map.mp claimed
  rw [← sameKey] at keyed ⊢
  have installed := (adopted.installed _ receipt).mpr ⟨_, inOwned, keyed⟩
  have inEarlier :=
    withdrawal_before operationsSplit operationAction installed
  obtain ⟨withdrawal, inBefore, index, position, ⟨_, _, rfl⟩⟩ :=
    exists_allocated allocatedBefore inEarlier
  refine ⟨receipt, _, reconciler.operations.length + index, inOwned, inBefore,
    rfl, rfl, ?_⟩
  have bound : index < earlier.length :=
    (List.getElem?_eq_some_iff.mp position).1
  rw [operations, operationsSplit, List.getElem?_append_right (by omega),
    Nat.add_sub_cancel_left, List.getElem?_append_left bound]
  exact position

/-- A resynchronization that succeeds has matched its receipts one to one with
local paths of the snapshot it has read, and filed the keys of all the other
local paths as foreign.  The plan that follows advertises nothing over a local
path of the snapshot before it has withdrawn the receipt of that path. -/
theorem successful_resync_sound {record : CallRecord bgp}
    (run : Runs (logging bgp) (record.call.serve.start (record.before, ()))
      [] record.log (.done (record.outcome, (record.after, ()))) record.log)
    {receipts : List OwnedType2Route}
    (resync : record.call.receipts = some receipts)
    (succeeded : record.outcome.isOk = true) :
    ∃ paths owned others, ⟨.snapshot, .ok paths⟩ ∈ record.log ∧
      Adopted receipts paths record.after.applied record.after.foreign owned
        others ∧
      ∀ desired deltas planned,
        reconcile bgp desired record.after = (.ok deltas, planned) →
        WithdrawsFirst paths owned deltas planned := by
  have effect := CallRecord.effect run
  obtain ⟨call, before, log, outcome, after⟩ := record
  dsimp only at effect resync succeeded ⊢
  cases effect with
  | planned desired => cases resync
  | refused reason quiet => cases resync
  | added reply _ _ _ _ => cases resync
  | deleted reply _ _ _ => cases resync
  | unconfirmed reason _ _ => cases succeeded
  | @resynced _ paths found confirmed =>
      cases resync
      obtain ⟨owned, others, adopted⟩ := confirm_adopted confirmed
      exact ⟨paths, owned, others, by simp, adopted,
        fun desired deltas planned => adopted.withdrawsFirst⟩
  | @restored _ paths found reply confirmed =>
      cases resync
      obtain ⟨owned, others, adopted⟩ := confirmDurable_adopted confirmed
      exact ⟨paths, owned, others, by simp, adopted,
        fun desired deltas planned => adopted.withdrawsFirst⟩

theorem successful_resync_sound_sample :
    (resyncedRecord false).call.receipts = some [sampleReceipt] ∧
    (resyncedRecord false).outcome.isOk = true ∧
    ∃ paths owned others,
      ⟨.snapshot, .ok paths⟩ ∈ (resyncedRecord false).log ∧
      Adopted [sampleReceipt] paths (resyncedRecord false).after.applied
        (resyncedRecord false).after.foreign owned others ∧
      ∀ desired deltas planned,
        reconcile wireBgp desired (resyncedRecord false).after =
          (.ok deltas, planned) →
        WithdrawsFirst paths owned deltas planned :=
  ⟨rfl, by rfl, successful_resync_sound
    (CallRecord.runs_execute (sampleAnswer false)
      (.resyncDurable [sampleReceipt]) newRouteReconciler) rfl (by rfl)⟩

end EvpnForOvn.Evpn

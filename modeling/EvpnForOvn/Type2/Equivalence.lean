import Mathlib.Data.List.Perm.Basic
import EvpnForOvn.Type2.Plan
import EvpnForOvn.Type2.Wire

/-!
# Equivalent endpoints

`Equivalent` compares the selected address and the set of route targets, while
a route is built from the addresses and the targets as they are listed.  The
routes of equivalent endpoints differ in the order of their communities only,
and the RIB paths that match one of them match the other.
-/

namespace EvpnForOvn.Evpn

open Go

section Permuted

variable {ε α β : Type} {read : α → Except ε β} {items others : List α}

theorem mapM_ok_iff_forall₂ {values : List β} :
    items.mapM read = .ok values ↔
      List.Forall₂ (fun item value => read item = .ok value) items values := by
  induction items generalizing values with
  | nil =>
      rw [List.mapM_nil, List.forall₂_nil_left_iff]
      constructor
      · intro done
        cases done
        rfl
      · intro empty
        rw [empty]
        rfl
  | cons item rest induction =>
      rw [List.mapM_cons, List.forall₂_cons_left_iff]
      constructor
      · intro done
        obtain ⟨value, itemRead, done⟩ := bind_eq_ok.mp done
        obtain ⟨restValues, restRead, done⟩ := bind_eq_ok.mp done
        cases done
        exact ⟨value, restValues, itemRead, induction.mp restRead, rfl⟩
      · intro parts
        obtain ⟨value, restValues, itemRead, restRead, rfl⟩ := parts
        exact bind_eq_ok.mpr ⟨value, itemRead,
          bind_eq_ok.mpr ⟨restValues, induction.mpr restRead, rfl⟩⟩

/-- A permuted list is read as permuted values. -/
theorem mapM_perm (permuted : items.Perm others) {values : List β}
    (done : items.mapM read = .ok values) :
    ∃ otherValues, others.mapM read = .ok otherValues ∧
      values.Perm otherValues := by
  obtain ⟨otherValues, otherRead, same⟩ := List.perm_comp_forall₂
    permuted.symm (mapM_ok_iff_forall₂.mp done)
  exact ⟨otherValues, mapM_ok_iff_forall₂.mpr otherRead, same.symm⟩

end Permuted

section Equivalent

variable {bgp : BgpPackage} {first second : LocalEndpoint}

/-- The same NLRI, next hop and origin, and the same communities up to their
order. -/
structure SamePathWire (first second : Type2Route bgp) : Prop where
  nlri : first.nlri = second.nlri
  attributes : ∃ nextHop communities otherCommunities,
    first.pathAttributes = [.origin originIGP, .nextHop nextHop,
      .extendedCommunities communities] ∧
    second.pathAttributes = [.origin originIGP, .nextHop nextHop,
      .extendedCommunities otherCommunities] ∧
    communities.Perm otherCommunities

/-- Both routes are built and are the same on the wire, or none is built. -/
def SameBuilt : Except GoError (Type2Route bgp) →
    Except GoError (Type2Route bgp) → Prop
  | .ok route, .ok other => SamePathWire route other
  | .error _, .error _ => True
  | _, _ => False

theorem perm_of_equivalent (same : first.equivalent second = true) :
    first.routeTargets.Perm second.routeTargets := by
  simp only [LocalEndpoint.equivalent, Bool.and_eq_true,
    equalStringSet_iff_perm] at same
  exact same.2

/-- The NLRI depends on the selected address, not on the list. -/
theorem buildNLRI_of_equivalent (same : first.equivalent second = true)
    (rd : bgp.RouteDistinguisher) :
    buildNLRI bgp first rd = buildNLRI bgp second rd := by
  simp only [LocalEndpoint.equivalent, Bool.and_eq_true, beq_iff_eq] at same
  obtain ⟨⟨⟨⟨⟨⟨_, mac⟩, vni⟩, only⟩, ip⟩, _⟩, _⟩ := same
  have selected : parseSelectedIP first.ipAddresses =
      parseSelectedIP second.ipAddresses := by
    unfold parseSelectedIP
    rw [ip]
  unfold buildNLRI
  rw [only, mac, vni, selected]

/-- A route of one endpoint comes with one of the other. -/
theorem build_of_equivalent (same : first.equivalent second = true)
    (valid : second.validate bgp = .ok ()) {route : Type2Route bgp}
    (built : buildType2Route bgp first = .ok route) :
    ∃ other, buildType2Route bgp second = .ok other ∧
      SamePathWire route other := by
  have nlriSame := @buildNLRI_of_equivalent bgp _ _ same
  have permuted := perm_of_equivalent same
  simp only [LocalEndpoint.equivalent, Bool.and_eq_true, beq_iff_eq] at same
  obtain ⟨⟨⟨⟨⟨⟨⟨_, rdSame⟩, _⟩, _⟩, _⟩, _⟩, vtepSame⟩, _⟩ := same
  unfold buildType2Route at built ⊢
  rw [← vtepSame]
  cases vtepParsed : parseAddr first.localVTEP with
  | none =>
      rw [vtepParsed] at built
      obtain ⟨_, _, built⟩ := bind_eq_ok.mp built
      cases built
  | some vtep =>
      rw [vtepParsed] at built
      obtain ⟨_, _, built⟩ := bind_eq_ok.mp built
      obtain ⟨_, ⟨⟩, built⟩ := bind_eq_ok.mp built
      obtain ⟨rd, rdParsed, built⟩ := bind_eq_ok.mp built
      obtain ⟨nlri, nlriBuilt, built⟩ := bind_eq_ok.mp built
      obtain ⟨targets, targetsParsed, built⟩ := bind_eq_ok.mp built
      obtain ⟨nextHop, nextHopBuilt, built⟩ := bind_eq_ok.mp built
      cases built
      rw [rdSame] at rdParsed
      rw [nlriSame] at nlriBuilt
      obtain ⟨otherTargets, otherParsed, samePerm⟩ :=
        mapM_perm permuted targetsParsed
      refine ⟨_, bind_eq_ok.mpr ⟨(), valid, bind_eq_ok.mpr ⟨_, rfl,
        bind_eq_ok.mpr ⟨rd, rdParsed, bind_eq_ok.mpr ⟨nlri, nlriBuilt,
          bind_eq_ok.mpr ⟨otherTargets, otherParsed,
            bind_eq_ok.mpr ⟨nextHop, nextHopBuilt, rfl⟩⟩⟩⟩⟩⟩, ?_⟩
      exact ⟨rfl, nextHop, _, _, rfl, rfl, samePerm.append_right _⟩

theorem sameBuilt_of_equivalent (same : first.equivalent second = true)
    (firstValid : first.validate bgp = .ok ())
    (secondValid : second.validate bgp = .ok ()) :
    SameBuilt (buildType2Route bgp first) (buildType2Route bgp second) := by
  cases built : buildType2Route bgp first with
  | ok route =>
      obtain ⟨other, otherBuilt, wire⟩ :=
        build_of_equivalent same secondValid built
      rw [otherBuilt]
      exact wire
  | error reason =>
      cases otherBuilt : buildType2Route bgp second with
      | error otherReason => trivial
      | ok other =>
          obtain ⟨route, again, _⟩ := build_of_equivalent
            (LocalEndpoint.equivalent_comm same) firstValid otherBuilt
          rw [built] at again
          cases again

theorem communities_of_samePathWire {route other : Type2Route bgp}
    (wire : SamePathWire route other) {texts : List String}
    (done : communities route.pathAttributes = .ok texts) :
    ∃ otherTexts, communities other.pathAttributes = .ok otherTexts ∧
      texts.Perm otherTexts := by
  obtain ⟨_, values, otherValues, routeIs, otherIs, permuted⟩ :=
    wire.attributes
  rw [routeIs] at done
  rw [otherIs]
  exact mapM_perm (permuted.append_right _) done

theorem SamePathWire.symm {route other : Type2Route bgp}
    (wire : SamePathWire route other) : SamePathWire other route := by
  obtain ⟨nlri, nextHop, values, otherValues, routeIs, otherIs, permuted⟩ :=
    wire
  exact ⟨nlri.symm, nextHop, otherValues, values, otherIs, routeIs,
    permuted.symm⟩

/-- A path that matches an endpoint matches every endpoint whose route is the
same on the wire. -/
theorem ribPathMatches_of_samePathWire {path : Type2RIBPath bgp}
    {route other : Type2Route bgp}
    (built : buildType2Route bgp first = .ok route)
    (otherBuilt : buildType2Route bgp second = .ok other)
    (wire : SamePathWire route other)
    (matching : ribPathMatchesEndpoint bgp path first = true) :
    ribPathMatchesEndpoint bgp path second = true := by
  have hop : pathNextHop route.pathAttributes =
      pathNextHop other.pathAttributes := by
    obtain ⟨nextHop, _, _, routeIs, otherIs, _⟩ := wire.attributes
    rw [routeIs, otherIs]
    rfl
  unfold ribPathMatchesEndpoint at matching ⊢
  rw [built] at matching
  rw [otherBuilt]
  cases nlri : path.nlri with
  | none =>
      rw [nlri] at matching
      cases matching
  | some nlri' =>
      rw [nlri] at matching
      dsimp only at matching ⊢
      rw [wire.nlri] at matching
      cases got : bgp.serializeNLRI nlri' with
      | error reason =>
          rw [got] at matching
          cases matching
      | ok gotNLRI =>
          cases want : bgp.serializeNLRI other.nlri with
          | error reason =>
              rw [got, want] at matching
              cases matching
          | ok wantNLRI =>
              rw [got, want] at matching
              dsimp only at matching ⊢
              simp only [Bool.and_eq_true] at matching ⊢
              refine ⟨⟨⟨matching.1.1.1, ?_⟩, matching.1.2⟩, ?_⟩
              · rw [← hop]
                exact matching.1.1.2
              · cases wanted : communities route.pathAttributes with
                | error reason =>
                    rw [wanted] at matching
                    cases matching.2
                | ok texts =>
                    obtain ⟨otherTexts, otherDone, permuted⟩ :=
                      communities_of_samePathWire wire wanted
                    rw [otherDone]
                    rw [wanted] at matching
                    cases filtered : communities
                        (withoutInitialMobility path.pathAttributes) with
                    | error reason =>
                        rw [filtered] at matching
                        cases matching.2
                    | ok filteredTexts =>
                        rw [filtered] at matching
                        exact equalStringSet_iff_perm.mpr
                          ((equalStringSet_iff_perm.mp matching.2).trans
                            permuted)

theorem ribPathMatches_of_sameBuilt {path : Type2RIBPath bgp}
    (same : SameBuilt (buildType2Route bgp first)
      (buildType2Route bgp second)) :
    ribPathMatchesEndpoint bgp path first =
      ribPathMatchesEndpoint bgp path second := by
  cases built : buildType2Route bgp first with
  | ok route =>
      cases otherBuilt : buildType2Route bgp second with
      | ok other =>
          rw [built, otherBuilt] at same
          rw [Bool.eq_iff_iff]
          exact ⟨ribPathMatches_of_samePathWire built otherBuilt same,
            ribPathMatches_of_samePathWire otherBuilt built same.symm⟩
      | error reason =>
          rw [built, otherBuilt] at same
          exact same.elim
  | error reason =>
      cases otherBuilt : buildType2Route bgp second with
      | ok other =>
          rw [built, otherBuilt] at same
          exact same.elim
      | error otherReason =>
          unfold ribPathMatchesEndpoint
          rw [built, otherBuilt]

/-- `Equivalent` is an equivalence.  Valid endpoints that are equivalent have
the same route on the wire and match the same paths of a RIB. -/
theorem equivalent_sound (bgp : BgpPackage) :
    Equivalence (fun first second : LocalEndpoint =>
        first.equivalent second = true) ∧
      ∀ first second : LocalEndpoint,
        first.validate bgp = .ok () → second.validate bgp = .ok () →
        first.equivalent second = true →
        SameBuilt (buildType2Route bgp first) (buildType2Route bgp second) ∧
        ∀ path, ribPathMatchesEndpoint bgp path first =
          ribPathMatchesEndpoint bgp path second := by
  refine ⟨⟨LocalEndpoint.equivalent_refl, LocalEndpoint.equivalent_comm,
    LocalEndpoint.equivalent_trans⟩, ?_⟩
  intro first second firstValid secondValid same
  have built := sameBuilt_of_equivalent same firstValid secondValid
  exact ⟨built, fun path => ribPathMatches_of_sameBuilt built⟩

/-- The endpoint with its address in another notation. -/
theorem equivalent_sound_sample :
    ribPathMatchesEndpoint wireBgp (samplePath "uuid")
      { sampleEndpoint with ipAddresses := [" ", "10.0.0.1/24"] } = true := by
  have same := ((equivalent_sound wireBgp).2 sampleEndpoint
    { sampleEndpoint with ipAddresses := [" ", "10.0.0.1/24"] }
    (by decide +kernel) (by decide +kernel) (by decide +kernel)).2
    (samplePath "uuid")
  rw [← same]
  decide +kernel

end Equivalent

end EvpnForOvn.Evpn

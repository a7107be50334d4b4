import EvpnForOvn.Ovsdb.Clients

/-!
# Withdrawn routes

The handler withdraws a remote route by removing its address from the transit
port, and it removes the port itself once the port has no address left.  The
last address cannot be removed, so this point is never reached.
-/

namespace EvpnForOvn.OvsdbMgmt

open Go Endpoint Evpn

/-- The northbound database and the one of the local switch. -/
structure Databases where
  nb : Northbound
  ovs : Vswitch

/-- Delete the ports of a name.  A port that a bridge refers to cannot be
deleted. -/
def deletePortNamed (database : Vswitch) (name : String) :
    Except GoError Unit × Vswitch :=
  let next := { database with
    ports := database.ports.filter fun row => row.name != name }.collect
  if next.consistent then (.ok (), next)
  else (.error (.new "OVS Error: " "referential integrity violation"),
    database)

def switchNamed (database : Northbound) (name : String) :
    Option LogicalSwitch :=
  database.switches.find? fun row => row.name == name

def delVtep (databases : Databases) (ls : LogicalSwitch)
    (lspName vxlanName : String) : Except GoError Unit × Databases :=
  match getVtep databases.nb lspName with
  | none => (.error (.new "lsp lookup failed: " lspName), databases)
  | some lsp =>
      match databases.nb.transact
          [.detachPort ls.uuid lsp.uuid, .deletePort lsp.uuid] with
      | none =>
          (.error (.new "OVSDB Error" ": constraint violation"), databases)
      | some nb =>
          let (outcome, ovs) := deletePortNamed databases.ovs vxlanName
          (outcome, ⟨nb, ovs⟩)

def serveDelVtep (databases : Databases)
    (lsName lspName vxlanName : String) : Except GoError Unit × Databases :=
  match switchNamed databases.nb lsName with
  | none => (.error (.new "LogicalSwitch not found: " lsName), databases)
  | some ls => delVtep databases ls lspName vxlanName

/-- The two calls of `DelClient`: for the port, and for the port that older
versions have used. -/
def withdrawAddress (nb : Northbound) (networkName lspName mac ip : String) :
    Northbound :=
  let removed := ((ClientCall.delClient mac ip).serve lspName nb).2
  if lspName = networkName then removed
  else ((ClientCall.delClient mac ip).serve networkName removed).2

def withdrawRemoteOVSDBRoute (databases : Databases)
    (networkName lspName vxlanName mac ip : String) :
    Except GoError Unit × Databases :=
  let nb := withdrawAddress databases.nb networkName lspName mac ip
  match getVtep nb lspName with
  | none => (.ok (), ⟨nb, databases.ovs⟩)
  | some lsp =>
      if lsp.addresses.isEmpty then
        serveDelVtep ⟨nb, databases.ovs⟩ networkName lspName vxlanName
      else (.ok (), ⟨nb, databases.ovs⟩)

/-- A withdrawal has cleaned up: the address is gone and the others are
there, or there is no other and both ports are gone. -/
def CleanedUp (row : LogicalSwitchPort) (vxlanName address : String)
    (after : Databases) : Prop :=
  if ∃ other ∈ row.addresses, other ≠ address then
    ∃ kept, getVtep after.nb row.name = some kept ∧
      address ∉ kept.addresses ∧
      ∀ other ∈ row.addresses, other ≠ address → other ∈ kept.addresses
  else
    getVtep after.nb row.name = none ∧
      ∀ port ∈ after.ovs.ports, port.name ≠ vxlanName

section Withdraw

variable {databases : Databases} {row : LogicalSwitchPort}
  {networkName vxlanName mac ip : String}

/-- The addresses of the port after the calls of `DelClient`. -/
theorem getVtep_withdrawAddress {nb : Northbound}
    (wellFormed : nb.WellFormed)
    (found : getVtep nb row.name = some row) :
    getVtep (withdrawAddress nb networkName row.name mac ip) row.name =
      some (withAddresses row
        ((ClientCall.delClient mac ip).perform row.addresses)) := by
  have spec := (serve_found wellFormed found (.delClient mac ip)).1
  unfold withdrawAddress
  generalize ((ClientCall.delClient mac ip).serve row.name nb).2 = next
    at spec ⊢
  by_cases same : row.name = networkName
  · rw [if_pos same]
    exact spec.getVtep
  · rw [if_neg same]
    cases legacy : getVtep next networkName with
    | none =>
        unfold ClientCall.serve
        rw [legacy]
        exact spec.getVtep
    | some other =>
        have specToo :=
          (serve_found spec.wellFormed legacy (.delClient mac ip)).1
        obtain ⟨listed, named⟩ := (getVtep_eq_some spec.wellFormed).mp legacy
        rw [specToo.getVtep_of_ne spec.wellFormed listed
          (by rw [named]; exact same)]
        exact spec.getVtep

theorem filter_ne_isEmpty {addresses : List String} {address : String} :
    (addresses.filter fun other => other != address).isEmpty = true ↔
      ¬ ∃ other ∈ addresses, other ≠ address := by
  simp [List.isEmpty_iff, List.filter_eq_nil_iff]

/-- The last address stays. -/
theorem perform_delClient_ne_nil {addresses : List String}
    (nonempty : addresses ≠ []) :
    (ClientCall.delClient mac ip).perform addresses ≠ [] := by
  rw [perform_delClient]
  split
  · exact nonempty
  · rename_i remaining
    rwa [List.isEmpty_iff] at remaining

theorem wellFormed_withdrawAddress {nb : Northbound}
    (wellFormed : nb.WellFormed) {lspName : String} :
    (withdrawAddress nb networkName lspName mac ip).WellFormed := by
  unfold withdrawAddress
  dsimp only
  split
  · exact (serve_frame _ _ wellFormed).1
  · exact (serve_frame _ _ (serve_frame _ _ wellFormed).1).1

/-- A withdrawal from a port with addresses leaves the port. -/
theorem withdrawn_port (wellFormed : databases.nb.WellFormed)
    (found : getVtep databases.nb row.name = some row)
    (nonempty : row.addresses ≠ []) :
    withdrawRemoteOVSDBRoute databases networkName row.name vxlanName
        mac ip = (.ok (), ⟨withdrawAddress databases.nb networkName row.name
          mac ip, databases.ovs⟩) := by
  have remains : (withAddresses row ((ClientCall.delClient mac ip).perform
      row.addresses)).addresses.isEmpty = false := by
    rw [List.isEmpty_eq_false_iff]
    exact perform_delClient_ne_nil nonempty
  unfold withdrawRemoteOVSDBRoute
  dsimp only
  rw [getVtep_withdrawAddress wellFormed found]
  dsimp only
  rw [remains]
  rfl

/-- A withdrawal cleans up exactly when another address is left. -/
theorem cleanedUp_iff (wellFormed : databases.nb.WellFormed)
    (found : getVtep databases.nb row.name = some row)
    (present : addressText mac ip ∈ row.addresses) :
    CleanedUp row vxlanName (addressText mac ip)
        (withdrawRemoteOVSDBRoute databases networkName row.name vxlanName
          mac ip).2 ↔
      ∃ other ∈ row.addresses, other ≠ addressText mac ip := by
  rw [withdrawn_port wellFormed found (List.ne_nil_of_mem present)]
  have kept : getVtep (withdrawAddress databases.nb networkName row.name mac
      ip) row.name = some (withAddresses row
        ((ClientCall.delClient mac ip).perform row.addresses)) :=
    getVtep_withdrawAddress wellFormed found
  unfold CleanedUp
  by_cases more : ∃ other ∈ row.addresses, other ≠ addressText mac ip
  · rw [if_pos more]
    simp only [more, iff_true]
    refine ⟨_, kept, ?_⟩
    have column : (ClientCall.delClient mac ip).perform row.addresses =
        row.addresses.filter fun other => other != addressText mac ip := by
      rw [perform_delClient, if_neg]
      rw [filter_ne_isEmpty]
      exact not_not.mpr more
    rw [column]
    constructor
    · simp [withAddresses]
    · intro other member different
      exact List.mem_filter.mpr ⟨member, by simpa using different⟩
  · rw [if_neg more]
    simp only [more, iff_false]
    intro gone
    rw [kept] at gone
    cases gone.1

end Withdraw

def addClients (lspName : String) (pairs : List (String × String))
    (nb : Northbound) : Northbound :=
  pairs.foldl (fun nb pair =>
    ((ClientCall.addClient pair.1 pair.2).serve lspName nb).2) nb

def withdrawRoutes (networkName lspName vxlanName : String)
    (pairs : List (String × String)) (databases : Databases) : Databases :=
  pairs.foldl (fun databases pair => (withdrawRemoteOVSDBRoute databases
    networkName lspName vxlanName pair.1 pair.2).2) databases

/-- The port has its name, and at least one address. -/
structure Populated (lspName : String) (nb : Northbound)
    (row : LogicalSwitchPort) : Prop where
  wellFormed : nb.WellFormed
  found : getVtep nb lspName = some row
  named : row.name = lspName
  nonempty : row.addresses ≠ []

theorem addClients_found {lspName : String} (pairs : List (String × String))
    {nb : Northbound} {row : LogicalSwitchPort}
    (wellFormed : nb.WellFormed) (found : getVtep nb row.name = some row)
    (named : row.name = lspName) :
    ∃ current, (addClients lspName pairs nb).WellFormed ∧
      getVtep (addClients lspName pairs nb) lspName = some current ∧
      current.name = lspName ∧
      ∀ address, address ∈ current.addresses ↔ address ∈ row.addresses ∨
        address ∈ pairs.map fun pair => addressText pair.1 pair.2 := by
  induction pairs generalizing nb row with
  | nil =>
      rw [named] at found
      exact ⟨row, wellFormed, found, named, by simp⟩
  | cons pair rest induction =>
      have spec :=
        (serve_found wellFormed found (.addClient pair.1 pair.2)).1
      obtain ⟨current, kept, foundToo, currentNamed, addresses⟩ :=
        @induction _ (withAddresses row
          ((ClientCall.addClient pair.1 pair.2).perform row.addresses))
          spec.wellFormed spec.getVtep named
      rw [named] at kept foundToo
      refine ⟨current, kept, foundToo, currentNamed, ?_⟩
      intro address
      rw [addresses, List.map_cons, List.mem_cons]
      change address ∈ (ClientCall.addClient pair.1 pair.2).perform
        row.addresses ∨ _ ↔ _
      rw [mem_perform_addClient, or_assoc]

/-- Withdrawals never empty the port. -/
theorem withdrawRoutes_populated {networkName lspName vxlanName : String}
    (pairs : List (String × String)) {databases : Databases}
    {row : LogicalSwitchPort}
    (populated : Populated lspName databases.nb row) :
    ∃ current, Populated lspName
      (withdrawRoutes networkName lspName vxlanName pairs databases).nb
      current := by
  induction pairs generalizing databases row with
  | nil => exact ⟨row, populated⟩
  | cons pair rest induction =>
      obtain ⟨wellFormed, found, named, nonempty⟩ := populated
      rw [← named] at found
      have step : withdrawRemoteOVSDBRoute databases networkName row.name
          vxlanName pair.1 pair.2 = (.ok (), ⟨withdrawAddress databases.nb
            networkName row.name pair.1 pair.2, databases.ovs⟩) :=
        withdrawn_port wellFormed found nonempty
      have kept : getVtep (withdrawAddress databases.nb networkName row.name
          pair.1 pair.2) row.name = some (withAddresses row
            ((ClientCall.delClient pair.1 pair.2).perform row.addresses)) :=
        getVtep_withdrawAddress wellFormed found
      unfold withdrawRoutes
      rw [List.foldl_cons, ← named, step]
      rw [named] at kept ⊢
      exact induction
        { wellFormed := wellFormed_withdrawAddress wellFormed
          found := kept
          named := named
          nonempty := perform_delClient_ne_nil nonempty }

/-- After any additions and withdrawals the port is there with at least one
address.  The next withdrawal cleans up exactly when another address is
left. -/
theorem withdrawals_clean_up_iff {databases : Databases}
    {row : LogicalSwitchPort} {networkName vxlanName : String}
    (wellFormed : databases.nb.WellFormed)
    (found : getVtep databases.nb row.name = some row)
    (pairs withdrawn : List (String × String)) (added : pairs ≠ []) :
    ∃ current,
      Populated row.name (withdrawRoutes networkName row.name vxlanName
        withdrawn ⟨addClients row.name pairs databases.nb,
          databases.ovs⟩).nb current ∧
      (withdrawn = [] → ∀ address, address ∈ current.addresses ↔
        address ∈ row.addresses ∨
          address ∈ pairs.map fun pair => addressText pair.1 pair.2) ∧
      ∀ mac ip, addressText mac ip ∈ current.addresses →
        (CleanedUp current vxlanName (addressText mac ip)
            (withdrawRemoteOVSDBRoute
              (withdrawRoutes networkName row.name vxlanName withdrawn
                ⟨addClients row.name pairs databases.nb, databases.ovs⟩)
              networkName row.name vxlanName mac ip).2 ↔
          ∃ other ∈ current.addresses, other ≠ addressText mac ip) := by
  obtain ⟨start, startWellFormed, startFound, startNamed, addresses⟩ :=
    addClients_found pairs wellFormed found rfl
  have nonempty : start.addresses ≠ [] := by
    obtain ⟨pair, rest, rfl⟩ := List.exists_cons_of_ne_nil added
    exact List.ne_nil_of_mem ((addresses (addressText pair.1 pair.2)).mpr
      (.inr (by simp)))
  have populated : Populated row.name (addClients row.name pairs
      databases.nb) start :=
    { wellFormed := startWellFormed
      found := startFound
      named := startNamed
      nonempty := nonempty }
  obtain ⟨current, reached⟩ := withdrawRoutes_populated withdrawn
    (show Populated row.name (Databases.nb ⟨addClients row.name pairs
      databases.nb, databases.ovs⟩) start from populated)
  refine ⟨current, reached, ?_, ?_⟩
  · intro none
    subst none
    cases reached.found.symm.trans startFound
    exact addresses
  · intro mac ip present
    have named := reached.named
    have currentFound := reached.found
    generalize withdrawRoutes networkName row.name vxlanName withdrawn
      ⟨addClients row.name pairs databases.nb, databases.ovs⟩ = state at *
    rw [← named] at currentFound ⊢
    exact cleanedUp_iff reached.wellFormed currentFound present

/-- A switch with one transit port, and the tunnel of this port. -/
def sampleDatabases : Databases :=
  { nb := sampleNb []
    ovs :=
      { roots := [⟨"o", ["b"], GoMap.empty⟩]
        bridges := [⟨"b", "br-int", [], none, ["p"], GoMap.empty⟩]
        ports := [⟨"p", "rt-1", ["i"], GoMap.empty⟩]
        interfaces := [⟨"i", "rt-1", "vxlan", GoMap.empty, GoMap.empty⟩] } }

/-- One pair is added and withdrawn: the port keeps its address. -/
theorem last_address_stays :
    ¬ CleanedUp (sampleTransit ["m i"]) "rt-1" "m i"
      (withdrawRoutes "net" "rt-1" "rt-1" [("m", "i")]
        ⟨addClients "rt-1" [("m", "i")] sampleDatabases.nb,
          sampleDatabases.ovs⟩) ∧
    getVtep (withdrawRoutes "net" "rt-1" "rt-1" [("m", "i")]
        ⟨addClients "rt-1" [("m", "i")] sampleDatabases.nb,
          sampleDatabases.ovs⟩).nb "rt-1" = some (sampleTransit ["m i"]) := by
  have stays : getVtep (withdrawRoutes "net" "rt-1" "rt-1" [("m", "i")]
      ⟨addClients "rt-1" [("m", "i")] sampleDatabases.nb,
        sampleDatabases.ovs⟩).nb "rt-1" = some (sampleTransit ["m i"]) := rfl
  refine ⟨?_, stays⟩
  intro cleaned
  unfold CleanedUp at cleaned
  rw [if_neg (by simp [sampleTransit])] at cleaned
  cases cleaned.1.symm.trans stays

/-- Of two pairs the first is withdrawn cleanly. -/
theorem withdrawals_clean_up_sample :
    ∃ current, Populated "rt-1"
      (addClients "rt-1" [("m", "i"), ("n", "j")] sampleDatabases.nb)
      current ∧
      CleanedUp current "rt-1" "m i" (withdrawRemoteOVSDBRoute
        ⟨addClients "rt-1" [("m", "i"), ("n", "j")] sampleDatabases.nb,
          sampleDatabases.ovs⟩ "net" "rt-1" "rt-1" "m" "i").2 := by
  have found : getVtep sampleDatabases.nb (sampleTransit []).name =
      some (sampleTransit []) := rfl
  obtain ⟨current, populated, addresses, iff⟩ :=
    @withdrawals_clean_up_iff sampleDatabases (sampleTransit []) "net" "rt-1"
      sampleNb_wellFormed found [("m", "i"), ("n", "j")] [] (by simp)
  have both := addresses rfl
  refine ⟨current, populated, (iff "m" "i" ?_).mpr ⟨"n j", ?_, by decide⟩⟩
  · exact (both _).mpr (.inr (by decide))
  · exact (both _).mpr (.inr (by decide))

end EvpnForOvn.OvsdbMgmt

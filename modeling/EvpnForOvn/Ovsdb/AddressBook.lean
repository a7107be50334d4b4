import EvpnForOvn.Lib.Refinement
import EvpnForOvn.Ovsdb.Clients
import Mathlib.Data.Set.Insert

/-!
# The addresses of the ports as a book

What `AddClient` and `DelClient` are for: they keep a set of addresses for each
port.  A run of the service is a run of that book, in which the only address of
a port cannot be taken out.
-/

namespace EvpnForOvn.OvsdbMgmt

open Go Endpoint

/-- The addresses of each port. -/
abbrev AddressBook : Type := String → Option (Set String)

/-- What the calls mean for a book.  A call is for the port of a name; it fails
when there is none, and when it would take out the only address. -/
inductive AddressBook.Step (book : AddressBook) :
    (String × ClientCall) × Bool → AddressBook → Prop where
  | missing {lspName : String} {call : ClientCall} :
      book lspName = none → Step book ((lspName, call), false) book
  | added {lspName mac ip : String} {addresses : Set String} :
      book lspName = some addresses →
      Step book ((lspName, .addClient mac ip), true)
        (Function.update book lspName
          (some (insert (addressText mac ip) addresses)))
  | removed {lspName mac ip : String} {addresses : Set String} :
      book lspName = some addresses →
      addresses ≠ {addressText mac ip} →
      Step book ((lspName, .delClient mac ip), true)
        (Function.update book lspName
          (some (addresses \ {addressText mac ip})))
  | last {lspName mac ip : String} :
      book lspName = some {addressText mac ip} →
      Step book ((lspName, .delClient mac ip), false) book

/-- A call with its success as a step of the database. -/
def ClientCall.Takes (before : Northbound)
    (event : (String × ClientCall) × Bool) (after : Northbound) : Prop :=
  ∃ outcome, event.1.2.serve event.1.1 before = (outcome, after) ∧
    event.2 = outcome.isOk

def addressBook (database : Northbound) : AddressBook := fun lspName =>
  (getVtep database lspName).map fun row => { text | text ∈ row.addresses }

section Steps

variable {before after : Northbound} {row : LogicalSwitchPort}
  {addresses : List String}

theorem addressBook_of_getVtep {lspName : String}
    (found : getVtep before lspName = some row) :
    addressBook before lspName = some { text | text ∈ row.addresses } := by
  unfold addressBook
  rw [found]
  rfl

theorem addressBook_of_served (wellFormed : before.WellFormed)
    (listed : row ∈ before.ports)
    (served : Served row addresses before after) :
    addressBook after = Function.update (addressBook before) row.name
      (some { text | text ∈ addresses }) := by
  funext lspName
  by_cases same : lspName = row.name
  · rw [same, Function.update_self]
    exact addressBook_of_getVtep served.getVtep
  · rw [Function.update_of_ne same]
    unfold addressBook
    rw [served.getVtep_of_ne wellFormed listed same]

theorem plan_delClient_eq_nil_iff {mac ip : String} :
    (ClientCall.delClient mac ip).plan addresses = some [] ↔
      { text | text ∈ addresses } = {addressText mac ip} := by
  rw [Set.eq_singleton_iff_nonempty_unique_mem]
  unfold ClientCall.plan
  dsimp only
  constructor
  · intro planned
    split at planned
    · cases planned
    · rename_i shorter
      have empty := Option.some.inj planned
      refine ⟨List.exists_mem_of_ne_nil _ ?_, by simpa using empty⟩
      rintro rfl
      exact shorter rfl
  · rintro ⟨⟨text, member⟩, same⟩
    have empty : (addresses.filter fun address =>
        address != addressText mac ip) = [] := by simpa using same
    rw [empty]
    exact if_neg (List.length_pos_of_mem member).ne

/-- The addresses and the success of a call are those of the book. -/
theorem step_of_perform {book : AddressBook} {lspName : String}
    (listed : book lspName = some { text | text ∈ addresses })
    {call : ClientCall} {success : Bool}
    (succeeds : success = true ↔ call.plan addresses ≠ some []) :
    book.Step ((lspName, call), success) (Function.update book lspName
      (some { text | text ∈ call.perform addresses })) := by
  cases call with
  | addClient mac ip =>
      have grown : { text | text ∈
          (ClientCall.addClient mac ip).perform addresses } =
          insert (addressText mac ip) { text | text ∈ addresses } := by
        ext text
        exact mem_perform_addClient.trans or_comm
      obtain rfl := succeeds.mpr (by simp [ClientCall.plan])
      rw [grown]
      exact .added listed
  | delClient mac ip =>
      have left : { text | text ∈ addresses.filter fun address =>
          address != addressText mac ip } =
          { text | text ∈ addresses } \ {addressText mac ip} := by
        ext text
        simp
      rw [ne_eq, plan_delClient_eq_nil_iff] at succeeds
      rw [perform_delClient]
      cases success with
      | false =>
          have only : { text | text ∈ addresses } = {addressText mac ip} := by
            simpa using succeeds
          have empty : (addresses.filter fun address =>
              address != addressText mac ip).isEmpty = true := by
            simpa using (Set.eq_singleton_iff_unique_mem.mp only).2
          rw [if_pos empty, ← listed, Function.update_eq_self]
          exact .last (only ▸ listed)
      | true =>
          have several := succeeds.mp rfl
          have removed := AddressBook.Step.removed listed several
          split
          · rename_i empty
            have same : ∀ text ∈ addresses, text = addressText mac ip := by
              simpa using empty
            have absent : addressText mac ip ∉ { text | text ∈ addresses } :=
              fun member => several
                (Set.eq_singleton_iff_unique_mem.mpr ⟨member, same⟩)
            rwa [Set.sdiff_singleton_eq_self absent] at removed
          · rw [left]
            exact removed

/-- A call finds no port, or is carried out on the port of its name. -/
theorem ClientCall.Takes.cases {lspName : String} {call : ClientCall}
    {success : Bool} (wellFormed : before.WellFormed)
    (takes : ClientCall.Takes before ((lspName, call), success) after) :
    (getVtep before lspName = none ∧ success = false ∧ after = before) ∨
      ∃ row, getVtep before lspName = some row ∧
        (success = true ↔ call.plan row.addresses ≠ some []) ∧
        Served row (call.perform row.addresses) before after := by
  obtain ⟨outcome, served, rfl⟩ := takes
  dsimp only at served
  cases found : getVtep before lspName with
  | none =>
      unfold ClientCall.serve at served
      rw [found] at served
      cases served
      exact .inl ⟨rfl, rfl, rfl⟩
  | some row =>
      obtain ⟨reached, succeeds⟩ := serve_found wellFormed found call
      rw [served] at reached succeeds
      exact .inr ⟨row, rfl, succeeds, reached⟩

end Steps

theorem book_simulation :
    Refinement.Simulation ClientCall.Takes AddressBook.Step
      Northbound.WellFormed addressBook where
  keeps := by
    rintro before after ⟨⟨lspName, call⟩, success⟩ wellFormed takes
    rcases takes.cases wellFormed with ⟨_, _, rfl⟩ | ⟨_, _, _, served⟩
    · exact wellFormed
    · exact served.wellFormed
  allows := by
    rintro before after ⟨⟨lspName, call⟩, success⟩ wellFormed takes
    rcases takes.cases wellFormed with ⟨absent, rfl, rfl⟩ |
      ⟨row, found, succeeds, served⟩
    · refine .missing ?_
      unfold addressBook
      rw [absent]
      rfl
    · obtain ⟨listed, rfl⟩ := (getVtep_eq_some wellFormed).mp found
      rw [addressBook_of_served wellFormed listed served]
      exact step_of_perform (addressBook_of_getVtep found) succeeds

/-- Any run of the address calls, over all ports of a database, is a run of
the book of its addresses. -/
theorem client_calls_refine_book {started database : Northbound}
    {events : List ((String × ClientCall) × Bool)}
    (wellFormed : started.WellFormed)
    (run : Refinement.Run ClientCall.Takes started events database) :
    Refinement.Run AddressBook.Step (addressBook started) events
      (addressBook database) :=
  (book_simulation.run wellFormed run).2

theorem client_calls_refine_book_sample :
    Refinement.Run AddressBook.Step (addressBook (sampleNb []))
      [(("rt-1", .addClient "02:00:00:00:00:01" "10.0.0.2"), true),
        (("rt-2", .delClient "02:00:00:00:00:01" "10.0.0.2"), false),
        (("rt-1", .delClient "02:00:00:00:00:01" "10.0.0.2"), false)]
      (addressBook (sampleNb ["02:00:00:00:00:01 10.0.0.2"])) :=
  client_calls_refine_book sampleNb_wellFormed
    (.cons ⟨.ok (), rfl, rfl⟩
      (.cons ⟨_, rfl, rfl⟩ (.cons ⟨_, rfl, rfl⟩ .nil)))

end EvpnForOvn.OvsdbMgmt

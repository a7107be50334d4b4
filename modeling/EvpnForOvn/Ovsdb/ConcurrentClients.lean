import EvpnForOvn.Lib.Optimistic
import EvpnForOvn.Ovsdb.Clients

/-!
# Concurrent requests for one port

The server answers each request in a goroutine of its own.  A request looks
the port up, reads its row again, and then writes the whole column of
addresses without a condition on what it has read.  An update that another
request commits in between is lost.  When every request writes onto the
addresses that it has read, the requests have been carried out one after the
other.
-/

namespace EvpnForOvn.OvsdbMgmt

open Go Endpoint

variable {Client : Type}

/-- How far a request has come: the server has found the port, `addClient` or
`delClient` has read its row, the request has returned. -/
inductive CallPhase where
  | asked
  | found
  | holding (latest : LogicalSwitchPort)
  | returned (success : Bool)

structure Pool (Client : Type) where
  database : Northbound
  phase : Client → CallPhase

/-- The addresses that the request has read are still those of the port. -/
def StillCurrent (lspName : String) (latest : LogicalSwitchPort)
    (database : Northbound) : Prop :=
  ∀ current, getVtep database lspName = some current →
    current.addresses = latest.addresses

def Pool.advance [DecidableEq Client] (pool : Pool Client)
    (database : Northbound) (client : Client) (phase : CallPhase) :
    Pool Client :=
  ⟨database, Function.update pool.phase client phase⟩

/-- One step of one request.  A transaction that fails may have been carried
out. -/
inductive Pool.Step [DecidableEq Client] (calls : Client → ClientCall)
    (lspName : String) (allowed : LogicalSwitchPort → Northbound → Prop) :
    Pool Client → Pool Client → Prop where
  | find {pool : Pool Client} (client : Client) {row : LogicalSwitchPort} :
      pool.phase client = .asked →
      getVtep pool.database lspName = some row →
      Step calls lspName allowed pool
        (pool.advance pool.database client .found)
  | miss {pool : Pool Client} (client : Client) :
      pool.phase client = .asked ∨ pool.phase client = .found →
      getVtep pool.database lspName = none →
      Step calls lspName allowed pool
        (pool.advance pool.database client (.returned false))
  | settle {pool : Pool Client} (client : Client) {row : LogicalSwitchPort} :
      pool.phase client = .found →
      getVtep pool.database lspName = some row →
      (calls client).plan row.addresses = none →
      Step calls lspName allowed pool
        (pool.advance pool.database client (.returned true))
  | read {pool : Pool Client} (client : Client) {row : LogicalSwitchPort}
      {newAddresses : List String} :
      pool.phase client = .found →
      getVtep pool.database lspName = some row →
      (calls client).plan row.addresses = some newAddresses →
      Step calls lspName allowed pool
        (pool.advance pool.database client (.holding row))
  | commit {pool : Pool Client} (client : Client)
      {latest : LogicalSwitchPort} {newAddresses : List String}
      {next : Northbound} :
      pool.phase client = .holding latest →
      (calls client).plan latest.addresses = some newAddresses →
      allowed latest pool.database →
      pool.database.transact [ClientCall.update latest newAddresses] =
        some next →
      Step calls lspName allowed pool
        (pool.advance next client (.returned true))
  | fail {pool : Pool Client} (client : Client) {latest : LogicalSwitchPort}
      {newAddresses : List String} {next : Northbound} :
      pool.phase client = .holding latest →
      (calls client).plan latest.addresses = some newAddresses →
      next = pool.database ∨
        pool.database.transact [ClientCall.update latest newAddresses] =
          some next →
      Step calls lspName allowed pool
        (pool.advance next client (.returned false))

def Pool.Steps [DecidableEq Client] (calls : Client → ClientCall)
    (lspName : String) (allowed : LogicalSwitchPort → Northbound → Prop) :
    Pool Client → Pool Client → Prop :=
  Relation.ReflTransGen (Pool.Step calls lspName allowed)

def Pool.start (Client : Type) (database : Northbound) : Pool Client :=
  ⟨database, fun _ => .asked⟩

/-- The requests as clients that read the addresses and write them later. -/
def protocol (calls : Client → ClientCall) :
    Optimistic.Protocol Client (List String) (List String) where
  plan := fun client => (calls client).plan
  write := ClientCall.writeColumn

theorem protocol_perform (calls : Client → ClientCall) (client : Client)
    (addresses : List String) :
    (protocol calls).perform client addresses =
      (calls client).perform addresses := by
  unfold Optimistic.Protocol.perform ClientCall.perform protocol
  dsimp only
  cases (calls client).plan addresses with
  | none => rfl
  | some newAddresses => rfl

def CallPhase.shared : CallPhase → Optimistic.Phase (List String)
  | .asked => .waiting
  | .found => .waiting
  | .holding latest => .holding latest.addresses
  | .returned _ => .returned

/-- The state of the requests stands for a state of the shared value. -/
structure Represents (row : LogicalSwitchPort) (pool : Pool Client)
    (shared : Optimistic.Shared Client (List String)) : Prop where
  wellFormed : pool.database.WellFormed
  port : getVtep pool.database row.name =
    some (withAddresses row shared.value)
  phase : ∀ client, shared.phase client = (pool.phase client).shared
  holding : ∀ client latest, pool.phase client = .holding latest →
    latest = withAddresses row latest.addresses

theorem represents_start {row : LogicalSwitchPort}
    {database : Northbound} (wellFormed : database.WellFormed)
    (found : getVtep database row.name = some row) :
    Represents row (Pool.start Client database)
      ⟨row.addresses, fun _ => .waiting⟩ where
  wellFormed := wellFormed
  port := found
  phase := fun _ => rfl
  holding := fun _ _ held => by cases held

variable [DecidableEq Client] {calls : Client → ClientCall}
  {row : LogicalSwitchPort} {pool after : Pool Client}
  {shared : Optimistic.Shared Client (List String)}

/-- A request that has failed stays so. -/
theorem Pool.Step.failed {lspName : String}
    {allowed : LogicalSwitchPort → Northbound → Prop}
    (step : Pool.Step calls lspName allowed pool after) {client : Client}
    (failed : pool.phase client = .returned false) :
    after.phase client = .returned false := by
  have kept : ∀ {database : Northbound} {other : Client} {phase : CallPhase},
      pool.phase other ≠ .returned false →
      (pool.advance database other phase).phase client = .returned false := by
    intro database other phase moving
    have different : client ≠ other := by
      intro same
      exact moving (same ▸ failed)
    simp [Pool.advance, different, failed]
  cases step with
  | find other asked _ => exact kept (by simp [asked])
  | miss other early _ =>
      rcases early with asked | found
      · exact kept (by simp [asked])
      · exact kept (by simp [found])
  | settle other found _ _ => exact kept (by simp [found])
  | read other found _ _ => exact kept (by simp [found])
  | commit other holding _ _ _ => exact kept (by simp [holding])
  | fail other holding _ _ => exact kept (by simp [holding])

/-- Replacing the phase of one request on both sides. -/
theorem Represents.advance {database : Northbound} {value : List String}
    {client : Client} {phase : CallPhase}
    (represents : Represents row pool shared)
    (wellFormed : database.WellFormed)
    (port : getVtep database row.name = some (withAddresses row value))
    (holding : ∀ latest, phase = .holding latest →
      latest = withAddresses row latest.addresses) :
    Represents row (pool.advance database client phase)
      ⟨value, Function.update shared.phase client phase.shared⟩ where
  wellFormed := wellFormed
  port := port
  phase := by
    intro other
    by_cases same : other = client
    · simp [Pool.advance, same]
    · simp [Pool.advance, same, represents.phase other]
  holding := by
    intro other latest held
    by_cases same : other = client
    · apply holding
      simpa [Pool.advance, same] using held
    · apply represents.holding other
      simpa [Pool.advance, same] using held

/-- A step is a failure, no step of the shared value, or one step of it. -/
theorem Represents.step (represents : Represents row pool shared)
    (step : Pool.Step calls row.name (StillCurrent row.name) pool after) :
    (∃ client, after.phase client = .returned false) ∨
      ∃ next, (next = shared ∨
          Optimistic.Step (protocol calls) (· = ·) shared next) ∧
        Represents row after next := by
  have same : ∀ found, getVtep pool.database row.name = some found →
      found = withAddresses row shared.value := by
    intro found read
    exact Option.some.inj (read.symm.trans represents.port)
  cases step with
  | find client asked read =>
      have waiting := represents.phase client
      rw [asked] at waiting
      refine .inr ⟨shared, .inl rfl, ?_⟩
      have unmoved : Function.update shared.phase client
          CallPhase.found.shared = shared.phase :=
        Function.update_eq_self_iff.mpr waiting.symm
      have moved : Represents row
          (pool.advance pool.database client .found)
          ⟨shared.value,
            Function.update shared.phase client CallPhase.found.shared⟩ :=
        represents.advance represents.wellFormed represents.port (by simp)
      rw [unmoved] at moved
      exact moved
  | miss client _ _ =>
      exact .inl ⟨client, by simp [Pool.advance]⟩
  | settle client found read nothing =>
      rw [same _ read] at nothing
      have waiting := represents.phase client
      rw [found] at waiting
      exact .inr ⟨_, .inr (.settle client waiting nothing),
        represents.advance represents.wellFormed represents.port (by simp)⟩
  | read client found read planned =>
      rename_i seen newAddresses
      have seenIs := same _ read
      subst seenIs
      have waiting := represents.phase client
      rw [found] at waiting
      refine .inr ⟨_, .inr (.look client waiting planned),
        represents.advance represents.wellFormed represents.port ?_⟩
      intro latest held
      cases held
      rfl
  | commit client holding planned current committed =>
      rename_i latest newAddresses next
      have addresses : shared.value = latest.addresses :=
        current _ represents.port
      have latestIs : latest = withAddresses row shared.value := by
        rw [addresses]
        exact represents.holding client latest holding
      have listed := ((getVtep_eq_some represents.wellFormed).mp
        represents.port).1
      rw [← latestIs] at listed
      obtain ⟨written, same, wellFormed, _, port, _⟩ :=
        transact_update represents.wellFormed listed newAddresses
      cases committed.symm.trans same
      have held := represents.phase client
      rw [holding] at held
      refine .inr ⟨_, .inr (.commit client held planned addresses.symm),
        represents.advance wellFormed
          ((getVtep_eq_some wellFormed).mpr ⟨?_, rfl⟩) (by simp)⟩
      rw [latestIs] at port
      exact port
  | fail client _ _ _ =>
      exact .inl ⟨client, by simp [Pool.advance]⟩

/-- Along a run either a request has failed or the state stands for one that
the shared value reaches. -/
theorem Pool.Steps.represents {database : Northbound}
    (wellFormed : database.WellFormed)
    (found : getVtep database row.name = some row)
    (steps : Pool.Steps calls row.name (StillCurrent row.name)
      (Pool.start Client database) after) :
    (∃ client, after.phase client = .returned false) ∨
      ∃ shared, Optimistic.Steps (protocol calls) (· = ·)
          ⟨row.addresses, fun _ => .waiting⟩ shared ∧
        Represents row after shared := by
  induction steps with
  | refl => exact .inr ⟨_, .refl, represents_start wellFormed found⟩
  | tail _ step induction =>
      rcases induction with failed | reached
      · obtain ⟨client, failed⟩ := failed
        exact .inl ⟨client, step.failed failed⟩
      · obtain ⟨shared, steps, represents⟩ := reached
        rcases represents.step step with failed | moved
        · exact .inl failed
        · obtain ⟨next, same | taken, represents⟩ := moved
          · rw [same] at represents
            exact .inr ⟨shared, steps, represents⟩
          · exact .inr ⟨next, steps.tail taken, represents⟩

/-- The requests in an order, each one alone. -/
def serveAll (calls : Client → ClientCall) (lspName : String)
    (order : List Client) (database : Northbound) : Northbound :=
  order.foldl (fun database client =>
    ((calls client).serve lspName database).2) database

omit [DecidableEq Client] in
theorem getVtep_serveAll {database : Northbound} (order : List Client)
    (wellFormed : database.WellFormed)
    (found : getVtep database row.name = some row) :
    getVtep (serveAll calls row.name order database) row.name =
      some (withAddresses row (order.foldl
        (fun addresses client => (calls client).perform addresses)
        row.addresses)) := by
  induction order generalizing database row with
  | nil => exact found
  | cons client rest induction =>
      have spec := (serve_found wellFormed found (calls client)).1
      exact @induction (withAddresses row
        ((calls client).perform row.addresses)) _ spec.wellFormed
        spec.getVtep

/-- A call other than the deletion of an address keeps it. -/
theorem mem_perform_of_mem {call : ClientCall} {address : String}
    {addresses : List String}
    (kept : ∀ mac ip, call = .delClient mac ip →
      addressText mac ip ≠ address)
    (member : address ∈ addresses) : address ∈ call.perform addresses := by
  cases call with
  | addClient mac ip => exact mem_perform_addClient.mpr (.inl member)
  | delClient mac ip =>
      rw [perform_delClient]
      split
      · exact member
      · exact List.mem_filter.mpr
          ⟨member, by simpa using (kept mac ip rfl).symm⟩

omit [DecidableEq Client] in
/-- An address that is added and never deleted is there in the end. -/
theorem mem_foldl_perform {address : String} {client : Client}
    {mac ip : String} (adds : calls client = .addClient mac ip)
    (named : addressText mac ip = address)
    (kept : ∀ other mac ip, calls other = .delClient mac ip →
      addressText mac ip ≠ address)
    (order : List Client) (addresses : List String)
    (there : address ∈ addresses ∨ client ∈ order) :
    address ∈ order.foldl (fun addresses client =>
      (calls client).perform addresses) addresses := by
  induction order generalizing addresses with
  | nil =>
      rcases there with member | listed
      · exact member
      · cases listed
  | cons next rest induction =>
      rw [List.foldl_cons]
      apply induction
      rcases there with member | listed
      · exact .inl (mem_perform_of_mem (kept next) member)
      · rcases List.mem_cons.mp listed with rfl | later
        · rw [adds]
          exact .inl (mem_perform_addClient.mpr (.inr named.symm))
        · exact .inr later

/-- When every request writes onto the addresses it has read and all have
succeeded, the port has the addresses that the requests leave in some order,
each one alone. -/
theorem concurrent_calls_serial {database : Northbound}
    (wellFormed : database.WellFormed)
    (found : getVtep database row.name = some row)
    (steps : Pool.Steps calls row.name (StillCurrent row.name)
      (Pool.start Client database) after)
    (succeeded : ∀ client, after.phase client = .returned true) :
    ∃ order : List Client, order.Nodup ∧ (∀ client, client ∈ order) ∧
      ∃ current, getVtep after.database row.name = some current ∧
        getVtep (serveAll calls row.name order database) row.name =
          some current ∧
        ∀ client mac ip, calls client = .addClient mac ip →
          (∀ other otherMac otherIP,
            calls other = .delClient otherMac otherIP →
              addressText otherMac otherIP ≠ addressText mac ip) →
          addressText mac ip ∈ current.addresses := by
  rcases steps.represents wellFormed found with failed | reached
  · obtain ⟨client, failed⟩ := failed
    cases (succeeded client).symm.trans failed
  · obtain ⟨shared, sharedSteps, represents⟩ := reached
    obtain ⟨order, serial⟩ := sharedSteps.serial
    have all : ∀ client, client ∈ order := by
      intro client
      rw [serial.returned, represents.phase, succeeded client]
      rfl
    have value : shared.value = order.foldl
        (fun addresses client => (calls client).perform addresses)
        row.addresses := by
      rw [serial.value]
      simp only [protocol_perform]
    refine ⟨order, serial.distinct, all, withAddresses row shared.value,
      represents.port, ?_, ?_⟩
    · rw [getVtep_serveAll order wellFormed found, value]
    · intro client mac ip adds kept
      change _ ∈ shared.value
      rw [value]
      exact mem_foldl_perform adds rfl kept order row.addresses
        (.inr (all client))

/-- Two requests that add a pair each. -/
def sampleCalls : Bool → ClientCall
  | false => .addClient "m" "i"
  | true => .addClient "n" "j"

private theorem sampleCalls_keep {address : String} (client : Bool)
    (mac ip : String) (deletes : sampleCalls client = .delClient mac ip) :
    addressText mac ip ≠ address := by
  cases client with
  | false => cases deletes
  | true => cases deletes

/-- Both requests read the port before either writes: both succeed, and the
first address is lost. -/
theorem concurrent_add_lost :
    ∃ after : Pool Bool,
      Pool.Steps sampleCalls "rt-1" (fun _ _ => True)
        (Pool.start Bool (sampleNb [])) after ∧
      (∀ client, after.phase client = .returned true) ∧
      getVtep after.database "rt-1" =
        some (sampleTransit ["n j"]) ∧
      ∀ order : List Bool, (∀ client, client ∈ order) →
        getVtep (serveAll sampleCalls "rt-1" order (sampleNb []))
          "rt-1" ≠ some (sampleTransit ["n j"]) := by
  have first : (sampleNb []).transact [ClientCall.update
      (sampleTransit []) ["m i"]] =
        some (sampleNb ["m i"]) := rfl
  have second : (sampleNb ["m i"]).transact [ClientCall.update
      (sampleTransit []) ["n j"]] =
        some (sampleNb ["n j"]) := rfl
  have run : Pool.Steps sampleCalls "rt-1" (fun _ _ => True)
      (Pool.start Bool (sampleNb [])) _ :=
    .tail (.tail (.tail (.tail (.tail (.tail .refl
      (.find false rfl rfl)) (.find true rfl rfl))
      (.read false rfl rfl rfl)) (.read true rfl rfl rfl))
      (.commit false rfl rfl trivial first))
      (.commit true rfl rfl trivial second)
  refine ⟨_, run, ?_, rfl, ?_⟩
  · intro client
    cases client with
    | false => rfl
    | true => rfl
  · intro order all same
    have serial : getVtep (serveAll sampleCalls (sampleTransit []).name
        order (sampleNb [])) (sampleTransit []).name = _ :=
      getVtep_serveAll order sampleNb_wellFormed rfl
    have addresses := congrArg LogicalSwitchPort.addresses
      (Option.some.inj (serial.symm.trans same))
    have member : "m i" ∈ order.foldl (fun addresses client =>
        (sampleCalls client).perform addresses) [] :=
      mem_foldl_perform (show sampleCalls false = .addClient "m" "i" from rfl)
        rfl sampleCalls_keep order [] (.inr (all false))
    change order.foldl _ [] = ["n j"] at addresses
    rw [addresses] at member
    revert member
    decide

/-- Both requests look the port up before either writes; the second reads its
row after the first has returned. -/
theorem concurrent_calls_serial_sample :
    ∃ (after : Pool Bool) (current : LogicalSwitchPort),
      Pool.Steps sampleCalls "rt-1" (StillCurrent "rt-1")
        (Pool.start Bool (sampleNb [])) after ∧
      getVtep after.database "rt-1" = some current ∧
      "m i" ∈ current.addresses ∧ "n j" ∈ current.addresses := by
  have first : (sampleNb []).transact [ClientCall.update
      (sampleTransit []) ["m i"]] = some (sampleNb ["m i"]) := rfl
  have second : (sampleNb ["m i"]).transact [ClientCall.update
      (sampleTransit ["m i"]) ["m i", "n j"]] =
        some (sampleNb ["m i", "n j"]) := rfl
  have run : Pool.Steps sampleCalls "rt-1" (StillCurrent "rt-1")
      (Pool.start Bool (sampleNb [])) _ :=
    .tail (.tail (.tail (.tail (.tail (.tail .refl
      (.find false rfl rfl)) (.find true rfl rfl))
      (.read false rfl rfl rfl))
      (.commit false rfl rfl (by intro current read; cases read; rfl) first))
      (.read true rfl rfl rfl))
      (.commit true rfl rfl (by intro current read; cases read; rfl) second)
  have found : getVtep (sampleNb []) (sampleTransit []).name =
      some (sampleTransit []) := rfl
  have serial := concurrent_calls_serial sampleNb_wellFormed found run
  obtain ⟨_, _, _, current, read, _, added⟩ := serial fun client => by
    cases client with
    | false => rfl
    | true => rfl
  exact ⟨_, current, run, read, added false "m" "i" rfl sampleCalls_keep,
    added true "n" "j" rfl sampleCalls_keep⟩

end EvpnForOvn.OvsdbMgmt

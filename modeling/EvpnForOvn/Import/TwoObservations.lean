import EvpnForOvn.Import.Importer

/-!
# Two observations before a publication

The digest that the importer keeps stands for the observation of the poll
before, and its confirmed snapshot for the last one it has published.  Both
are invariants of whole histories of calls: a poll publishes only what two
successive reads of one source have shown, and it counts a new generation
exactly when the content changes.  The counter has 64 bits: generations grow as
long as it cannot have wrapped around.
-/

namespace EvpnForOvn.Evpn

open Go

inductive ImporterCall where
  | poll (read : RemoteRIBRead)
  | rebindSource (present : Bool)

/-- The source has answered, completely and in time. -/
def RemoteRIBRead.Complete (read : RemoteRIBRead) : Prop :=
  ∃ raw, read.outcome = .ok raw ∧ raw.complete = true ∧
    read.cancelled = false

/-- Equal endpoints and issues. -/
def RemoteImportSnapshot.SameContent (left right : RemoteImportSnapshot) :
    Prop :=
  left.endpoints = right.endpoints ∧ left.issues = right.issues

namespace RemoteImportSnapshot.SameContent

variable {first second third : RemoteImportSnapshot}

theorem symm (same : SameContent first second) : SameContent second first :=
  ⟨same.1.symm, same.2.symm⟩

theorem trans (left : SameContent first second)
    (right : SameContent second third) : SameContent first third :=
  ⟨left.1.trans right.1, left.2.trans right.2⟩

end RemoteImportSnapshot.SameContent

namespace ReadOnlyType2Importer

variable (digest : RemoteHash) (package : RoutePackage)

def serve (importer : ReadOnlyType2Importer) :
    ImporterCall → Option PollReply × ReadOnlyType2Importer
  | .poll read =>
      let out := importer.poll digest package read
      (some out.1, out.2)
  | .rebindSource present => (none, (importer.rebindSource present).2)

/-- The importer after a history of calls. -/
def after (importer : ReadOnlyType2Importer) (calls : List ImporterCall) :
    ReadOnlyType2Importer :=
  calls.foldl (fun importer call => (importer.serve digest package call).2)
    importer

/-- The authoritative snapshot in a reply. -/
def publication : Option PollReply → List RemoteImportSnapshot
  | some reply => if reply.snapshot.authoritative then [reply.snapshot] else []
  | none => []

/-- The authoritative snapshots that a history of calls has returned. -/
def published (importer : ReadOnlyType2Importer) (calls : List ImporterCall) :
    List RemoteImportSnapshot :=
  (calls.foldl (fun (state : List RemoteImportSnapshot ×
      ReadOnlyType2Importer) call =>
    let out := state.2.serve digest package call
    (state.1 ++ publication out.1, out.2)) ([], importer)).1

/-- The snapshot that was published last, or the one it started with. -/
def lastPublished (importer : ReadOnlyType2Importer)
    (calls : List ImporterCall) : RemoteImportSnapshot :=
  (importer.published digest package calls).getLast?.getD importer.confirmed

variable {digest package} {importer fresh : ReadOnlyType2Importer}
  {calls : List ImporterCall} {call : ImporterCall} {read : RemoteRIBRead}
  {next : RemoteImportSnapshot}

@[simp] theorem after_concat :
    importer.after digest package (calls ++ [call]) =
      ((importer.after digest package calls).serve digest package call).2 := by
  simp [after]

private theorem published_state (importer : ReadOnlyType2Importer)
    (calls : List ImporterCall) (earlier : List RemoteImportSnapshot) :
    (calls.foldl (fun (state : List RemoteImportSnapshot ×
        ReadOnlyType2Importer) call =>
      let out := state.2.serve digest package call
      (state.1 ++ publication out.1, out.2)) (earlier, importer)).2 =
    importer.after digest package calls := by
  induction calls generalizing importer earlier with
  | nil => rfl
  | cons call rest induction => exact induction _ _

theorem published_concat :
    importer.published digest package (calls ++ [call]) =
      importer.published digest package calls ++
        publication ((importer.after digest package calls).serve digest
          package call).1 := by
  unfold published
  rw [List.foldl_append]
  simp only [List.foldl_cons, List.foldl_nil, published_state]

/-- A reply that is not authoritative publishes nothing. -/
theorem lastPublished_concat_of_none
    (silent : publication ((importer.after digest package calls).serve digest
      package call).1 = []) :
    importer.lastPublished digest package (calls ++ [call]) =
      importer.lastPublished digest package calls := by
  unfold lastPublished
  rw [published_concat, silent, List.append_nil]

theorem lastPublished_concat_of_some {snapshot : RemoteImportSnapshot}
    (spoken : publication ((importer.after digest package calls).serve digest
      package call).1 = [snapshot]) :
    importer.lastPublished digest package (calls ++ [call]) = snapshot := by
  unfold lastPublished
  rw [published_concat, spoken, List.getLast?_concat, Option.getD_some]

/-- An observation is made of a complete read, and says nothing of
authority. -/
theorem observe_eq_ok
    (observed : importer.observe digest package read = .ok next) :
    read.Complete ∧ next.authoritative = false ∧ next.generation = 0 := by
  unfold observe at observed
  cases outcome : read.outcome with
  | error reason =>
      rw [outcome] at observed
      cases observed
  | ok raw =>
      simp only [outcome] at observed
      split at observed
      · cases observed
      · rename_i complete
        obtain ⟨merge, _, checked⟩ := bind_eq_ok.mp observed
        refine ⟨⟨raw, outcome, by simpa using mt Or.inl complete,
          by simpa using mt Or.inr complete⟩, ?_⟩
        split at checked
        · cases checked
        · cases checked
          exact ⟨rfl, rfl⟩

/-- The three ways in which a poll ends. -/
inductive Polled (digest : RemoteHash) (package : RoutePackage)
    (importer : ReadOnlyType2Importer) (read : RemoteRIBRead) :
    PollReply × ReadOnlyType2Importer → Prop where
  | uncertain {reason : Uncertain} :
      importer.observe digest package read = .error reason →
      Polled digest package importer read
        (⟨{ importer.confirmed with
            authoritative := false
            issues := importer.confirmed.issues ++ reason.issues },
          some reason.reason⟩, { importer with pending := "" })
  | first {next : RemoteImportSnapshot} :
      importer.observe digest package read = .ok next →
      importer.pending ≠ digest (.snapshot next) →
      Polled digest package importer read
        (⟨{ importer.confirmed with
            authoritative := false
            issues := next.issues }, none⟩,
          { importer with pending := digest (.snapshot next) })
  | second {next confirmed : RemoteImportSnapshot} :
      importer.observe digest package read = .ok next →
      importer.pending = digest (.snapshot next) →
      confirmed.authoritative = true →
      confirmed.SameContent next →
      (importer.confirmed.SameContent confirmed →
        confirmed.generation = importer.confirmed.generation) →
      (¬importer.confirmed.SameContent confirmed →
        confirmed.generation = importer.confirmed.generation + 1) →
      Polled digest package importer read
        (⟨confirmed, none⟩, { importer with confirmed := confirmed })

/-- The digests of two contents agree when the contents do. -/
private theorem comparison_eq_iff (digest : RemoteHash)
    (confirmed : RemoteImportSnapshot)
    (silent : next.authoritative = false) (zero : next.generation = 0) :
    digest (.snapshot { confirmed with
        authoritative := false
        generation := 0 }) = digest (.snapshot next) ↔
      confirmed.SameContent next := by
  obtain ⟨authoritative, generation, endpoints, issues⟩ := next
  cases silent
  cases zero
  simp [RemoteImportSnapshot.SameContent]

variable (digest package) in
theorem poll_polled (importer : ReadOnlyType2Importer)
    (read : RemoteRIBRead) :
    Polled digest package importer read
      (importer.poll digest package read) := by
  unfold poll
  cases observed : importer.observe digest package read with
  | error reason => exact .uncertain observed
  | ok next =>
      obtain ⟨_, silent, zero⟩ := observe_eq_ok observed
      dsimp only
      by_cases waiting : importer.pending = digest (.snapshot next)
      · rw [if_neg (not_not_intro waiting)]
        have compared :=
          comparison_eq_iff digest importer.confirmed silent zero
        by_cases same : importer.confirmed.SameContent next
        · rw [if_neg (not_not_intro (compared.mpr same))]
          exact @Polled.second digest package importer read next
            ⟨true, importer.confirmed.generation, next.endpoints, next.issues⟩
            observed waiting rfl ⟨rfl, rfl⟩ (fun _ => rfl)
            (fun different => absurd same different)
        · rw [if_pos (fun equal => same (compared.mp equal))]
          exact @Polled.second digest package importer read next
            ⟨true, importer.confirmed.generation + 1, next.endpoints,
              next.issues⟩
            observed waiting rfl ⟨rfl, rfl⟩
            (fun equal => absurd equal same) (fun _ => rfl)
      · rw [if_pos waiting]
        exact .first observed waiting

theorem generation_add_one_ne (generation : UInt64) :
    generation + 1 ≠ generation := by
  intro same
  have numbers := congrArg UInt64.toNat same
  have bounded := generation.toNat_lt
  rw [UInt64.toNat_add, UInt64.toNat_one] at numbers
  omega

/-- The counter grows unless it wraps around. -/
theorem generation_le_add_one {generation : UInt64}
    (room : generation.toNat + 1 < UInt64.size) :
    generation ≤ generation + 1 := by
  rw [UInt64.le_iff_toNat_le, UInt64.toNat_add, UInt64.toNat_one,
    Nat.mod_eq_of_lt room]
  exact Nat.le_succ _

/-- A call counts at most one generation. -/
theorem generation_serve_le (importer : ReadOnlyType2Importer)
    (call : ImporterCall) :
    (importer.serve digest package call).2.confirmed.generation.toNat ≤
      importer.confirmed.generation.toNat + 1 := by
  cases call with
  | rebindSource present =>
      cases present with
      | true => exact Nat.le_succ _
      | false => exact Nat.le_succ _
  | poll read =>
      have polled := poll_polled digest package importer read
      dsimp only [serve]
      generalize importer.poll digest package read = out at polled
      cases polled with
      | uncertain _ => exact Nat.le_succ _
      | first _ _ => exact Nat.le_succ _
      | @second next confirmed _ _ _ _ equal differs =>
          show confirmed.generation.toNat ≤ _
          by_cases same : importer.confirmed.SameContent confirmed
          · rw [equal same]
            exact Nat.le_succ _
          · rw [differs same, UInt64.toNat_add]
            exact Nat.mod_le _ _

/-- A history counts at most one generation a call. -/
theorem generation_after_le (calls : List ImporterCall) :
    (importer.after digest package calls).confirmed.generation.toNat ≤
      importer.confirmed.generation.toNat + calls.length := by
  induction calls using List.reverseRecOn with
  | nil => exact Nat.le_refl _
  | append_singleton calls call induction =>
      have step := @generation_serve_le digest package
        (importer.after digest package calls) call
      rw [after_concat, List.length_append, List.length_singleton]
      omega

/-- `calls` ends with a poll that has observed `next`, after which the source
has not been replaced. -/
def LastObserved (digest : RemoteHash) (package : RoutePackage)
    (fresh : ReadOnlyType2Importer) (calls : List ImporterCall)
    (next : RemoteImportSnapshot) : Prop :=
  ∃ earlier last refused, calls = earlier ++ .poll last :: refused ∧
    (∀ call ∈ refused, call = .rebindSource false) ∧
    (fresh.after digest package earlier).observe digest package last =
      .ok next

/-- What the importer remembers of a history. -/
structure Remembers (digest : RemoteHash) (package : RoutePackage)
    (fresh : ReadOnlyType2Importer) (calls : List ImporterCall)
    (importer : ReadOnlyType2Importer) : Prop where
  pending : importer.pending = "" ∨ ∃ next,
    LastObserved digest package fresh calls next ∧
      importer.pending = digest (.snapshot next)
  content : importer.confirmed.SameContent
    (fresh.lastPublished digest package calls)
  generation : importer.confirmed.generation =
    (fresh.lastPublished digest package calls).generation

namespace Remembers

theorem start (blank : fresh.pending = "") :
    Remembers digest package fresh [] fresh :=
  { pending := .inl blank
    content := ⟨rfl, rfl⟩
    generation := rfl }

theorem polled {out : PollReply × ReadOnlyType2Importer}
    (remembers : Remembers digest package fresh calls
      (fresh.after digest package calls))
    (served : (fresh.after digest package calls).poll digest package read =
      out)
    (polled : Polled digest package (fresh.after digest package calls) read
      out) :
    Remembers digest package fresh (calls ++ [.poll read]) out.2 := by
  have publishes : publication ((fresh.after digest package calls).serve
      digest package (.poll read)).1 = publication (some out.1) := by
    rw [← served]
    rfl
  cases polled with
  | uncertain _ =>
      have last := lastPublished_concat_of_none publishes
      exact ⟨.inl rfl, by rw [last]; exact remembers.content,
        by rw [last]; exact remembers.generation⟩
  | @first next observed _ =>
      have last := lastPublished_concat_of_none publishes
      exact ⟨.inr ⟨next, ⟨calls, read, [], rfl, by simp, observed⟩, rfl⟩,
        by rw [last]; exact remembers.content,
        by rw [last]; exact remembers.generation⟩
  | @second next confirmed observed waiting spoken _ _ _ =>
      have said : publication (some ⟨confirmed, none⟩) = [confirmed] := by
        simp [publication, spoken]
      have last := lastPublished_concat_of_some (publishes.trans said)
      exact ⟨.inr ⟨next, ⟨calls, read, [], rfl, by simp, observed⟩, waiting⟩,
        by rw [last]; exact ⟨rfl, rfl⟩, by rw [last]⟩

theorem rebound {present : Bool}
    (remembers : Remembers digest package fresh calls importer) :
    Remembers digest package fresh (calls ++ [.rebindSource present])
      (importer.rebindSource present).2 := by
  have last : fresh.lastPublished digest package
      (calls ++ [.rebindSource present]) =
      fresh.lastPublished digest package calls :=
    lastPublished_concat_of_none rfl
  cases present with
  | true =>
      exact ⟨.inl rfl, by rw [last]; exact remembers.content,
        by rw [last]; exact remembers.generation⟩
  | false =>
      refine ⟨?_, by rw [last]; exact remembers.content,
        by rw [last]; exact remembers.generation⟩
      rcases remembers.pending with blank | ⟨next, observed, waiting⟩
      · exact .inl blank
      · obtain ⟨earlier, poll, refused, rfl, idle, seen⟩ := observed
        refine .inr ⟨next, ⟨earlier, poll,
          refused ++ [.rebindSource false], by simp, ?_, seen⟩, waiting⟩
        intro call member
        rcases List.mem_append.mp member with older | newest
        · exact idle call older
        · exact List.mem_singleton.mp newest

/-- The importer remembers every history of its calls. -/
theorem run (blank : fresh.pending = "") (calls : List ImporterCall) :
    Remembers digest package fresh calls
      (fresh.after digest package calls) := by
  induction calls using List.reverseRecOn with
  | nil => exact start blank
  | append_singleton calls call induction =>
      rw [after_concat]
      cases call with
      | poll read => exact induction.polled rfl (poll_polled digest package _ read)
      | rebindSource present => exact induction.rebound

end Remembers

/-- A poll is authoritative only when the read of the poll before, on the same
source, was complete and showed the same; its generation is the one published
last, plus one exactly when the content differs from the content published
last, and is not smaller while there were fewer calls than generations; and
any other poll keeps the confirmed content and returns its endpoints. -/
theorem poll_publishes_second_observation {config : RemoteImportConfig}
    (started : new package config = .ok fresh) (calls : List ImporterCall)
    (read : RemoteRIBRead) (short : calls.length + 1 < UInt64.size) :
    let before := fresh.after digest package calls
    let out := before.poll digest package read
    let previous := fresh.lastPublished digest package calls
    (out.1.snapshot.authoritative = true →
      ∃ earlier last refused next,
        calls = earlier ++ .poll last :: refused ∧
        (∀ call ∈ refused, call = .rebindSource false) ∧
        last.Complete ∧ read.Complete ∧
        (fresh.after digest package earlier).observe digest package last =
          .ok next ∧
        before.observe digest package read = .ok next ∧
        out.1.failure = none ∧ out.1.snapshot.SameContent next) ∧
    (out.1.snapshot.authoritative = true →
      out.2.confirmed = out.1.snapshot ∧
      previous.generation ≤ out.1.snapshot.generation ∧
      (out.1.snapshot.generation = previous.generation ↔
        previous.SameContent out.1.snapshot) ∧
      (out.1.snapshot.generation = previous.generation + 1 ↔
        ¬previous.SameContent out.1.snapshot)) ∧
    (out.1.snapshot.authoritative = false ∨ out.1.failure ≠ none →
      out.2.confirmed = before.confirmed ∧
      before.confirmed.SameContent previous ∧
      before.confirmed.generation = previous.generation ∧
      out.1.snapshot.endpoints = previous.endpoints) := by
  obtain ⟨blank, zero⟩ : fresh.pending = "" ∧
      fresh.confirmed.generation = 0 := by
    obtain ⟨_, _, built⟩ := bind_eq_ok.mp started
    cases built
    exact ⟨rfl, rfl⟩
  intro before out previous
  have remembers : Remembers digest package fresh calls before :=
    .run blank calls
  have polled := poll_polled digest package before read
  have kept := remembers.content
  have counted : before.confirmed.generation = previous.generation :=
    remembers.generation
  have room : previous.generation.toNat + 1 < UInt64.size := by
    have bounded : before.confirmed.generation.toNat ≤ _ :=
      generation_after_le calls
    rw [counted, zero, UInt64.toNat_zero] at bounded
    omega
  have waits := remembers.pending
  change Polled digest package before read out at polled
  clear_value out
  cases polled with
  | uncertain _ =>
      exact ⟨nofun, nofun, fun _ => ⟨rfl, kept, counted, kept.1⟩⟩
  | first _ _ =>
      exact ⟨nofun, nofun, fun _ => ⟨rfl, kept, counted, kept.1⟩⟩
  | @second next confirmed observed waiting spoken same equal differs =>
      refine ⟨fun _ => ?_, fun _ => ?_, fun silent => ?_⟩
      · rcases waits with empty | ⟨seen, history, digested⟩
        · exact absurd (waiting.symm.trans empty) (digest.spoken _)
        · have identical : next = seen := by
            simpa using waiting.symm.trans digested
          obtain ⟨earlier, last, refused, split, idle, shown⟩ := history
          rw [← identical] at shown
          exact ⟨earlier, last, refused, next, split, idle,
            (observe_eq_ok shown).1, (observe_eq_ok observed).1, shown,
            observed, rfl, same⟩
      · have shifted : before.confirmed.SameContent confirmed ↔
            previous.SameContent confirmed :=
          ⟨fun unchanged => kept.symm.trans unchanged,
            fun unchanged => kept.trans unchanged⟩
        rw [shifted] at equal differs
        by_cases unchanged : previous.SameContent confirmed
        · have stays : confirmed.generation = previous.generation :=
            (equal unchanged).trans counted
          refine ⟨rfl, stays ▸ UInt64.le_refl _,
            iff_of_true stays unchanged, iff_of_false ?_ (· unchanged)⟩
          intro grows
          exact generation_add_one_ne _ (grows.symm.trans stays)
        · have grows : confirmed.generation = previous.generation + 1 := by
            rw [differs unchanged, counted]
          refine ⟨rfl, grows ▸ generation_le_add_one room,
            iff_of_false ?_ unchanged, iff_of_true grows unchanged⟩
          intro stays
          exact generation_add_one_ne _ (grows.symm.trans stays)
      · rcases silent with silent | failed
        · exact absurd (spoken.symm.trans silent) nofun
        · exact absurd rfl failed

/-- A MAC/IP path of the remote VTEP. -/
def samplePath : RemotePath :=
  let advertised : MacIPAdvertisement :=
    { rd := some "65000:100"
      macAddress := [2, 0, 0, 0, 0, 1]
      macAddressLength := 48
      ethernetTag := 0
      ipAddress := some (.v4 [10, 0, 0, 5])
      ipAddressLength := 32
      esi := .ok [0, 0, 0, 0, 0, 0, 0, 0, 0, 0]
      labels := [100] }
  let attributes : List RemoteAttribute :=
    [⟨1, .ok [0], .origin 0⟩,
      ⟨14, .ok [1], .mpReachNLRI afiL2VPN safiEVPN false [some (.ok [2])]
        (some (.v4 [192, 0, 2, 2]))⟩,
      ⟨16, .ok [2], .extendedCommunities [⟨0, 2, "65000:100", none⟩,
        ⟨3, 12, "VXLAN", some "vxlan"⟩]⟩]
  { afi := afiL2VPN
    safi := safiEVPN
    neighborIP := "192.0.2.2"
    sourceID := "192.0.2.2"
    sourceASN := 65000
    identifier := 0
    localIdentifier := 0
    best := true
    stale := false
    filtered := false
    isNexthopInvalid := false
    isWithdraw := false
    isFromExternal := true
    nativeNLRI := .ok (some ⟨macIPAdvertisementType, .ok [2], some advertised⟩)
    pattrs := [some (some 1)]
    nativePathAttributes := .ok attributes }

/-- A complete read of a table with one path. -/
def sampleRead : RemoteRIBRead :=
  ⟨.ok ⟨[some samplePath], true⟩, false⟩

def sampleImporter : ReadOnlyType2Importer :=
  ⟨sampleImportConfig, blankSnapshot, ""⟩

theorem sampleImporter_new :
    new samplePackage sampleImportConfig = .ok sampleImporter := by
  rfl

noncomputable def sampleNext : RemoteImportSnapshot :=
  (sampleImporter.observe sampleHash samplePackage
    sampleRead).toOption.getD blankSnapshot

theorem sampleRead_observed
    (configured : importer.config = sampleImportConfig) :
    importer.observe sampleHash samplePackage sampleRead = .ok sampleNext := by
  unfold observe
  rw [configured]
  rfl

theorem sampleNext_endpoints : sampleNext.endpoints ≠ [] := by
  intro empty
  have none : (Merge.sortEndpoints (_ :: _)).length = 0 :=
    congrArg List.length empty
  unfold Merge.sortEndpoints at none
  rw [List.length_insertionSort] at none
  cases none

/-- A poll that shows something new publishes nothing. -/
theorem poll_first (observed : importer.observe digest package read = .ok next)
    (unseen : importer.pending ≠ digest (.snapshot next)) :
    (importer.poll digest package read).1.snapshot.authoritative = false ∧
      (importer.poll digest package read).2 =
        { importer with pending := digest (.snapshot next) } := by
  unfold poll
  rw [observed]
  dsimp only
  rw [if_pos unseen]
  exact ⟨rfl, rfl⟩

/-- A poll that shows the same again publishes it. -/
theorem poll_second
    (observed : importer.observe digest package read = .ok next)
    (waiting : importer.pending = digest (.snapshot next)) :
    ∃ confirmed : RemoteImportSnapshot,
      importer.poll digest package read =
          (⟨confirmed, none⟩, { importer with confirmed := confirmed }) ∧
        confirmed.authoritative = true ∧ confirmed.SameContent next := by
  unfold poll
  rw [observed]
  dsimp only
  rw [if_neg (not_not_intro waiting)]
  exact ⟨_, rfl, rfl, rfl, rfl⟩

theorem sampleImporter_polled :
    publication (sampleImporter.serve sampleHash samplePackage
        (.poll sampleRead)).1 = [] ∧
      sampleImporter.after sampleHash samplePackage [.poll sampleRead] =
        { sampleImporter with
          pending := sampleHash (.snapshot sampleNext) } := by
  obtain ⟨silent, state⟩ := poll_first
    (sampleRead_observed rfl : sampleImporter.observe _ _ _ = _)
    (sampleHash.spoken _).symm
  exact ⟨if_neg (by simp [silent]), state⟩

theorem sampleImporter_second :
    ∃ confirmed : RemoteImportSnapshot,
      (sampleImporter.after sampleHash samplePackage
          [.poll sampleRead]).poll sampleHash samplePackage sampleRead =
        (⟨confirmed, none⟩, { sampleImporter with
          pending := sampleHash (.snapshot sampleNext)
          confirmed := confirmed }) ∧
      confirmed.authoritative = true ∧ confirmed.SameContent sampleNext := by
  rw [sampleImporter_polled.2]
  exact poll_second (sampleRead_observed rfl) rfl

theorem poll_publishes_second_observation_sample :
    let out := (sampleImporter.after sampleHash samplePackage
      [.poll sampleRead]).poll sampleHash samplePackage sampleRead
    out.1.snapshot.authoritative = true ∧ out.1.snapshot.endpoints ≠ [] ∧
      out.1.snapshot.generation = 1 := by
  have facts := (@poll_publishes_second_observation sampleHash samplePackage _
    _ sampleImporter_new [.poll sampleRead] sampleRead (by decide)).2.1
  have previous : sampleImporter.lastPublished sampleHash samplePackage
      ([] ++ [.poll sampleRead]) = blankSnapshot :=
    lastPublished_concat_of_none sampleImporter_polled.1
  rw [List.nil_append] at previous
  obtain ⟨confirmed, polled, spoken, same⟩ := sampleImporter_second
  rw [previous, polled] at facts
  rw [polled]
  have shown : confirmed.endpoints ≠ [] := same.1 ▸ sampleNext_endpoints
  refine ⟨spoken, shown, ?_⟩
  exact (facts spoken).2.2.2.mpr fun unchanged => shown unchanged.1.symm

/-- A refused `RebindSource` between two polls keeps the binding, and the
second poll is authoritative. -/
theorem poll_publishes_after_refused_rebind :
    ((sampleImporter.after sampleHash samplePackage
      [.poll sampleRead, .rebindSource false]).poll sampleHash samplePackage
        sampleRead).1.snapshot.authoritative = true := by
  have state : sampleImporter.after sampleHash samplePackage
      [.poll sampleRead, .rebindSource false] =
        sampleImporter.after sampleHash samplePackage [.poll sampleRead] :=
    rfl
  obtain ⟨confirmed, polled, spoken, _⟩ := sampleImporter_second
  rw [state, polled]
  exact spoken

end ReadOnlyType2Importer

end EvpnForOvn.Evpn

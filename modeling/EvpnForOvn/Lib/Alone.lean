import EvpnForOvn.Lib.Method

/-!
# Programs that run alone

When nobody else moves the world, a program is known by what it can return
and in which world.  `Program.Returns` is that relation, by recursion on the
program; `Method.Finishes` reads it for a call that may fail, and
`Method.Returns` for one that succeeds.  The rules are equivalences, so a call
can be followed in both directions, from what it does and from what is asked
of it.  `Answering.beside` lets others in between two requests.
-/

namespace Interactive

/-- The replies that are possible in a world, and the worlds after them. -/
abbrev Answering (signature : Signature) (World : Type) : Type :=
  World → (request : signature.Request) → signature.Reply request →
    World → Prop

/-- A world, and what it was when others had last moved it. -/
structure Shared (World : Type) where
  current : World
  theirs : World

/-- Before each request others may move the world. -/
def Answering.beside {signature : Signature} {World : Type}
    (others : World → World → Prop) (answers : Answering signature World) :
    Answering signature (Shared World) :=
  fun before request reply after =>
    others before.current after.theirs ∧
      answers after.theirs request reply after.current

/-- The program, started in the first world, can return the value in the
second. -/
def Program.Returns {signature : Signature} {World α : Type}
    (answers : Answering signature World) :
    Program signature α → World → α → World → Prop
  | .done returned, world, value, after => value = returned ∧ after = world
  | .ask message next, world, value, after => ∃ reply middle,
      answers world message reply middle ∧
        (next reply).Returns answers middle value after

section Programs

variable {signature : Signature} {World α β : Type}
  {answers : Answering signature World}

theorem Program.returns_bind {program : Program signature α}
    {continuation : α → Program signature β} {world after : World}
    {value : β} :
    (program >>= continuation).Returns answers world value after ↔
      ∃ first middle, program.Returns answers world first middle ∧
        (continuation first).Returns answers middle value after := by
  induction program generalizing world with
  | done returned =>
      constructor
      · intro returns
        exact ⟨returned, world, ⟨rfl, rfl⟩, returns⟩
      · intro returns
        obtain ⟨_, _, ⟨rfl, rfl⟩, returns⟩ := returns
        exact returns
  | ask message next induction =>
      constructor
      · intro returns
        obtain ⟨reply, moved, answered, returns⟩ := returns
        obtain ⟨first, middle, begun, returns⟩ :=
          (induction reply).mp returns
        exact ⟨first, middle, ⟨reply, moved, answered, begun⟩, returns⟩
      · intro returns
        obtain ⟨first, middle, ⟨reply, moved, answered, begun⟩, returns⟩ :=
          returns
        exact ⟨reply, moved, answered,
          (induction reply).mpr ⟨first, middle, begun, returns⟩⟩

end Programs

section Listings

variable {α : Type} {rows : List α} {selects : α → Bool}

theorem exists_perm_find_eq_some {row : α} (listed : row ∈ rows)
    (selected : selects row = true) :
    ∃ order : List α, order.Perm rows ∧ order.find? selects = some row := by
  obtain ⟨before, after, rfl⟩ := List.append_of_mem listed
  refine ⟨row :: (before ++ after), List.perm_middle.symm, ?_⟩
  rw [List.find?_cons_of_pos selected]

end Listings

namespace Method

variable {signature : Signature} {World ε α β : Type}

/-- The call can end with the outcome in the second world. -/
structure Finishes (answers : Answering signature World)
    (method : Method signature ε Unit α) (world : World)
    (outcome : Except ε α) (after : World) : Prop where
  run : (method.start ()).Returns answers world (outcome, ()) after

/-- The call can succeed with the value in the second world. -/
def Returns (answers : Answering signature World)
    (method : Method signature ε Unit α) (world : World) (value : α)
    (after : World) : Prop :=
  method.Finishes answers world (.ok value) after

variable {answers : Answering signature World} {world after : World}

theorem finishes_bind {method : Method signature ε Unit α}
    {continuation : α → Method signature ε Unit β} {outcome : Except ε β} :
    (method >>= continuation).Finishes answers world outcome after ↔
      (∃ value middle, method.Finishes answers world (.ok value) middle ∧
        (continuation value).Finishes answers middle outcome after) ∨
      ∃ reason, method.Finishes answers world (.error reason) after ∧
        outcome = .error reason := by
  constructor
  · intro finishes
    have run := finishes.run
    rw [start_bind, Program.returns_bind] at run
    obtain ⟨⟨first | first, _⟩, middle, begun, last⟩ := run
    · obtain ⟨same, rfl⟩ := last
      exact .inr ⟨first, ⟨begun⟩, congrArg Prod.fst same⟩
    · exact .inl ⟨first, middle, ⟨begun⟩, ⟨last⟩⟩
  · intro finishes
    constructor
    rw [start_bind, Program.returns_bind]
    rcases finishes with ⟨value, middle, begun, last⟩ |
      ⟨reason, failed, rfl⟩
    · exact ⟨(.ok value, ()), middle, begun.run, last.run⟩
    · exact ⟨(.error reason, ()), after, failed.run, rfl, rfl⟩

theorem finishes_check {outcome ended : Except ε α} :
    (check outcome : Method signature ε Unit α).Finishes answers world ended
      after ↔ ended = outcome ∧ after = world := by
  constructor
  · intro finishes
    obtain ⟨same, rfl⟩ := finishes.run
    exact ⟨congrArg Prod.fst same, rfl⟩
  · intro finishes
    obtain ⟨rfl, rfl⟩ := finishes
    exact ⟨rfl, rfl⟩

theorem finishes_pure {value : α} {ended : Except ε α} :
    (pure value : Method signature ε Unit α).Finishes answers world ended
      after ↔ ended = .ok value ∧ after = world :=
  finishes_check

theorem finishes_require {found : Option α} {reason : ε}
    {ended : Except ε α} :
    (require found reason : Method signature ε Unit α).Finishes answers
        world ended after ↔
      ended = found.elim (.error reason) .ok ∧ after = world := by
  cases found with
  | none => exact finishes_check
  | some value => exact finishes_check

theorem finishes_ask {message : signature.Request}
    {ended : Except ε (signature.Reply message)} :
    (ask message : Method signature ε Unit _).Finishes answers world ended
        after ↔
      ∃ reply, ended = .ok reply ∧ answers world message reply after := by
  constructor
  · intro finishes
    obtain ⟨reply, _, answered, same, rfl⟩ := finishes.run
    exact ⟨reply, congrArg Prod.fst same, answered⟩
  · intro finishes
    obtain ⟨reply, rfl, answered⟩ := finishes
    exact ⟨reply, after, answered, rfl, rfl⟩

/-- A request whose reply may carry an error. -/
theorem finishes_ask_check {message : signature.Request}
    {outcome : signature.Reply message → Except ε α} {ended : Except ε α} :
    (ask message >>= fun reply => check (outcome reply) :
        Method signature ε Unit α).Finishes answers world ended after ↔
      ∃ reply, answers world message reply after ∧
        ended = outcome reply := by
  refine finishes_bind.trans ?_
  constructor
  · intro finishes
    rcases finishes with ⟨reply, middle, asked, checked⟩ |
      ⟨reason, asked, _⟩
    · obtain ⟨_, same, answered⟩ := finishes_ask.mp asked
      cases same
      obtain ⟨replied, rfl⟩ := finishes_check.mp checked
      exact ⟨reply, answered, replied⟩
    · obtain ⟨_, impossible, _⟩ := finishes_ask.mp asked
      cases impossible
  · intro finishes
    obtain ⟨reply, answered, rfl⟩ := finishes
    exact .inl ⟨reply, after, finishes_ask.mpr ⟨reply, rfl, answered⟩,
      finishes_check.mpr ⟨rfl, rfl⟩⟩

theorem returns_bind {method : Method signature ε Unit α}
    {continuation : α → Method signature ε Unit β} {value : β} :
    (method >>= continuation).Returns answers world value after ↔
      ∃ first middle, method.Returns answers world first middle ∧
        (continuation first).Returns answers middle value after := by
  unfold Returns
  rw [finishes_bind]
  constructor
  · intro finishes
    rcases finishes with finishes | ⟨_, _, impossible⟩
    · exact finishes
    · cases impossible
  · intro finishes
    exact .inl finishes

theorem returns_check {outcome : Except ε α} {value : α} :
    (check outcome : Method signature ε Unit α).Returns answers world value
      after ↔ outcome = .ok value ∧ after = world :=
  finishes_check.trans (and_congr_left' eq_comm)

theorem returns_pure {returned value : α} :
    (pure returned : Method signature ε Unit α).Returns answers world value
      after ↔ returned = value ∧ after = world := by
  have checked := @returns_check signature World ε α answers world after
    (.ok returned) value
  rw [Except.ok.injEq] at checked
  exact checked

theorem returns_throw {reason : ε} {value : α} :
    ¬ (throw reason : Method signature ε Unit α).Returns answers world value
      after := by
  intro returns
  cases congrArg Prod.fst returns.run.1

theorem returns_require {found : Option α} {reason : ε} {value : α} :
    (require found reason : Method signature ε Unit α).Returns answers world
      value after ↔ found = some value ∧ after = world := by
  cases found with
  | none =>
      constructor
      · intro returns
        exact absurd returns returns_throw
      · intro passed
        cases passed.1
  | some found =>
      rw [Option.some.injEq]
      exact returns_pure

theorem returns_ask {message : signature.Request}
    {reply : signature.Reply message} :
    (ask message : Method signature ε Unit _).Returns answers world reply
      after ↔ answers world message reply after := by
  refine finishes_ask.trans ?_
  simp only [Except.ok.injEq, exists_eq_left']

theorem returns_ask_check {message : signature.Request}
    {outcome : signature.Reply message → Except ε α} {value : α} :
    (ask message >>= fun reply => check (outcome reply) :
        Method signature ε Unit α).Returns answers world value after ↔
      ∃ reply, answers world message reply after ∧
        outcome reply = .ok value := by
  refine finishes_ask_check.trans ?_
  simp only [eq_comm]

/-- A reported error does not change what succeeds. -/
theorem returns_ask_mapError {δ : Type} {message : signature.Request}
    {outcome : signature.Reply message → Except δ α} {report : δ → ε}
    {value : α} :
    (ask message >>= fun reply => check ((outcome reply).mapError report) :
        Method signature ε Unit α).Returns answers world value after ↔
      ∃ reply, answers world message reply after ∧
        outcome reply = .ok value := by
  refine returns_ask_check.trans
    (exists_congr fun reply => and_congr_right' ?_)
  cases outcome reply with
  | error reason => exact ⟨nofun, nofun⟩
  | ok found =>
      exact ⟨fun same => congrArg Except.ok (Except.ok.inj same),
        fun same => congrArg Except.ok (Except.ok.inj same)⟩

end Method

end Interactive

import Mathlib.Logic.Function.Basic
import Mathlib.Logic.Relation

/-!
# Clients that read a value and write it later

Several clients share one value.  Each reads it once, decides from what it has
seen what to write, and writes later, while others may have written in
between.  A client that finds nothing to write is done with its reading.

When every write meets the value that its client has seen, the clients have
acted one after the other: `Steps.serial`.
-/

namespace Optimistic

variable {Client Value Change : Type}

/-- How far a client has come. -/
inductive Phase (Value : Type) where
  | waiting
  | holding (seen : Value)
  | returned

structure Shared (Client Value : Type) where
  value : Value
  phase : Client → Phase Value

/-- What the clients plan and what a planned change does. -/
structure Protocol (Client Value Change : Type) where
  plan : Client → Value → Option Change
  write : Change → Value → Value

/-- A client that acts alone. -/
def Protocol.perform (protocol : Protocol Client Value Change)
    (client : Client) (value : Value) : Value :=
  match protocol.plan client value with
  | none => value
  | some change => protocol.write change value

variable {protocol : Protocol Client Value Change}

/-- The clients that have returned have acted in the given order. -/
structure Serial (protocol : Protocol Client Value Change) (initial : Value)
    (order : List Client) (shared : Shared Client Value) : Prop where
  distinct : order.Nodup
  returned : ∀ client, client ∈ order ↔ shared.phase client = .returned
  value : shared.value = order.foldl
    (fun value client => protocol.perform client value) initial

theorem Serial.initial {value : Value} :
    Serial protocol value ([] : List Client)
      ⟨value, fun _ => .waiting⟩ where
  distinct := .nil
  returned := by simp
  value := rfl

variable [DecidableEq Client]

/-- One step of one client.  `allowed` relates what a client has seen to the
value that its write meets. -/
inductive Step (protocol : Protocol Client Value Change)
    (allowed : Value → Value → Prop) :
    Shared Client Value → Shared Client Value → Prop where
  | settle {shared : Shared Client Value} (client : Client) :
      shared.phase client = .waiting →
      protocol.plan client shared.value = none →
      Step protocol allowed shared
        ⟨shared.value, Function.update shared.phase client .returned⟩
  | look {shared : Shared Client Value} (client : Client) {change : Change} :
      shared.phase client = .waiting →
      protocol.plan client shared.value = some change →
      Step protocol allowed shared
        ⟨shared.value,
          Function.update shared.phase client (.holding shared.value)⟩
  | commit {shared : Shared Client Value} (client : Client) {seen : Value}
      {change : Change} :
      shared.phase client = .holding seen →
      protocol.plan client seen = some change →
      allowed seen shared.value →
      Step protocol allowed shared
        ⟨protocol.write change shared.value,
          Function.update shared.phase client .returned⟩

def Steps (protocol : Protocol Client Value Change)
    (allowed : Value → Value → Prop) :
    Shared Client Value → Shared Client Value → Prop :=
  Relation.ReflTransGen (Step protocol allowed)

variable {initial : Value} {order : List Client}
  {shared : Shared Client Value} {client : Client}

/-- A client that has not returned acts next. -/
theorem Serial.snoc {next : Value}
    (serial : Serial protocol initial order shared)
    (pending : shared.phase client ≠ .returned)
    (performed : next = protocol.perform client shared.value) :
    Serial protocol initial (order ++ [client])
      ⟨next, Function.update shared.phase client .returned⟩ where
  distinct := by
    have absent : client ∉ order := fun member =>
      pending ((serial.returned client).mp member)
    simp [List.nodup_append, serial.distinct]
    intro other member same
    exact absent (same ▸ member)
  returned := by
    intro other
    by_cases same : other = client
    · simp [same]
    · simp [same, serial.returned other]
  value := by
    rw [List.foldl_append, ← serial.value]
    exact performed

/-- A client that has read does not change who has returned. -/
theorem Serial.look {seen : Value}
    (serial : Serial protocol initial order shared)
    (waiting : shared.phase client = .waiting) :
    Serial protocol initial order
      ⟨shared.value,
        Function.update shared.phase client (.holding seen)⟩ where
  distinct := serial.distinct
  returned := by
    intro other
    by_cases same : other = client
    · simp [same, serial.returned, waiting]
    · simp [same, serial.returned other]
  value := serial.value

theorem Step.serial {after : Shared Client Value}
    (step : Step protocol (· = ·) shared after)
    (serial : Serial protocol initial order shared) :
    ∃ longer, Serial protocol initial longer after := by
  cases step with
  | settle client waiting nothing =>
      refine ⟨order ++ [client], serial.snoc (by simp [waiting]) ?_⟩
      simp [Protocol.perform, nothing]
  | look client waiting planned =>
      exact ⟨order, serial.look waiting⟩
  | commit client holding planned fresh =>
      refine ⟨order ++ [client], serial.snoc (by simp [holding]) ?_⟩
      rw [fresh] at planned
      simp [Protocol.perform, planned]

/-- When every write meets what its client has seen, the clients have acted
one after the other. -/
theorem Steps.serial {value : Value} {after : Shared Client Value}
    (steps : Steps protocol (· = ·) ⟨value, fun _ => .waiting⟩ after) :
    ∃ order, Serial protocol value order after := by
  induction steps with
  | refl => exact ⟨[], .initial⟩
  | tail _ step induction =>
      obtain ⟨order, serial⟩ := induction
      exact step.serial serial

end Optimistic

import Mathlib.Logic.Basic

/-!
# Errors

A Go error is the text `Error()` returns and the sentinel values that
`errors.Is` finds in it.  The text of an error is never empty; several
components store it and test it against the empty string.
-/

namespace EvpnForOvn.Go

/-- The error values the modelled code compares with `errors.Is`. -/
inductive Sentinel where
  /-- `ownership.ErrBlocked` -/
  | blocked
  /-- `evpn.ErrStaleRouteOperation` -/
  | staleRouteOperation
  /-- `evpn.ErrRouteOrder` -/
  | routeOrder
  /-- `evpn.ErrRouteOwnership` -/
  | routeOwnership
  /-- `evpn.ErrRouteResyncRequired` -/
  | routeResyncRequired
  deriving DecidableEq, Repr

def Sentinel.text : Sentinel → String
  | .blocked => "RECOVERY_BLOCKED"
  | .staleRouteOperation => "stale route operation"
  | .routeOrder => "previous wire-route withdrawal is not acknowledged"
  | .routeOwnership => "route ownership cannot be verified"
  | .routeResyncRequired => "successful RIB resynchronization is required"

structure GoError where
  wraps : List Sentinel
  text : String
  spoken : text ≠ ""
  deriving DecidableEq, Repr

namespace GoError

/-- `errors.Is`. -/
def is (reason : GoError) (sentinel : Sentinel) : Bool :=
  reason.wraps.contains sentinel

private theorem append_spoken {first second : String} (spoken : first ≠ "") :
    first ++ second ≠ "" := by
  intro empty
  apply spoken
  have lengths := congrArg String.length empty
  rw [String.length_append] at lengths
  exact String.length_eq_zero_iff.mp (Nat.eq_zero_of_add_eq_zero_right lengths)

/-- A fresh error with a fixed beginning of its text. -/
def new (beginning : String) (rest : String)
    (spoken : beginning ≠ "" := by decide) : GoError :=
  { wraps := []
    text := beginning ++ rest
    spoken := append_spoken spoken }

/-- `fmt.Errorf("%w: ...", sentinel)`. -/
def wrap (sentinel : Sentinel) (rest : String) : GoError :=
  { wraps := [sentinel]
    text := sentinel.text ++ (": " ++ rest)
    spoken := append_spoken (by cases sentinel <;> decide) }

/-- A sentinel returned as it is. -/
def plain (sentinel : Sentinel) : GoError :=
  { wraps := [sentinel]
    text := sentinel.text
    spoken := by cases sentinel <;> decide }

/-- `fmt.Errorf` with `%w` at the end: the text grows, the sentinels
stay. -/
def extend (beginning middle : String) (reason : GoError)
    (spoken : beginning ≠ "" := by decide) : GoError :=
  { wraps := reason.wraps
    text := beginning ++ (middle ++ reason.text)
    spoken := append_spoken spoken }

/-- `ownership.ErrBlocked` with a reason. -/
def blocked (rest : String) : GoError :=
  wrap .blocked rest

/-- `errors.Join`: both texts, and the sentinels of both. -/
def join (first second : GoError) : GoError :=
  { wraps := first.wraps ++ second.wraps
    text := first.text ++ ("\n" ++ second.text)
    spoken := append_spoken first.spoken }

/-- `errors.Join` on two possibly absent errors. -/
def joined : Except GoError Unit → Except GoError Unit → Except GoError Unit
  | .ok _, second => second
  | .error first, .ok _ => .error first
  | .error first, .error second => .error (first.join second)

end GoError

/-- A sequence of two steps succeeds when both do. -/
theorem bind_eq_ok {ε α β : Type} {first : Except ε α}
    {next : α → Except ε β} {value : β} :
    (first >>= next) = .ok value ↔
      ∃ middle, first = .ok middle ∧ next middle = .ok value := by
  cases first with
  | error reason => simp [bind, Except.bind]
  | ok middle => simp [bind, Except.bind]

end EvpnForOvn.Go

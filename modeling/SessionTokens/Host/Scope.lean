import SessionTokens.Registry.Basic

/-! The bounds of a request on its calls: each may take `timeout` milliseconds, and a
cancellation ends whichever is under way. Times are milliseconds of a timer that jumps from one
event to the next. -/

namespace SessionTokens

structure Scope where
  timeout : Nat
  /-- No further call is begun. -/
  cancelled : Bool := false
  /-- When a call under way is ended, if ever. -/
  cancelAt : Option Nat := none
  deriving DecidableEq, Repr

inductive Wait where
  | ready
  /-- Others have their turn first. -/
  | turn
  | sleep (ms : Nat)
  | forever
  deriving DecidableEq, Repr

inductive Ending where
  | answered
  | timedOut
  | cancelled
  deriving DecidableEq, Repr

structure Course where
  ending : Ending
  endsAt : Nat
  turn : Bool
  deriving DecidableEq, Repr

namespace Scope

/-- How a call ends that nothing cancels. One that is ready exactly at its deadline is
answered. -/
def undisturbed (s : Scope) (start : Nat) : Wait → Course
  | .ready => ⟨.answered, start, false⟩
  | .turn => if s.timeout = 0 then ⟨.timedOut, start, false⟩ else ⟨.answered, start, true⟩
  | .sleep ms =>
    if ms ≤ s.timeout then ⟨.answered, start + ms, false⟩
    else ⟨.timedOut, start + s.timeout, false⟩
  | .forever => ⟨.timedOut, start + s.timeout, false⟩

/-- How a call ends that begins at `start`. A cancellation at the moment at which it would end
otherwise comes first, but for calls that never wait. -/
def await (s : Scope) (start : Nat) (w : Wait) : Course :=
  let c := s.undisturbed start w
  match s.cancelAt with
  | none => c
  | some t =>
    if (c.endsAt = start ∧ ¬ c.turn) ∨ c.endsAt < t then c
    else ⟨.cancelled, max start t, t ≤ start⟩

def isOver (s : Scope) (now : Nat) : Bool :=
  s.cancelled || match s.cancelAt with
    | some t => t < now
    | none => false

end Scope

end SessionTokens

import SessionTokens.Registry.Basic
import SessionTokens.Time.Instant

/-! How long a registry keeps a record. -/

namespace SessionTokens

/-- A record is kept for the time to its expiry, or for `fallback` if that is longer, and then
for `skew` more. -/
structure Retention where
  fallback : Span
  skew : Span
  deriving DecidableEq, Repr

namespace Retention

/-- How long a record is kept that is made at `now`. If no span is that long there is no answer,
and whoever asks stops. -/
def ttl? (p : Retention) (expiresAt now : Instant) : Option Span :=
  ((now.timeTo expiresAt).max p.fallback).add? p.skew

/-- Whether a call comes back: one that is to make a record asks first how long to keep it. -/
def admits (p : Retention) (now : Instant) (c : RegistryCall) : Bool :=
  c.expiry?.all fun e => (p.ttl? e now).isSome

/-- The same, and the longest span for the calls that do not come back. -/
def ttl (p : Retention) (expiresAt now : Instant) : Span := (p.ttl? expiresAt now).getD .most

/-- The instant from which a record made at `now` is dead, at most the last of the calendar. -/
def deadline (p : Retention) (expiresAt now : Instant) : Instant :=
  now.plusClamped (p.ttl expiresAt now)

theorem deadline_le_last (p : Retention) (expiresAt now : Instant) :
    (p.deadline expiresAt now).nanos ≤ Instant.last.nanos :=
  Instant.plusClamped_le_last now _

section Ttl

variable (p : Retention) (expiresAt now : Instant)

theorem isSome_ttl? : (p.ttl? expiresAt now).isSome = true ↔
    max (now.timeTo expiresAt).nanos p.fallback.nanos + p.skew.nanos ≤ Span.most.nanos := by
  rw [ttl?, Span.add?, Span.nanos_max]
  split <;> simp [*]

theorem nanos_ttl_eq_min : (p.ttl expiresAt now).nanos =
    min Span.most.nanos
      (max (now.timeTo expiresAt).nanos p.fallback.nanos + p.skew.nanos) := by
  rw [ttl, ttl?, Span.add?, Span.nanos_max]
  split
  · exact (Nat.min_eq_right ‹_›).symm
  · exact (Nat.min_eq_left (Nat.le_of_lt (Nat.lt_of_not_le ‹_›))).symm

end Ttl

end Retention

end SessionTokens

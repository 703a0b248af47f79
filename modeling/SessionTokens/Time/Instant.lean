import SessionTokens.Number.Word
import SessionTokens.Text.Decimal

/-! Instants and spans of time in whole nanoseconds, and the range of the calendar.
Arithmetic is exact; where a result would leave the range there is none. -/

namespace SessionTokens

structure Span where
  nanos : Nat
  deriving DecidableEq, Repr, Inhabited

namespace Span

def zero : Span := ⟨0⟩

def ofSeconds (s : Nat) : Span := ⟨s * 1000000000⟩

def ofMillis (ms : Nat) : Span := ⟨ms * 1000000⟩

def seconds (d : Span) : Nat := d.nanos / 1000000000

def millis (d : Span) : Nat := d.nanos / 1000000

def max (a b : Span) : Span := if a.nanos ≤ b.nanos then b else a

/-- The longest span there is: 2⁶⁴ seconds less one nanosecond. -/
def most : Span := ⟨Word.bound * 1000000000 - 1⟩

/-- `a` and then `b`, unless no span is that long. -/
def add? (a b : Span) : Option Span :=
  if a.nanos + b.nanos ≤ most.nanos then some ⟨a.nanos + b.nanos⟩ else none

def secondsText (d : Span) : String :=
  if d.nanos = 0 then "0ns" else String.ofList (Decimal.ofNat d.seconds) ++ "s"

/-- The longest span that can be added to an instant: 2⁶³ - 1 milliseconds. -/
def longest : Span := ofMillis (Word.signedBound - 1)

theorem nanos_most : most.nanos = 18446744073709551615999999999 := rfl

theorem nanos_max (a b : Span) : (a.max b).nanos = Max.max a.nanos b.nanos := by
  unfold max
  split <;> omega

end Span

/-- Nanoseconds since the start of 1970. -/
structure Instant where
  nanos : Int
  deriving DecidableEq, Repr, Inhabited

namespace Instant

def ofUnix (seconds : Int) (nanos : Nat) : Instant := ⟨seconds * 1000000000 + nanos⟩

def unix (t : Instant) : Int := t.nanos / 1000000000

/-- The start of year -262143 and the start of year 262143. -/
def firstSecond : Int := -8334601228800

def endSecond : Int := 8210266876800

def first : Instant := ofUnix firstSecond 0

def last : Instant := ⟨endSecond * 1000000000 - 1⟩

def inRange (t : Instant) : Bool := first.nanos ≤ t.nanos && t.nanos ≤ last.nanos

/-- The time from `a` to `b`, none if `b` is not later. -/
def timeTo (a b : Instant) : Span := ⟨(b.nanos - a.nanos).toNat⟩

/-- `t` and then `d`, unless the span or the result is out of range. -/
def plus? (t : Instant) (d : Span) : Option Instant :=
  if d.nanos ≤ Span.longest.nanos then
    let u : Instant := ⟨t.nanos + d.nanos⟩
    if u.inRange then some u else none
  else none

/-- `t` and then `d`, at most the last instant. -/
def plusClamped (t : Instant) (d : Span) : Instant := (t.plus? d).getD last

theorem nanos_first : first.nanos = -8334601228800000000000 := rfl

theorem nanos_last : last.nanos = 8210266876799999999999 := rfl

theorem inRange_iff {t : Instant} :
    t.inRange = true ↔ first.nanos ≤ t.nanos ∧ t.nanos ≤ last.nanos := by
  simp [inRange]

theorem first_le_of_nonneg {t : Instant} (ht : 0 ≤ t.nanos) : first.nanos ≤ t.nanos :=
  Int.le_trans (by decide) ht

theorem inRange_of_nonneg {t : Instant} (ht : 0 ≤ t.nanos) (hlast : t.nanos ≤ last.nanos) :
    t.inRange = true :=
  inRange_iff.mpr ⟨first_le_of_nonneg ht, hlast⟩

/-- The seconds of the calendar fit a signed word. -/
theorem isSigned_unix {t : Instant} (ht : t.inRange = true) : Word.isSigned t.unix = true := by
  have hbounds := inRange_iff.mp ht
  have hfirst := nanos_first
  have hlast := nanos_last
  have hsigned : (Word.signedBound : Int) = 9223372036854775808 := rfl
  rw [Word.isSigned, Bool.and_eq_true, decide_eq_true_eq, decide_eq_true_eq, unix]
  omega

theorem plus?_eq_some {t u : Instant} {d : Span} (h : t.plus? d = some u) :
    u.nanos = t.nanos + d.nanos ∧ u.inRange = true := by
  unfold plus? at h
  split at h
  · dsimp only at h
    split at h
    · obtain rfl := Option.some.inj h
      exact ⟨rfl, by assumption⟩
    · simp at h
  · simp at h

theorem le_longest_of_plus? {t u : Instant} {d : Span} (h : t.plus? d = some u) :
    d.nanos ≤ Span.longest.nanos := by
  unfold plus? at h
  split at h
  · assumption
  · simp at h

theorem le_last_of_plus? {t u : Instant} {d : Span} (h : t.plus? d = some u) :
    u.nanos ≤ last.nanos :=
  (inRange_iff.mp (plus?_eq_some h).2).2

theorem plus?_eq_none_iff {t : Instant} {d : Span} (ht : first.nanos ≤ t.nanos) :
    t.plus? d = none ↔ last.nanos < t.nanos + d.nanos := by
  have hfirst := nanos_first
  have hlast := nanos_last
  have hlongest : Span.longest.nanos = 9223372036854775807000000 := rfl
  unfold plus?
  by_cases hd : d.nanos ≤ Span.longest.nanos
  · simp only [hd, if_true, inRange, Bool.and_eq_true, decide_eq_true_eq, ite_eq_right_iff,
      reduceCtorEq, imp_false]
    omega
  · -- a span that is too long to be added leads off the calendar as well
    simp only [hd, if_false, true_iff]
    omega

theorem unix_lt_endSecond {t : Instant} (h : t.nanos ≤ last.nanos) : t.unix < endSecond := by
  simp only [unix, last, endSecond] at h ⊢
  omega

theorem plusClamped_le_last (t : Instant) (d : Span) : (t.plusClamped d).nanos ≤ last.nanos := by
  unfold plusClamped
  cases h : t.plus? d with
  | none => simp
  | some u => exact le_last_of_plus? h

/-- The instant a count of seconds stands for; the first instant if it stands for none. -/
def ofSecondsOrFirst (seconds : Int) : Instant :=
  if firstSecond ≤ seconds ∧ seconds < endSecond then ofUnix seconds 0 else first

end Instant

end SessionTokens

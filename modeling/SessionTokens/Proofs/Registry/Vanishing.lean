import SessionTokens.Proofs.Registry.Interchange
import SessionTokens.Proofs.Registry.Lifetime

/-! How long a key server keeps a mark. It is told the milliseconds of the retention as a word of
64 bits, so that a retention of 2⁶⁴ milliseconds and more comes out short by a multiple of that;
the registry of a single process keeps such a mark to the end of the calendar. A server that does
not take the deadline of a key says so, and has no mark of the identifier then. -/

namespace SessionTokens

open Keyed (activeKey revokedKey ttlMillis)

open Keyed.Server (millisecond)

namespace Retention

variable {p : Retention} {e now : Instant}

theorem fits_of_lt (hfallback : p.fallback.seconds < Word.signedBound)
    (hskew : p.skew.seconds < Word.signedBound) (hnow : now.inRange = true)
    (he : e.inRange = true) : p.Fits e now := by
  have hnows := Instant.inRange_iff.mp hnow
  have hes := Instant.inRange_iff.mp he
  have hfirst := Instant.nanos_first
  have hlast := Instant.nanos_last
  have hbound : (Word.bound : Int) = 18446744073709551616 := rfl
  have hsigned : Word.signedBound = 9223372036854775808 := rfl
  simp only [Span.seconds] at hfallback hskew
  rw [Fits]
  omega

theorem millis_ttl (h : p.Fits e now) : ((p.ttl e now).millis : Int) =
    (max (max (e.nanos - now.nanos) p.fallback.nanos) 0 + p.skew.nanos) / 1000000 := by
  have httl := p.nanos_ttl e now
  have hmost : (Span.most.nanos : Int) = Word.bound * 1000000000 - 1 := rfl
  rw [Fits] at h
  rw [Span.millis, Int.natCast_ediv, httl, Int.min_eq_right (by omega)]
  rfl

/-- A key is to last as long as its mark, or for the longest time that a server can be told. -/
def ToldInFull (p : Retention) (e now : Instant) : Prop :=
  min (Word.signedBound - 1) (p.ttl e now).millis ≤ ttlMillis p e now

theorem told_iff : p.ToldInFull e now ↔ (p.ttl e now).millis < Word.bound ∨
    Word.signedBound - 1 ≤ (p.ttl e now).millis % Word.bound := by
  by_cases hlt : (p.ttl e now).millis < Word.bound
  · have hle : (p.ttl e now).millis ≤ max (p.ttl e now).millis 1 := Nat.le_max_left ..
    simp only [ToldInFull, ttlMillis_of_lt hlt, hlt, true_or, iff_true]
    omega
  · have hbound : Word.bound = 18446744073709551616 := rfl
    have hsigned : Word.signedBound = 9223372036854775808 := rfl
    simp only [ToldInFull, ttlMillis, hlt, false_or]
    omega

end Retention

namespace KeyedRegistry

variable {r : KeyedRegistry} {j : Jti} {e now u : Instant}

theorem sent_runScript (r : KeyedRegistry) (now : Instant) (script : Keyed.Script) (j : Jti)
    (ttl : Option Nat) : (r.runScript now script j ttl).2.server.sent =
      r.server.sent ++ [.run script (activeKey r.root j) (revokedKey r.root j) ttl] := by
  have hserver : (r.runScript now script j ttl).2.server = (r.server.execute now
      (.run script (activeKey r.root j) (revokedKey r.root j) ttl)).2 := by
    simp only [runScript]
    split <;> rfl
  rw [hserver]
  rcases hcanned : r.server.canned with - | ⟨- | reply, more⟩ <;>
    simp only [Keyed.Server.execute, hcanned]

/-- The server takes the key that marks an identifier as revoked from `now` on. -/
def TakesMark (r : KeyedRegistry) (now e : Instant) : Prop :=
  r.server.takes (millisecond now + ttlMillis r.retention e now) = true

instance (r : KeyedRegistry) (now e : Instant) : Decidable (r.TakesMark now e) :=
  inferInstanceAs (Decidable (_ = _))

theorem revoke_of_not_revoked (hcanned : r.server.canned = [])
    (hj : r.server.store.state r.root (millisecond now) j ≠ .revoked) (e : Instant) :
    let freed := (r.server.store.purge (millisecond now)).delete (activeKey r.root j)
    let marked := freed.set (revokedKey r.root j) (millisecond now + ttlMillis r.retention e now)
    ∃ sent, (r.TakesMark now e → (r.revoke now j e).2 = r.withStore marked sent) ∧
      (¬ r.TakesMark now e → r.revoke now j e = (.error .server, r.withStore freed sent)) := by
  obtain ⟨sent, hrun⟩ :=
    runScript_eq hcanned now .revoke j (some (ttlMillis r.retention e now))
  rw [Keyed.Store.run_revoke, Keyed.Store.state_purge _ _ (Int.le_refl _)] at hrun
  refine ⟨sent, fun htakes => ?_, fun htakes => ?_⟩ <;>
    simp only [TakesMark, Bool.not_eq_true] at htakes <;>
    simp only [Option.getD_some, htakes, if_true, Bool.false_eq_true, if_false] at hrun <;>
    rw [revoke, hrun]
  all_goals
    cases hs : r.server.store.state r.root (millisecond now) j with
    | revoked => exact absurd hs hj
    | active | unknown => rfl

section State

variable (hcanned : r.server.canned = []) (hj : (r.state now j).1 ≠ .ok .revoked)
include hcanned hj

/-- The mark of a revocation stands until the millisecond at which its key vanishes. -/
theorem state_revoke (htakes : r.TakesMark now e) (u : Instant) :
    ((r.revoke now j e).2.state u j).1 =
      .ok (if millisecond u < millisecond now + ttlMillis r.retention e now then .revoked
        else .unknown) := by
  rw [state_eq hcanned, ne_eq, Except.ok.injEq] at hj
  obtain ⟨sent, hrevoke, -⟩ := revoke_of_not_revoked hcanned hj e
  rw [hrevoke htakes, state_eq (r := r.withStore _ sent) hcanned]
  refine congrArg Except.ok (Keyed.Store.state_set_revoked.trans ?_)
  rw [if_pos rfl]

/-- A revocation that the server refuses leaves no mark, not even the active one. -/
theorem state_revoke_of_refused (htakes : ¬ r.TakesMark now e) (u : Instant) :
    (r.revoke now j e).1 = .error .server ∧
      ((r.revoke now j e).2.state u j).1 = .ok .unknown := by
  rw [state_eq hcanned, ne_eq, Except.ok.injEq] at hj
  obtain ⟨sent, -, hrevoke⟩ := revoke_of_not_revoked hcanned hj e
  rw [hrevoke htakes, state_eq (r := r.withStore _ sent) hcanned]
  have hrevoked : ∀ n, (r.server.store.purge (millisecond now)).has n (revokedKey r.root j) =
      false := by
    refine Keyed.Store.has_purge_of_not_has ?_
    by_contra hhas
    rw [Bool.not_eq_false, Keyed.Store.has_purge, Int.max_self] at hhas
    exact hj (if_pos hhas)
  exact ⟨rfl, congrArg Except.ok (Keyed.Store.state_delete_active (hrevoked _))⟩

end State

/-- What a revocation at `now` comes to that takes effect, for a token that expires at `e`. -/
structure MarkLasts (r : KeyedRegistry) (now : Instant) (j : Jti) (e : Instant) : Prop where
  /-- The whole milliseconds of the retention. -/
  wanted : ((r.retention.ttl e now).millis : Int) =
    (max (max (e.nanos - now.nanos) r.retention.fallback.nanos) 0 + r.retention.skew.nanos) /
      1000000
  revoking : (r.revoke now j e).2.server.sent = r.server.sent ++
    [.run .revoke (activeKey r.root j) (revokedKey r.root j) (some (ttlMillis r.retention e now))]
  /-- A call that recorded the identifier instead would be given no more and no less. -/
  recording : (r.record now j e).2.server.sent = r.server.sent ++
    [.run .record (activeKey r.root j) (revokedKey r.root j) (some (ttlMillis r.retention e now))]
  one_le : 1 ≤ ttlMillis r.retention e now
  /-- The server is told enough unless the retention does not fit a word, and what is left of it
  is less than a signed word can hold. -/
  told : r.retention.ToldInFull e now ↔ (r.retention.ttl e now).millis < Word.bound ∨
    Word.signedBound - 1 ≤ (r.retention.ttl e now).millis % Word.bound
  state (u : Instant) : r.TakesMark now e → ((r.revoke now j e).2.state u j).1 =
    .ok (if millisecond u < millisecond now + ttlMillis r.retention e now then .revoked
      else .unknown)
  refused (u : Instant) : ¬ r.TakesMark now e → (r.revoke now j e).1 = .error .server ∧
    ((r.revoke now j e).2.state u j).1 = .ok .unknown

theorem revoked_mark_lasts (hfallback : r.retention.fallback.seconds < Word.signedBound)
    (hskew : r.retention.skew.seconds < Word.signedBound) (hnow : now.inRange = true)
    (he : e.inRange = true) (hcanned : r.server.canned = [])
    (hj : (r.state now j).1 ≠ .ok .revoked) : r.MarkLasts now j e where
  wanted := Retention.millis_ttl (Retention.fits_of_lt hfallback hskew hnow he)
  revoking := r.sent_runScript now .revoke j _
  recording := r.sent_runScript now .record j _
  one_le := r.retention.one_le_ttlMillis e now
  told := Retention.told_iff
  state u htakes := state_revoke hcanned hj htakes u
  refused u htakes := state_revoke_of_refused hcanned hj htakes u

/-- The longest fallback of whole seconds whose key a server takes that counts its milliseconds in
signed words, at this time. -/
theorem longest_mark_lasts :
    let r : KeyedRegistry :=
      ⟨"mp", ⟨.ofSeconds 9223370336854775, .ofSeconds 0⟩, { selects := fun _ _ => true }⟩
    let now : Instant := .ofUnix 1700000000 0
    let e : Instant := .ofUnix 1700003600 0
    r.MarkLasts now ⟨"a"⟩ e ∧ r.retention.ToldInFull e now ∧
      ((r.revoke now ⟨"a"⟩ e).2.state Instant.last ⟨"a"⟩).1 = .ok .revoked := by
  intro r now e
  have hlasts : r.MarkLasts now ⟨"a"⟩ e :=
    revoked_mark_lasts (by decide) (by decide) (by decide) (by decide) rfl
      (by rw [state_eq rfl]; decide)
  refine ⟨hlasts, hlasts.told.mpr (.inl (by decide)), ?_⟩
  rw [hlasts.state .last (by decide)]
  decide

/-- With a fallback of little more than 2⁶⁴ milliseconds the mark is gone within a second, while
the registry of a single process still has it. -/
theorem mark_vanishes_early :
    let p : Retention := ⟨.ofSeconds 18446744073709552, .ofSeconds 0⟩
    let r : KeyedRegistry := ⟨"mp", p, { selects := fun _ _ => true }⟩
    let now : Instant := .ofUnix 1700000000 0
    let e : Instant := .ofUnix 1700003600 0
    let later : Instant := .ofUnix 1700000001 0
    p.fallback.seconds < Word.signedBound ∧ p.skew.seconds < Word.signedBound ∧
      ttlMillis p e now = 384 ∧ ¬ p.ToldInFull e now ∧
      ((r.revoke now ⟨"a"⟩ e).2.state later ⟨"a"⟩).1 = .ok .unknown ∧
      ((MemoryRegistry.empty p).revoke now ⟨"a"⟩ e).2.state later ⟨"a"⟩ = .revoked := by
  intro p r now e later
  refine ⟨by decide, by decide, by decide, ?_, ?_, by decide⟩
  · rw [Retention.told_iff]
    decide
  · rw [state_revoke rfl (by rw [state_eq rfl]; decide) (by decide) later]
    decide

end KeyedRegistry

end SessionTokens

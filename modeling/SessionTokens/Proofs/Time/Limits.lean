import SessionTokens.Proofs.Registry.Lifetime
import SessionTokens.Session.Issuer

/-! Sums of instants and spans at the limits of the calendar. The deadline of a record is the
exact sum, or the last instant if the sum lies beyond it; the expiry of a token is the second of
the exact sum, or an error. No sum comes out smaller because its parts are larger. -/

namespace SessionTokens

namespace Instant

variable {t u : Instant} {d : Span}

/-- The span is one that can be added, and leads from `t` to an instant of the calendar. -/
def Reaches (t : Instant) (d : Span) : Prop :=
  d.nanos ≤ Span.longest.nanos ∧ (Instant.mk (t.nanos + d.nanos)).inRange = true

theorem plus?_eq_some_iff : t.plus? d = some u ↔ t.Reaches d ∧ u.nanos = t.nanos + d.nanos := by
  constructor
  · intro h
    obtain ⟨hu, hrange⟩ := plus?_eq_some h
    refine ⟨⟨?_, ?_⟩, hu⟩
    · by_contra hlong
      simp [plus?, if_neg hlong] at h
    · rw [← hu]
      exact hrange
  · rintro ⟨⟨hspan, hrange⟩, hu⟩
    obtain rfl : u = ⟨t.nanos + d.nanos⟩ := by
      rw [← hu]
    rw [plus?, if_pos hspan]
    simp only [hrange, if_true]

/-- A second of the calendar, read as an instant, is the start of that second. -/
theorem ofSecondsOrFirst_unix (h : u.inRange = true) :
    (ofSecondsOrFirst u.unix).nanos = u.unix * 1000000000 := by
  obtain ⟨hfirst, hlast⟩ := inRange_iff.mp h
  refine nanos_ofSecondsOrFirst ?_ (unix_lt_endSecond hlast)
  simp only [first, ofUnix] at hfirst
  simp only [unix]
  omega

end Instant

namespace Retention

variable {p q : Retention} {e e' now now' : Instant}

theorem markEnd_mono (hfallback : p.fallback.nanos ≤ q.fallback.nanos)
    (hskew : p.skew.nanos ≤ q.skew.nanos) (he : e.nanos ≤ e'.nanos)
    (hnow : now.nanos ≤ now'.nanos) : p.markEnd e now ≤ q.markEnd e' now' := by
  simp only [markEnd]
  omega

theorem le_markEnd (hnow : now.nanos ≤ Instant.last.nanos) : now.nanos ≤ p.markEnd e now := by
  simp only [markEnd]
  omega

theorem skewed_le_markEnd (p : Retention) (e now : Instant) :
    min (e.nanos + p.skew.nanos) Instant.last.nanos ≤ p.markEnd e now := by
  simp only [markEnd]
  omega

/-- The deadline of a record that is made at `now` for a token that expires at `e`. -/
structure DeadlineExact (p : Retention) (e now : Instant) : Prop where
  exact : (p.deadline e now).nanos = min Instant.last.nanos
    (now.nanos + max (max (e.nanos - now.nanos) p.fallback.nanos) 0 + p.skew.nanos)
  now_le : now.nanos ≤ (p.deadline e now).nanos
  skewed_le : min (e.nanos + p.skew.nanos) Instant.last.nanos ≤ (p.deadline e now).nanos
  /-- Whatever is longer or later makes for no earlier deadline. -/
  mono {q : Retention} {e' now' : Instant} : p.fallback.nanos ≤ q.fallback.nanos →
    p.skew.nanos ≤ q.skew.nanos → e.nanos ≤ e'.nanos → now.nanos ≤ now'.nanos →
    now'.inRange = true → (p.deadline e now).nanos ≤ (q.deadline e' now').nanos

theorem deadline_exact (p : Retention) (e : Instant) (hnow : now.inRange = true) :
    p.DeadlineExact e now := by
  have hdeadline : (p.deadline e now).nanos = p.markEnd e now := p.nanos_deadline hnow
  refine ⟨hdeadline, ?_, ?_, ?_⟩
  · rw [hdeadline]
    exact le_markEnd (Instant.inRange_iff.mp hnow).2
  · rw [hdeadline]
    exact p.skewed_le_markEnd e now
  · intro q e' now' hfallback hskew he hlater hnow'
    rw [hdeadline, q.nanos_deadline hnow']
    exact markEnd_mono hfallback hskew he hlater

end Retention

namespace Issuer

/-- The second at which a token expires that is made at `now` and lasts for `ttl`. -/
structure ExpiryExact (now : Instant) (ttl : Span) : Prop where
  second (s : Int) : (expiry now ttl).run = .done (.ok s) ↔
    now.Reaches ttl ∧ s = (now.nanos + ttl.nanos) / 1000000000
  refused : (expiry now ttl).run = .done (.error (.internal (.ttlOutOfRange ttl))) ↔
    ¬ now.Reaches ttl
  /-- The second, read again, is the instant at which the token ends, less what is left of that
  second. -/
  readBack {s : Int} : (expiry now ttl).run = .done (.ok s) →
    (Instant.ofSecondsOrFirst s).nanos = s * 1000000000 ∧
      s * 1000000000 ≤ now.nanos + ttl.nanos ∧ now.nanos + ttl.nanos < (s + 1) * 1000000000

theorem expiry_exact (now : Instant) (ttl : Span) : ExpiryExact now ttl := by
  cases hplus : now.plus? ttl with
  | some u =>
    obtain ⟨hreaches, hu⟩ := Instant.plus?_eq_some_iff.mp hplus
    have hrun : (expiry now ttl).run = .done (.ok u.unix) := by
      rw [expiry, hplus]
      rfl
    have hunix : u.unix = (now.nanos + ttl.nanos) / 1000000000 := by rw [Instant.unix, hu]
    have hsame {s : Int} (hs : (expiry now ttl).run = .done (.ok s)) : u.unix = s :=
      Except.ok.inj (Program.done.inj (hrun.symm.trans hs))
    refine ⟨fun s => ⟨fun hs => ⟨hreaches, hsame hs ▸ hunix⟩, ?_⟩, ?_, fun hs => ?_⟩
    · rintro ⟨-, rfl⟩
      rw [hrun, hunix]
    · refine iff_of_false (fun he => ?_) (not_not_intro hreaches)
      simp [hrun] at he
    · rw [← hsame hs, Instant.ofSecondsOrFirst_unix (Instant.plus?_eq_some hplus).2, hunix]
      omega
  | none =>
    have hout : ¬ now.Reaches ttl := by
      intro hreaches
      have hsome : now.plus? ttl = some ⟨now.nanos + ttl.nanos⟩ :=
        Instant.plus?_eq_some_iff.mpr ⟨hreaches, rfl⟩
      simp [hplus] at hsome
    have hrun : (expiry now ttl).run = .done (.error (.internal (.ttlOutOfRange ttl))) := by
      rw [expiry, hplus]
      rfl
    have hnone {s : Int} : (expiry now ttl).run ≠ .done (.ok s) := by
      intro hs
      simp [hrun] at hs
    exact ⟨fun s => iff_of_false hnone fun h => hout h.1, iff_of_true hrun hout,
      fun hs => absurd hs hnone⟩

end Issuer

/-- Deadlines saturate and expiries are exact, at every instant of the calendar and for spans of
any length. -/
theorem sums_never_wrap (p : Retention) (e : Instant) (ttl : Span) {now : Instant}
    (hnow : now.inRange = true) : p.DeadlineExact e now ∧ Issuer.ExpiryExact now ttl :=
  ⟨p.deadline_exact e hnow, Issuer.expiry_exact now ttl⟩

/-- A fallback of 2⁶³ - 1 seconds ends with the calendar, from whose first instant on a token can
last to its last second but not a nanosecond longer than the calendar. -/
theorem sums_never_wrap_at_ends :
    let p : Retention := ⟨.ofSeconds (Word.signedBound - 1), .ofSeconds (Word.signedBound - 1)⟩
    let calendar : Nat := 16544868105599999999999
    p.DeadlineExact .last .first ∧ p.deadline .last .first = .last ∧
      (Issuer.expiry .first ⟨calendar⟩).run = .done (.ok (Instant.endSecond - 1)) ∧
      (Issuer.expiry .first ⟨calendar + 1⟩).run =
        .done (.error (.internal (.ttlOutOfRange ⟨calendar + 1⟩))) := by
  intro p calendar
  have hfirst : Instant.first.inRange = true := by decide
  obtain ⟨hdeadline, hexpiry⟩ := sums_never_wrap p .last ⟨calendar⟩ hfirst
  obtain ⟨-, hlonger⟩ := sums_never_wrap p .last ⟨calendar + 1⟩ hfirst
  refine ⟨hdeadline, by decide, (hexpiry.second _).mpr ?_, hlonger.refused.mpr ?_⟩
  · exact ⟨⟨by decide, by decide⟩, by decide⟩
  · exact fun hreaches => absurd hreaches.2 (by decide)

end SessionTokens

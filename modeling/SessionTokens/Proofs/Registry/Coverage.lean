import SessionTokens.Proofs.Registry.Interchange
import SessionTokens.Proofs.Token.Window

/-! Whether a registry still knows a token that a codec accepts. A token passes to the end of the
second in which the leeway after its expiry runs out, while its record is sure to last only to the
instant at which the skew does, so that the skew has to be longer by a second. -/

namespace SessionTokens

namespace Instant

theorem unix_le_iff {t : Instant} {s : Int} : t.unix ≤ s ↔ t.nanos < (s + 1) * 1000000000 := by
  simp only [unix]
  omega

theorem nanos_ofSecondsOrFirst {s : Int} (hfirst : firstSecond ≤ s) (hend : s < endSecond) :
    (ofSecondsOrFirst s).nanos = s * 1000000000 := by
  simp [ofSecondsOrFirst, ofUnix, hfirst, hend]

end Instant

namespace Retention

/-- At `u` a record is still kept, whenever it was made, of a token that expires at
`expiresAt`. -/
def Remembers (p : Retention) (expiresAt u : Instant) : Prop :=
  u.nanos < expiresAt.nanos + p.skew.nanos ∧ u.nanos < Instant.last.nanos

variable {p : Retention} {expiresAt now u : Instant}

theorem timeTo_add_skew_le (p : Retention) (expiresAt now : Instant) :
    min ((now.timeTo expiresAt).nanos + p.skew.nanos) Span.most.nanos ≤
      (p.ttl expiresAt now).nanos := by
  rw [nanos_ttl_eq_min]
  omega

theorem ttl_of_fallback_le (h : p.fallback.nanos ≤ (now.timeTo expiresAt).nanos)
    (hfits : (now.timeTo expiresAt).nanos + p.skew.nanos ≤ Span.most.nanos) :
    (p.ttl expiresAt now).nanos = (now.timeTo expiresAt).nanos + p.skew.nanos := by
  rw [nanos_ttl_eq_min]
  omega

theorem Remembers.live_record (h : p.Remembers expiresAt u) (mark : Mark) (now : Instant) :
    (p.record mark expiresAt now).live u = true := by
  obtain ⟨hskew, hlast⟩ := h
  refine decide_eq_true ?_
  simp only [record, deadline, Instant.plusClamped]
  cases hplus : now.plus? (p.ttl expiresAt now) with
  | none => exact hlast
  | some end_ =>
    have hend := (Instant.plus?_eq_some hplus).1
    have hle := Instant.le_longest_of_plus? hplus
    have hlong := p.timeTo_add_skew_le expiresAt now
    have hmost : Span.longest.nanos < Span.most.nanos := by decide
    simp only [Instant.timeTo] at hlong
    simp only [Option.getD_some]
    omega

end Retention

namespace MemoryRegistry

variable {m m' : MemoryRegistry} {j : Jti} {now t u expiresAt : Instant} {mark : Mark}
  {p : Retention}

/-- A call at `t` that newly marks an identifier. -/
inductive Marks (m : MemoryRegistry) (t : Instant) (j : Jti) (expiresAt : Instant) :
    Mark → MemoryRegistry → Prop
  | active : m.state t j ≠ .revoked → Marks m t j expiresAt .active (m.record t j expiresAt)
  | revoked : (m.revoke t j expiresAt).1 ≠ .alreadyRevoked →
    Marks m t j expiresAt .revoked (m.revoke t j expiresAt).2

theorem Marks.eq_put (h : m.Marks t j expiresAt mark m') :
    m' = m.put j (m.retention.record mark expiresAt t) := by
  cases h with
  | active hs =>
    unfold record
    split
    · contradiction
    · rfl
  | revoked ho =>
    simp only [revoke] at ho ⊢
    split at ho
    · contradiction
    all_goals rfl

theorem Marks.state (h : m.Marks t j expiresAt mark m')
    (hu : m.retention.Remembers expiresAt u) : m'.state u j = mark.state := by
  rw [h.eq_put, state_put_at, if_pos rfl, if_pos (hu.live_record mark t)]
  rfl

theorem Marks.retention (h : m.Marks t j expiresAt mark m') : m'.retention = m.retention := by
  rw [h.eq_put]
  rfl

/-- The registry may come to be `m'` by calls that are made until `u` and do not change what is on
record of `j`, except that they may record it again with the same expiry. -/
inductive Leaves (j : Jti) (expiresAt u : Instant) (m : MemoryRegistry) :
    MemoryRegistry → Prop
  | refl : Leaves j expiresAt u m m
  | call {m' : MemoryRegistry} {now : Instant} {c : RegistryCall} :
    Leaves j expiresAt u m m' → now.nanos ≤ u.nanos →
    (c.jti? = some j → c = .record j expiresAt ∨ (m'.call now c).2.get? j = m'.get? j) →
    Leaves j expiresAt u m (m'.call now c).2

theorem live?_of_state (h : m.state u j = mark.state) :
    ∃ r, m.live? u j = some r ∧ r.mark = mark := by
  cases mark with
  | active => exact state_eq_active.mp h
  | revoked => exact state_eq_revoked.mp h

theorem state_record_of_remembered (hnow : now.nanos ≤ u.nanos)
    (hu : m.retention.Remembers expiresAt u) (h : m.state u j = mark.state) :
    (m.record now j expiresAt).state u j = mark.state := by
  obtain ⟨r, hr, hmark⟩ := live?_of_state h
  have hlive := live?_of_later hnow hr
  cases mark with
  | active =>
    have hactive : m.state now j = .active := state_eq_active.mpr ⟨r, hlive, hmark⟩
    have hne : m.state now j ≠ .revoked := by simp [hactive]
    exact (Marks.active hne).state hu
  | revoked =>
    have hrevoked : m.state now j = .revoked := state_eq_revoked.mpr ⟨r, hlive, hmark⟩
    rw [record, hrevoked]
    exact h

theorem state_call_of_remembered (hnow : now.nanos ≤ u.nanos)
    (hu : m.retention.Remembers expiresAt u) (h : m.state u j = mark.state) {c : RegistryCall}
    (hc : c.jti? = some j → c = .record j expiresAt ∨ (m.call now c).2.get? j = m.get? j) :
    (m.call now c).2.state u j = mark.state := by
  by_cases hj : c.jti? = some j
  · rcases hc hj with rfl | hget
    · exact state_record_of_remembered hnow hu h
    · have hlive : (m.call now c).2.live? u j = m.live? u j := by simp only [live?, hget]
      rw [state_congr hlive, h]
  · have hother : ∀ mark', c.marking? ≠ some (j, mark') := by
      intro mark' hmark
      cases c with
      | record k e | revoke k e =>
        obtain ⟨rfl, -⟩ := Prod.mk.inj (Option.some.inj hmark)
        exact hj rfl
      | state k | stats => simp [RegistryCall.marking?] at hmark
    rw [state_congr (live?_call hnow hother), h]

theorem Leaves.state (h : m.Leaves j expiresAt u m')
    (hu : m.retention.Remembers expiresAt u) (hm : m.state u j = mark.state) :
    m'.state u j = mark.state := by
  have hrun : m'.retention = m.retention ∧ m'.state u j = mark.state := by
    induction h with
    | refl => exact ⟨rfl, hm⟩
    | call _ hnow hc ih =>
      obtain ⟨hretention, hstate⟩ := ih
      exact ⟨(retention_call ..).trans hretention,
        state_call_of_remembered hnow (hretention.symm ▸ hu) hstate hc⟩
  exact hrun.2

/-- From `now` on the registry says of `j` what it was marked as, as long as tokens are remembered
that expire at `expiresAt`. -/
def Knows (m : MemoryRegistry) (p : Retention) (j : Jti) (expiresAt : Instant) (mark : Mark)
    (now : Instant) : Prop :=
  m.retention = p ∧
    ∀ u : Instant, now.nanos ≤ u.nanos → p.Remembers expiresAt u → m.state u j = mark.state

theorem Marks.knows (h : m.Marks t j expiresAt mark m') (now : Instant) :
    m'.Knows m.retention j expiresAt mark now :=
  ⟨h.retention, fun _ _ hu => h.state hu⟩

theorem Knows.later (h : m.Knows p j expiresAt mark now) (ht : now.nanos ≤ t.nanos) :
    m.Knows p j expiresAt mark t :=
  ⟨h.1, fun u hu => h.2 u (Int.le_trans ht hu)⟩

theorem Knows.call (h : m.Knows p j expiresAt mark now) {c : RegistryCall}
    (hc : mark = .revoked ∨ (c.jti? = some j → c = .record j expiresAt ∨ c = .state j)) :
    (m.call now c).2.Knows p j expiresAt mark now := by
  obtain ⟨rfl, hstate⟩ := h
  refine ⟨retention_call .., fun u hnow hu => ?_⟩
  rcases hc with rfl | hc
  · exact state_call_of_revoked hnow (hstate u hnow hu) c
  · refine state_call_of_remembered hnow hu (hstate u hnow hu) fun hj => ?_
    rcases hc hj with rfl | rfl
    · exact .inl rfl
    · exact .inr rfl

end MemoryRegistry

namespace Codec

variable {k : TokenKind} {claims : Claims k} {c : Codec} {p : Retention} {u : Instant}
  {token : String} {skew : Nat}

theorem remembers_of_inTime (hskew : p.skew = .ofSeconds skew) (hle : skew ≤ 1000000000)
    (hlt : c.leeway < skew) (h : c.InTime k u.unix token claims)
    (hexp : claims.expiresAt ≤ 1000000000000) : p.Remembers claims.expiry u := by
  have hnonneg := h.nonneg
  have hunix := Instant.unix_le_iff.mp h.le
  have hexpiry : claims.expiry.nanos = claims.expiresAt * 1000000000 := by
    refine Instant.nanos_ofSecondsOrFirst ?_ ?_
    · simp only [Instant.firstSecond]
      omega
    · simp only [Instant.endSecond]
      omega
  constructor
  · simp only [hexpiry, hskew, Span.ofSeconds]
    omega
  · simp only [Instant.last, Instant.endSecond]
    omega

end Codec

/-- For every token that the codec accepts at `u`, and that expires by the end of the calendar's
first 10¹² seconds, the registry reports at `u` what it was marked as at any time `t` before, if
nothing has changed its record since. -/
def Retention.Covers (p : Retention) (c : Codec) : Prop :=
  ∀ (k : TokenKind) (token : String) (claims : Claims k) (mark : Mark) (m m' m'' : MemoryRegistry)
    (t u : Instant), 0 ≤ claims.expiresAt → claims.expiresAt ≤ 1000000000000 →
    m.retention = p → t.inRange = true → m.Marks t claims.jti claims.expiry mark m' →
    t.nanos ≤ u.nanos → m'.Leaves claims.jti claims.expiry u m'' →
    c.parse k u.unix token = .ok claims → m''.state u claims.jti = mark.state

namespace Retention

variable {fallback skew : Nat} {c : Codec}

theorem covers_of_lt (hskew : skew ≤ 1000000000) (hlt : c.leeway < skew) :
    (⟨.ofSeconds fallback, .ofSeconds skew⟩ : Retention).Covers c := by
  intro k token claims mark m m' m'' t u _ hexp hm _ hmarks _ hleaves hparse
  have hremembers : m.retention.Remembers claims.expiry u :=
    Codec.remembers_of_inTime (by rw [hm]) hskew hlt (Codec.inTime_of_parse hparse) hexp
  exact hleaves.state (hmarks.retention.symm ▸ hremembers) (hmarks.state hremembers)

/-- A token that was recorded so early that the fallback does not matter passes at the instant at
which its record is dead. -/
theorem not_covers_of_le (hfallback : fallback ≤ 1000000000) (hskew : skew ≤ 1000000000)
    (hleeway : c.leeway ≤ 1000000000) (hle : skew ≤ c.leeway) :
    ¬ (⟨.ofSeconds fallback, .ofSeconds skew⟩ : Retention).Covers c := by
  intro hcovers
  let p : Retention := ⟨.ofSeconds fallback, .ofSeconds skew⟩
  let claims : ConnectionClaims := ⟨default, (), ⟨""⟩, 0, 1000000000⟩
  let u : Instant := ⟨(1000000000 + skew) * 1000000000⟩
  have hexpiry : claims.expiry.nanos = 1000000000 * 1000000000 := rfl
  have hunix : u.unix = 1000000000 + skew := Int.mul_ediv_cancel _ (by decide)
  have hmarks : (MemoryRegistry.empty p).Marks ⟨0⟩ claims.jti claims.expiry .active _ :=
    .active fun h => JtiState.noConfusion h
  have httl : (p.ttl claims.expiry ⟨0⟩).nanos = (1000000000 + skew) * 1000000000 := by
    have hmost := Span.nanos_most
    rw [p.ttl_of_fallback_le]
    all_goals
      simp only [p, Instant.timeTo, hexpiry, Span.ofSeconds]
      omega
  have hend : (Instant.mk 0).plus? (p.ttl claims.expiry ⟨0⟩) = some u := by
    have hlongest : (p.ttl claims.expiry ⟨0⟩).nanos ≤ Span.longest.nanos := by
      simp only [httl, Span.longest, Span.ofMillis, Word.signedBound]
      omega
    have hu : (⟨0 + (p.ttl claims.expiry ⟨0⟩).nanos⟩ : Instant) = u := by
      simp only [u, httl, Instant.mk.injEq]
      omega
    have hrange : u.inRange = true := by
      have hbounds : Instant.first.nanos ≤ u.nanos ∧ u.nanos ≤ Instant.last.nanos := by
        simp only [u, Instant.first, Instant.last, Instant.ofUnix, Instant.firstSecond,
          Instant.endSecond]
        omega
      exact Instant.inRange_iff.mpr hbounds
    rw [Instant.plus?, if_pos hlongest]
    simp only [hu, hrange, if_true]
  have hdead : (p.record .active claims.expiry ⟨0⟩).live u = false := by
    refine decide_eq_false ?_
    simp only [record, deadline, Instant.plusClamped, hend, Option.getD_some]
    exact Int.lt_irrefl _
  have hparse : c.parse .deviceConnection u.unix (c.sign claims) = .ok claims := by
    have hlate : u.unix + c.leeway < Word.signedBound := by
      have hbound : Word.signedBound = 9223372036854775808 := rfl
      omega
    have hexp : claims.expiresAt = 1000000000 := rfl
    have hissued : claims.issuedAt = 0 := rfl
    exact Codec.read_of_times (Codec.authentic_sign c claims rfl rfl) (by omega) hlate (by omega)
      (by omega) (by omega)
  have hstate := hcovers .deviceConnection (c.sign claims) claims .active (.empty p) _ _ ⟨0⟩ u
    (by decide) (by decide) rfl (by decide) hmarks (by simp only [u]; omega) .refl hparse
  have hunknown : ((MemoryRegistry.empty p).put claims.jti
      (p.record .active claims.expiry ⟨0⟩)).state u claims.jti = .unknown := by
    simp [MemoryRegistry.state_put_at, hdead]
  rw [hmarks.eq_put] at hstate
  exact absurd (hunknown.symm.trans hstate) (by decide)

theorem covers_iff (hfallback : fallback ≤ 1000000000) (hskew : skew ≤ 1000000000)
    (hleeway : c.leeway ≤ 1000000000) :
    (⟨.ofSeconds fallback, .ofSeconds skew⟩ : Retention).Covers c ↔ c.leeway < skew := by
  constructor
  · intro hcovers
    by_contra hnot
    exact not_covers_of_le hfallback hskew hleeway (Nat.le_of_not_lt hnot) hcovers
  · exact covers_of_lt hskew

end Retention

end SessionTokens

import SessionTokens.Proofs.Host.Progress
import SessionTokens.Proofs.Session.Pairing

/-! The two places where expiry is looked at. The strict reading of a token does it among its other
checks, on seconds without a sign; a device's refresh token is read first and looked at afterwards,
on seconds with a sign. Both draw the line at the same second, as long as neither the difference
of time and leeway nor their sum leaves its word. -/

namespace SessionTokens

namespace Codec

variable {c : Codec} {k : TokenKind} {now : Int} {token : String} {claims : Claims k}

/-- An authentic token that is too old for the strict reading, whatever else is wrong with it. -/
def Overdue (c : Codec) (k : TokenKind) (now : Int) (token : String) : Prop :=
  ∃ claims audience, c.authentic k token = .ok (claims, audience) ∧ 0 ≤ claims.expiresAt ∧
    c.outdated now claims.expiresAt = true

theorem parse_of_overdue (h : c.Overdue k now token) : c.parse k now token = .error .expired := by
  obtain ⟨claims, audience, ha, hstart, hlate⟩ := h
  rw [parse, read, ha]
  dsimp only
  rw [if_neg (by omega), Bool.true_and, if_pos hlate]

/-- Apart from expiry the two readings of a token are the same. -/
theorem parse_of_not_overdue (h : ¬ c.Overdue k now token) :
    c.parse k now token = c.parseAllowExpired k now token := by
  rw [parse, parseAllowExpired, read, read]
  cases ha : c.authentic k token with
  | error d => rfl
  | ok x =>
    obtain ⟨claims, audience⟩ := x
    by_cases hstart : claims.expiresAt < 0
    · simp only [if_pos hstart]
    · have hlive : c.outdated now claims.expiresAt = false := by
        rw [Bool.eq_false_iff]
        exact fun hlate => h ⟨claims, audience, ha, by omega, hlate⟩
      simp only [hlive, Bool.and_false]

theorem parse_of_parseAllowExpired (hstart : (c.leeway : Int) ≤ now)
    (hend : now + c.leeway < Word.signedBound)
    (h : c.parseAllowExpired k now token = .ok claims) :
    c.parse k now token = (c.checkExpiry now claims).map fun _ => claims := by
  cases hexpired : c.expired now claims.expiresAt with
  | true =>
    have hlate : c.outdated now claims.expiresAt = true := by
      rw [← expired_eq_outdated hstart hend, hexpired]
    have hoverdue : c.Overdue k now token :=
      ⟨claims, false, authentic_of_parseAllowExpired h, (read_eq_ok.mp h).2.1, hlate⟩
    rw [parse_of_overdue hoverdue, checkExpiry, if_pos hexpired]
    rfl
  | false =>
    have hlive : c.checkExpiry now claims = .ok () := checkExpiry_eq_ok.mpr hexpired
    rw [(parse_eq_ok hstart hend).mpr ⟨h, hlive⟩, hlive]
    rfl

end Codec

namespace Device

variable {i : Issuer} {connection refresh : String} {s : Scope} {h : Host} {c : ConnectionClaims}
  {r : DeviceRefreshClaims}

section Bounds

variable (hstart : (i.codec.leeway : Int) ≤ h.clock.unix)
  (hend : h.clock.unix + i.codec.leeway < Word.signedBound)
include hstart hend

/-- Of two readable tokens of one device the refresh token is taken, or refused, as the strict
reading does it. -/
theorem run_parsePair_of_reads
    (hread : Reads i.codec h.clock.unix connection refresh c r) (hs : c.subject = r.subject) :
    (Program.run (parsePair i connection refresh).run s h).1 =
      ((i.codec.parse .deviceRefresh h.clock.unix refresh).mapError .ofCodec).map (c, ·) := by
  rw [run_parsePair_of_same hread hs,
    Codec.parse_of_parseAllowExpired hstart hend hread.refresh]
  cases i.codec.checkExpiry h.clock.unix r <;> rfl

/-- A pair is taken if its connection token can be read, its refresh token passes the strict
reading and both are about one device. -/
theorem run_parsePair_eq_ok :
    (Program.run (parsePair i connection refresh).run s h).1 = .ok (c, r) ↔
      i.codec.parseAllowExpired .deviceConnection h.clock.unix connection = .ok c ∧
        i.codec.parse .deviceRefresh h.clock.unix refresh = .ok r ∧ c.subject = r.subject := by
  constructor
  · intro hok
    by_cases hread : ∃ p : ConnectionClaims × DeviceRefreshClaims,
        Reads i.codec h.clock.unix connection refresh p.1 p.2
    · obtain ⟨⟨c', r'⟩, hread⟩ := hread
      by_cases hs : c'.subject = r'.subject
      · rw [run_parsePair_of_reads hstart hend hread hs] at hok
        cases hr : i.codec.parse .deviceRefresh h.clock.unix refresh with
        | error e => rw [hr] at hok; exact nomatch hok
        | ok r'' =>
          rw [hr] at hok
          obtain ⟨rfl, rfl⟩ := Prod.mk.inj (Except.ok.inj hok)
          have hsame := hread.refresh.symm.trans ((Codec.parse_eq_ok hstart hend).mp hr).1
          exact ⟨hread.connection, rfl, hs.trans (congrArg _ (Except.ok.inj hsame))⟩
      · rw [run_parsePair_of_mismatch hread hs] at hok
        exact nomatch hok
    · have hno : ∀ c r, ¬ Reads i.codec h.clock.unix connection refresh c r :=
        fun c r hcr => hread ⟨(c, r), hcr⟩
      obtain ⟨e, hpair⟩ := run_parsePair_of_not_reads (s := s) hno
      rw [hpair] at hok
      exact nomatch hok
  · rintro ⟨hc, hr, hs⟩
    have hread : Reads i.codec h.clock.unix connection refresh c r :=
      ⟨hc, ((Codec.parse_eq_ok hstart hend).mp hr).1⟩
    rw [run_parsePair_of_reads hstart hend hread hs, hr]
    rfl

end Bounds

end Device

/-- The strict reading of a token is the lax one and a look at the expiry, for any kind, text and
time at which no sum leaves its word. So a device's pair is read as its refresh token is by the
strict reading. -/
theorem expiry_line_same (i : Issuer) :
    (∀ (k : TokenKind) (now : Int) (token : String),
      (i.codec.leeway : Int) ≤ now → now + i.codec.leeway < Word.signedBound →
      (∀ claims, i.codec.parse k now token = .ok claims ↔
        i.codec.parseAllowExpired k now token = .ok claims ∧
          i.codec.checkExpiry now claims = .ok ()) ∧
      (∀ claims, i.codec.parseAllowExpired k now token = .ok claims →
        i.codec.checkExpiry now claims = .error .expired →
        i.codec.parse k now token = .error .expired) ∧
      ∀ e, i.codec.parseAllowExpired k now token = .error e →
        i.codec.parse k now token = .error e ∨ i.codec.parse k now token = .error .expired) ∧
    ∀ (connection refresh : String) (s : Scope) (h : Host) (c : ConnectionClaims),
      (i.codec.leeway : Int) ≤ h.clock.unix → h.clock.unix + i.codec.leeway < Word.signedBound →
      (∀ r, (Program.run (Device.parsePair i connection refresh).run s h).1 = .ok (c, r) ↔
        i.codec.parseAllowExpired .deviceConnection h.clock.unix connection = .ok c ∧
          i.codec.parse .deviceRefresh h.clock.unix refresh = .ok r ∧ c.subject = r.subject) ∧
      ∀ r, Device.Reads i.codec h.clock.unix connection refresh c r → c.subject = r.subject →
        (Program.run (Device.parsePair i connection refresh).run s h).1 =
          ((i.codec.parse .deviceRefresh h.clock.unix refresh).mapError .ofCodec).map (c, ·) := by
  constructor
  · intro k now token hstart hend
    refine ⟨fun _ => Codec.parse_eq_ok hstart hend, fun claims h hexpired => ?_, fun e h => ?_⟩
    · rw [Codec.parse_of_parseAllowExpired hstart hend h, hexpired]
      rfl
    · by_cases hlate : i.codec.Overdue k now token
      · exact .inr (Codec.parse_of_overdue hlate)
      · exact .inl (by rw [Codec.parse_of_not_overdue hlate, h])
  · intro connection refresh s h c hstart hend
    exact ⟨fun _ => Device.run_parsePair_eq_ok hstart hend,
      fun _ hread hs => Device.run_parsePair_of_reads hstart hend hread hs⟩

/-- The last second of a refresh token, and the next one. -/
theorem refresh_refused_after_leeway :
    let i : Issuer := ⟨⟨⟨[1], [2], [3], [4]⟩, 5⟩, .ofSeconds 10, .ofSeconds 95⟩
    let c : ConnectionClaims := ⟨default, (), ⟨"a"⟩, 0, 10⟩
    let r : DeviceRefreshClaims := ⟨default, (), ⟨"b"⟩, 0, 95⟩
    let pair := (Device.parsePair i (i.codec.sign c) (i.codec.sign r)).run
    let host := fun second : Int => Host.fresh ⟨second * 1000000000⟩ ⟨.ofSeconds 60, .ofSeconds 0⟩
    (pair.run .patient (host 100)).1 = .ok (c, r) ∧
      (pair.run .patient (host 101)).1 = .error .expiredToken ∧
      i.codec.parse .deviceRefresh 101 (i.codec.sign r) = .error .expired := by
  intro i c r pair host
  have hc : ∀ now : Int, i.codec.issuedAhead now 0 = false →
      i.codec.parseAllowExpired .deviceConnection now (i.codec.sign c) = .ok c := fun now h =>
    Codec.read_eq_ok.mpr ⟨Codec.authentic_sign _ c (by decide) (by decide), by decide, rfl, h⟩
  have hr : ∀ now : Int, i.codec.issuedAhead now 0 = false →
      i.codec.parseAllowExpired .deviceRefresh now (i.codec.sign r) = .ok r := fun now h =>
    Codec.read_eq_ok.mpr ⟨Codec.authentic_sign _ r (by decide) (by decide), by decide, rfl, h⟩
  obtain ⟨hread, hpair⟩ := expiry_line_same i
  have hin : i.codec.parse .deviceRefresh 100 (i.codec.sign r) = .ok r :=
    ((hread _ _ _ (by decide) (by decide)).1 r).mpr ⟨hr 100 (by decide), by decide⟩
  have hout : i.codec.parse .deviceRefresh 101 (i.codec.sign r) = .error .expired :=
    (hread _ _ _ (by decide) (by decide)).2.1 r (hr 101 (by decide)) (by decide)
  refine ⟨?_, ?_, hout⟩
  · exact ((hpair _ _ .patient (host 100) c (by decide) (by decide)).1 r).mpr
      ⟨hc 100 (by decide), hin, rfl⟩
  · have hlate : i.codec.parse .deviceRefresh (host 101).clock.unix (i.codec.sign r) =
        .error .expired := hout
    have hrefused := (hpair _ _ .patient (host 101) c (by decide) (by decide)).2 r
      ⟨hc 101 (by decide), hr 101 (by decide)⟩ rfl
    rw [hlate] at hrefused
    exact hrefused

end SessionTokens

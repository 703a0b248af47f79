import SessionTokens.Proofs.Token.RoundTrip

/-! The window in which a signed token is accepted. Outside it the claims are refused as expired or
as malformed, and which of the two it is depends on their times alone. -/

namespace SessionTokens.Codec

variable {k : TokenKind}

/-- Expiry is looked at before the time of issue. -/
theorem read_sign (c : Codec) (claims : Claims k) (strict : Bool) (now : Int)
    (hi : Word.isSigned claims.issuedAt = true) (he : Word.isSigned claims.expiresAt = true) :
    c.read k strict now (c.sign claims) =
      if claims.expiresAt < 0 then .error (.malformed .missingExpiry)
      else if strict = true ∧ c.outdated now claims.expiresAt = true then .error .expired
      else if c.issuedAhead now claims.issuedAt = true then .error (.malformed .issuedInFuture)
      else .ok claims := by
  have ha := authentic_sign c claims hi he
  simp [read, ha]

/-- What a codec signs it reads back: as long as it has not expired and was not issued in the
future, both up to the leeway, the ends included. -/
theorem parse_sign_iff (c : Codec) (claims : Claims k) (now : Int)
    (hi : Word.isSigned claims.issuedAt = true) (he : Word.isSigned claims.expiresAt = true)
    (hstart : (c.leeway : Int) ≤ now) (hend : now + c.leeway < Word.signedBound) :
    (c.parse k now (c.sign claims) = .ok claims ↔
        0 ≤ claims.expiresAt ∧ now - c.leeway ≤ claims.expiresAt ∧
          claims.issuedAt ≤ now + c.leeway) ∧
      (c.parse k now (c.sign claims) = .error .expired ↔
        0 ≤ claims.expiresAt ∧ claims.expiresAt < now - c.leeway) ∧
      ((∃ d, c.parse k now (c.sign claims) = .error (.malformed d)) ↔
        claims.expiresAt < 0 ∨
          now - c.leeway ≤ claims.expiresAt ∧ now + c.leeway < claims.issuedAt) ∧
      (c.parseAllowExpired k now (c.sign claims) = .ok claims ↔
        0 ≤ claims.expiresAt ∧ claims.issuedAt ≤ now + c.leeway) ∧
      ((∃ d, c.parseAllowExpired k now (c.sign claims) = .error (.malformed d)) ↔
        claims.expiresAt < 0 ∨ now + c.leeway < claims.issuedAt) := by
  have hstrict := read_sign c claims true now hi he
  have hlax := read_sign c claims false now hi he
  simp only [outdated_iff hstart, issuedAhead_iff (c := c) (by omega) hend] at hstrict hlax
  rw [parse, parseAllowExpired, hstrict, hlax]
  by_cases hneg : claims.expiresAt < 0
  · have hno : ¬ 0 ≤ claims.expiresAt := by omega
    simp [hneg, hno]
  · by_cases hpast : claims.expiresAt + c.leeway < now <;>
      by_cases hahead : now + c.leeway < claims.issuedAt <;>
      simp [hneg, hpast, hahead] <;> omega

/-- At both ends of the window, and one second later. -/
theorem accepted_at_ends :
    let c : Codec := ⟨⟨[1], [2], [3], [4]⟩, 5⟩
    let claims : AccessClaims := ⟨default, ["viewer", "\"\\\n"], ⟨"\u2603"⟩, 105, 95⟩
    (Word.isSigned claims.issuedAt = true ∧ Word.isSigned claims.expiresAt = true ∧
        (c.leeway : Int) ≤ 100 ∧ 101 + (c.leeway : Int) < Word.signedBound) ∧
      c.parse .userAccess 100 (c.sign claims) = .ok claims ∧
      c.parse .userAccess 101 (c.sign claims) = .error .expired := by
  intro c claims
  have hi : Word.isSigned claims.issuedAt = true := by decide
  have he : Word.isSigned claims.expiresAt = true := by decide
  have hin := (parse_sign_iff c claims 100 hi he (by decide) (by decide)).1.mpr (by decide)
  have hout := (parse_sign_iff c claims 101 hi he (by decide) (by decide)).2.1.mpr (by decide)
  exact ⟨⟨hi, he, by decide, by decide⟩, hin, hout⟩

end SessionTokens.Codec

import SessionTokens.Token.Codec

/-! When a codec accepts a token: what it says does not depend on the time, only whether it
passes. -/

namespace SessionTokens.Codec

variable {c : Codec} {k : TokenKind} {now expiresAt issuedAt : Int} {token : String}
  {claims : Claims k}

/-! Where a time less the leeway wraps around, a token counts as expired that would pass
otherwise, and never the other way round. -/

theorem le_of_not_outdated (h : c.outdated now expiresAt = false) :
    now ≤ expiresAt + c.leeway := by
  have hle := Word.le_sub now c.leeway
  have hlate := of_decide_eq_false h
  omega

theorem le_of_not_expired (h : c.expired now expiresAt = false) :
    now ≤ expiresAt + c.leeway := by
  have hle := Word.sub_le_add_neg_signed now c.leeway
  have hlate := of_decide_eq_false h
  rw [signedLeeway] at hlate
  omega

/-! As long as no sum leaves its word, the lines are drawn where the leeway says. -/

theorem outdated_iff (hstart : (c.leeway : Int) ≤ now) :
    c.outdated now expiresAt = true ↔ expiresAt + c.leeway < now := by
  rw [outdated, Word.sub_of_le hstart, decide_eq_true_eq]
  omega

section Signed

variable (hstart : 0 ≤ now) (hend : now + c.leeway < Word.signedBound)
include hstart hend

theorem signedLeeway_eq : c.signedLeeway = c.leeway := Word.signed_of_lt (by omega)

theorem issuedAhead_iff : c.issuedAhead now issuedAt = true ↔ now + c.leeway < issuedAt := by
  have hsigned : Word.isSigned (now + c.leeway) = true := by
    simp only [Word.isSigned, Bool.and_eq_true, decide_eq_true_eq]
    omega
  rw [issuedAhead, signedLeeway_eq hstart hend, Word.add_of_isSigned hsigned, decide_eq_true_eq]

theorem expired_iff : c.expired now expiresAt = true ↔ expiresAt + c.leeway < now := by
  have hsigned : Word.isSigned (now + -c.leeway) = true := by
    simp only [Word.isSigned, Bool.and_eq_true, decide_eq_true_eq]
    omega
  rw [expired, signedLeeway_eq hstart hend, Word.add_of_isSigned hsigned, decide_eq_true_eq]
  omega

end Signed

/-- Expiry is looked at alike with a sign and without, as long as no sum leaves its word. -/
theorem expired_eq_outdated (hstart : (c.leeway : Int) ≤ now)
    (hend : now + c.leeway < Word.signedBound) :
    c.expired now expiresAt = c.outdated now expiresAt := by
  rw [Bool.eq_iff_iff, expired_iff (by omega) hend, outdated_iff hstart]

theorem read_eq_ok {strict : Bool} :
    c.read k strict now token = .ok claims ↔
      c.authentic k token = .ok (claims, false) ∧ 0 ≤ claims.expiresAt ∧
        (strict && c.outdated now claims.expiresAt) = false ∧
        c.issuedAhead now claims.issuedAt = false := by
  unfold read
  split
  · rename_i h
    simp [h]
  · rename_i cl audience h
    rw [h]
    constructor
    · intro hr
      split at hr
      · exact nomatch hr
      split at hr
      · exact nomatch hr
      split at hr
      · exact nomatch hr
      split at hr
      · exact nomatch hr
      obtain rfl := Except.ok.inj hr
      refine ⟨?_, by omega, by simp_all, by simp_all⟩
      simp_all
    · rintro ⟨ha, hx, hs, hi⟩
      obtain ⟨rfl, rfl⟩ := Prod.mk.inj (Except.ok.inj ha)
      rw [if_neg (by omega), if_neg (by simp [hs]), if_neg (by simp), if_neg (by simp [hi])]

/-- Within its times, the ends included, a token passes both readings. -/
theorem read_of_times {strict : Bool} (ha : c.authentic k token = .ok (claims, false))
    (hstart : (c.leeway : Int) ≤ now) (hend : now + c.leeway < Word.signedBound)
    (hx : 0 ≤ claims.expiresAt) (he : now ≤ claims.expiresAt + c.leeway)
    (hi : claims.issuedAt ≤ now + c.leeway) : c.read k strict now token = .ok claims := by
  refine read_eq_ok.mpr ⟨ha, hx, ?_, ?_⟩
  · have hlive : c.outdated now claims.expiresAt = false := by
      rw [Bool.eq_false_iff, ne_eq, outdated_iff hstart]
      omega
    rw [hlive, Bool.and_false]
  · rw [Bool.eq_false_iff, ne_eq, issuedAhead_iff (by omega) hend]
    omega

theorem authentic_of_parse (h : c.parse k now token = .ok claims) :
    c.authentic k token = .ok (claims, false) := (read_eq_ok.mp h).1

theorem authentic_of_parseAllowExpired (h : c.parseAllowExpired k now token = .ok claims) :
    c.authentic k token = .ok (claims, false) := (read_eq_ok.mp h).1

theorem checkExpiry_eq_ok :
    c.checkExpiry now claims = .ok () ↔ c.expired now claims.expiresAt = false := by
  unfold checkExpiry
  split <;> simp_all

/-- A token that may have expired and has not is one that passes the strict reading. -/
theorem parse_eq_ok (hstart : (c.leeway : Int) ≤ now)
    (hend : now + c.leeway < Word.signedBound) :
    c.parse k now token = .ok claims ↔
      c.parseAllowExpired k now token = .ok claims ∧ c.checkExpiry now claims = .ok () := by
  rw [checkExpiry_eq_ok, expired_eq_outdated hstart hend, parse, parseAllowExpired, read_eq_ok,
    read_eq_ok]
  simp only [Bool.true_and, Bool.false_and, true_and]
  constructor
  · exact fun ⟨ha, hx, ho, hi⟩ => ⟨⟨ha, hx, hi⟩, ho⟩
  · exact fun ⟨⟨ha, hx, hi⟩, ho⟩ => ⟨ha, hx, ho, hi⟩

/-- A token that can be read and whose time has not passed, the leeway included. -/
structure InTime (c : Codec) (k : TokenKind) (now : Int) (token : String) (claims : Claims k) :
    Prop where
  authentic : c.authentic k token = .ok (claims, false)
  nonneg : 0 ≤ claims.expiresAt
  le : now ≤ claims.expiresAt + c.leeway

theorem inTime_of_parse (h : c.parse k now token = .ok claims) : c.InTime k now token claims := by
  obtain ⟨ha, hx, ho, -⟩ := read_eq_ok.mp h
  exact ⟨ha, hx, le_of_not_outdated ho⟩

theorem inTime_of_checked (h : c.parseAllowExpired k now token = .ok claims)
    (hcheck : c.checkExpiry now claims = .ok ()) : c.InTime k now token claims := by
  obtain ⟨ha, hx, -, -⟩ := read_eq_ok.mp h
  exact ⟨ha, hx, le_of_not_expired (checkExpiry_eq_ok.mp hcheck)⟩

def jti? (c : Codec) (k : TokenKind) (token : String) : Option Jti :=
  match c.authentic k token with
  | .ok (claims, _) => some claims.jti
  | .error _ => none

theorem jti?_of_authentic {audience : Bool} (h : c.authentic k token = .ok (claims, audience)) :
    c.jti? k token = some claims.jti := by
  simp [jti?, h]

theorem authentic_of_jti? {j : Jti} (h : c.jti? k token = some j) :
    ∃ claims audience, c.authentic k token = .ok (claims, audience) ∧ j = claims.jti := by
  unfold jti? at h
  split at h
  · rename_i claims audience ha
    exact ⟨claims, audience, ha, (Option.some.inj h).symm⟩
  · exact nomatch h

end SessionTokens.Codec

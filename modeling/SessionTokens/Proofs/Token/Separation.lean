import SessionTokens.Proofs.Token.RoundTrip

/-! When a token signed as one kind is taken for another. A key enters a signature only through its
block, so that it is the blocks of two secrets that keep their kinds apart, not the secrets. -/

namespace SessionTokens

namespace Claims

/-- What claims of one kind say when they are read as another. -/
def as? {k' : TokenKind} (claims : Claims k') (k : TokenKind) : Option (Claims k) :=
  (rolesAs? k k' claims.roles).map fun roles =>
    ⟨claims.subject, roles, claims.jti, claims.issuedAt, claims.expiresAt⟩

variable {k k' : TokenKind}

theorem isSome_as? (claims : Claims k') (hk : k' ≠ k) :
    (claims.as? k).isSome = true ↔ k ≠ .userAccess := by
  rw [as?, Option.isSome_map]
  cases k with
  | userAccess =>
    have hnone : rolesAs? .userAccess k' claims.roles = none := by
      cases k' with
      | userAccess => exact absurd rfl hk
      | _ => rfl
    simp [hnone]
  | _ => exact iff_of_true rfl (by decide)

theorem ofJson_json_eq_ok {claims : Claims k'} {read : Claims k}
    (hi : Word.isSigned claims.issuedAt = true) (he : Word.isSigned claims.expiresAt = true) :
    ofJson k claims.json.node = .ok read ↔ claims.as? k = some read := by
  rw [ofJson_json, Json.Node.int64_node, Json.Node.int64_node, if_pos hi, if_pos he, as?]
  cases hr : rolesAs? k k' claims.roles with
  | none => exact ⟨nofun, nofun⟩
  | some roles =>
    constructor
    · intro h
      exact congrArg some (Except.ok.inj h)
    · intro h
      exact congrArg Except.ok (Option.some.inj h)

end Claims

namespace Codec

variable {k k' : TokenKind}

theorem signature_eq_iff (c : Codec) (message : List Char) :
    c.signature k message = c.signature k' message ↔
      Hmac.tag (c.secrets.of k) (Utf8.encode message) =
        Hmac.tag (c.secrets.of k') (Utf8.encode message) := by
  constructor
  · intro h
    have hd := congrArg Base64Url.decode h
    simpa [signature, Base64Url.decode_encode] using hd
  · intro h
    simp [signature, h]

theorem authentic_sign_eq_ok {c : Codec} {claims : Claims k'} {read : Claims k}
    (hi : Word.isSigned claims.issuedAt = true) (he : Word.isSigned claims.expiresAt = true) :
    c.authentic k (c.sign claims) = .ok (read, false) ↔
      c.signature k' (message claims) = c.signature k (message claims) ∧
        claims.as? k = some read := by
  have hm := authentic_message (k := k) c claims (c.signature k' (message claims))
    (Base64Url.dot_not_mem_encode _)
  rw [sign, hm]
  by_cases hs : c.signature k' (message claims) = c.signature k (message claims)
  · have hread : Claims.ofJson k claims.json.node = .ok read ↔ claims.as? k = some read :=
      Claims.ofJson_json_eq_ok hi he
    rw [if_pos hs, readPayload_json, ← hread]
    cases Claims.ofJson k claims.json.node <;> simp [hs]
  · simp [hs]

theorem read_sign_eq_ok {c : Codec} {claims : Claims k'} {read : Claims k} {strict : Bool}
    {now : Int} (hi : Word.isSigned claims.issuedAt = true)
    (he : Word.isSigned claims.expiresAt = true) :
    c.read k strict now (c.sign claims) = .ok read ↔
      c.signature k' (message claims) = c.signature k (message claims) ∧
        claims.as? k = some read ∧ 0 ≤ claims.expiresAt ∧
        (strict && c.outdated now claims.expiresAt) = false ∧
        c.issuedAhead now claims.issuedAt = false := by
  have hsame : claims.as? k = some read →
      read.expiresAt = claims.expiresAt ∧ read.issuedAt = claims.issuedAt := by
    intro h
    obtain ⟨roles, -, rfl⟩ := Option.map_eq_some_iff.mp h
    exact ⟨rfl, rfl⟩
  rw [read_eq_ok, authentic_sign_eq_ok hi he]
  constructor
  · rintro ⟨⟨hs, hread⟩, hrest⟩
    obtain ⟨hx, ht⟩ := hsame hread
    rw [hx, ht] at hrest
    exact ⟨hs, hread, hrest⟩
  · rintro ⟨hs, hread, hrest⟩
    obtain ⟨hx, ht⟩ := hsame hread
    rw [hx, ht]
    exact ⟨⟨hs, hread⟩, hrest⟩

theorem signature_eq_of_keyBlock {c : Codec}
    (h : Hmac.keyBlock (c.secrets.of k) = Hmac.keyBlock (c.secrets.of k'))
    (message : List Char) : c.signature k message = c.signature k' message := by
  have ht : Hmac.tag (c.secrets.of k) (Utf8.encode message) =
      Hmac.tag (c.secrets.of k') (Utf8.encode message) := by
    rw [Hmac.tag, Hmac.tag, h]
  exact (signature_eq_iff c message).mpr ht

theorem secrets_of_make {secrets : Secrets} {leeway : Nat} {c : Codec}
    (h : make secrets leeway = .ok c) : c.secrets = secrets ∧ c.leeway = leeway := by
  unfold make at h
  split at h
  · exact nomatch h
  · obtain rfl := Except.ok.inj h
    exact ⟨rfl, rfl⟩

/-- Two kinds are kept apart if their secrets have different blocks, provided that these give
different tags on what is signed. If the blocks are the same, then a token of one kind is accepted
as any other that needs no roles, within the times at which it is accepted as its own. -/
theorem kinds_apart_iff {secrets : Secrets} {leeway : Nat} {c : Codec}
    (hc : make secrets leeway = .ok c) (hk : k ≠ k') (claims : Claims k) (now : Int)
    (hi : Word.isSigned claims.issuedAt = true) (he : Word.isSigned claims.expiresAt = true)
    (htag : Hmac.keyBlock (secrets.of k) ≠ Hmac.keyBlock (secrets.of k') →
      Hmac.tag (secrets.of k) (Utf8.encode (message claims)) ≠
        Hmac.tag (secrets.of k') (Utf8.encode (message claims))) :
    ((∀ read, c.parse k' now (c.sign claims) ≠ .ok read) ∧
        ∀ read, c.parseAllowExpired k' now (c.sign claims) ≠ .ok read) ↔
      Hmac.keyBlock (secrets.of k) ≠ Hmac.keyBlock (secrets.of k') ∨ k' = .userAccess ∨
        claims.expiresAt < 0 ∨ c.issuedAhead now claims.issuedAt = true := by
  obtain ⟨rfl, rfl⟩ := secrets_of_make hc
  constructor
  · rintro ⟨-, hno⟩
    by_cases hblock : Hmac.keyBlock (c.secrets.of k) = Hmac.keyBlock (c.secrets.of k')
    · by_cases hroles : k' = .userAccess
      · exact .inr (.inl hroles)
      · by_cases hout : claims.expiresAt < 0 ∨ c.issuedAhead now claims.issuedAt = true
        · exact .inr (.inr hout)
        · have hsome := (Claims.isSome_as? claims hk).mpr hroles
          obtain ⟨read, hread⟩ := Option.isSome_iff_exists.mp hsome
          have hs := signature_eq_of_keyBlock hblock (message claims)
          have hr : c.parseAllowExpired k' now (c.sign claims) = .ok read :=
            (read_sign_eq_ok hi he).mpr ⟨hs, hread, Int.not_lt.mp fun hneg => hout (.inl hneg), rfl,
              Bool.eq_false_iff.mpr fun hahead => hout (.inr hahead)⟩
          exact absurd hr (hno read)
    · exact .inl hblock
  · intro h
    have hno : ∀ strict read, c.read k' strict now (c.sign claims) ≠ .ok read := by
      intro strict read hr
      obtain ⟨hs, hread, hx, -, ht⟩ := (read_sign_eq_ok hi he).mp hr
      rcases h with hblock | hroles | hneg | hahead
      · exact htag hblock ((signature_eq_iff c _).mp hs)
      · exact (Claims.isSome_as? claims hk).mp (Option.isSome_iff_exists.mpr ⟨read, hread⟩) hroles
      · omega
      · exact nomatch ht.symm.trans hahead
    exact ⟨hno true, hno false⟩

/-- Two secrets of one byte each keep a connection token from passing as a refresh token. -/
theorem one_byte_secrets_apart :
    let secrets : Secrets := ⟨[1], [2], [3], [4]⟩
    let c : Codec := ⟨secrets, 30⟩
    let claims : ConnectionClaims := ⟨default, (), ⟨"a"⟩, 0, 60⟩
    make secrets 30 = .ok c ∧
      Hmac.tag (secrets.of .deviceConnection) (Utf8.encode (message claims)) ≠
        Hmac.tag (secrets.of .deviceRefresh) (Utf8.encode (message claims)) ∧
      ∀ read, c.parse .deviceRefresh 0 (c.sign claims) ≠ .ok read := by
  intro secrets c claims
  have hmake : make secrets 30 = .ok c := by rfl
  have htag : Hmac.tag (secrets.of .deviceConnection) (Utf8.encode (message claims)) ≠
      Hmac.tag (secrets.of .deviceRefresh) (Utf8.encode (message claims)) := by
    decide +kernel
  have hblock : Hmac.keyBlock (secrets.of .deviceConnection) ≠
      Hmac.keyBlock (secrets.of .deviceRefresh) := by decide
  have hkinds : TokenKind.deviceConnection ≠ .deviceRefresh := by decide
  have happart := kinds_apart_iff hmake hkinds claims 0 (by decide) (by decide) fun _ => htag
  exact ⟨hmake, htag, (happart.mpr (.inl hblock)).1⟩

/-- Secrets that differ by a zero byte at the end are accepted as two, and an access token passes
as a refresh token. -/
theorem access_passes_as_refresh :
    let c : Codec := ⟨⟨[1], [1, 0], [2], [3]⟩, 30⟩
    let claims : AccessClaims := ⟨default, ["viewer"], ⟨"a"⟩, 1700000000, 1700000600⟩
    make ⟨[1], [1, 0], [2], [3]⟩ 30 = .ok c ∧
      c.parse .userRefresh 1700000000 (c.sign claims) =
        .ok ⟨default, (), ⟨"a"⟩, 1700000000, 1700000600⟩ ∧
      c.parseAllowExpired .userRefresh 1700000000 (c.sign claims) =
        .ok ⟨default, (), ⟨"a"⟩, 1700000000, 1700000600⟩ := by
  intro c claims
  have hblock : Hmac.keyBlock (c.secrets.of .userAccess) =
      Hmac.keyBlock (c.secrets.of .userRefresh) := by decide
  have hs := signature_eq_of_keyBlock hblock (message claims)
  have hread : ∀ strict, c.read .userRefresh strict 1700000000 (c.sign claims) =
      .ok ⟨default, (), ⟨"a"⟩, 1700000000, 1700000600⟩ := by
    intro strict
    have ha := (authentic_sign_eq_ok (c := c) rfl rfl).mpr ⟨hs, rfl⟩
    exact read_of_times ha (by decide) (by decide) (by decide) (by decide) (by decide)
  exact ⟨rfl, hread true, hread false⟩

end Codec

end SessionTokens

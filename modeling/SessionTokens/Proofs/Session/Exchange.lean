import SessionTokens.Proofs.Session.Issuance
import SessionTokens.Session.Device
import SessionTokens.Session.User

/-! The courses of the operations that are shown tokens: validations, exchanges of refresh
tokens and logouts. -/

namespace SessionTokens

open Program Operation

variable {os : List Occurrence}

namespace Issuer

section Read

variable {i : Issuer} {k : TokenKind} {token : String}

theorem gives_parse_bind {β : Type} {f : Claims k → Operation β} {r : Except SessionError β} :
    Gives (i.parse k token >>= f) os r ↔
      ∃ t us, os = .clock t :: us ∧
        ((∃ e, i.codec.parse k t.unix token = .error e ∧ us = [] ∧ r = .error (.ofCodec e)) ∨
          ∃ c, i.codec.parse k t.unix token = .ok c ∧ Gives (f c) us r) := by
  rw [parse, bind_assoc, gives_now_bind]
  simp only [gives_ofCodec_bind]

theorem gives_parseAllowExpired_bind {β : Type} {f : Claims k → Operation β}
    {r : Except SessionError β} :
    Gives (i.parseAllowExpired k token >>= f) os r ↔
      ∃ t us, os = .clock t :: us ∧
        ((∃ e, i.codec.parseAllowExpired k t.unix token = .error e ∧ us = [] ∧
            r = .error (.ofCodec e)) ∨
          ∃ c, i.codec.parseAllowExpired k t.unix token = .ok c ∧ Gives (f c) us r) := by
  rw [parseAllowExpired, bind_assoc, gives_now_bind]
  simp only [gives_ofCodec_bind]

inductive Validates (i : Issuer) (k : TokenKind) (token : String) :
    List Occurrence → Except SessionError (Claims k) → Prop
  | unread {t : Instant} {e : CodecError} : i.codec.parse k t.unix token = .error e →
    Validates i k token [.clock t] (.error (.ofCodec e))
  | refused {t : Instant} {c : Claims k} {us : List Occurrence} {e : SessionError} :
    i.codec.parse k t.unix token = .ok c → Ledger.EnsuresActive c.jti us (.error e) →
    Validates i k token (.clock t :: us) (.error e)
  | accepted {t : Instant} {c : Claims k} : i.codec.parse k t.unix token = .ok c →
    Validates i k token [.clock t, .called (.state c.jti) (.ok .active)] (.ok c)

theorem gives_validate {r : Except SessionError (Claims k)}
    (h : Gives (i.validate k token) os r) : Validates i k token os r := by
  obtain ⟨t, us, rfl, ⟨e, ht, rfl, rfl⟩ | ⟨c, ht, h⟩⟩ := gives_parse_bind.mp h
  · exact .unread ht
  · rcases gives_bind.mp h with ⟨e, hs, rfl⟩ | ⟨us, vs, _, rfl, hs, hr⟩
    · exact .refused ht (Ledger.gives_ensureActive hs)
    · obtain ⟨rfl, rfl⟩ := gives_pure.mp hr
      cases Ledger.gives_ensureActive hs with
      | active => exact .accepted ht

end Read

section Exchange

variable {k : TokenKind} {old : Claims k} {token : String} {renew : Operation TokenSet}
  {finish : TokenSet → Operation Unit}

def reuseReport (old : Claims k) (token : String) : Occurrence :=
  .emitted (.refreshReuse k old.subject old.jti token)

def reuseNote (old : Claims k) (token : String) :
    Except RegistryError JtiState → List Occurrence
  | .ok .revoked => [reuseReport old token]
  | _ => []

def withdrawal (set : TokenSet) (x y : Except RegistryError RevokeOutcome) : List Occurrence :=
  Ledger.attempted set.bearer.entry (.revokeFailed set.bearer.entry.jti) x ++
    Ledger.attempted set.refresh.entry (.revokeFailed set.refresh.entry.jti) y

theorem gives_ensureUnused {r : Except SessionError Unit}
    (h : Gives (ensureUnused old token) os r) :
    ∃ a, r = Ledger.readiness a ∧ os = .called (.state old.jti) a :: reuseNote old token a := by
  obtain ⟨us, vs, x, rfl, hs, hr⟩ := gives_attempt_bind.mp h
  obtain ⟨a, rfl, rfl⟩ := Ledger.gives_ensureRotatable hs
  refine ⟨a, ?_⟩
  match a with
  | .ok .active =>
    obtain ⟨rfl, rfl⟩ := gives_pure.mp hr
    exact ⟨rfl, rfl⟩
  | .ok .unknown =>
    obtain ⟨rfl, rfl⟩ := gives_throw.mp hr
    exact ⟨rfl, rfl⟩
  | .ok .revoked =>
    obtain ⟨us, rfl, ht⟩ := gives_emit_bind.mp hr
    obtain ⟨rfl, rfl⟩ := gives_throw.mp ht
    exact ⟨rfl, rfl⟩
  | .error e =>
    cases e <;> obtain ⟨rfl, rfl⟩ := gives_throw.mp hr <;> exact ⟨rfl, rfl⟩

theorem gives_lose {α : Type} {set : TokenSet} {r : Except SessionError α}
    (h : Gives (lose old token set) os r) :
    ∃ x y, r = .error .reuseDetected ∧
      os = reuseReport old token :: withdrawal set x y := by
  obtain ⟨us, rfl, hb⟩ := gives_emit_bind.mp h
  rcases gives_bind.mp hb with ⟨e, hx, rfl⟩ | ⟨us, vs, _, rfl, hx, hr⟩
  · obtain ⟨_, _, hx⟩ := Ledger.gives_revokeQuietly hx
    exact nomatch hx
  obtain ⟨x, rfl, -⟩ := Ledger.gives_revokeQuietly hx
  rcases gives_bind.mp hr with ⟨e, hy, rfl⟩ | ⟨us, vs, _, rfl, hy, ht⟩
  · obtain ⟨_, _, hy⟩ := Ledger.gives_revokeQuietly hy
    exact nomatch hy
  obtain ⟨y, rfl, -⟩ := Ledger.gives_revokeQuietly hy
  obtain ⟨rfl, rfl⟩ := gives_throw.mp ht
  exact ⟨x, y, rfl, by rw [List.append_nil]; rfl⟩

/-- The courses of `exchange`. The first call asks about the old token; the call that revokes
it comes after everything that the issue of the new set does, and decides. -/
inductive Exchanges (old : Claims k) (token : String) (renew : Operation TokenSet)
    (finish : TokenSet → Operation Unit) :
    List Occurrence → Except SessionError TokenSet → Prop
  | refused {a : Except RegistryError JtiState} {e : SessionError} :
    Ledger.readiness a = .error e →
    Exchanges old token renew finish (.called (.state old.jti) a :: reuseNote old token a)
      (.error e)
  | unrenewed {us : List Occurrence} {e : SessionError} : Gives renew us (.error e) →
    Exchanges old token renew finish (.called (.state old.jti) (.ok .active) :: us) (.error e)
  | lost {us : List Occurrence} {set : TokenSet} (x y : Except RegistryError RevokeOutcome) :
    Gives renew us (.ok set) →
    Exchanges old token renew finish
      (.called (.state old.jti) (.ok .active) :: (us ++
        old.entry.revocation (.ok .alreadyRevoked) :: reuseReport old token :: withdrawal set x y))
      (.error .reuseDetected)
  | unfinished {us vs : List Occurrence} {set : TokenSet} {e : SessionError}
    (x : Except RegistryError RevokeOutcome) :
    Gives renew us (.ok set) → x ≠ .ok .alreadyRevoked → Gives (finish set) vs (.error e) →
    Exchanges old token renew finish
      (.called (.state old.jti) (.ok .active) :: (us ++
        (Ledger.attempted old.entry (.retireFailed old.jti) x ++ vs))) (.error e)
  | won {us vs : List Occurrence} {set : TokenSet} (x : Except RegistryError RevokeOutcome) :
    Gives renew us (.ok set) → x ≠ .ok .alreadyRevoked → Gives (finish set) vs (.ok ()) →
    Exchanges old token renew finish
      (.called (.state old.jti) (.ok .active) :: (us ++
        (Ledger.attempted old.entry (.retireFailed old.jti) x ++ vs))) (.ok set)

theorem gives_exchange {r : Except SessionError TokenSet}
    (h : Gives (exchange old token renew finish) os r) :
    Exchanges old token renew finish os r := by
  rcases gives_bind.mp h with ⟨e, hu, rfl⟩ | ⟨us, vs, _, rfl, hu, hrest⟩
  · obtain ⟨a, ha, rfl⟩ := gives_ensureUnused hu
    exact .refused ha.symm
  obtain ⟨a, ha, rfl⟩ := gives_ensureUnused hu
  obtain rfl := Ledger.eq_active_of_readiness ha.symm
  rcases gives_bind.mp hrest with ⟨e, hn, rfl⟩ | ⟨us, vs, set, rfl, hn, hrest⟩
  · exact .unrenewed hn
  rcases gives_bind.mp hrest with ⟨e, hx, rfl⟩ | ⟨ws, vs, x', rfl, hx, hrest⟩
  · obtain ⟨_, _, hx⟩ := Ledger.gives_retire hx
    exact nomatch hx
  obtain ⟨x, rfl, hx'⟩ := Ledger.gives_retire hx
  obtain rfl := Except.ok.inj hx'
  by_cases hl : x = .ok .alreadyRevoked
  · subst hl
    obtain ⟨y, z, rfl, rfl⟩ := gives_lose hrest
    exact .lost y z hn
  · have hf : Gives (finish set >>= fun _ => pure set) vs r := by
      match x with
      | .ok .revoked => exact hrest
      | .ok .revokedUntracked => exact hrest
      | .ok .alreadyRevoked => exact (hl rfl).elim
      | .error _ => exact hrest
    rcases gives_bind.mp hf with ⟨e, hg, rfl⟩ | ⟨vs, zs, _, rfl, hg, hp⟩
    · exact .unfinished x hn hl hg
    · obtain ⟨rfl, rfl⟩ := gives_pure.mp hp
      rw [List.append_nil]
      exact .won x hn hl hg

end Exchange

section Logout

variable {i : Issuer} {k : TokenKind} {holder : Log.Holder}

inductive Shows (i : Issuer) (k : TokenKind) (holder : Log.Holder) :
    Option String → List Occurrence → Option (String × Claims k) → Prop
  | nothing : Shows i k holder none [] none
  | read {t : Instant} {token : String} {c : Claims k} :
    i.codec.parse k t.unix token = .ok c →
    Shows i k holder (some token) [.clock t] (some (token, c))
  | ignored {t : Instant} {token : String} {e : CodecError} :
    i.codec.parse k t.unix token = .error e →
    Shows i k holder (some token) [.clock t, .emitted (.refreshIgnored holder e token)] none

theorem gives_shownRefresh {shown : Option String}
    {r : Except SessionError (Option (String × Claims k))}
    (h : Gives (i.shownRefresh k holder shown) os r) :
    ∃ x, r = .ok x ∧ Shows i k holder shown os x := by
  cases shown with
  | none =>
    obtain ⟨rfl, rfl⟩ := gives_pure.mp h
    exact ⟨_, rfl, .nothing⟩
  | some token =>
    obtain ⟨t, us, rfl, ht⟩ := gives_now_bind.mp h
    cases hp : i.codec.parse k t.unix token with
    | ok c =>
      rw [hp] at ht
      obtain ⟨rfl, rfl⟩ := gives_pure.mp ht
      exact ⟨_, rfl, .read hp⟩
    | error e =>
      rw [hp] at ht
      obtain ⟨us, rfl, he⟩ := gives_emit_bind.mp ht
      obtain ⟨rfl, rfl⟩ := gives_pure.mp he
      exact ⟨_, rfl, .ignored hp⟩

/-- The courses of `logout`. A refresh token of somebody else stops it before anything is
revoked. -/
inductive Ends (i : Issuer) (k : TokenKind) (holder : Log.Holder) {bearer : TokenKind}
    (c : Claims bearer) (shown : Option String) :
    List Occurrence → Except SessionError Unit → Prop
  | mismatch {us : List Occurrence} {token : String} {r : Claims k} :
    Shows i k holder shown us (some (token, r)) → r.subject ≠ c.subject →
    Ends i k holder c shown (us ++ [.emitted (.subjectMismatch k c.subject r.subject token)])
      (.error .subjectMismatch)
  | failedPair {us : List Occurrence} {token : String} {r : Claims k} {e : SessionError}
    (x y : Except RegistryError RevokeOutcome) :
    Shows i k holder shown us (some (token, r)) → r.subject = c.subject →
    ((x.mapError .ofRegistry).bind fun _ => (y.mapError .ofRegistry).bind fun _ => .ok ()) =
      .error e →
    Ends i k holder c shown (us ++ [c.entry.revocation x, r.entry.revocation y]) (.error e)
  | pair {us : List Occurrence} {token : String} {r : Claims k} (x y : RevokeOutcome) :
    Shows i k holder shown us (some (token, r)) → r.subject = c.subject →
    Ends i k holder c shown
      (us ++ [c.entry.revocation (.ok x), r.entry.revocation (.ok y),
        .emitted (.sessionRevoked holder)]) (.ok ())
  | failedBearer {us : List Occurrence} (e : RegistryError) : Shows i k holder shown us none →
    Ends i k holder c shown (us ++ [c.entry.revocation (.error e)]) (.error (.ofRegistry e))
  | bearer {us : List Occurrence} (x : RevokeOutcome) : Shows i k holder shown us none →
    Ends i k holder c shown
      (us ++ [c.entry.revocation (.ok x), .emitted (.bearerRevoked holder)]) (.ok ())

theorem gives_logout {bearer : TokenKind} {c : Claims bearer} {shown : Option String}
    {r : Except SessionError Unit} (h : Gives (i.logout holder k c shown) os r) :
    Ends i k holder c shown os r := by
  rcases gives_bind.mp h with ⟨e, hs, rfl⟩ | ⟨us, vs, x, rfl, hs, hrest⟩
  · obtain ⟨_, hs, -⟩ := gives_shownRefresh hs
    exact nomatch hs
  obtain ⟨_, hx, hs⟩ := gives_shownRefresh hs
  obtain rfl := Except.ok.inj hx
  cases x with
  | none =>
    rcases gives_call_bind.mp hrest with ⟨e, rfl, rfl⟩ | ⟨o, ws, rfl, ho⟩
    · exact .failedBearer e hs
    · obtain ⟨rfl, rfl⟩ := gives_emit.mp ho
      exact .bearer o hs
  | some shown =>
    obtain ⟨token, rc⟩ := shown
    by_cases hm : rc.subject = c.subject
    · have hp : Gives (Ledger.revokePair c.entry rc.entry >>= fun _ =>
          emit (.sessionRevoked holder)) vs r := by
        simpa [hm] using hrest
      rcases gives_bind.mp hp with ⟨e, hr, rfl⟩ | ⟨ws, zs, _, rfl, hr, hn⟩
      · obtain ⟨x, y, rfl, he⟩ := Ledger.gives_revokePair hr
        exact .failedPair x y hs hm he.symm
      · obtain ⟨x, y, rfl, he⟩ := Ledger.gives_revokePair hr
        obtain ⟨rfl, rfl⟩ := gives_emit.mp hn
        cases x with
        | error _ => exact nomatch he
        | ok x =>
          cases y with
          | error _ => exact nomatch he
          | ok y => exact .pair x y hs hm
    · have hp : Gives (emit (.subjectMismatch k c.subject rc.subject token) >>= fun _ =>
          throw SessionError.subjectMismatch) vs r := by
        simpa [hm] using hrest
      obtain ⟨ws, rfl, ht⟩ := gives_emit_bind.mp hp
      obtain ⟨rfl, rfl⟩ := gives_throw.mp ht
      exact .mismatch hs hm

end Logout

end Issuer

namespace User

def renewal (i : Issuer) (user : Uuid) : Operation TokenSet := do
  issue i user (← .rolesOf user)

def rotationNote (old : RefreshClaims) (set : TokenSet) : Operation Unit :=
  .emit (.rotated (.user old.subject) old.jti set.refresh.entry.jti)

theorem gives_rotate {i : Issuer} {token : String} {r : Except SessionError TokenSet} :
    Gives (rotate i token) os r ↔
      ∃ t us, os = .clock t :: us ∧
        ((∃ e, i.codec.parse .userRefresh t.unix token = .error e ∧ us = [] ∧
            r = .error (.ofCodec e)) ∨
          ∃ old, i.codec.parse .userRefresh t.unix token = .ok old ∧
            Gives (Issuer.exchange old token (renewal i old.subject) (rotationNote old)) us r) :=
  Issuer.gives_parse_bind

/-- A set that a rotation hands out was made for the user that the old token names, with the roles
that were found for this user. -/
theorem made_of_rotate {i : Issuer} {token : String} {set : TokenSet}
    (h : Gives (rotate i token) os (.ok set)) :
    ∃ (t t' : Instant) (old : RefreshClaims) (roles : List String),
      i.codec.parse .userRefresh t.unix token = .ok old ∧ .roles old.subject (.ok roles) ∈ os ∧
      i.MadeAt .userAccess .userRefresh old.subject roles () t' set := by
  obtain ⟨t, us, rfl, ⟨e, -, -, he⟩ | ⟨old, hold, hx⟩⟩ := gives_rotate.mp h
  · exact nomatch he
  cases Issuer.gives_exchange hx with
  | won x hn _ _ =>
    rcases gives_rolesOf_bind.mp hn with ⟨e, -, he⟩ | ⟨roles, vs, rfl, hi⟩
    · exact nomatch he
    · obtain ⟨t', hmade⟩ := Issuer.made_of_issue hi
      exact ⟨t, t', old, roles, hold, by simp, hmade⟩

end User

namespace Device

inductive ParsesPair (i : Issuer) (connection refresh : String) :
    List Occurrence → Except SessionError (ConnectionClaims × DeviceRefreshClaims) → Prop
  | refreshUnread {t : Instant} {e : CodecError} :
    i.codec.parseAllowExpired .deviceRefresh t.unix refresh = .error e →
    ParsesPair i connection refresh [.clock t] (.error (.ofCodec e))
  | connectionUnread {t u : Instant} {old : DeviceRefreshClaims} {e : CodecError} :
    i.codec.parseAllowExpired .deviceRefresh t.unix refresh = .ok old →
    i.codec.parseAllowExpired .deviceConnection u.unix connection = .error e →
    ParsesPair i connection refresh [.clock t, .clock u] (.error (.ofCodec e))
  | mismatch {t u : Instant} {old : DeviceRefreshClaims} {c : ConnectionClaims} :
    i.codec.parseAllowExpired .deviceRefresh t.unix refresh = .ok old →
    i.codec.parseAllowExpired .deviceConnection u.unix connection = .ok c →
    c.subject ≠ old.subject →
    ParsesPair i connection refresh
      [.clock t, .clock u,
        .emitted (.subjectMismatch .deviceRefresh c.subject old.subject refresh)]
      (.error .subjectMismatch)
  | expired {t u v : Instant} {old : DeviceRefreshClaims} {c : ConnectionClaims}
    {e : CodecError} :
    i.codec.parseAllowExpired .deviceRefresh t.unix refresh = .ok old →
    i.codec.parseAllowExpired .deviceConnection u.unix connection = .ok c →
    c.subject = old.subject → i.codec.checkExpiry v.unix old = .error e →
    ParsesPair i connection refresh [.clock t, .clock u, .clock v] (.error (.ofCodec e))
  | read {t u v : Instant} {old : DeviceRefreshClaims} {c : ConnectionClaims} :
    i.codec.parseAllowExpired .deviceRefresh t.unix refresh = .ok old →
    i.codec.parseAllowExpired .deviceConnection u.unix connection = .ok c →
    c.subject = old.subject → i.codec.checkExpiry v.unix old = .ok () →
    ParsesPair i connection refresh [.clock t, .clock u, .clock v] (.ok (c, old))

theorem gives_parsePair {i : Issuer} {connection refresh : String}
    {r : Except SessionError (ConnectionClaims × DeviceRefreshClaims)}
    (h : Gives (parsePair i connection refresh) os r) :
    ParsesPair i connection refresh os r := by
  obtain ⟨t, us, rfl, ⟨e, hr, rfl, rfl⟩ | ⟨old, hr, h⟩⟩ := Issuer.gives_parseAllowExpired_bind.mp h
  · exact .refreshUnread hr
  obtain ⟨u, us, rfl, ⟨e, hc, rfl, rfl⟩ | ⟨c, hc, h⟩⟩ := Issuer.gives_parseAllowExpired_bind.mp h
  · exact .connectionUnread hr hc
  by_cases hm : c.subject = old.subject
  · have hp : Gives (now >>= fun now => ofCodec (i.codec.checkExpiry now.unix old) >>= fun _ =>
        pure (c, old)) us r := by
      simpa [hm] using h
    obtain ⟨v, us, rfl, hv⟩ := gives_now_bind.mp hp
    rcases gives_ofCodec_bind.mp hv with ⟨e, he, rfl, rfl⟩ | ⟨_, he, hd⟩
    · exact .expired hr hc hm he
    · obtain ⟨rfl, rfl⟩ := gives_pure.mp hd
      exact .read hr hc hm he
  · have hp : Gives (emit (.subjectMismatch .deviceRefresh c.subject old.subject refresh) >>=
        fun _ => throw SessionError.subjectMismatch) us r := by
      simpa [hm] using h
    obtain ⟨ws, rfl, ht⟩ := gives_emit_bind.mp hp
    obtain ⟨rfl, rfl⟩ := gives_throw.mp ht
    exact .mismatch hr hc hm

def rotationEnd (c : ConnectionClaims) (old : DeviceRefreshClaims) (set : TokenSet) :
    Operation Unit := do
  Ledger.revokeQuietly c.entry
  .emit (.rotated (.device old.subject) old.jti set.refresh.entry.jti)

theorem gives_rotate {i : Issuer} {connection refresh : String}
    {r : Except SessionError TokenSet} (h : Gives (rotate i connection refresh) os r) :
    (∃ e, ParsesPair i connection refresh os (.error e) ∧ r = .error e) ∨
      ∃ us vs c old, os = us ++ vs ∧ ParsesPair i connection refresh us (.ok (c, old)) ∧
        Gives (Issuer.exchange old refresh (issue i old.subject) (rotationEnd c old)) vs r := by
  rcases gives_bind.mp h with ⟨e, hp, rfl⟩ | ⟨us, vs, ⟨c, old⟩, rfl, hp, hx⟩
  · exact .inl ⟨e, gives_parsePair hp, rfl⟩
  · exact .inr ⟨us, vs, c, old, rfl, gives_parsePair hp, hx⟩

end Device

end SessionTokens

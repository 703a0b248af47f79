import SessionTokens.Proofs.Session.Ledger
import SessionTokens.Session.Issuer

/-! The courses of an issue. Both identifiers are drawn before anything is recorded, and the
set is handed out only if both records were made. -/

namespace SessionTokens

open Program Operation

variable {os : List Occurrence}

namespace Issuer

section Mint

variable {i : Issuer} {bearer refresh : TokenKind} {subject : Uuid} {roles : bearer.Roles}
  {refreshRoles : refresh.Roles}

/-- A set that the issuer can make at `t`, under two identifiers. -/
def MadeAt (i : Issuer) (bearer refresh : TokenKind) (subject : Uuid) (roles : bearer.Roles)
    (refreshRoles : refresh.Roles) (t : Instant) (set : TokenSet) : Prop :=
  ∃ (b r : Jti) (bearerEnd refreshEnd : Instant),
    t.plus? i.bearerTtl = some bearerEnd ∧ t.plus? i.refreshTtl = some refreshEnd ∧
    set = ⟨i.token ⟨subject, roles, b, t.unix, bearerEnd.unix⟩,
      i.token ⟨subject, refreshRoles, r, t.unix, refreshEnd.unix⟩⟩

inductive Mints (i : Issuer) (bearer refresh : TokenKind) (subject : Uuid)
    (roles : bearer.Roles) (refreshRoles : refresh.Roles) :
    List Occurrence → Except SessionError TokenSet → Prop
  | bearerOutOfRange {t : Instant} (b : Jti) : t.plus? i.bearerTtl = none →
    Mints i bearer refresh subject roles refreshRoles [.clock t, .drawn b]
      (.error (.internal (.ttlOutOfRange i.bearerTtl)))
  | refreshOutOfRange {t : Instant} (b r : Jti) : t.plus? i.refreshTtl = none →
    Mints i bearer refresh subject roles refreshRoles [.clock t, .drawn b, .drawn r]
      (.error (.internal (.ttlOutOfRange i.refreshTtl)))
  | minted {t : Instant} {set : TokenSet} :
    MadeAt i bearer refresh subject roles refreshRoles t set →
    Mints i bearer refresh subject roles refreshRoles
      [.clock t, .drawn set.bearer.entry.jti, .drawn set.refresh.entry.jti] (.ok set)

theorem gives_expiry {t : Instant} {ttl : Span} {r : Except SessionError Int}
    (h : Gives (expiry t ttl) os r) :
    os = [] ∧ ((t.plus? ttl = none ∧ r = .error (.internal (.ttlOutOfRange ttl))) ∨
      ∃ e, t.plus? ttl = some e ∧ r = .ok e.unix) := by
  unfold expiry at h
  split at h
  · obtain ⟨rfl, rfl⟩ := gives_pure.mp h
    exact ⟨rfl, .inr ⟨_, by assumption, rfl⟩⟩
  · obtain ⟨rfl, rfl⟩ := gives_throw.mp h
    exact ⟨rfl, .inl ⟨by assumption, rfl⟩⟩

theorem gives_claims {k : TokenKind} {roles : k.Roles} {t : Instant} {ttl : Span}
    {r : Except SessionError (Claims k)} (h : Gives (claims k subject roles t ttl) os r) :
    ∃ j, os = [.drawn j] ∧
      ((t.plus? ttl = none ∧ r = .error (.internal (.ttlOutOfRange ttl))) ∨
        ∃ e, t.plus? ttl = some e ∧ r = .ok ⟨subject, roles, j, t.unix, e.unix⟩) := by
  obtain ⟨j, us, rfl, hj⟩ := gives_drawJti_bind.mp h
  refine ⟨j, ?_⟩
  rcases gives_bind.mp hj with ⟨e, he, rfl⟩ | ⟨us, vs, e, rfl, he, hc⟩
  · obtain ⟨rfl, ⟨ht, hr⟩ | ⟨_, _, hr⟩⟩ := gives_expiry he
    · exact ⟨rfl, .inl ⟨ht, by rw [Except.error.inj hr]⟩⟩
    · exact nomatch hr
  · obtain ⟨rfl, ⟨_, hr⟩ | ⟨u, ht, hr⟩⟩ := gives_expiry he
    · exact nomatch hr
    · obtain ⟨rfl, rfl⟩ := gives_pure.mp hc
      exact ⟨rfl, .inr ⟨u, ht, by rw [Except.ok.inj hr]⟩⟩

theorem gives_mint {r : Except SessionError TokenSet}
    (h : Gives (i.mint bearer refresh subject roles refreshRoles) os r) :
    Mints i bearer refresh subject roles refreshRoles os r := by
  obtain ⟨t, us, rfl, ht⟩ := gives_now_bind.mp h
  rcases gives_bind.mp ht with ⟨e, hb, rfl⟩ | ⟨us, vs, b, rfl, hb, hrest⟩
  · obtain ⟨j, rfl, ⟨hn, hr⟩ | ⟨_, _, hr⟩⟩ := gives_claims hb
    · rw [Except.error.inj hr]
      exact .bearerOutOfRange j hn
    · exact nomatch hr
  obtain ⟨j, rfl, ⟨_, hr⟩ | ⟨be, hbe, hr⟩⟩ := gives_claims hb
  · exact nomatch hr
  obtain rfl := Except.ok.inj hr
  rcases gives_bind.mp hrest with ⟨e, hc, rfl⟩ | ⟨us, vs, c, rfl, hc, hset⟩
  · obtain ⟨k, rfl, ⟨hn, hr⟩ | ⟨_, _, hr⟩⟩ := gives_claims hc
    · rw [Except.error.inj hr]
      exact .refreshOutOfRange j k hn
    · exact nomatch hr
  obtain ⟨k, rfl, ⟨_, hr⟩ | ⟨re, hre, hr⟩⟩ := gives_claims hc
  · exact nomatch hr
  obtain rfl := Except.ok.inj hr
  obtain ⟨rfl, rfl⟩ := gives_pure.mp hset
  have hset : MadeAt i bearer refresh subject roles refreshRoles t ⟨i.token _, i.token _⟩ :=
    ⟨j, k, be, re, hbe, hre, rfl⟩
  exact .minted hset

/-- The courses of `issue`: the set is handed out if both of its tokens were recorded. -/
inductive Issues (i : Issuer) (bearer refresh : TokenKind) (subject : Uuid)
    (roles : bearer.Roles) (refreshRoles : refresh.Roles) (note : TokenSet → Log.Event) :
    List Occurrence → Except SessionError TokenSet → Prop
  | unminted {us : List Occurrence} {e : SessionError} :
    Mints i bearer refresh subject roles refreshRoles us (.error e) →
    Issues i bearer refresh subject roles refreshRoles note us (.error e)
  | bearerUnrecorded {us : List Occurrence} {set : TokenSet} (e : RegistryError) :
    Mints i bearer refresh subject roles refreshRoles us (.ok set) →
    Issues i bearer refresh subject roles refreshRoles note
      (us ++ [set.bearer.entry.recording (.error e)]) (.error (.ofRegistry e))
  | refreshUnrecorded {us : List Occurrence} {set : TokenSet} (e : RegistryError) :
    Mints i bearer refresh subject roles refreshRoles us (.ok set) →
    Issues i bearer refresh subject roles refreshRoles note
      (us ++ [set.bearer.entry.recording (.ok ()), set.refresh.entry.recording (.error e)])
      (.error (.ofRegistry e))
  | issued {us : List Occurrence} {set : TokenSet} :
    Mints i bearer refresh subject roles refreshRoles us (.ok set) →
    Issues i bearer refresh subject roles refreshRoles note
      (us ++ [set.bearer.entry.recording (.ok ()), set.refresh.entry.recording (.ok ()),
        .emitted (note set)]) (.ok set)

theorem gives_issue {note : TokenSet → Log.Event} {r : Except SessionError TokenSet}
    (h : Gives (i.issue bearer refresh subject roles refreshRoles note) os r) :
    Issues i bearer refresh subject roles refreshRoles note os r := by
  rcases gives_bind.mp h with ⟨e, hm, rfl⟩ | ⟨us, vs, set, rfl, hm, hrest⟩
  · exact .unminted (gives_mint hm)
  have hm := gives_mint hm
  rcases gives_bind.mp hrest with ⟨e, hr, rfl⟩ | ⟨ws, xs, _, rfl, hr, hnote⟩
  · rcases gives_call_bind.mp hr with ⟨e', rfl, he⟩ | ⟨_, zs, rfl, hz⟩
    · rw [Except.error.inj he]
      exact .bearerUnrecorded e' hm
    · obtain ⟨x, rfl, hx⟩ := gives_call.mp hz
      cases x with
      | ok _ => exact nomatch hx
      | error e' =>
        rw [Except.error.inj hx]
        exact .refreshUnrecorded e' hm
  · rcases gives_call_bind.mp hr with ⟨e', rfl, he⟩ | ⟨_, zs, rfl, hz⟩
    · exact nomatch he
    · obtain ⟨x, rfl, hx⟩ := gives_call.mp hz
      cases x with
      | error _ => exact nomatch hx
      | ok _ =>
        obtain ⟨ys, rfl, hp⟩ := gives_emit_bind.mp hnote
        obtain ⟨rfl, rfl⟩ := gives_pure.mp hp
        exact .issued hm

/-- A set that is handed out was made. -/
theorem made_of_issue {note : TokenSet → Log.Event} {set : TokenSet}
    (h : Gives (i.issue bearer refresh subject roles refreshRoles note) os (.ok set)) :
    ∃ t, MadeAt i bearer refresh subject roles refreshRoles t set := by
  cases gives_issue h with
  | issued hm =>
    cases hm with
    | minted hm => exact ⟨_, hm⟩

theorem gives_claims_of_plus {k : TokenKind} {roles : k.Roles} {t u : Instant} {ttl : Span}
    (h : t.plus? ttl = some u) (j : Jti) :
    Gives (claims k subject roles t ttl) [.drawn j]
      (.ok ⟨subject, roles, j, t.unix, u.unix⟩) := by
  refine gives_drawJti_bind.mpr ⟨j, [], rfl, ?_⟩
  simp only [expiry, h]
  exact gives_pure.mpr ⟨rfl, rfl⟩

/-- An issue fails if its first record does. -/
theorem gives_issue_of_unrecorded {note : TokenSet → Log.Event} {t u v : Instant}
    (hu : t.plus? i.bearerTtl = some u) (hv : t.plus? i.refreshTtl = some v) (b r : Jti)
    (e : RegistryError) :
    ∃ expiresAt, Gives (i.issue bearer refresh subject roles refreshRoles note)
      [.clock t, .drawn b, .drawn r, .called (.record b expiresAt) (.error e)]
      (.error (.ofRegistry e)) := by
  let set : TokenSet := ⟨i.token ⟨subject, roles, b, t.unix, u.unix⟩,
    i.token ⟨subject, refreshRoles, r, t.unix, v.unix⟩⟩
  have hmint : Gives (i.mint bearer refresh subject roles refreshRoles)
      [.clock t, .drawn b, .drawn r] (.ok set) := by
    refine gives_now_bind.mpr ⟨t, _, rfl, ?_⟩
    refine gives_bind.mpr (.inr ⟨[.drawn b], [.drawn r], _, rfl, gives_claims_of_plus hu b, ?_⟩)
    refine gives_bind.mpr (.inr ⟨[.drawn r], [], _, rfl, gives_claims_of_plus hv r, ?_⟩)
    exact gives_pure.mpr ⟨rfl, rfl⟩
  have hrecord : Gives (recordSet set) [set.bearer.entry.recording (.error e)]
      (.error (.ofRegistry e)) := gives_call_bind.mpr (.inl ⟨e, rfl, rfl⟩)
  refine ⟨_, gives_bind.mpr (.inr ⟨_, _, set, rfl, hmint, gives_bind.mpr (.inl ⟨_, hrecord, rfl⟩)⟩)⟩

end Mint

end Issuer

end SessionTokens

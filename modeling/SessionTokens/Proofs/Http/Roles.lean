import SessionTokens.Proofs.Http.Served
import SessionTokens.Proofs.Http.Trust

/-! Which roles a user's tokens are handed out with: at first those that a trusted caller named, and
after a refresh those that the user has. A refresh token names no roles. -/

namespace SessionTokens.Http.Api

open Program SessionTokens.System

variable {api : Api} {q : Request} {r : Response} {os : List Occurrence} {user : Uuid}
  {roles : List String} {token : String}

/-- The tokens that the answer hands out are a set of this user's, and the access token has these
roles. -/
def Grants (api : Api) (r : Response) (user : Uuid) (roles : List String) : Prop :=
  ∃ t set, api.users.MadeAt .userAccess .userRefresh user roles () t set ∧ api.Carries r .user set

namespace Grants

theorem access (h : api.Grants r user roles) (ht : api.Hands r .userAccess token) :
    ∃ c : AccessClaims, token = api.users.codec.sign c ∧ c.subject = user ∧ c.roles = roles := by
  obtain ⟨t, set, ⟨b, _, e, _, -, -, rfl⟩, hcarries⟩ := h
  rcases hcarries _ _ ht with ⟨-, rfl⟩ | ⟨hk, -⟩
  · exact ⟨⟨user, roles, b, t.unix, e.unix⟩, rfl, rfl, rfl⟩
  · exact nomatch hk

theorem refresh (h : api.Grants r user roles) (ht : api.Hands r .userRefresh token) :
    ∃ c : RefreshClaims, token = api.users.codec.sign c ∧ c.subject = user := by
  obtain ⟨t, set, ⟨_, j, _, e, -, -, rfl⟩, hcarries⟩ := h
  rcases hcarries _ _ ht with ⟨hk, -⟩ | ⟨-, rfl⟩
  · exact nomatch hk
  · exact ⟨⟨user, (), j, t.unix, e.unix⟩, rfl, rfl⟩

end Grants

theorem gives_handler {t : Task} {s : Side} (hasks : q.Asks t s)
    (h : (api.respond q).Yields os r) (hs : r.status = 200) :
    ∃ us ⊆ os, Gives (api.handler t s q) us (.ok r) := by
  obtain ⟨front, back, -, -, hrespond⟩ := respond_of_asks api hasks
  rw [hrespond] at h
  obtain ⟨us, vs, a, rfl, ha, hrest⟩ := yields_bind.mp h
  cases a with
  | ok r' =>
    obtain rfl := (yields_done.mp hrest).2
    exact ⟨us, List.subset_append_left .., ha⟩
  | error causes =>
    obtain ⟨ws, xs, _, -, -, hdone⟩ := yields_bind.mp hrest
    obtain rfl := (yields_done.mp hdone).2
    exact absurd hs (status_ne _)

section Handlers

theorem grants_of_issue (h : Gives (api.issueSession q) os (.ok r)) :
    ∃ user roles, api.Trusts q ∧ (Json.readBytes q.body).read issueUser = .ok (user, roles) ∧
      api.Grants r user roles := by
  rcases Handling.gives_idle_bind idle_trusted h with ⟨-, e, he⟩ | ⟨_, us, htrusts, h, -⟩
  · exact nomatch he
  rcases Handling.gives_idle_bind idle_limitedBody h with
    ⟨-, e, he⟩ | ⟨⟨user, roles⟩, vs, hbody, h, -⟩
  · exact nomatch he
  obtain ⟨set, hset, hr⟩ := gives_map_ok.mp h
  obtain ⟨t, hmade⟩ := Issuer.made_of_issue (Handling.gives_ofOperation_ok.mp hset)
  exact ⟨user, roles, htrusts, hbody, t, set, hmade, hr ▸ carries_withTokens (by simp [expiries])⟩

theorem grants_of_refresh (h : Gives (api.refreshSession q) os (.ok r)) :
    ∃ token old roles audience, refreshToken? q = some token ∧
      api.users.codec.authentic .userRefresh token = .ok (old, audience) ∧
      .roles old.subject (.ok roles) ∈ os ∧ api.Grants r old.subject roles := by
  unfold refreshSession at h
  split at h
  · exact nomatch (gives_throw.mp h).2
  · rename_i token htoken
    obtain ⟨set, hset, hr⟩ := gives_map_ok.mp h
    obtain ⟨t, t', old, roles, hold, hroles, hmade⟩ :=
      User.made_of_rotate (Handling.gives_ofOperation_ok.mp hset)
    exact ⟨token, old, roles, false, htoken, Codec.authentic_of_parse hold, hroles, t', set, hmade,
      hr ▸ carries_withTokens (by simp [expiries])⟩

theorem describes_of_current (h : Gives (api.currentSession q) os (.ok r)) :
    ∃ token c audience, q.bearer? = some token ∧
      api.users.codec.authentic .userAccess token = .ok (c, audience) ∧
      r.Describes c.subject c.roles := by
  rcases gives_gate_bind (s := .user) h with ⟨causes, he, -⟩ | ⟨token, c, us, htoken, ha, hr, -⟩
  · exact nomatch he
  · obtain rfl := Except.ok.inj (gives_pure.mp hr).2
    exact ⟨token, c, false, htoken, ha, _, _, rfl⟩

end Handlers

/-- The answers of the session that `q` began, and how many refreshes led to each: a refresh sends a
cookie that such an answer has set. -/
inductive Chain (api : Api) (u : System Request Response) (q : Request) : Nat → Response → Prop
  | posted {i : Nat} {r : Response} : u.Ended i q r → q.Asks .issue .user → r.status = 200 →
    Chain api u q 0 r
  | refreshed {n i : Nat} {r r' : Response} {q' : Request} {token : String} :
    Chain api u q n r → api.Hands r .userRefresh token → u.Ended i q' r' →
    q'.Asks .exchange .user → refreshToken? q' = some token → r'.status = 200 →
    Chain api u q (n + 1) r'

section Chain

variable {allowed : System Request Response → Happening Request → Prop} {h : Host}
  {ls : List (Happening Request)} {u : System Request Response} {n : Nat}

theorem grants_of_chain (hr : Run api.respond allowed (start h) ls u) (hc : api.Chain u q n r) :
    ∃ user named, api.Trusts q ∧ (Json.readBytes q.body).read issueUser = .ok (user, named) ∧
      api.Grants r user (if n = 0 then named else h.roles.rolesOf user) := by
  induction hc with
  | posted he hasks hs =>
    obtain ⟨us, -, hgives⟩ := gives_handler hasks (hr.yields he).2 hs
    exact grants_of_issue hgives
  | @refreshed n i r r' q' token _ ht he hasks hshows hs ih =>
    obtain ⟨user, named, htrusts, hbody, hgrants⟩ := ih
    obtain ⟨us, hus, hgives⟩ := gives_handler hasks (hr.yields he).2 hs
    obtain ⟨token', old, roles, audience, hshows', hold, hroles, hgrants'⟩ :=
      grants_of_refresh hgives
    obtain rfl := Option.some.inj (hshows.symm.trans hshows')
    obtain ⟨c, rfl, rfl⟩ := hgrants.refresh ht
    obtain rfl := Codec.eq_of_authentic hold
    have hlooked := hr.roles_of_mem (mem_turnsOf.mp (hus hroles))
    refine ⟨_, named, htrusts, hbody, ?_⟩
    rw [if_neg (Nat.succ_ne_zero n)]
    exact hlooked ▸ hgrants'

/-- What is said of an access token that the chain handed out. -/
theorem describes_of_chain (hr : Run api.respond allowed (start h) ls u) (hc : api.Chain u q n r)
    (ht : api.Hands r .userAccess token) {i : Nat} {q' : Request} {r' : Response}
    (he : u.Ended i q' r') (hasks : q'.Asks .current .user) (hshows : q'.bearer? = some token)
    (hs : r'.status = 200) :
    ∃ user named, api.Trusts q ∧ (Json.readBytes q.body).read issueUser = .ok (user, named) ∧
      r'.Describes user (if n = 0 then named else h.roles.rolesOf user) := by
  obtain ⟨user, named, htrusts, hbody, hgrants⟩ := grants_of_chain hr hc
  obtain ⟨us, -, hgives⟩ := gives_handler hasks (hr.yields he).2 hs
  obtain ⟨token', c, audience, hshows', hc, hdescribes⟩ := describes_of_current hgives
  obtain rfl := Option.some.inj (hshows.symm.trans hshows')
  obtain ⟨c', rfl, hsubject, hroles⟩ := hgrants.access ht
  obtain rfl := Codec.eq_of_authentic hc
  rw [hsubject, hroles] at hdescribes
  exact ⟨user, named, htrusts, hbody, hdescribes⟩

end Chain

end SessionTokens.Http.Api

import SessionTokens.Proofs.Http.Reading
import SessionTokens.Proofs.Http.Trust

/-! How requests about tokens are turned down. An answer does not tell for which reason a token
is not good, whether it was missing, and which route was asked. -/

namespace SessionTokens

open Program Operation

namespace SessionError

/-- The failures that say that a token is not good. -/
def Denies : SessionError → Prop
  | malformedToken _ | expiredToken | revokedToken | subjectMismatch | reuseDetected => True
  | _ => False

end SessionError

section Courses

variable {os : List Occurrence} {user : Uuid}

theorem Issuer.not_lookedUp_of_issue {i : Issuer} {bearer refresh : TokenKind} {subject : Uuid}
    {roles : bearer.Roles} {refreshRoles : refresh.Roles} {note : TokenSet → Log.Event}
    {r : Except SessionError TokenSet} {x : Except RoleError (List String)}
    (h : Gives (i.issue bearer refresh subject roles refreshRoles note) os r) :
    .roles user x ∉ os := by
  cases gives_issue h with
  | unminted hm => cases hm <;> simp
  | bearerUnrecorded e hm | refreshUnrecorded e hm | issued hm =>
    cases hm
    simp [Entry.recording]

theorem User.renewal_userNotFound {i : Issuer} {subject : Uuid}
    {r : Except SessionError TokenSet} (h : Gives (renewal i subject) os r)
    (ho : .roles user (.error .userNotFound) ∈ os) : r = .error .revokedToken := by
  rcases gives_rolesOf_bind.mp h with ⟨e, rfl, rfl⟩ | ⟨roles, us, rfl, hi⟩
  · cases List.mem_singleton.mp ho
    rfl
  · rcases List.mem_cons.mp ho with ho | ho
    · cases ho
    · exact absurd ho (Issuer.not_lookedUp_of_issue hi)

/-- A rotation whose user is gone is refused as one of a revoked token. -/
theorem User.rotate_userNotFound {i : Issuer} {token : String}
    {r : Except SessionError TokenSet} (h : Gives (rotate i token) os r)
    (ho : .roles user (.error .userNotFound) ∈ os) : r = .error .revokedToken := by
  obtain ⟨t, us, rfl, ⟨e, -, rfl, -⟩ | ⟨old, -, hx⟩⟩ := gives_rotate.mp h
  · simp at ho
  have ho : .roles user (.error .userNotFound) ∈ us := by simpa using ho
  have hnote : ∀ {x : Except RegistryError RevokeOutcome} {note : SessionError → Log.Event},
      .roles user (.error .userNotFound) ∉ Ledger.failureNote note x := by
    intro x note
    cases x <;> simp [Ledger.failureNote]
  have hrenewal : ∀ {ws : List Occurrence} {set : TokenSet},
      Gives (renewal i old.subject) ws (.ok set) → .roles user (.error .userNotFound) ∉ ws :=
    fun hn ho => absurd (renewal_userNotFound hn ho) (by simp)
  cases Issuer.gives_exchange hx with
  | @refused a e =>
    have hreuse : .roles user (.error .userNotFound) ∉ Issuer.reuseNote old token a := by
      unfold Issuer.reuseNote
      split <;> simp [Issuer.reuseReport]
    simp [hreuse] at ho
  | unrenewed hn => exact renewal_userNotFound hn (by simpa using ho)
  | lost x y hn =>
    simp [hrenewal hn, hnote, Entry.revocation, Issuer.reuseReport, Issuer.withdrawal,
      Ledger.attempted] at ho
  | unfinished x hn _ hf => exact absurd (gives_emit.mp hf).2 (by simp)
  | won x hn _ hf =>
    obtain ⟨rfl, -⟩ := gives_emit.mp hf
    simp [hrenewal hn, hnote, Entry.revocation, Ledger.attempted] at ho

end Courses

namespace Services

variable {v : Services} {os us : List Occurrence}

/-- Something else revoked the token first. -/
def Raced (os : List Occurrence) : Prop :=
  ∃ j e, os.find? (·.isRevoke) = some (.called (.revoke j e) (.ok .alreadyRevoked))

theorem find_revoke_dealings : (dealings os).find? (·.isRevoke) = os.find? (·.isRevoke) := by
  rw [dealings, List.find?_filter]
  congr 1
  funext o
  cases o <;> simp [Occurrence.isDealing, Occurrence.isRevoke]

theorem exchange_raced {i : Issuer} {s : Side} {old : Claims s.refresh} {extra : List Entry}
    {r : Except SessionError TokenSet} (h : ExchangeDeals i s old extra os us r)
    (hraced : Raced us) : r = .error .reuseDetected := by
  obtain ⟨j, e, hfirst⟩ := hraced
  cases h with
  | refused => simp [Occurrence.isRevoke] at hfirst
  | unrenewed h =>
    have hmem := List.mem_of_find?_eq_some hfirst
    cases h <;> simp [Entry.recording] at hmem
  | lost => rfl
  | @won set x closing _ hx =>
    have hold : some (old.entry.revocation x) =
        some (.called (.revoke j e) (.ok .alreadyRevoked)) := by
      rw [← hfirst]
      simp [TokenSet.registration, Entry.recording, Entry.revocation, Occurrence.isRevoke]
    cases Option.some.inj hold
    exact absurd rfl hx

/-- A rotation that finds its token revoked by something else is refused as a reuse. -/
theorem rotate_raced {s : Side} {companion : s.Companion} {token : String}
    {a : Except SessionError Reply} (h : Gives (v.operation (.rotate s companion token)) os a)
    (hraced : Raced os) : a = .error .reuseDetected := by
  have hdeals : v.Deals os (.rotate s companion token) (dealings os) a := deals h
  have hraced : Raced (dealings os) := by
    obtain ⟨j, e, hfirst⟩ := hraced
    exact ⟨j, e, find_revoke_dealings.trans hfirst⟩
  cases hdeals with
  | rotate hd =>
    generalize dealings os = us at hd hraced
    cases hd with
    | unread =>
      obtain ⟨_, _, hfirst⟩ := hraced
      exact nomatch hfirst
    | exchanged _ hx =>
      rw [exchange_raced hx hraced]
      rfl

end Services

namespace Http

namespace Handling

variable {α β : Type} {os us : List Occurrence} {e : ApiError}

/-- Having met with `os`, it can only turn the request down, and only for this reason. -/
def Refuses (x : Handling α) (os : List Occurrence) (e : ApiError) : Prop :=
  ∃ p, x.run.Leads os p ∧ ∀ us a, p.Yields us a → a = .error [.refused e]

theorem refuses_reject : Refuses (reject (.refused e) : Handling α) [] e :=
  ⟨_, .refl _, fun _ _ h => (yields_done.mp h).2⟩

theorem Refuses.bind {x : Handling α} (h : Refuses x os e) (f : α → Handling β) :
    Refuses (x >>= f) os e := by
  obtain ⟨p, hp, hrest⟩ := h
  refine ⟨_, hp.bind (ExceptT.bindCont f), fun us a ha => ?_⟩
  obtain ⟨vs, ws, y, rfl, hy, hend⟩ := yields_bind.mp ha
  obtain rfl := hrest _ _ hy
  exact (yields_done.mp hend).2

theorem Refuses.after {x : Handling α} {f : α → Handling β} {a : α} (hx : Gives x us (.ok a))
    (h : Refuses (f a) os e) : Refuses (x >>= f) (us ++ os) e := by
  obtain ⟨p, hp, hrest⟩ := h
  have hlead : (x >>= f).run.Leads us (f a).run := Leads.bind hx (ExceptT.bindCont f)
  exact ⟨p, hlead.trans hp, hrest⟩

theorem refuses_ofOperation {op : Operation α} {e : SessionError} (h : Gives op os (.error e)) :
    Refuses (ofOperation op) os (.ofSession e) := by
  let rest : Handling α := do
    emitAll (ApiError.sessionEvents e)
    reject (.refused (.ofSession e))
  have hlead : (ofOperation op).run.Leads os rest.run := by
    refine Leads.bind (p := op.run >>= fun a => done (Except.ok a)) (q := done (.ok (.error e)))
      ?_ (ExceptT.bindCont _)
    exact Leads.bind h _
  refine ⟨_, hlead, fun us a ha => ?_⟩
  have ha : Gives rest us a := ha
  rcases gives_bind.mp ha with ⟨causes, hc, -⟩ | ⟨vs, ws, _, rfl, -, hr⟩
  · exact nomatch gives_emitAll hc
  · exact (gives_throw.mp hr).2

end Handling

namespace Api

variable {api : Api} {q : Request} {os us vs : List Occurrence} {e : ApiError}

/-- A request that is met with `os` first has this of the services done for it. -/
inductive Puts (api : Api) (q : Request) : List Occurrence → Services.Request → Prop
  | issueUser {user : Uuid} {roles : List String} : q.Asks .issue .user → api.Trusts q →
    q.Brings issueUser (user, roles) → Puts api q [] (.issue .user user roles)
  | issueDevice {device : Uuid} : q.Asks .issue .device → api.Trusts q →
    q.Brings issueDevice device → Puts api q [] (.issue .device device ())
  | validate {t : Task} {s : Side} {token : String} : q.Asks t s → t = .current ∨ t = .logout →
    q.bearer? = some token → Puts api q [] (.validate s token)
  | exchangeUser {token : String} : q.Asks .exchange .user → refreshToken? q = some token →
    Puts api q [] (.rotate .user () token)
  | exchangeDevice {connection token : String} : q.Asks .exchange .device →
    q.Brings rotateDevice (connection, token) → Puts api q [] (.rotate .device connection token)
  | logoutUser {os : List Occurrence} {token : String} {c : AccessClaims} :
    q.Asks .logout .user → q.bearer? = some token →
    Gives (api.services.operation (.validate .user token)) os (.ok (.validated .user c)) →
    Puts api q os (.logout .user c (refreshToken? q))
  | logoutDevice {os : List Occurrence} {token : String} {c : ConnectionClaims}
    {shown : Option String} : q.Asks .logout .device → q.bearer? = some token →
    Gives (api.services.operation (.validate .device token)) os (.ok (.validated .device c)) →
    q.Brings logoutDevice shown → Puts api q os (.logout .device c shown)

/-- In a course of an answer to `q`, the services fail with `e`. -/
def Fails (api : Api) (q : Request) (os : List Occurrence) (e : SessionError) : Prop :=
  ∃ us vs ws req, api.Puts q us req ∧ Gives (api.services.operation req) vs (.error e) ∧
    os = us ++ vs ++ ws

/-- The ways in which a request about a token is turned down for want of a good one. -/
inductive TurnedDown (api : Api) (q : Request) : List Occurrence → Prop
  | noBearer {os : List Occurrence} {t : Task} {s : Side} : q.Asks t s →
    t = .current ∨ t = .logout → q.LacksBearer → TurnedDown api q os
  | noCookie {os : List Occurrence} : q.Asks .exchange .user → refreshToken? q = none →
    TurnedDown api q os
  | denied {os : List Occurrence} {e : SessionError} : api.Fails q os e → e.Denies →
    TurnedDown api q os
  | userGone {us vs ws : List Occurrence} {user : Uuid} {token : String}
    {a : Except SessionError Services.Reply} : api.Puts q us (.rotate .user () token) →
    Gives (api.services.operation (.rotate .user () token)) vs a →
    .roles user (.error .userNotFound) ∈ vs → TurnedDown api q (us ++ vs ++ ws)
  | raced {us vs ws : List Occurrence} {s : Side} {companion : s.Companion} {token : String}
    {a : Except SessionError Services.Reply} : api.Puts q us (.rotate s companion token) →
    Gives (api.services.operation (.rotate s companion token)) vs a → Services.Raced vs →
    TurnedDown api q (us ++ vs ++ ws)

theorem refuses_gate {s : Side} {token : String} {e : SessionError} {α : Type}
    {f : Claims s.bearer → Handling α} (hbearer : q.bearer? = some token)
    (h : Gives ((api.services.issuer s).validate s.bearer token) os (.error e)) :
    Handling.Refuses ((bearer q >>= fun token =>
      Handling.ofOperation ((api.services.issuer s).validate s.bearer token)) >>= f) os
      (.ofSession e) := by
  rw [bearer_of_bearer? hbearer, pure_bind]
  exact (Handling.refuses_ofOperation h).bind f

theorem refuses_lacksBearer {t : Task} {s : Side} (ht : t = .current ∨ t = .logout)
    (h : q.LacksBearer) : (api.handler t s q).Refuses [] .invalidToken := by
  have hgate : ∀ {α β : Type} (op : String → Operation α) (f : α → Handling β),
      ((bearer q >>= fun token => Handling.ofOperation (op token)) >>= f).Refuses []
        .invalidToken := by
    intro α β op f
    rw [bearer_of_lacksBearer h]
    exact (Handling.refuses_reject.bind _).bind f
  rcases ht with rfl | rfl <;> cases s
  · exact hgate (User.validate api.users) _
  · exact hgate (Device.validate api.devices) _
  · exact hgate (User.validate api.users) _
  · exact hgate (Device.validate api.devices) _

theorem gate_passed {s : Side} {token : String} {c : Claims s.bearer}
    (hbearer : q.bearer? = some token)
    (h : Gives ((api.services.issuer s).validate s.bearer token) os (.ok c)) :
    Gives (bearer q >>= fun token =>
      Handling.ofOperation ((api.services.issuer s).validate s.bearer token)) os (.ok c) := by
  rw [bearer_of_bearer? hbearer, pure_bind]
  exact Handling.gives_ofOperation_ok.mpr h

theorem refuses_of_puts {req : Services.Request} {e : SessionError} (h : api.Puts q us req)
    (he : Gives (api.services.operation req) vs (.error e)) :
    ∃ t s, q.Asks t s ∧ (api.handler t s q).Refuses (us ++ vs) (.ofSession e) := by
  cases h with
  | issueUser hasks htrusts hbrings =>
    have hr := gives_map_error.mp he
    refine ⟨_, _, hasks, ?_⟩
    rw [handler, issueSession, trusted_of_trusts htrusts, limitedBody_of_brings hbrings]
    exact (Handling.refuses_ofOperation hr).bind _
  | issueDevice hasks htrusts hbrings =>
    have hr := gives_map_error.mp he
    refine ⟨_, _, hasks, ?_⟩
    rw [handler, issueDeviceSession, trusted_of_trusts htrusts, limitedBody_of_brings hbrings]
    exact (Handling.refuses_ofOperation hr).bind _
  | @validate t s token hasks ht hbearer =>
    refine ⟨t, s, hasks, ?_⟩
    cases s with
    | user =>
      have hr := gives_map_error.mp he
      rcases ht with rfl | rfl
      · exact refuses_gate (s := .user) hbearer hr
      · exact refuses_gate (s := .user) hbearer hr
    | device =>
      have hr := gives_map_error.mp he
      rcases ht with rfl | rfl
      · exact refuses_gate (s := .device) hbearer hr
      · exact refuses_gate (s := .device) hbearer hr
  | exchangeUser hasks hshown =>
    have hr := gives_map_error.mp he
    refine ⟨_, _, hasks, ?_⟩
    simp only [handler, refreshSession, hshown]
    exact (Handling.refuses_ofOperation hr).bind _
  | exchangeDevice hasks hbrings =>
    have hr := gives_map_error.mp he
    refine ⟨_, _, hasks, ?_⟩
    rw [handler, refreshDeviceSession, limitedBody_of_brings hbrings]
    exact (Handling.refuses_ofOperation hr).bind _
  | logoutUser hasks hbearer hvalid =>
    obtain ⟨c, hc, hreply⟩ := gives_map_ok.mp hvalid
    cases hreply
    have hr := gives_map_error.mp he
    exact ⟨_, _, hasks,
      ((Handling.refuses_ofOperation hr).bind _).after (gate_passed (s := .user) hbearer hc)⟩
  | logoutDevice hasks hbearer hvalid hbrings =>
    obtain ⟨c, hc, hreply⟩ := gives_map_ok.mp hvalid
    cases hreply
    have hr := gives_map_error.mp he
    refine ⟨_, _, hasks, Handling.Refuses.after (gate_passed (s := .device) hbearer hc) ?_⟩
    rw [limitedBody_of_brings hbrings]
    exact (Handling.refuses_ofOperation hr).bind _

section Answers

variable {t : Task} {s : Side} {r : Response}

theorem answer_of_refuses (hasks : q.Asks t s) (h : (api.handler t s q).Refuses os e)
    (hr : (api.respond q).Yields (os ++ us) r) : r = e.response := by
  obtain ⟨front, back, hfront, -, hrespond⟩ := respond_of_asks api hasks
  obtain ⟨p, hp, hrest⟩ := h
  rw [hrespond] at hr
  obtain ⟨vs, ws, a, rfl, ha, hend⟩ := yields_bind.mp ((hp.bind _).rest hr)
  obtain rfl := hrest _ _ ha
  have hend : (Route.conclude (front ++ [.refused e] ++ back)).Yields ws r := hend
  rw [Route.conclude_refused hfront] at hend
  exact (yields_done.mp hend).2

theorem answer_of_fails {e : SessionError} (h : api.Fails q os e)
    (hr : (api.respond q).Yields os r) : r = (ApiError.ofSession e).response := by
  obtain ⟨us, vs, ws, req, hputs, he, rfl⟩ := h
  obtain ⟨t, s, hasks, hrefuses⟩ := refuses_of_puts hputs he
  exact answer_of_refuses hasks hrefuses hr

/-- Whenever the services have failed, an answer follows. -/
theorem exists_answer_of_fails {e : SessionError} (h : api.Fails q os e) :
    ∃ us r, (api.respond q).Yields us r ∧ api.Fails q us e := by
  obtain ⟨us, vs, ws, req, hputs, he, rfl⟩ := h
  obtain ⟨t, s, hasks, p, hp, -⟩ := refuses_of_puts hputs he
  obtain ⟨front, back, -, -, hrespond⟩ := respond_of_asks api hasks
  obtain ⟨answer, hanswer⟩ : ∃ answer, api.respond q = (api.handler t s q).run.bind answer :=
    ⟨_, hrespond⟩
  obtain ⟨xs, r, hr⟩ := exists_yields (p.bind answer)
  exact ⟨_, r, hanswer ▸ (hp.bind answer).trans hr, us, vs, xs, req, hputs, he, rfl⟩

theorem ofSession_of_denies {e : SessionError} (h : e.Denies) :
    ApiError.ofSession e = .invalidToken := by
  cases e <;> first | rfl | exact h.elim

theorem answer_of_turnedDown (h : api.TurnedDown q os) (hr : (api.respond q).Yields os r) :
    r = ApiError.invalidToken.response := by
  cases h with
  | @noBearer _ t s hasks ht hlacks =>
    have hrefuses : (api.handler t s q).Refuses [] .invalidToken := refuses_lacksBearer ht hlacks
    exact answer_of_refuses hasks hrefuses hr
  | noCookie hasks hnone =>
    have hrefuses : (api.handler .exchange .user q).Refuses [] .invalidToken := by
      simp only [handler, refreshSession, hnone]
      exact Handling.refuses_reject
    exact answer_of_refuses hasks hrefuses hr
  | denied hfails hdenies => rw [answer_of_fails hfails hr, ofSession_of_denies hdenies]
  | @userGone us vs ws user token a hputs ha hgone =>
    obtain rfl : a = .error .revokedToken := by
      obtain ⟨x, hx, rfl⟩ := gives_map.mp ha
      rw [User.rotate_userNotFound hx hgone]
      rfl
    exact answer_of_fails ⟨us, vs, ws, _, hputs, ha, rfl⟩ hr
  | @raced us vs ws s companion token a hputs ha hraced =>
    obtain rfl := Services.rotate_raced ha hraced
    exact answer_of_fails ⟨us, vs, ws, _, hputs, ha, rfl⟩ hr

theorem plain_of_refused (e : ApiError) {h : Header} (hh : h ∈ e.response.headers) :
    h.name = "content-type" := by
  rw [List.mem_singleton.mp hh]

theorem refused_of_status (hr : (api.respond q).Yields os r) (hs : 400 ≤ r.status) :
    ∃ e : ApiError, r = e.response := by
  rcases (Route.yields_respond hr).1 with he | ⟨us, hhandles⟩
  · exact he
  · rw [(course_of_handles hhandles).status] at hs
    exact absurd hs (by decide)

/-- Any two requests about tokens are answered alike if they are turned down for want of a good
token, by whatever route and for whatever reason. Only failures that say nothing of a token have
other answers, and no answer with an error hands out or takes back anything. -/
theorem no_oracle :
    (∀ (api api' : Api) (q q' : Request) (os os' : List Occurrence) (r r' : Response),
        (api.respond q).Yields os r → (api'.respond q').Yields os' r' →
        api.TurnedDown q os → api'.TurnedDown q' os' → r = r' ∧ r.status = 401) ∧
      (∀ (api : Api) (q : Request) (os : List Occurrence) (r : Response) (e : SessionError),
        (api.respond q).Yields os r → api.Fails q os e →
        (e.isIndeterminate = true → r.status = 503) ∧
          ((∃ x, e = .internal x) → r.status = 500)) ∧
      ∀ (api : Api) (q : Request) (os : List Occurrence) (r : Response),
        (api.respond q).Yields os r → 400 ≤ r.status → ∀ h ∈ r.headers,
          h.name ≠ "authorization" ∧ h.name ≠ "set-cookie" := by
  refine ⟨fun api api' q q' os os' r r' hr hr' hdown hdown' => ?_,
    fun api q os r e hr hfails => ?_, fun api q os r hr hs h hh => ?_⟩
  · rw [answer_of_turnedDown hdown hr, answer_of_turnedDown hdown' hr']
    exact ⟨rfl, rfl⟩
  · rw [answer_of_fails hfails hr]
    refine ⟨fun hi => ?_, fun ⟨x, hx⟩ => hx ▸ rfl⟩
    cases e <;> first | rfl | exact nomatch hi
  · obtain ⟨e, rfl⟩ := refused_of_status hr hs
    rw [plain_of_refused e hh]
    exact ⟨by decide, by decide⟩

/-- A request without a token, one with a text that is none, and one under a registry that does
not answer. -/
theorem unlike_refusals_answered :
    ∃ (os os' us : List Occurrence) (r r' r'' : Response),
      (sample.respond ⟨"GET", "/api/v1/session", [], []⟩).Yields os r ∧
        (sample.respond ⟨"POST", "/api/v1/session/refresh",
          [⟨"cookie", "meshpoint_refresh=x"⟩], []⟩).Yields os' r' ∧
        (sample.respond posted).Yields us r'' ∧ (r = r' ∧ r.status = 401) ∧ r''.status = 503 ∧
        ∀ h ∈ r''.headers, h.name ≠ "authorization" ∧ h.name ≠ "set-cookie" := by
  let q : Request := ⟨"GET", "/api/v1/session", [], []⟩
  let q' : Request :=
    ⟨"POST", "/api/v1/session/refresh", [⟨"cookie", "meshpoint_refresh=x"⟩], []⟩
  have hbelow : q.below mount = some "session".toList := by decide +kernel
  have hbelow' : q'.below mount = some "session/refresh".toList := by decide +kernel
  have hasks : q.Asks .current .user := ⟨rfl, _, hbelow, by decide +kernel⟩
  have hasks' : q'.Asks .exchange .user := ⟨rfl, _, hbelow', by decide +kernel⟩
  have hlacks : q.LacksBearer := nofun
  have hfails : sample.Fails q' [.clock ⟨0⟩] (.malformedToken .parts) := by
    have hunread : sample.users.codec.parse .userRefresh 0 "x" = .error (.malformed .parts) := rfl
    have hrotate := User.gives_rotate.mpr
      ⟨⟨0⟩, [], rfl, .inl ⟨_, hunread, rfl, rfl⟩⟩
    exact ⟨[], _, [], _, .exchangeUser hasks' (by decide +kernel), gives_map_error.mpr hrotate, rfl⟩
  obtain ⟨os, hposted⟩ : ∃ os, sample.Fails posted os (.ofRegistry .timedOut) := by
    have hbelow : posted.below mount = some "session".toList := by decide +kernel
    have hread : ((Json.readBytes posted.body).read issueUser).isOk = true := by decide +kernel
    obtain ⟨⟨user, roles⟩, hbody⟩ : ∃ x, (Json.readBytes posted.body).read issueUser = .ok x := by
      cases hx : (Json.readBytes posted.body).read issueUser with
      | ok x => exact ⟨x, rfl⟩
      | error e => exact nomatch hx ▸ hread
    obtain ⟨u, hu⟩ : ∃ u, (⟨0⟩ : Instant).plus? sample.users.bearerTtl = some u := ⟨_, rfl⟩
    obtain ⟨v, hv⟩ : ∃ v, (⟨0⟩ : Instant).plus? sample.users.refreshTtl = some v := ⟨_, rfl⟩
    obtain ⟨_, hissue⟩ := Issuer.gives_issue_of_unrecorded hu hv ⟨""⟩ ⟨"x"⟩ .timedOut
    exact ⟨_, [], _, [], _, .issueUser ⟨rfl, _, hbelow, by decide +kernel⟩
      ⟨"key", by decide +kernel, rfl⟩ ⟨⟨50, by decide, by decide +kernel⟩, nofun, hbody⟩,
      gives_map_error.mpr hissue, rfl⟩
  obtain ⟨os, r, hr⟩ := exists_yields (sample.respond q)
  obtain ⟨os', r', hr', hfails⟩ := exists_answer_of_fails hfails
  obtain ⟨us, r'', hr'', hposted⟩ := exists_answer_of_fails hposted
  have hstatus : r''.status = 503 := (no_oracle.2.1 _ _ _ _ _ hr'' hposted).1 rfl
  exact ⟨os, os', us, r, r', r'', hr, hr', hr'',
    no_oracle.1 _ _ _ _ _ _ _ _ hr hr' (.noBearer hasks (.inl rfl) hlacks)
      (.denied hfails trivial), hstatus,
    no_oracle.2.2 _ _ _ _ hr'' (by rw [hstatus]; decide)⟩

end Answers

end Api

end Http

end SessionTokens

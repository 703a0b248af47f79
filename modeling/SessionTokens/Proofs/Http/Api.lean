import SessionTokens.Http.Api
import SessionTokens.Proofs.Http.Route
import SessionTokens.Proofs.Session.Dealings
import SessionTokens.Proofs.Text.Numerals

/-! What the routes of the session service do with a request: which operation they ask of which
side, and what their answers hand out. -/

namespace SessionTokens

namespace Http

open Program

def Response.Says (r : Response) (name : String) (v : Json.Value) : Prop :=
  ∃ members, r.body = .obj [("success", .bool true), ("data", .obj members), ("error", .null)] ∧
    (name, v) ∈ members

inductive Task where
  | issue
  | current
  | exchange
  | logout
  deriving DecidableEq, Repr

namespace Task

def method : Task → String
  | current => "GET"
  | _ => "POST"

def path : Task → Side → List String
  | issue, .user => ["session"]
  | issue, .device => ["device", "session"]
  | current, .user => ["session"]
  | current, .device => ["device", "session"]
  | exchange, .user => ["session", "refresh"]
  | exchange, .device => ["device", "refresh"]
  | logout, .user => ["session", "logout"]
  | logout, .device => ["device", "logout"]

end Task

namespace Request

def Asks (q : Request) (t : Task) (s : Side) : Prop := q.Reaches Api.mount t.method (t.path s)

theorem Asks.unique {q : Request} {t t' : Task} {s s' : Side} (h : q.Asks t s)
    (h' : q.Asks t' s') : t = t' ∧ s = s' := by
  have hpath : ∀ (t : Task) (s : Side), "" ∉ t.path s := by
    intro t s
    cases t <;> cases s <;> decide
  have heq := Reaches.unique h h' (hpath t s) (hpath t' s')
  cases t <;> cases t' <;> cases s <;> cases s' <;>
    first | exact ⟨rfl, rfl⟩ | exact absurd heq (by decide)

theorem Asks.congr {q q' : Request} {t : Task} {s : Side} (h : q.Asks t s)
    (hmethod : q'.method = q.method) (hpath : q'.path = q.path) : q'.Asks t s := by
  obtain ⟨hm, below, hbelow, hend⟩ := h
  exact ⟨hmethod.trans hm, below, by rw [← hbelow, Request.below, Request.below, hpath], hend⟩

def bearer? (q : Request) : Option String :=
  ((q.first? "authorization").bind Header.plain?).bind Api.bearerOf?

def key? (q : Request) : Option String := (q.first? "x-service-key").bind Header.plain?

def Names (q : Request) : Side → Uuid → Prop
  | .user, user => ∃ roles, (Json.readBytes q.body).read Api.issueUser = .ok (user, roles)
  | .device, device => (Json.readBytes q.body).read Api.issueDevice = .ok device

/-- The request shows a refresh token, and what else goes with it. -/
def Shows (q : Request) : (s : Side) → s.Companion → String → Prop
  | .user, _, token => Api.refreshToken? q = some token
  | .device, connection, token =>
    (Json.readBytes q.body).read Api.rotateDevice = .ok (connection, token)

theorem Names.unique {q : Request} {s : Side} {subject subject' : Uuid} (h : q.Names s subject)
    (h' : q.Names s subject') : subject = subject' := by
  cases s with
  | user =>
    obtain ⟨roles, h⟩ := h
    obtain ⟨roles', h'⟩ := h'
    exact (Prod.mk.inj (Except.ok.inj (h.symm.trans h'))).1
  | device => exact Except.ok.inj (h.symm.trans h')

theorem Shows.unique {q : Request} {s : Side} {c c' : s.Companion} {token token' : String}
    (h : q.Shows s c token) (h' : q.Shows s c' token') : token = token' := by
  cases s with
  | user => exact Option.some.inj (h.symm.trans h')
  | device => exact (Prod.mk.inj (Except.ok.inj (h.symm.trans h'))).2

end Request

namespace Api

variable {api : Api} {q : Request} {os : List Occurrence}

def services (api : Api) : Services := ⟨api.users, api.devices⟩

def sample : Api := ⟨Services.sample.users, Services.sample.devices, "key", 1000, false⟩

def digest (s : String) : List UInt8 := Sha256.digest (Utf8.encode s.toList)

/-- The response hands out a token of a kind: a user's access token in a header, the refresh
token in a cookie, and both tokens of a device in its data. -/
def Hands (api : Api) (r : Response) : TokenKind → String → Prop
  | .userAccess, token => ⟨"authorization", "Bearer " ++ token⟩ ∈ r.headers
  | .userRefresh, token =>
    ⟨"set-cookie", (api.cookie token api.users.refreshTtl.seconds).text⟩ ∈ r.headers
  | .deviceConnection, token => r.Says "connection_token" (.str token)
  | .deviceRefresh, token => r.Says "refresh_token" (.str token)

def Carries (api : Api) (r : Response) (s : Side) (set : TokenSet) : Prop :=
  ∀ k token, api.Hands r k token →
    (k = s.bearer ∧ token = set.bearer.text) ∨ (k = s.refresh ∧ token = set.refresh.text)

theorem says_success {members : List (String × Json.Value)} {name : String} {v : Json.Value} :
    (success (.obj members)).Says name v ↔ (name, v) ∈ members := by
  simp [success, Response.json, Response.Says]

theorem not_hands_success {members : List (String × Json.Value)} {k : TokenKind} {token : String}
    (hm : ∀ m ∈ members, m.1 ≠ "connection_token" ∧ m.1 ≠ "refresh_token") :
    ¬ api.Hands (success (.obj members)) k token := by
  intro h
  cases k with
  | userAccess => simp [Hands, success, Response.json] at h
  | userRefresh => simp [Hands, success, Response.json] at h
  | deviceConnection => exact (hm _ (says_success.mp h)).1 rfl
  | deviceRefresh => exact (hm _ (says_success.mp h)).2 rfl

/-- The text of a cookie, cut behind its value. -/
theorem toList_cookie (value : String) (maxAge : Nat) :
    (api.cookie value maxAge).text.toList = (refreshCookie ++ "=").toList ++ (value.toList ++
      ("; HttpOnly; SameSite=Lax; Path=/api/v1/session; Max-Age=".toList ++
        (Decimal.ofNat maxAge ++ (if api.secureCookies then "; Secure" else "").toList))) := by
  unfold cookie SetCookie.text SetCookie.pairText
  cases api.secureCookies <;> simp

theorem cookie_injective {a b : String} {maxAge : Nat}
    (h : (api.cookie a maxAge).text = (api.cookie b maxAge).text) : a = b := by
  have hl := congrArg String.toList h
  rw [toList_cookie, toList_cookie] at hl
  exact String.toList_inj.mp (List.append_cancel_right (List.append_cancel_left hl))

theorem eq_of_cookie_empty {a : String} {maxAge : Nat}
    (h : (api.cookie a maxAge).text = (api.cookie "" 0).text) : a = "" := by
  have hl := congrArg (fun s : String => s.toList.length) h
  have hn := List.length_pos_iff.mpr (Decimal.ofNat_ne_nil maxAge)
  simp only [toList_cookie, List.length_append, Decimal.ofNat_zero, List.length_singleton] at hl
  refine String.toList_eq_nil_iff.mp (List.length_eq_zero_iff.mp ?_)
  simp only [String.toList_empty, List.length_nil] at hl
  omega

theorem carries_withTokens {members : List (String × Json.Value)} {set : TokenSet}
    (hm : ∀ m ∈ members, m.1 ≠ "connection_token" ∧ m.1 ≠ "refresh_token") :
    api.Carries (api.withTokens (success (.obj members)) set) .user set := by
  have hdata : ∀ {name : String} {v : Json.Value},
      (api.withTokens (success (.obj members)) set).Says name v → (name, v) ∈ members :=
    fun h => says_success.mp h
  intro k token h
  cases k with
  | userAccess =>
    have hb : "Bearer " ++ token = "Bearer " ++ set.bearer.text := by
      simpa [Hands, withTokens, setCookie, Response.withHeader, success, Response.json] using h
    have hl := congrArg String.toList hb
    rw [String.toList_append, String.toList_append] at hl
    exact .inl ⟨rfl, String.toList_inj.mp (List.append_cancel_left hl)⟩
  | userRefresh =>
    have hc : (api.cookie token api.users.refreshTtl.seconds).text =
        (api.cookie set.refresh.text api.users.refreshTtl.seconds).text := by
      simpa [Hands, withTokens, setCookie, Response.withHeader, success, Response.json] using h
    exact .inr ⟨rfl, cookie_injective hc⟩
  | deviceConnection => exact absurd rfl (hm _ (hdata h)).1
  | deviceRefresh => exact absurd rfl (hm _ (hdata h)).2

theorem carries_deviceSet {set : TokenSet} :
    api.Carries (success (deviceSet set)) .device set := by
  intro k token h
  cases k with
  | userAccess => simp [Hands, success, Response.json] at h
  | userRefresh => simp [Hands, success, Response.json] at h
  | deviceConnection =>
    have hd : token = set.bearer.text := by
      simpa [expiries] using says_success.mp h
    exact .inl ⟨rfl, hd⟩
  | deviceRefresh =>
    have hd : token = set.refresh.text := by
      simpa [expiries] using says_success.mp h
    exact .inr ⟨rfl, hd⟩

section Idle

open Handling

def Trusts (api : Api) (q : Request) : Prop :=
  ∃ key, q.key? = some key ∧ digest key = digest api.serviceKey

theorem idle_trusted : Idle (api.trusted q) fun _ => api.Trusts q := by
  have hreject : Idle (do
      Handling.emit .untrustedIssuer
      Handling.reject (.refused .untrustedCaller) : Handling Unit) fun _ => api.Trusts q :=
    idle_emit.bind fun _ _ => idle_throw
  unfold trusted
  refine idle_header?.bind fun value hv => ?_
  cases value with
  | none => exact hreject
  | some key =>
    dsimp only
    split
    · rename_i hd
      exact idle_pure ⟨key, hv.symm, hd⟩
    · exact hreject

theorem idle_bearer : Idle (bearer q) fun token => q.bearer? = some token := by
  unfold bearer
  refine idle_header?.bind fun value hv => ?_
  split
  · rename_i token ht
    exact idle_pure (by rw [Request.bearer?, ← hv, ht])
  · exact idle_throw

theorem idle_limitedBody {α : Type} {value : Json.Node → Json.Reading α} :
    Idle (limitedBody q value) fun a => (Json.readBytes q.body).read value = .ok a :=
  idle_limitLength.bind fun _ _ => idle_body

end Idle

inductive Outcome (api : Api) (s : Side) :
    Except SessionError TokenSet → Except Rejection Response → Prop
  | answered {set : TokenSet} {r : Response} : r.status = 200 → api.Carries r s set →
    Outcome api s (.ok set) (.ok r)
  | refused (e : SessionError) (causes : Rejection) : Outcome api s (.error e) (.error causes)

/-- What a request that reaches a route has dealings with, and what becomes of it. -/
inductive Course (api : Api) (q : Request) : List Occurrence → Except Rejection Response → Prop
  | issue {s : Side} {subject : Uuid} {us ds : List Occurrence} {x : Except SessionError TokenSet}
    {a : Except Rejection Response} : q.Asks .issue s → api.Trusts q →
    q.Names s subject → IssueDeals (api.services.issuer s) s subject us ds x →
    api.Outcome s x a → Course api q ds a
  | exchange {s : Side} {companion : s.Companion} {token : String} {us ds : List Occurrence}
    {x : Except SessionError TokenSet} {a : Except Rejection Response} :
    q.Asks .exchange s → q.Shows s companion token →
    RotateDeals api.services s companion token us ds x → api.Outcome s x a → Course api q ds a
  | current {s : Side} {token : String} {c : Claims s.bearer} {r : Response} :
    q.Asks .current s → q.bearer? = some token →
    (api.services.issuer s).codec.authentic s.bearer token = .ok (c, false) → r.status = 200 →
    r.Says "subject" (.str c.subject.text) → (∀ k token, api.Hands r k token → token = "") →
    Course api q [.called (.state c.jti) (.ok .active)] (.ok r)
  | ended {s : Side} {ds : List Occurrence} {r : Response} :
    q.Asks .logout s → (∀ j e x, .called (.record j e) x ∉ ds) → r.status = 200 →
    (∀ k token, api.Hands r k token → token = "") → Course api q ds (.ok r)
  | refused {ds : List Occurrence} (causes : Rejection) : (∀ j e x, .called (.record j e) x ∉ ds) →
    Course api q ds (.error causes)

theorem outcome_of_answered {s : Side} {x : Except SessionError TokenSet}
    {a : Except Rejection Response} {f : TokenSet → Response}
    (hstatus : ∀ set, (f set).status = 200)
    (hcarries : ∀ set, api.Carries (f set) s set)
    (h : (∃ set, x = .ok set ∧ a = .ok (f set)) ∨ ∃ e causes, x = .error e ∧ a = .error causes) :
    api.Outcome s x a := by
  rcases h with ⟨set, rfl, rfl⟩ | ⟨e, causes, rfl, rfl⟩
  · exact .answered (hstatus set) (hcarries set)
  · exact .refused e causes

section Courses

variable {a : Except Rejection Response}

theorem course_issueSession (h : Gives (api.issueSession q) os a)
    (hq : q.Asks .issue .user) : api.Course q (dealings os) a := by
  rcases Handling.gives_idle_bind idle_trusted h with ⟨hd, e, rfl⟩ | ⟨_, us, htrusts, h, hd⟩
  · exact hd ▸ .refused e nofun
  rw [hd]
  rcases Handling.gives_idle_bind idle_limitedBody h with
    ⟨hd, e, rfl⟩ | ⟨⟨user, roles⟩, vs, hbody, h, hd⟩
  · exact hd ▸ .refused e nofun
  rw [hd]
  obtain ⟨ws, x, hx, hd, ho⟩ := Handling.gives_ofOperation_return h
  rw [hd]
  refine .issue (s := .user) hq htrusts ⟨roles, hbody⟩ (Issuer.dealings_issue hx)
    (outcome_of_answered (fun _ => rfl) (fun set => carries_withTokens ?_) ho)
  simp [expiries]

theorem course_issueDeviceSession (h : Gives (api.issueDeviceSession q) os a)
    (hq : q.Asks .issue .device) : api.Course q (dealings os) a := by
  rcases Handling.gives_idle_bind idle_trusted h with ⟨hd, e, rfl⟩ | ⟨_, us, htrusts, h, hd⟩
  · exact hd ▸ .refused e nofun
  rw [hd]
  rcases Handling.gives_idle_bind idle_limitedBody h with ⟨hd, e, rfl⟩ | ⟨device, vs, hbody, h, hd⟩
  · exact hd ▸ .refused e nofun
  rw [hd]
  obtain ⟨ws, x, hx, hd, ho⟩ := Handling.gives_ofOperation_return h
  rw [hd]
  exact .issue (s := .device) hq htrusts hbody (Issuer.dealings_issue hx)
    (outcome_of_answered (fun _ => rfl) (fun _ => carries_deviceSet) ho)

theorem course_refreshSession (h : Gives (api.refreshSession q) os a)
    (hq : q.Asks .exchange .user) : api.Course q (dealings os) a := by
  unfold refreshSession at h
  split at h
  · obtain ⟨rfl, rfl⟩ := gives_throw.mp h
    exact .refused _ nofun
  · rename_i token ht
    obtain ⟨us, x, hx, hd, ho⟩ := Handling.gives_ofOperation_return h
    rw [hd]
    refine .exchange (s := .user) hq ht (User.dealings_rotate hx)
      (outcome_of_answered (fun _ => rfl) (fun set => carries_withTokens ?_) ho)
    simp [expiries]

theorem course_refreshDeviceSession (h : Gives (api.refreshDeviceSession q) os a)
    (hq : q.Asks .exchange .device) : api.Course q (dealings os) a := by
  rcases Handling.gives_idle_bind idle_limitedBody h with
    ⟨hd, e, rfl⟩ | ⟨⟨connection, token⟩, us, hbody, h, hd⟩
  · exact hd ▸ .refused e nofun
  rw [hd]
  obtain ⟨vs, x, hx, hd, ho⟩ := Handling.gives_ofOperation_return h
  rw [hd]
  exact .exchange (s := .device) hq hbody (Device.dealings_rotate hx)
    (outcome_of_answered (fun _ => rfl) (fun _ => carries_deviceSet) ho)

theorem gives_gate_bind {s : Side} {f : Claims s.bearer → Handling Response}
    (h : Gives ((bearer q >>= fun token =>
      Handling.ofOperation ((api.services.issuer s).validate s.bearer token)) >>= f) os a) :
    (∃ causes, a = .error causes ∧ ∀ j e x, .called (.record j e) x ∉ dealings os) ∨
      ∃ token c us, q.bearer? = some token ∧
        (api.services.issuer s).codec.authentic s.bearer token = .ok (c, false) ∧
        Gives (f c) us a ∧
        dealings os = .called (.state c.jti) (.ok .active) :: dealings us := by
  rw [bind_assoc] at h
  rcases Handling.gives_idle_bind idle_bearer h with ⟨hd, e, rfl⟩ | ⟨token, us, htoken, h, hd⟩
  · exact .inl ⟨e, rfl, hd ▸ nofun⟩
  rw [hd]
  rcases Handling.gives_ofOperation_bind h with
    ⟨vs, e, causes, hx, hd, rfl⟩ | ⟨vs, ws, c, hx, hd, hf⟩
  · refine .inl ⟨causes, rfl, ?_⟩
    rw [hd]
    generalize hds : dealings vs = ds
    cases hds ▸ Issuer.dealings_validate hx <;> simp
  · right
    rw [hd]
    generalize hds : dealings vs = ds
    cases hds ▸ Issuer.dealings_validate hx with
    | accepted ht hp =>
      exact ⟨token, c, ws, htoken, Codec.authentic_of_parse hp, hf, rfl⟩

theorem course_currentSession (h : Gives (api.currentSession q) os a)
    (hq : q.Asks .current .user) : api.Course q (dealings os) a := by
  rcases gives_gate_bind (s := .user) h with
    ⟨causes, rfl, hn⟩ | ⟨token, c, us, htoken, ha, hf, hd⟩
  · exact .refused causes hn
  obtain ⟨rfl, rfl⟩ := gives_pure.mp hf
  rw [hd]
  exact .current (s := .user) hq htoken ha rfl (says_success.mpr (List.mem_cons_self ..))
    fun k token hk => absurd hk (not_hands_success (by simp))

theorem course_currentDeviceSession (h : Gives (api.currentDeviceSession q) os a)
    (hq : q.Asks .current .device) : api.Course q (dealings os) a := by
  rcases gives_gate_bind (s := .device) h with
    ⟨causes, rfl, hn⟩ | ⟨token, c, us, htoken, ha, hf, hd⟩
  · exact .refused causes hn
  obtain ⟨rfl, rfl⟩ := gives_pure.mp hf
  rw [hd]
  exact .current (s := .device) hq htoken ha rfl (says_success.mpr (List.mem_cons_self ..))
    fun k token hk => absurd hk (not_hands_success (by simp))

theorem course_endSession (h : Gives (api.endSession q) os a)
    (hq : q.Asks .logout .user) : api.Course q (dealings os) a := by
  rcases gives_gate_bind (s := .user) h with
    ⟨causes, rfl, hn⟩ | ⟨token, c, us, htoken, ha, hf, hd⟩
  · exact .refused causes hn
  obtain ⟨vs, x, hx, hd', ho⟩ := Handling.gives_ofOperation_return hf
  have hn : ∀ j e x, .called (.record j e) x ∉ dealings os := by
    rw [hd, hd']
    simpa using Services.not_recorded_of_logout (Issuer.dealings_logout (s := .user) hx)
  rcases ho with ⟨_, -, rfl⟩ | ⟨e, causes, -, rfl⟩
  · refine .ended (s := .user) hq hn rfl fun k token hk => ?_
    cases k with
    | userAccess => simp [Hands, setCookie, Response.withHeader, success, Response.json] at hk
    | userRefresh =>
      have hc : (api.cookie token api.users.refreshTtl.seconds).text = (api.cookie "" 0).text := by
        simpa [Hands, setCookie, Response.withHeader, success, Response.json] using hk
      exact eq_of_cookie_empty hc
    | deviceConnection | deviceRefresh =>
      simp [Hands, Response.Says, setCookie, Response.withHeader, success, Response.json] at hk
  · exact .refused causes hn

theorem course_endDeviceSession (h : Gives (api.endDeviceSession q) os a)
    (hq : q.Asks .logout .device) : api.Course q (dealings os) a := by
  rcases gives_gate_bind (s := .device) h with
    ⟨causes, rfl, hn⟩ | ⟨token, c, us, htoken, ha, hf, hd⟩
  · exact .refused causes hn
  rcases Handling.gives_idle_bind idle_limitedBody hf with ⟨hd', e, rfl⟩ | ⟨shown, vs, -, hf, hd'⟩
  · exact .refused e (by simp [hd, hd'])
  obtain ⟨ws, x, hx, hd'', ho⟩ := Handling.gives_ofOperation_return hf
  have hn : ∀ j e x, .called (.record j e) x ∉ dealings os := by
    rw [hd, hd', hd'']
    simpa using Services.not_recorded_of_logout (Issuer.dealings_logout (s := .device) hx)
  rcases ho with ⟨_, -, rfl⟩ | ⟨e, causes, -, rfl⟩
  · refine .ended (s := .device) hq hn rfl fun k token hk => ?_
    cases k <;> simp [Hands, Response.Says, success, Response.json] at hk
  · exact .refused causes hn

theorem course_of_handles {us : List Occurrence} (h : Route.Handles mount api.routes q os us a) :
    api.Course q (dealings us) a := by
  obtain ⟨⟨r, hr, hq, hg⟩, -⟩ := h
  simp only [routes, List.mem_cons, List.not_mem_nil, or_false] at hr
  rcases hr with rfl | rfl | rfl | rfl | rfl | rfl | rfl | rfl
  · exact course_issueSession hg hq
  · exact course_currentSession hg hq
  · exact course_refreshSession hg hq
  · exact course_endSession hg hq
  · exact course_issueDeviceSession hg hq
  · exact course_currentDeviceSession hg hq
  · exact course_refreshDeviceSession hg hq
  · exact course_endDeviceSession hg hq

theorem Course.status {ds : List Occurrence} {r : Response} (h : api.Course q ds (.ok r)) :
    r.status = 200 := by
  generalize ha : (Except.ok r : Except Rejection Response) = a at h
  cases h with
  | issue _ _ _ _ hout | exchange _ _ _ hout =>
    cases hout with
    | answered hs =>
      obtain rfl := Except.ok.inj ha
      exact hs
    | refused => exact nomatch ha
  | current _ _ _ hs =>
    obtain rfl := Except.ok.inj ha
    exact hs
  | ended _ _ hs =>
    obtain rfl := Except.ok.inj ha
    exact hs
  | refused => exact nomatch ha

end Courses

end Api

end Http

end SessionTokens

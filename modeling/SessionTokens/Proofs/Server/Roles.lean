import SessionTokens.Proofs.Http.Roles
import SessionTokens.Proofs.Server.RoundTrip

/-! Which roles the sessions of a server have that is made of its settings. All that such a server
knows of a user's roles are the default roles, so that a refresh replaces the roles that a trusted
caller named by these. -/

namespace SessionTokens.Settings

open Http Program SessionTokens.System

open Server (posting looking refreshing)

variable {s : Settings} {connect : String → Option Keyed.Server} {server : Server}
  {registry : Backend} {directory : RoleDirectory}

theorem directory_of_server (h : s.server connect = .ok (server, registry, directory)) :
    directory = .ofDefaults s.auth.defaultRoles := by
  unfold Settings.server at h
  split at h
  · exact nomatch h
  · cases hregistry : s.registry connect with
    | error e =>
      rw [hregistry] at h
      exact nomatch h
    | ok b =>
      rw [hregistry] at h
      cases hcodec : Codec.make s.auth.secrets.toSigning s.auth.leeway with
      | error e =>
        rw [hcodec] at h
        exact nomatch h
      | ok codec =>
        rw [hcodec] at h
        cases h
        rfl

/-- Everyone is a viewer by default. -/
def sample : Settings where
  auth := {
    registry := "memory", secrets := ⟨"a", "b", "c", "d"⟩, serviceKey := "key"
    accessTtl := 3600, refreshTtl := 86400, connectionTtl := 3600, deviceRefreshTtl := 86400
    leeway := 0, skew := 300, fallback := 60, registryTimeout := 1000, defaultRoles := ["viewer"] }
  http := ⟨"cert.pem", "key.pem", "127.0.0.1:8443", true⟩
  logFilter := "info"
  redis := ⟨"", ""⟩
  statsInterval := 60

def sampleServer : Server where
  api := sample.api ⟨sample.auth.secrets.toSigning, 0⟩
  registryName := "memory"
  interval := 60000

def sampleHost : Host :=
  { Host.fresh ⟨0⟩ sample.auth.retention with roles := .ofDefaults sample.auth.defaultRoles }

theorem server_sample : sample.server (fun _ => none) =
    .ok (sampleServer, sampleHost.registry, sampleHost.roles) := rfl

/-- Someone is given a session without any role, refreshes it and is a viewer. -/
theorem exists_refreshed : ∃ (ls : List (Happening Request)) (u : System Request Response)
    (r r' : Response) (token : String),
    Run sampleServer.api.respond (fun _ _ => True) (start sampleHost) ls u ∧
      sampleServer.api.Chain u (posting "61" []) 1 r ∧
      sampleServer.api.Hands r .userAccess token ∧
      u.Ended 2 (looking ("Bearer " ++ token)) r' ∧
      (looking ("Bearer " ++ token)).bearer? = some token ∧ r'.Describes default ["viewer"] ∧
      ∀ q, .begun q ∈ ls → q = posting "61" [] ∨ q.key? = none := by
  let api : Api := sampleServer.api
  let v : View := ⟨0, sampleHost.registry.state sampleHost.clock⟩
  have hbearer : api.users.bearerTtl.Fits sampleHost.clock := ⟨by decide, _, rfl⟩
  have hrefresh : api.users.refreshTtl.Fits sampleHost.clock := ⟨by decide, _, rfl⟩
  have hnow : (api.users.codec.leeway : Int) ≤ sampleHost.clock.unix := by decide
  have hfresh : ∀ m, v.drawn ≤ m → v.state (sampleHost.source m) ≠ .revoked :=
    fun _ _ h => JtiState.noConfusion h
  have hinj : Function.Injective sampleHost.source :=
    Host.injective_source_fresh ⟨0⟩ sample.auth.retention
  have hshows : sampleHost.Shows v sampleHost :=
    ⟨rfl, rfl, rfl, rfl, rfl, rfl, trivial, rfl, fun _ => rfl⟩
  have hbrings : (posting "61" []).Brings Api.issueUser (default, []) :=
    ⟨⟨61, by decide, by decide +kernel⟩, nofun, Api.read_sessionJson _ _⟩
  have hfree : Scope.patient.Free := ⟨rfl, rfl⟩
  obtain ⟨r₀, hturns, hr₀⟩ := Api.turns_issueSession (v := v) hbearer hrefresh hnow
    hfresh (Server.asks_posting ..) ⟨"key", by decide +kernel, rfl⟩ hbrings
  have hstage := Server.Stage.posted (r := r₀) rfl hfresh hr₀
  obtain ⟨os₀, k₀, hrun₀, hk₀⟩ := exists_answered hfree hshows hturns []
  obtain ⟨n, hn, hfirst, hdrawn, -, hactive⟩ := hstage.latest
  let first : TokenSet := User.issuedSet api.users default [] sampleHost n
  let set : String := (api.cookie first.refresh.text api.users.refreshTtl.seconds).text
  obtain ⟨r₁, hturns, hr₁⟩ := Api.turns_refreshSession hbearer hrefresh hnow hstage.fresh hn
    hn.refresh (Server.asks_refreshing set) (Server.returns_refreshing set) hactive
  have hstage := hstage.refreshed hinj hn hfirst hdrawn hr₁
  obtain ⟨os₁, k₁, hrun₁, hk₁⟩ := exists_answered hfree hk₀ hturns [⟨posting "61" [], .done r₀⟩]
  obtain ⟨n', hn', -, -, hactive', -⟩ := hstage.latest
  let second : TokenSet := User.issuedSet api.users default ["viewer"] sampleHost n'
  let value : String := "Bearer " ++ second.bearer.text
  obtain ⟨r₂, hturns, hr₂⟩ := Api.turns_currentSession hbearer hnow hn' hn'.bearer
    (Server.asks_looking value) rfl hactive'
  obtain ⟨os₂, k₂, hrun₂, -⟩ := exists_answered hfree hk₁ hturns
    [⟨posting "61" [], .done r₀⟩, ⟨refreshing set, .done r₁⟩]
  have hshown : Api.refreshToken? (refreshing set) = some first.refresh.text :=
    Request.refreshToken?_of_returns (clear_sign _ _) (sign_ne_empty _ _)
      (Server.returns_refreshing set)
  have hheard : (looking value).bearer? = some second.bearer.text :=
    Request.bearer?_of_authorization (clear_sign _ _) (sign_ne_empty _ _) rfl
  refine ⟨_, _, r₁, r₂, second.bearer.text, hrun₀.trans (hrun₁.trans hrun₂), ?_,
    Response.mem_of_header? hn'.bearer, rfl, hheard, hr₂, fun q hq => ?_⟩
  · exact .refreshed (i := 1) (.posted (i := 0) rfl (Server.asks_posting ..) hn.status)
      (Response.mem_of_header? hn.refresh) rfl (Server.asks_refreshing set) hshown hr₁.status
  · simp only [List.mem_append, List.mem_cons, List.mem_map, Happening.begun.injEq, reduceCtorEq,
      and_false, exists_false, or_false] at hq
    rcases hq with rfl | rfl | rfl
    · exact .inl rfl
    · exact .inr rfl
    · exact .inr rfl

/-- What a server says of an access token of a session: the roles that were named for the session,
if the token is the first one, and the default roles if it comes of a refresh. -/
theorem roles_along_chain (hserver : s.server connect = .ok (server, registry, directory))
    {h : Host} (hroles : h.roles = directory)
    {allowed : System Request Response → Happening Request → Prop}
    {ls : List (Happening Request)} {u : System Request Response}
    (hr : Run server.api.respond allowed (start h) ls u) {q q' : Request} {n i : Nat}
    {r r' : Response} {token : String} (hc : server.api.Chain u q n r)
    (ht : server.api.Hands r .userAccess token) (he : u.Ended i q' r')
    (hasks : q'.Asks .current .user) (hshows : q'.bearer? = some token) (hs : r'.status = 200) :
    ∃ user named, server.api.Trusts q ∧
      (Json.readBytes q.body).read Api.issueUser = .ok (user, named) ∧
      r'.Describes user (if n = 0 then named else s.auth.defaultRoles) := by
  obtain ⟨user, named, htrusts, hbody, hdescribes⟩ :=
    Api.describes_of_chain hr hc ht he hasks hshows hs
  rw [hroles, directory_of_server hserver, RoleDirectory.rolesOf_ofDefaults] at hdescribes
  exact ⟨user, named, htrusts, hbody, hdescribes⟩

theorem viewer_after_refresh : ∃ (ls : List (Happening Request)) (u : System Request Response)
    (r r' : Response) (token : String),
    Run sampleServer.api.respond (fun _ _ => True) (start sampleHost) ls u ∧
      sampleServer.api.Chain u (posting "61" []) 1 r ∧
      sampleServer.api.Hands r .userAccess token ∧
      u.Ended 2 (looking ("Bearer " ++ token)) r' ∧ r'.status = 200 ∧
      ∃ user named, sampleServer.api.Trusts (posting "61" []) ∧
        (Json.readBytes (posting "61" []).body).read Api.issueUser = .ok (user, named) ∧
        r'.Describes user (if 1 = 0 then named else sample.auth.defaultRoles) := by
  obtain ⟨ls, u, r, r', token, hr, hc, ht, he, hshows, ⟨_, _, rfl⟩, -⟩ := exists_refreshed
  exact ⟨ls, u, r, _, token, hr, hc, ht, he, rfl,
    roles_along_chain server_sample rfl hr hc ht he (Server.asks_looking _) hshows rfl⟩

/-- No access token of a session has roles but those that some request with the service key named
for its user. -/
def NeverWidens (s : Settings) (connect : String → Option Keyed.Server) : Prop :=
  ∀ server registry directory h ls u, s.server connect = .ok (server, registry, directory) →
    h.registry = registry → h.roles = directory →
    Run server.api.respond (fun _ _ => True) (start h) ls u → ∀ q n r token i q' r' user roles,
    server.api.Chain u q n r → server.api.Hands r .userAccess token → u.Ended i q' r' →
    q'.Asks .current .user → q'.bearer? = some token → r'.Describes user roles →
    ∀ role ∈ roles, ∃ q'' named, .begun q'' ∈ ls ∧ q''.key? = some server.api.serviceKey ∧
      (Json.readBytes q''.body).read Api.issueUser = .ok (user, named) ∧ role ∈ named

/-- A server with a default role gives it to whoever refreshes. -/
theorem refresh_widens : ¬ NeverWidens sample fun _ => none := by
  intro hnever
  obtain ⟨ls, u, r, r', token, hr, hc, ht, he, hshows, hdescribes, hbegun⟩ := exists_refreshed
  obtain ⟨q, named, hq, hkey, hbody, hrole⟩ := hnever _ _ _ _ _ _ server_sample rfl rfl hr
    _ _ _ _ _ _ _ _ _ hc ht he (Server.asks_looking _) hshows hdescribes "viewer"
    (List.mem_singleton_self _)
  rcases hbegun q hq with rfl | hnone
  · have hread := Api.read_sessionJson default []
    obtain ⟨-, rfl⟩ := Prod.mk.inj (Except.ok.inj (hread.symm.trans hbody))
    exact nomatch hrole
  · exact nomatch hnone.symm.trans hkey

end SessionTokens.Settings

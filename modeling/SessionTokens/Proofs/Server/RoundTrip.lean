import SessionTokens.Proofs.Host.Progress
import SessionTokens.Proofs.Http.Served
import SessionTokens.Server.Run

/-! The course of a user's session with a server on which nothing goes wrong. What the server hands
out in a header and in a cookie it accepts when it is sent back, and the answers to one request
after another hand out what the next needs. -/

namespace SessionTokens.Server

open Http Program

variable {s s' : Server} {g k : Host} {v v' : View} {q : Request} {r newest : Response}
  {older rs : List Response} {user : Uuid} {roles : List String}

/-- No time passes on the timer, so that no counts fall due. -/
theorem respond_of_turns (hk : g.Shows v k) (h : (s.api.respond q).Turns g v r v') :
    ∃ k', s.respond q k = (r, s, k') ∧ g.Shows v' k' := by
  obtain ⟨k', hrun, hk'⟩ := h { timeout := s.api.timeout } k ⟨rfl, rfl⟩ hk
  refine ⟨k', ?_, hk'⟩
  rw [respond, hrun]
  simp only [hk'.timer, hk.timer, Nat.sub_self, catchUp]

theorem eq_of_respond {k' : Host} {r' : Response} (hk : g.Shows v k)
    (h : (s.api.respond q).Turns g v r v') (hrespond : s.respond q k = (r', s', k')) :
    r' = r ∧ s' = s ∧ g.Shows v' k' := by
  obtain ⟨k'', hrun, hk''⟩ := respond_of_turns hk h
  obtain ⟨rfl, rfl, rfl⟩ := by simpa using hrun.symm.trans hrespond
  exact ⟨rfl, rfl, hk''⟩

/-- The answers of a session, newest first, that began with `q`, and the server and the host after
them. Each further answer is that to the cookie of the one before. In between someone may ask about
sessions, and may try cookies that were used before. -/
inductive Session (s : Server) (g : Host) (q : Request) : List Response → Server → Host → Prop
  | posted {r : Response} {s' : Server} {k : Host} :
      s.respond q g = (r, s', k) → Session s g q [r] s' k
  | refreshed {r r' : Response} {rs : List Response} {set : String} {q' : Request}
      {s' s'' : Server} {k k' : Host} :
      Session s g q (r :: rs) s' k → r.header? "set-cookie" = some set →
      q'.Asks .exchange .user → q'.Returns set → s'.respond q' k = (r', s'', k') →
      Session s g q (r' :: r :: rs) s'' k'
  | looked {rs : List Response} {r : Response} {q' : Request} {side : Side} {s' s'' : Server}
      {k k' : Host} :
      Session s g q rs s' k → q'.Asks .current side → s'.respond q' k = (r, s'', k') →
      Session s g q rs s'' k'
  | replayed {r r' old : Response} {rs : List Response} {set : String} {q' : Request}
      {s' s'' : Server} {k k' : Host} :
      Session s g q (r :: rs) s' k → old ∈ rs → old.header? "set-cookie" = some set →
      q'.Asks .exchange .user → q'.Returns set → s'.respond q' k = (r', s'', k') →
      Session s g q (r :: rs) s'' k'

/-- Where a session stands: which identifiers the tokens have that were handed out, and what the
registry says of them. -/
structure Stage (api : Api) (g : Host) (user : Uuid) (roles : List String) (v : View)
    (newest : Response) (older : List Response) : Prop where
  fresh (m : Nat) : v.drawn ≤ m → v.state (g.source m) ≠ .revoked
  latest : ∃ n, api.HandsOut g user (if older = [] then roles else g.roles.rolesOf user) n newest ∧
    g.drawn ≤ n ∧ n + 1 < v.drawn ∧ v.state (g.source n) = .active ∧
    v.state (g.source (n + 1)) = .active
  spent (old : Response) : old ∈ older → ∃ n roles', api.HandsOut g user roles' n old ∧
    n + 1 < v.drawn ∧ v.state (g.source (n + 1)) = .revoked
  first (r : Response) : (newest :: older).getLast? = some r → api.HandsOut g user roles g.drawn r ∧
    v.state (g.source g.drawn) = .active

theorem Stage.posted {api : Api} (hdrawn : v.drawn = g.drawn)
    (hfresh : ∀ m, v.drawn ≤ m → v.state (g.source m) ≠ .revoked)
    (hr : api.HandsOut g user roles v.drawn r) : Stage api g user roles (v.issue g) r [] := by
  rw [hdrawn] at hr
  have hfirst : (v.issue g).state (g.source g.drawn) = .active := by
    rw [View.state_issue, hdrawn, if_pos (.inr rfl)]
  refine ⟨fun m hm => ?_, ⟨g.drawn, hr, Nat.le_refl _, ?_, hfirst, ?_⟩, nofun,
    fun first hlast => ?_⟩
  · have hm' : v.drawn + 2 ≤ m := hm
    rw [View.state_issue]
    split
    · nofun
    · exact hfresh m (by omega)
  · rw [View.drawn_issue]
    omega
  · rw [View.state_issue, hdrawn, if_pos (.inl rfl)]
  · obtain rfl := Option.some.inj hlast
    exact ⟨hr, hfirst⟩

section Stage

variable (hinj : Function.Injective g.source)
include hinj

theorem source_ne {m n : Nat} (h : m ≠ n) : g.source m ≠ g.source n := fun he => h (hinj he)

/-- A refresh ends the token that it was asked with and no other that was handed out. -/
theorem Stage.refreshed {api : Api} {n : Nat} (h : Stage api g user roles v newest older)
    (hn : api.HandsOut g user (if older = [] then roles else g.roles.rolesOf user) n newest)
    (hfirst : g.drawn ≤ n) (hdrawn : n + 1 < v.drawn)
    (hr : api.HandsOut g user (g.roles.rolesOf user) v.drawn r) :
    Stage api g user roles ((v.issue g).mark (g.source (n + 1)) .revoked) r (newest :: older) := by
  have hother : ∀ m, m ≠ n + 1 → ((v.issue g).mark (g.source (n + 1)) .revoked).state (g.source m) =
      (v.issue g).state (g.source m) :=
    fun m hm => by rw [View.state_mark, if_neg (source_ne hinj hm)]
  have hrevoked : ((v.issue g).mark (g.source (n + 1)) .revoked).state (g.source (n + 1)) =
      .revoked := by
    rw [View.state_mark, if_pos rfl]
  refine ⟨fun m hm => ?_, ⟨v.drawn, ?_, by omega, Nat.lt_succ_self _, ?_, ?_⟩, fun old hold => ?_,
    fun first hlast => ?_⟩
  · have hm' : v.drawn + 2 ≤ m := hm
    rw [hother m (by omega), View.state_issue]
    split
    · nofun
    · exact h.fresh m (by omega)
  · rwa [if_neg (List.cons_ne_nil _ _)]
  · rw [hother _ (by omega), View.state_issue, if_pos (.inr rfl)]
  · rw [hother _ (by omega), View.state_issue, if_pos (.inl rfl)]
  · rcases List.mem_cons.mp hold with rfl | hold
    · exact ⟨n, _, hn, Nat.lt_trans hdrawn (by simp), hrevoked⟩
    · obtain ⟨m, roles', hm, hm', hstate⟩ := h.spent old hold
      refine ⟨m, roles', hm, Nat.lt_trans hm' (by simp), ?_⟩
      by_cases hsame : m = n
      · rw [hsame, hrevoked]
      · rw [hother _ (by omega), View.state_issue, if_neg, hstate]
        rintro (he | he) <;> have := hinj he <;> omega
  · obtain ⟨hhands, hactive⟩ := h.first first (by rwa [List.getLast?_cons_cons] at hlast)
    refine ⟨hhands, ?_⟩
    rw [hother _ (by omega), View.state_issue, hactive, ite_self]

variable (hsound : g.registry.Sound) (hfaults : g.faults = []) (hroleFaults : g.roleFaults = [])
  (hfresh : ∀ n, g.drawn ≤ n → g.registry.state g.clock (g.source n) ≠ .revoked)
  (hbearer : s.api.users.bearerTtl.Fits g.clock) (hrefresh : s.api.users.refreshTtl.Fits g.clock)
  (hnow : (s.api.users.codec.leeway : Int) ≤ g.clock.unix)
  (hasks : q.Asks .issue .user) (htrusts : s.api.Trusts q)
  (hbrings : q.Brings Api.issueUser (user, roles))
include hsound hfaults hroleFaults hfresh hbearer hrefresh hnow hasks htrusts hbrings

theorem stage_of_session (h : Session s g q rs s' k) : ∃ newest older v, rs = newest :: older ∧
    s' = s ∧ g.Shows v k ∧ Stage s.api g user roles v newest older := by
  induction h with
  | posted hrespond =>
    let v : View := ⟨g.drawn, g.registry.state g.clock⟩
    have hg : g.Shows v g :=
      ⟨rfl, rfl, rfl, rfl, hfaults, hroleFaults, hsound, rfl, fun _ => rfl⟩
    obtain ⟨r, hturns, hhands⟩ :=
      Api.turns_issueSession (v := v) hbearer hrefresh hnow hfresh hasks htrusts hbrings
    obtain ⟨rfl, rfl, hk'⟩ := eq_of_respond hg hturns hrespond
    exact ⟨_, _, _, rfl, rfl, hk', .posted rfl hfresh hhands⟩
  | refreshed _ hset hasks' hreturns hrespond ih =>
    obtain ⟨newest, older, v, hrs, rfl, hk, hstage⟩ := ih
    obtain ⟨rfl, rfl⟩ := List.cons.inj hrs
    obtain ⟨n, hn, hfirst, hdrawn, -, hactive⟩ := hstage.latest
    obtain ⟨r', hturns, hr'⟩ := Api.turns_refreshSession hbearer hrefresh hnow hstage.fresh hn hset
      hasks' hreturns hactive
    obtain ⟨rfl, rfl, hk'⟩ := eq_of_respond hk hturns hrespond
    exact ⟨_, _, _, rfl, rfl, hk', hstage.refreshed hinj hn hfirst hdrawn hr'⟩
  | looked _ hasks' hrespond ih =>
    obtain ⟨newest, older, v, hrs, rfl, hk, hstage⟩ := ih
    obtain ⟨r', hturns⟩ := Api.still_current hasks'
    obtain ⟨rfl, rfl, hk'⟩ := eq_of_respond hk hturns hrespond
    exact ⟨newest, older, v, hrs, rfl, hk', hstage⟩
  | replayed _ hold hset hasks' hreturns hrespond ih =>
    obtain ⟨newest, older, v, hrs, rfl, hk, hstage⟩ := ih
    obtain ⟨rfl, rfl⟩ := List.cons.inj hrs
    obtain ⟨n, roles', hn, -, hrevoked⟩ := hstage.spent _ hold
    have hturns := Api.turns_refreshSession_again hrefresh hnow hn hset hasks' hreturns hrevoked
    obtain ⟨rfl, rfl, hk'⟩ := eq_of_respond hk hturns hrespond
    exact ⟨_, _, v, rfl, rfl, hk', hstage⟩

omit hinj hsound hfaults hroleFaults hfresh hrefresh hasks htrusts hbrings in
theorem describes_of_active {n : Nat} {value : String} {q' : Request} (hk : g.Shows v k)
    (hr : s.api.HandsOut g user roles n r) (hvalue : r.header? "authorization" = some value)
    (hactive : v.state (g.source n) = .active) (hasks' : q'.Asks .current .user)
    (hshows : q'.first? "authorization" = some ⟨"authorization", value⟩) :
    (s.respond q' k).1.Describes user roles := by
  obtain ⟨r', hturns, hr'⟩ := Api.turns_currentSession hbearer hnow hr hvalue hasks' hshows hactive
  obtain ⟨k', hrun, -⟩ := respond_of_turns hk hturns
  rwa [hrun]

/-- Every answer of a session is a 200 with a header and a cookie. The header, sent back, shows who
was named, first with the roles that were named and then with those that the user has, and so does
the first header for good. The cookie gives the next answer; sent back again it is refused. A body
can name any user and any roles. -/
theorem session_round_trip :
    (∀ user roles, (Json.readBytes (Utf8.encode (Api.sessionJson user roles).chars)).read
      Api.issueUser = .ok (user, roles)) ∧
    ∀ rs s' k, Session s g q rs s' k → ∃ newest older first, rs = newest :: older ∧
      rs.getLast? = some first ∧ newest.status = 200 ∧
      (∃ set, newest.header? "set-cookie" = some set) ∧
      (∃ value, newest.header? "authorization" = some value ∧ ∀ q' : Request,
        q'.Asks .current .user → q'.first? "authorization" = some ⟨"authorization", value⟩ →
        (s'.respond q' k).1.Describes user
          (if older = [] then roles else g.roles.rolesOf user)) ∧
      (∃ value, first.header? "authorization" = some value ∧ ∀ q' : Request,
        q'.Asks .current .user → q'.first? "authorization" = some ⟨"authorization", value⟩ →
        (s'.respond q' k).1.Describes user roles) ∧
      ∀ old ∈ older, ∃ set, old.header? "set-cookie" = some set ∧ ∀ q' : Request,
        q'.Asks .exchange .user → q'.Returns set →
        (s'.respond q' k).1 = ApiError.invalidToken.response := by
  refine ⟨Api.read_sessionJson, fun rs s' k h => ?_⟩
  obtain ⟨newest, older, v, rfl, rfl, hk, hstage⟩ := stage_of_session hinj hsound hfaults
    hroleFaults hfresh hbearer hrefresh hnow hasks htrusts hbrings h
  obtain ⟨n, hn, -, -, hbearerActive, -⟩ := hstage.latest
  obtain ⟨first, hlast⟩ : ∃ first, (newest :: older).getLast? = some first :=
    ⟨_, List.getLast?_eq_some_getLast (List.cons_ne_nil newest older)⟩
  obtain ⟨hfirst, hfirstActive⟩ := hstage.first first hlast
  refine ⟨newest, older, first, rfl, hlast, hn.status, ⟨_, hn.refresh⟩, ⟨_, hn.bearer, ?_⟩,
    ⟨_, hfirst.bearer, ?_⟩, fun old hold => ?_⟩
  · exact fun q' => describes_of_active hbearer hnow hk hn hn.bearer hbearerActive
  · exact fun q' => describes_of_active hbearer hnow hk hfirst hfirst.bearer hfirstActive
  · obtain ⟨m, roles', hm, -, hrevoked⟩ := hstage.spent old hold
    refine ⟨_, hm.refresh, fun q' hasks' hreturns => ?_⟩
    have hturns := Api.turns_refreshSession_again hrefresh hnow hm hm.refresh hasks' hreturns
      hrevoked
    obtain ⟨k', hrun, -⟩ := respond_of_turns hk hturns
    rw [hrun]

end Stage

def sample : Server := { api := .sample, registryName := "memory", interval := 1000 }

/-- A request with the key of the sample for a session with these roles. -/
def posting (length : String) (roles : List String) : Request :=
  ⟨"POST", "/api/v1/session", [⟨"x-service-key", "key"⟩, ⟨"content-length", length⟩],
    Utf8.encode (Api.sessionJson default roles).chars⟩

def looking (value : String) : Request :=
  ⟨"GET", "/api/v1/session", [⟨"authorization", value⟩], []⟩

def refreshing (set : String) : Request :=
  ⟨"POST", "/api/v1/session/refresh", [⟨"cookie", "theme=dark; " ++ Cookie.sentBack set⟩], []⟩

theorem asks_posting (length : String) (roles : List String) :
    (posting length roles).Asks .issue .user := by
  have hbelow : (posting "" []).below Api.mount = some "session".toList := by decide +kernel
  have hasks : (posting "" []).Asks .issue .user := ⟨rfl, _, hbelow, by decide +kernel⟩
  exact hasks.congr rfl rfl

theorem asks_looking (value : String) : (looking value).Asks .current .user := by
  have hbelow : (looking "").below Api.mount = some "session".toList := by decide +kernel
  have hasks : (looking "").Asks .current .user := ⟨rfl, _, hbelow, by decide +kernel⟩
  exact hasks.congr rfl rfl

theorem asks_refreshing (set : String) : (refreshing set).Asks .exchange .user := by
  have hbelow : (refreshing "").below Api.mount = some "session/refresh".toList := by
    decide +kernel
  have hasks : (refreshing "").Asks .exchange .user := ⟨rfl, _, hbelow, by decide +kernel⟩
  exact hasks.congr rfl rfl

theorem returns_refreshing (set : String) : (refreshing set).Returns set := by
  refine ⟨["theme=dark"], [], fun t ht => ?_, by simp [refreshing, Request.all]⟩
  obtain rfl : t = "theme=dark" := by simpa using ht
  have hpair : Cookie.pair? "theme=dark".toList = some ("theme", "dark") := by decide +kernel
  refine ⟨by decide +kernel, ⟨by decide +kernel, by decide +kernel⟩, fun c hc => ?_⟩
  obtain rfl := Option.some.inj (hpair.symm.trans hc)
  decide

theorem refreshed_session_described :
    let g : Host := .fresh ⟨0⟩ ⟨.ofSeconds 60, .zero⟩
    ∃ newest older s' k first second set,
      Session sample g (posting "73" ["admin", "Ä"]) [newest, older] s' k ∧
      newest.status = 200 ∧ newest.header? "authorization" = some second ∧
      (s'.respond (looking second) k).1.Describes default [] ∧
      older.header? "authorization" = some first ∧
      (s'.respond (looking first) k).1.Describes default ["admin", "Ä"] ∧
      older.header? "set-cookie" = some set ∧
      (s'.respond (refreshing set) k).1 = ApiError.invalidToken.response := by
  intro g
  have hbrings : (posting "73" ["admin", "Ä"]).Brings Api.issueUser (default, ["admin", "Ä"]) :=
    ⟨⟨73, by decide, by decide +kernel⟩, nofun, Api.read_sessionJson _ _⟩
  have hall := (session_round_trip (s := sample) (g := g) (Host.injective_source_fresh _ _) trivial
    rfl rfl (fun _ _ h => JtiState.noConfusion h) ⟨by decide, _, rfl⟩ ⟨by decide, _, rfl⟩
    (by decide) (asks_posting ..) ⟨"key", by decide +kernel, rfl⟩ hbrings).2
  have hposted : Session sample g (posting "73" ["admin", "Ä"]) [_] _ _ := .posted rfl
  obtain ⟨older, _, _, hrs, -, -, ⟨set, hset⟩, -⟩ := hall _ _ _ hposted
  obtain ⟨rfl, rfl⟩ := List.cons.inj hrs
  have hrefreshed := hposted.refreshed hset (asks_refreshing set) (returns_refreshing set) rfl
  obtain ⟨newest, _, first, hrs, hlast, hstatus, -, ⟨second, hsecond, hnow⟩,
    ⟨value, hvalue, hstill⟩, hspent⟩ := hall _ _ _ hrefreshed
  obtain ⟨rfl, rfl⟩ := List.cons.inj hrs
  obtain rfl := Option.some.inj hlast
  obtain ⟨set', hset', hagain⟩ := hspent _ (List.mem_singleton_self _)
  exact ⟨_, _, _, _, value, second, set', hrefreshed, hstatus, hsecond,
    hnow _ (asks_looking second) rfl, hvalue, hstill _ (asks_looking value) rfl, hset',
    hagain _ (asks_refreshing set') (returns_refreshing set')⟩

end SessionTokens.Server

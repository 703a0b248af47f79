import SessionTokens.Proofs.Http.Cookie
import SessionTokens.Proofs.Http.Reading
import SessionTokens.Proofs.Session.Served
import SessionTokens.Proofs.Token.RoundTrip

/-! How requests are answered on a host on which nothing goes wrong, while its clock stands
still. -/

namespace SessionTokens.Http

open Program

variable {g : Host} {v v' : View}

namespace Handling

variable {α : Type} {op : Operation α}

theorem turns_ofOperation {a : α} (h : op.run.Turns g v (.ok a) v') :
    (ofOperation op).run.Turns g v (.ok a) v' :=
  turns_ok_bind (turns_lift h) (turns_done _)

theorem turns_emitAll (events : List Log.Event) :
    (emitAll events).run.Turns g v (.ok ()) v := by
  induction events with
  | nil => exact turns_done _
  | cons e es ih =>
    have hemit : (emit e).run.Turns g v (.ok ()) v := (turns_done _).emit e
    exact turns_ok_bind hemit ih

theorem turns_ofOperation_error {e : SessionError} (h : op.run.Turns g v (.error e) v') :
    (ofOperation op).run.Turns g v (.error [.refused (.ofSession e)]) v' :=
  turns_ok_bind (turns_lift h) (turns_ok_bind (turns_emitAll _) (turns_done _))

end Handling

/-- The header of a response, of which it has one. -/
def Response.header? (r : Response) (name : String) : Option String :=
  (r.headers.find? (·.name == name)).map (·.value)

theorem Response.mem_of_header? {r : Response} {name value : String}
    (h : r.header? name = some value) : ⟨name, value⟩ ∈ r.headers := by
  obtain ⟨⟨name', value⟩, hfind, rfl⟩ := Option.map_eq_some_iff.mp h
  obtain rfl : name' = name := by simpa using List.find?_some hfind
  exact List.mem_of_find?_eq_some hfind

/-- The answer about a session says whose it is and what its roles are. -/
def Response.Describes (r : Response) (user : Uuid) (roles : List String) : Prop :=
  ∃ jti expiresAt, r = Api.success (.obj [("subject", .str user.text),
    ("roles", .arr (roles.map .str)), ("jti", jti), ("expires_at", expiresAt)])

namespace Api

variable {api : Api} {q : Request} {t : Task} {s : Side} {user : Uuid} {roles : List String}

/-- The body of a request for a session of this user with these roles. -/
def sessionJson (user : Uuid) (roles : List String) : Json.Value :=
  .obj [("user_id", .str user.text), ("roles", .arr (roles.map .str))]

open Json in
/-- Whatever the roles are made of, they are read as they were written, in order. -/
theorem read_sessionJson (user : Uuid) (roles : List String) :
    (Json.readBytes (Utf8.encode (sessionJson user roles).chars)).read issueUser =
      .ok (user, roles) := by
  have hnode : (sessionJson user roles).node =
      .object [(.string (.of "user_id"), (Value.str user.text).node),
        (.string (.of "roles"), (Value.arr (roles.map .str)).node)] none := by
    simp only [sessionJson, Value.node, memberNodes]
  have hread : issueUser (sessionJson user roles).node = .ok (user, roles) := by
    rw [issueUser, hnode, Node.record]
    simp only [List.foldlM_cons, List.foldlM_nil, Node.addMember_of_mem, List.mem_cons,
      List.not_mem_nil, String.reduceEq, or_false, or_true, not_false_eq_true, Reading.ok_bind,
      bind_assoc, pure_bind, Claims.uuid_node, Node.list_node]
    rfl
  rw [readBytes_encode, Document.read, hread]
  rfl

theorem turns_respond {r : Response} (hasks : q.Asks t s)
    (h : (api.handler t s q).run.Turns g v (.ok r) v') : (api.respond q).Turns g v r v' := by
  obtain ⟨front, back, -, -, hrespond⟩ := respond_of_asks api hasks
  rw [hrespond]
  exact h.bind (turns_done r)

theorem turns_respond_refused {e : ApiError} (hasks : q.Asks t s)
    (h : (api.handler t s q).run.Turns g v (.error [.refused e]) v') :
    (api.respond q).Turns g v e.response v' := by
  obtain ⟨front, back, hfront, -, hrespond⟩ := respond_of_asks api hasks
  rw [hrespond]
  refine h.bind ?_
  change (Route.conclude (front ++ [.refused e] ++ back)).Turns g v' e.response v'
  rw [Route.conclude_refused hfront]
  exact turns_done _

theorem still_respond (hasks : q.Asks t s) (h : (api.handler t s q).run.Still g v) :
    (api.respond q).Still g v := by
  obtain ⟨r | r, h⟩ := h
  · obtain ⟨front, back, -, -, hrespond⟩ := respond_of_asks api hasks
    rw [hrespond]
    exact ⟨_, h.bind ((Handling.turns_emitAll _).bind (turns_done _))⟩
  · exact ⟨r, turns_respond hasks h⟩

/-- The answer hands out the set that was made after `n` identifiers were drawn. -/
structure HandsOut (api : Api) (g : Host) (user : Uuid) (roles : List String) (n : Nat)
    (r : Response) : Prop where
  status : r.status = 200
  bearer : r.header? "authorization" =
    some ("Bearer " ++ (User.issuedSet api.users user roles g n).bearer.text)
  refresh : r.header? "set-cookie" = some (api.cookie
    (User.issuedSet api.users user roles g n).refresh.text api.users.refreshTtl.seconds).text

theorem handsOut_withTokens (data : Json.Value) (n : Nat) :
    api.HandsOut g user roles n
      (api.withTokens (success data) (User.issuedSet api.users user roles g n)) := by
  constructor <;> simp [withTokens, setCookie, Response.withHeader, success, Response.json,
    Response.header?]

section Users

variable (hbearer : api.users.bearerTtl.Fits g.clock) (hrefresh : api.users.refreshTtl.Fits g.clock)
  (hnow : (api.users.codec.leeway : Int) ≤ g.clock.unix)
  (hfresh : ∀ n, v.drawn ≤ n → v.state (g.source n) ≠ .revoked)
include hbearer hrefresh hnow hfresh

theorem turns_issueSession (hasks : q.Asks .issue .user) (htrusts : api.Trusts q)
    (hbrings : q.Brings issueUser (user, roles)) :
    ∃ r, (api.respond q).Turns g v r (v.issue g) ∧ api.HandsOut g user roles v.drawn r := by
  let set : TokenSet := User.issuedSet api.users user roles g v.drawn
  let data : Json.Value := .obj (("user_id", .str user.text) :: expiries "access" set)
  refine ⟨_, turns_respond hasks ?_, handsOut_withTokens data _⟩
  rw [handler, issueSession, trusted_of_trusts htrusts, limitedBody_of_brings hbrings, pure_bind,
    pure_bind]
  exact turns_ok_bind (Handling.turns_ofOperation
    (User.turns_issue hbearer hrefresh hnow hfresh user roles)) (turns_done _)

/-- Who sends the cookie back that was set last gets the next set, with the roles that the user has
now. -/
theorem turns_refreshSession {n : Nat} {r : Response} {set : String}
    (hr : api.HandsOut g user roles n r)
    (hset : r.header? "set-cookie" = some set) (hasks : q.Asks .exchange .user)
    (hreturns : q.Returns set) (hactive : v.state (g.source (n + 1)) = .active) :
    ∃ r', (api.respond q).Turns g v r' ((v.issue g).mark (g.source (n + 1)) .revoked) ∧
      api.HandsOut g user (g.roles.rolesOf user) v.drawn r' := by
  have hgood := Claims.good_issued (k := .userRefresh) api.users.codec user ()
    (g.source (n + 1)) hnow hrefresh
  obtain rfl := Option.some.inj (hset.symm.trans hr.refresh)
  have hshown := Request.refreshToken?_of_returns (clear_sign _ _) (sign_ne_empty _ _) hreturns
  let next : TokenSet := User.issuedSet api.users user (g.roles.rolesOf user) g v.drawn
  let data : Json.Value := .obj (expiries "access" next)
  refine ⟨_, turns_respond hasks ?_, handsOut_withTokens data _⟩
  simp only [handler, refreshSession, hshown]
  exact turns_ok_bind (Handling.turns_ofOperation
    (User.turns_rotate hbearer hrefresh hnow hfresh hgood hactive)) (turns_done _)

omit hbearer hfresh in
/-- Who sends a cookie back that was set before is turned down, and nothing changes. -/
theorem turns_refreshSession_again {n : Nat} {r : Response} {set : String}
    (hr : api.HandsOut g user roles n r)
    (hset : r.header? "set-cookie" = some set) (hasks : q.Asks .exchange .user)
    (hreturns : q.Returns set) (hrevoked : v.state (g.source (n + 1)) = .revoked) :
    (api.respond q).Turns g v ApiError.invalidToken.response v := by
  have hgood := Claims.good_issued (k := .userRefresh) api.users.codec user ()
    (g.source (n + 1)) hnow hrefresh
  obtain rfl := Option.some.inj (hset.symm.trans hr.refresh)
  have hshown := Request.refreshToken?_of_returns (clear_sign _ _) (sign_ne_empty _ _) hreturns
  refine turns_respond_refused hasks ?_
  simp only [handler, refreshSession, hshown]
  exact turns_error_bind (Handling.turns_ofOperation_error
    (User.turns_rotate_revoked hgood hrevoked))

omit hrefresh hfresh in
theorem turns_currentSession {n : Nat} {r : Response} {value : String}
    (hr : api.HandsOut g user roles n r)
    (hvalue : r.header? "authorization" = some value) (hasks : q.Asks .current .user)
    (hshows : q.first? "authorization" = some ⟨"authorization", value⟩)
    (hactive : v.state (g.source n) = .active) :
    ∃ r', (api.respond q).Turns g v r' v ∧ r'.Describes user roles := by
  have hgood := Claims.good_issued (k := .userAccess) api.users.codec user roles (g.source n) hnow
    hbearer
  obtain rfl := Option.some.inj (hvalue.symm.trans hr.bearer)
  have hshown := Request.bearer?_of_authorization (clear_sign _ _) (sign_ne_empty _ _) hshows
  let c : AccessClaims := .issued .userAccess user roles (g.source n) g.clock api.users.bearerTtl
  have huser : (api.user q).run.Turns g v (.ok c) v := by
    rw [Api.user, bearer_of_bearer? hshown, pure_bind]
    exact Handling.turns_ofOperation (Issuer.turns_validate hgood hactive)
  exact ⟨_, turns_respond hasks (turns_ok_bind huser (turns_done _)), .str c.jti.text,
    time c.expiry, rfl⟩

end Users

/-- Who only asks about a session changes nothing. -/
theorem still_current (hasks : q.Asks .current s) : (api.respond q).Still g v := by
  have hheader : (Handling.header? q "authorization").run.Still g v := by
    unfold Handling.header?
    split
    · exact ⟨_, turns_done _⟩
    · split <;> exact ⟨_, turns_done _⟩
  have hbearer : (bearer q).run.Still g v := by
    refine still_bind hheader fun value => ?_
    split <;> exact ⟨_, turns_done _⟩
  have hvalidate : ∀ {α : Type} {op : Operation α}, op.run.Still g v →
      (Handling.ofOperation op).run.Still g v := by
    rintro α op ⟨e | a, h⟩
    · exact ⟨_, Handling.turns_ofOperation_error h⟩
    · exact ⟨_, Handling.turns_ofOperation h⟩
  refine still_respond hasks ?_
  cases s with
  | user =>
    exact still_bind (still_bind hbearer fun token => hvalidate (Issuer.still_validate _ token))
      fun _ => ⟨_, turns_done _⟩
  | device =>
    exact still_bind (still_bind hbearer fun token => hvalidate (Issuer.still_validate _ token))
      fun _ => ⟨_, turns_done _⟩

end Api

end SessionTokens.Http

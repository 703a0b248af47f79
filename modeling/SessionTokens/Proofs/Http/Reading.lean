import SessionTokens.Proofs.Http.Api

/-! What comes of a request that a route takes. The other routes turn it down in a way that does
not show, and what the handler reads of a request in good order it reads at once. -/

namespace SessionTokens.Http

open Program

namespace Request

/-- The body is short enough, is said to be JSON if anything is said, and reads as `a`. -/
structure Brings {α : Type} (q : Request) (value : Json.Node → Json.Reading α) (a : α) : Prop where
  length : ∃ n ≤ Api.bodyLimit, q.contentLength? = some n
  media : ∀ h, q.first? "content-type" = some h → h.plain?.any MediaType.isJson = true
  body : (Json.readBytes q.body).read value = .ok a

/-- There is no bearer token, or an empty one, where a request should name it. -/
def LacksBearer (q : Request) : Prop :=
  ∀ h, q.first? "authorization" = some h → ∃ value, h.plain? = some value ∧
    Api.bearerOf? value = none

end Request

namespace Handling

variable {α : Type} {q : Request} {name : String}

theorem header?_of_plain {value : String} (h : (q.first? name).bind Header.plain? = some value) :
    header? q name = pure (some value) := by
  obtain ⟨hd, hfirst, hplain⟩ := Option.bind_eq_some_iff.mp h
  simp only [header?, hfirst, hplain]

theorem limitLength_of_le {limit n : Nat} (hn : q.contentLength? = some n) (hle : n ≤ limit) :
    limitLength q limit = pure () := by
  simp only [limitLength, hn, if_pos hle]

theorem body_of_read {value : Json.Node → Json.Reading α} {a : α}
    (hmedia : ∀ h, q.first? "content-type" = some h → h.plain?.any MediaType.isJson = true)
    (hread : (Json.readBytes q.body).read value = .ok a) : body q value = pure a := by
  unfold body
  rw [hread]
  cases hfirst : q.first? "content-type" with
  | none => rfl
  | some h =>
    have hjson := hmedia h hfirst
    simp only [hjson, Bool.not_true, Bool.false_eq_true, if_false]

end Handling

namespace Api

variable {api : Api} {q : Request} {token : String}

theorem bearer_of_bearer? (h : q.bearer? = some token) : bearer q = pure token := by
  obtain ⟨value, hvalue, htoken⟩ := Option.bind_eq_some_iff.mp h
  simp only [bearer, Handling.header?_of_plain hvalue, pure_bind, Option.bind_some, htoken]

theorem bearer_of_lacksBearer (h : q.LacksBearer) :
    bearer q = Handling.reject (.refused .invalidToken) := by
  unfold bearer
  cases hfirst : q.first? "authorization" with
  | none =>
    simp only [Handling.header?, hfirst]
    rfl
  | some hd =>
    obtain ⟨value, hplain, hnone⟩ := h hd hfirst
    simp only [Handling.header?, hfirst, hplain, pure_bind, Option.bind_some, hnone]

theorem limitedBody_of_brings {α : Type} {value : Json.Node → Json.Reading α} {a : α}
    (h : q.Brings value a) : limitedBody q value = pure a := by
  obtain ⟨n, hle, hn⟩ := h.length
  rw [limitedBody, Handling.limitLength_of_le hn hle, pure_bind,
    Handling.body_of_read h.media h.body]

theorem trusted_of_trusts (h : api.Trusts q) : api.trusted q = pure () := by
  obtain ⟨key, hkey, hdigest⟩ := h
  rw [trusted, Handling.header?_of_plain hkey, pure_bind]
  exact if_pos hdigest

end Api

namespace Route

variable {mount : List String} {q : Request} {below : List Char} {r : Route}
  {rs before after : List Route}

def Takes (q : Request) (below : List Char) (r : Route) : Prop :=
  q.method = r.method ∧ afterSegments r.segments below = some []

/-- Reasons that only say that a route is for another method. -/
def Faint (causes : Rejection) : Prop := ∀ c ∈ causes, c = Cause.methodNotAllowed

/-- What a route has to say that does not take a request. -/
def complaint (q : Request) (r : Route) : Rejection :=
  if q.method = r.method then [] else [.methodNotAllowed]

theorem faint_complaints (q : Request) (rs : List Route) : Faint (rs.flatMap (complaint q)) := by
  intro c hc
  obtain ⟨r, -, hc⟩ := List.mem_flatMap.mp hc
  unfold complaint at hc
  split at hc
  · exact nomatch hc
  · exact List.mem_singleton.mp hc

theorem offer_of_takes (h : Takes q below r) : r.offer q below = r.handle q := by
  rw [offer_eq, if_neg (not_not.mpr h.1), if_neg (not_not.mpr h.2), pure_bind, pure_bind]

theorem offer_of_not_takes (h : ¬ Takes q below r) : r.offer q below = throw (complaint q r) := by
  rw [offer_eq]
  by_cases hm : q.method = r.method
  · have hs : afterSegments r.segments below ≠ some [] := fun hs => h ⟨hm, hs⟩
    rw [if_neg (not_not.mpr hm), if_pos hs, pure_bind, complaint, if_pos hm]
    rfl
  · rw [if_pos hm, complaint, if_neg hm]
    rfl

theorem firstOf_of_not_takes (h : ∀ r ∈ rs, ¬ Takes q below r) :
    firstOf rs q below = throw (rs.flatMap (complaint q)) := by
  induction rs with
  | nil => rfl
  | cons r rs ih =>
    rw [firstOf, offer_of_not_takes (h r List.mem_cons_self),
      ih fun r hr => h r (List.mem_cons_of_mem _ hr)]
    rfl

theorem run_firstOf_of_throw {causes : Rejection} (h : r.offer q below = throw causes) :
    (firstOf (r :: rs) q below).run =
      (firstOf rs q below).run.bind fun a => .done (a.mapError fun more => causes ++ more) := by
  rw [firstOf, h, ExceptT.run_bind_lift]
  refine (ExceptT.run_bind_lift (firstOf rs q below).run _).trans ?_
  refine congrArg _ (funext fun a => ?_)
  cases a <;> rfl

/-- The one route that takes a request decides: the others add nothing but complaints. -/
theorem firstOf_of_takes (h : Takes q below r) (hothers : ∀ r' ∈ before ++ after,
    ¬ Takes q below r') :
    (firstOf (before ++ r :: after) q below).run = (r.handle q).run.bind fun a =>
      .done (a.mapError fun causes =>
        before.flatMap (complaint q) ++ causes ++ after.flatMap (complaint q)) := by
  induction before with
  | nil =>
    rw [List.nil_append] at hothers
    rw [List.nil_append, firstOf, offer_of_takes h, firstOf_of_not_takes hothers,
      ExceptT.run_bind_lift]
    refine congrArg _ (funext fun a => ?_)
    cases a <;> rfl
  | cons r' before ih =>
    rw [List.cons_append, run_firstOf_of_throw (offer_of_not_takes (hothers r' List.mem_cons_self)),
      ih fun r hr => hothers r (List.mem_cons_of_mem _ hr)]
    refine (Program.bind_assoc ..).trans (congrArg _ (funext fun a => ?_))
    cases a with
    | ok response => rfl
    | error more =>
      simp only [Program.bind, Except.mapError, List.flatMap_cons, List.append_assoc]

/-- What is answered when no handler has an answer. -/
def conclude (causes : Rejection) : Program Response :=
  (Handling.emitAll causes.events).run.bind fun _ => .done causes.error.response

theorem conclude_refused {front back : Rejection} (hfront : Faint front) (e : ApiError) :
    conclude (front ++ [.refused e] ++ back) = .done e.response := by
  have hfirst : Rejection.refusal? (front ++ [.refused e] ++ back) = some e := by
    have hnone : Rejection.refusal? front = none :=
      List.findSome?_eq_none_iff.mpr fun c hc => by rw [hfront c hc]
    rw [Rejection.refusal?] at hnone ⊢
    rw [List.append_assoc, List.findSome?_append, hnone]
    rfl
  have herror : Rejection.error? (front ++ [.refused e] ++ back) = some e := by
    simp only [Rejection.error?, hfirst]
  simp only [conclude, Rejection.events, Rejection.error, herror, Option.isNone_some,
    Bool.false_eq_true, if_false, Option.getD_some]
  rfl

theorem conclude_faint {causes : Rejection} (h : Faint causes) :
    conclude causes = .done ApiError.notFound.response := by
  have hnone : Rejection.refusal? causes = none :=
    List.findSome?_eq_none_iff.mpr fun c hc => by rw [h c hc]
  have hno : ∀ c, c ≠ .methodNotAllowed → c ∉ causes := fun c hne hc => hne (h c hc)
  have hend : causes = [] ∨ .methodNotAllowed ∈ causes := by
    cases causes with
    | nil => exact .inl rfl
    | cons c causes => exact .inr (by simp [h c List.mem_cons_self])
  have herror : causes.error? = some .notFound := by
    simp [Rejection.error?, hnone, hno, hend]
  simp only [conclude, Rejection.events, Rejection.error, herror, Option.isNone_some,
    Bool.false_eq_true, if_false, Option.getD_some]
  rfl

theorem respond_of_below (hbelow : q.below mount = some below) :
    respond mount rs q = (firstOf rs q below).run.bind fun a => match a with
      | .ok response => .done response
      | .error causes => conclude causes := by
  simp only [respond, hbelow]
  rfl

theorem respond_of_takes (hbelow : q.below mount = some below) (h : Takes q below r)
    (hothers : ∀ r' ∈ before ++ after, ¬ Takes q below r') :
    respond mount (before ++ r :: after) q = (r.handle q).run.bind fun a => match a with
      | .ok response => .done response
      | .error causes => conclude
          (before.flatMap (complaint q) ++ causes ++ after.flatMap (complaint q)) := by
  rw [respond_of_below hbelow, firstOf_of_takes h hothers]
  refine (Program.bind_assoc ..).trans (congrArg _ (funext fun a => ?_))
  cases a <;> rfl

theorem respond_of_not_takes
    (h : ∀ below, q.below mount = some below → ∀ r ∈ rs, ¬ Takes q below r) :
    respond mount rs q = .done ApiError.notFound.response := by
  cases hbelow : q.below mount with
  | none =>
    simp only [respond, hbelow]
    exact conclude_faint nofun
  | some below =>
    rw [respond_of_below hbelow, firstOf_of_not_takes (h below hbelow)]
    exact conclude_faint (faint_complaints q rs)

end Route

namespace Api

variable {api : Api} {q : Request} {t : Task} {s : Side}

def handler (api : Api) : Task → Side → Request → Handling Response
  | .issue, .user => api.issueSession
  | .issue, .device => api.issueDeviceSession
  | .current, .user => api.currentSession
  | .current, .device => api.currentDeviceSession
  | .exchange, .user => api.refreshSession
  | .exchange, .device => api.refreshDeviceSession
  | .logout, .user => api.endSession
  | .logout, .device => api.endDeviceSession

def tasks : List (Task × Side) :=
  [(.issue, .user), (.current, .user), (.exchange, .user), (.logout, .user), (.issue, .device),
    (.current, .device), (.exchange, .device), (.logout, .device)]

def route (api : Api) (x : Task × Side) : Route := ⟨x.1.method, x.1.path x.2, api.handler x.1 x.2⟩

theorem routes_eq (api : Api) : api.routes = tasks.map api.route := rfl

theorem mem_tasks (t : Task) (s : Side) : (t, s) ∈ tasks := by
  cases t <;> cases s <;> decide

theorem not_takes_of_not_asks {below : List Char} (hbelow : q.below mount = some below)
    (h : ¬ q.Asks t s) : ¬ Route.Takes q below (api.route (t, s)) :=
  fun htakes => h ⟨htakes.1, below, hbelow, htakes.2⟩

/-- A request is answered as the handler says that it asks for, and if that has no answer the
reasons are the handler's, among the complaints of the other routes. -/
theorem respond_among (api : Api) (h : q.Asks t s) :
    ∃ before after, tasks = before ++ (t, s) :: after ∧ api.respond q =
      (api.handler t s q).run.bind fun a => match a with
        | .ok response => .done response
        | .error causes => Route.conclude ((before.map api.route).flatMap (Route.complaint q) ++
            causes ++ (after.map api.route).flatMap (Route.complaint q)) := by
  obtain ⟨before, after, htasks⟩ := List.append_of_mem (mem_tasks t s)
  have hnodup : (before ++ (t, s) :: after).Nodup := htasks ▸ (by decide : tasks.Nodup)
  obtain ⟨hmethod, below, hbelow, hsegments⟩ := h
  have hothers : ∀ r ∈ before.map api.route ++ after.map api.route, ¬ Route.Takes q below r := by
    intro r hr
    rw [← List.map_append] at hr
    obtain ⟨⟨t', s'⟩, hx, rfl⟩ := List.mem_map.mp hr
    refine not_takes_of_not_asks hbelow fun hasks => ?_
    obtain ⟨rfl, rfl⟩ := Request.Asks.unique ⟨hmethod, below, hbelow, hsegments⟩ hasks
    exact (List.nodup_middle.mp hnodup).notMem hx
  have hroutes : api.routes = before.map api.route ++ api.route (t, s) :: after.map api.route := by
    rw [routes_eq, htasks, List.map_append, List.map_cons]
  refine ⟨before, after, htasks, ?_⟩
  rw [respond, hroutes]
  exact Route.respond_of_takes hbelow ⟨hmethod, hsegments⟩ hothers

theorem respond_of_asks (api : Api) (h : q.Asks t s) :
    ∃ front back, Route.Faint front ∧ Route.Faint back ∧ api.respond q =
      (api.handler t s q).run.bind fun a => match a with
        | .ok response => .done response
        | .error causes => Route.conclude (front ++ causes ++ back) := by
  obtain ⟨before, after, -, hrespond⟩ := respond_among api h
  exact ⟨_, _, Route.faint_complaints q _, Route.faint_complaints q _, hrespond⟩

theorem respond_of_not_asks (api : Api) (h : ∀ t s, ¬ q.Asks t s) :
    api.respond q = .done ApiError.notFound.response := by
  refine Route.respond_of_not_takes fun below hbelow r hr => ?_
  rw [routes_eq] at hr
  obtain ⟨⟨t, s⟩, -, rfl⟩ := List.mem_map.mp hr
  exact not_takes_of_not_asks hbelow (h t s)

end Api

end SessionTokens.Http

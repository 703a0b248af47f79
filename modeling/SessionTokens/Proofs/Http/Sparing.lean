import SessionTokens.Proofs.Http.Reading
import SessionTokens.Proofs.Session.Harmless

/-! What a request gets to: the handler of one route, or none. A handler reads first, asks the
registry next and marks last, so that one that turns the request down has left the registry as it
was, unless a call has failed. -/

namespace SessionTokens.Http

open Program

namespace Handling

variable {α : Type} {op : Operation α} {os : List Occurrence}

theorem Idle.watches {x : Handling α} {P : α → Prop} (h : Idle x P) : Watches x := by
  intro os r hr
  rw [← harmless_dealings, (h os r hr).1]
  exact harmless_nil

theorem gives_ofOperation {r : Except Rejection α} (h : Gives (ofOperation op) os r) :
    ∃ us x, Gives op us x ∧ dealings os = dealings us ∧
      ((∃ a, x = .ok a ∧ r = .ok a) ∨ ∃ e causes, x = .error e ∧ r = .error causes) := by
  rw [← bind_pure (ofOperation op)] at h
  exact gives_ofOperation_return h

theorem watches_ofOperation (h : Watches op) : Watches (ofOperation op) := by
  intro os r hr
  obtain ⟨us, x, hx, hd, -⟩ := gives_ofOperation hr
  rw [← harmless_dealings, hd]
  exact harmless_dealings.mpr (h us x hx)

theorem spares_ofOperation (h : Spares op) : Spares (ofOperation op) := by
  intro os causes hr
  obtain ⟨us, x, hx, hd, ⟨_, -, hok⟩ | ⟨e, _, rfl, -⟩⟩ := gives_ofOperation hr
  · exact nomatch hok
  · rw [← harmless_dealings, hd]
    exact harmless_dealings.mpr (h us e hx)

theorem run_emitAll (events : List Log.Event) (sc : Scope) (h : Host) :
    (emitAll events).run.run sc h = (.ok (), sc, h.log events) := by
  induction events generalizing h with
  | nil =>
    rw [h.log_nil]
    rfl
  | cons e es ih =>
    have hrest : (emitAll (e :: es)).run.run sc h = (emitAll es).run.run sc (h.log [e]) := rfl
    rw [hrest, ih]
    simp [Host.log]

end Handling

theorem Route.run_conclude (causes : Rejection) (sc : Scope) (h : Host) :
    (conclude causes).run sc h = (causes.error.response, sc, h.log causes.events) := by
  rw [conclude, run_bind, Handling.run_emitAll]
  rfl

namespace Api

variable {api : Api} {q : Request} {t : Task} {s : Side}

theorem watches_gate :
    Watches (bearer q >>= fun token =>
      Handling.ofOperation ((api.services.issuer s).validate s.bearer token)) :=
  idle_bearer.watches.bind fun _ =>
    Handling.watches_ofOperation fun _ _ h =>
      harmless_dealings.mp (harmless_validate (Issuer.dealings_validate h))

theorem spares_issue {subject : Uuid} {roles : s.bearer.Roles} {refreshRoles : s.refresh.Roles}
    {note : TokenSet → Log.Event} :
    Spares (Handling.ofOperation
      ((api.services.issuer s).issue s.bearer s.refresh subject roles refreshRoles note)) :=
  Handling.spares_ofOperation fun _ _ h =>
    harmless_dealings.mp (harmless_issue (Issuer.dealings_issue h))

theorem spares_logout {holder : Log.Holder} {c : Claims s.bearer} {shown : Option String} :
    Spares (Handling.ofOperation ((api.services.issuer s).logout holder s.refresh c shown)) :=
  Handling.spares_ofOperation fun _ _ h => harmless_logout h

/-- Each handler reads first, asks next, and marks last. -/
theorem spares_handler (api : Api) (t : Task) (s : Side) (q : Request) :
    Spares (api.handler t s q) := by
  cases t with
  | issue =>
    cases s with
    | user =>
      exact idle_trusted.watches.spares_bind fun _ =>
        idle_limitedBody.watches.spares_bind fun _ => (spares_issue (s := .user)).map _
    | device =>
      exact idle_trusted.watches.spares_bind fun _ =>
        idle_limitedBody.watches.spares_bind fun _ => (spares_issue (s := .device)).map _
  | current =>
    cases s with
    | user => exact (watches_gate (s := .user)).spares_bind fun _ => spares_pure
    | device => exact (watches_gate (s := .device)).spares_bind fun _ => spares_pure
  | exchange =>
    cases s with
    | user =>
      change Spares (api.refreshSession q)
      unfold refreshSession
      cases refreshToken? q with
      | none => exact fun os _ h => (gives_throw.mp h).1 ▸ harmless_nil
      | some token =>
        refine (Handling.spares_ofOperation fun os e h => ?_).map _
        have hdeals : RotateDeals api.services .user () token os (dealings os) (.error e) :=
          User.dealings_rotate h
        exact harmless_dealings.mp (harmless_rotate hdeals)
    | device =>
      refine idle_limitedBody.watches.spares_bind fun shown =>
        (Handling.spares_ofOperation fun os e h => ?_).map _
      have hdeals : RotateDeals api.services .device shown.1 shown.2 os (dealings os) (.error e) :=
        Device.dealings_rotate h
      exact harmless_dealings.mp (harmless_rotate hdeals)
  | logout =>
    cases s with
    | user =>
      exact (watches_gate (s := .user)).spares_bind fun _ => (spares_logout (s := .user)).map _
    | device =>
      exact (watches_gate (s := .device)).spares_bind fun _ =>
        idle_limitedBody.watches.spares_bind fun _ => (spares_logout (s := .device)).map _

/-- A request gets to one handler at most. What comes after it only adds lines to the log, and
does not touch an answer. -/
inductive Sole (api : Api) (q : Request) : Prop
  | one {t : Task} {s : Side} {finish : Except Rejection Response → Program Response} :
    q.Asks t s → (∀ t' s', q.Asks t' s' → t' = t ∧ s' = s) →
    api.respond q = (api.handler t s q).run.bind finish → (∀ r, finish (.ok r) = .done r) →
    (∀ a, ∃ r events, ∀ sc h, (finish a).run sc h = (r, sc, h.log events)) → Sole api q
  | none : (∀ t s, ¬ q.Asks t s) → api.respond q = .done ApiError.notFound.response → Sole api q

theorem sole (api : Api) (q : Request) : api.Sole q := by
  by_cases h : ∃ t s, q.Asks t s
  · obtain ⟨t, s, hasks⟩ := h
    obtain ⟨front, back, -, -, hrespond⟩ := respond_of_asks api hasks
    refine .one hasks (fun _ _ h' => Request.Asks.unique h' hasks) hrespond (fun _ => rfl) ?_
    intro a
    cases a with
    | ok r => exact ⟨r, [], fun sc h => by rw [h.log_nil]; rfl⟩
    | error causes => exact ⟨_, _, Route.run_conclude _⟩
  · have hnone : ∀ t s, ¬ q.Asks t s := fun t s hasks => h ⟨t, s, hasks⟩
    exact .none hnone (respond_of_not_asks api hnone)

section Run

variable {sc sc' : Scope} {h k : Host}

theorem run_respond_of_ok {r : Response} (hasks : q.Asks t s)
    (hrun : (api.handler t s q).run.run sc h = (.ok r, sc', k)) :
    (api.respond q).run sc h = (r, sc', k) := by
  obtain ⟨_, _, -, -, hrespond⟩ := respond_of_asks api hasks
  rw [hrespond, run_bind, hrun]
  rfl

/-- There is a route of another method beside each. -/
theorem methodNotAllowed_mem {before after : List (Task × Side)}
    (htasks : tasks = before ++ (t, s) :: after) (hasks : q.Asks t s) :
    .methodNotAllowed ∈ (before.map api.route).flatMap (Route.complaint q) ++
      (after.map api.route).flatMap (Route.complaint q) := by
  obtain ⟨t', hne⟩ : ∃ t' : Task, t'.method ≠ t.method :=
    ⟨if t = .current then .issue else .current, by cases t <;> decide⟩
  have hmem : (t', s) ∈ before ++ after := by
    have h := htasks ▸ mem_tasks t' s
    rcases List.mem_append.mp h with hb | ha
    · exact List.mem_append_left _ hb
    · rcases List.mem_cons.mp ha with he | ha
      · exact absurd (congrArg (fun x : Task × Side => x.1.method) he) hne
      · exact List.mem_append_right _ ha
  rw [← List.flatMap_append, ← List.map_append]
  refine List.mem_flatMap.mpr ⟨api.route (t', s), List.mem_map_of_mem hmem, ?_⟩
  have hmethod : q.method ≠ (api.route (t', s)).method := fun he => hne (he.symm.trans hasks.1)
  rw [Route.complaint, if_neg hmethod]
  exact List.mem_singleton_self _

/-- The other routes only complain, and one at least does. -/
theorem run_respond_of_error {causes : Rejection} (hasks : q.Asks t s)
    (hrun : (api.handler t s q).run.run sc h = (.error causes, sc', k)) :
    ∃ front back, Route.Faint front ∧ Route.Faint back ∧ .methodNotAllowed ∈ front ++ back ∧
      (api.respond q).run sc h = ((Rejection.error (front ++ causes ++ back)).response, sc',
        k.log (Rejection.events (front ++ causes ++ back))) := by
  obtain ⟨before, after, htasks, hrespond⟩ := respond_among api hasks
  refine ⟨_, _, Route.faint_complaints q (before.map api.route),
    Route.faint_complaints q (after.map api.route), methodNotAllowed_mem htasks hasks, ?_⟩
  rw [hrespond, run_bind, hrun]
  exact Route.run_conclude ..

end Run

theorem course_of_asks {os : List Occurrence} {a : Except Rejection Response} (h : q.Asks t s)
    (ha : Gives (api.handler t s q) os a) : api.Course q (dealings os) a :=
  course_of_handles
    ⟨⟨api.route (t, s), List.mem_map_of_mem (mem_tasks t s), h, ha⟩, List.Subset.refl _⟩

end Api

end SessionTokens.Http

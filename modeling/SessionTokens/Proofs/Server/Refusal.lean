import SessionTokens.Proofs.Http.Sparing
import SessionTokens.Proofs.Server.RoundTrip

/-! What becomes of a server and its host by a request that is turned down: some lines in the log,
and not more where the registry is that of one process and answers its calls. Who does not know the
service key does not even get as far as the body. -/

namespace SessionTokens

open Program

namespace Http.Api

variable {api : Api} {q : Request}

/-- The request does not show the service key: there is no such header, or one with a text of
another digest. -/
def Distrusts (api : Api) (q : Request) : Prop :=
  q.first? "x-service-key" = none ∨
    ∃ key, q.key? = some key ∧ digest key ≠ digest api.serviceKey

theorem run_trusted_of_distrusts (h : api.Distrusts q) (sc : Scope) (k : Host) :
    (api.trusted q).run.run sc k =
      (.error [.refused .untrustedCaller], sc, k.log [.untrustedIssuer]) := by
  rcases h with hnone | ⟨key, hkey, hdigest⟩
  · simp only [trusted, Handling.header?, hnone]
    rfl
  · have hrejected : api.trusted q = Handling.emit .untrustedIssuer >>= fun _ =>
        Handling.reject (.refused .untrustedCaller) := by
      rw [trusted, Handling.header?_of_plain hkey, pure_bind]
      exact if_neg hdigest
    rw [hrejected]
    rfl

theorem run_issue_of_distrusts {side : Side} (h : api.Distrusts q) (sc : Scope) (k : Host) :
    (api.handler .issue side q).run.run sc k =
      (.error [.refused .untrustedCaller], sc, k.log [.untrustedIssuer]) := by
  have hbind {f : Unit → Handling Response} : (api.trusted q >>= f).run.run sc k =
      (.error [.refused .untrustedCaller], sc, k.log [.untrustedIssuer]) := by
    rw [run_exceptT_bind, run_trusted_of_distrusts h]
  cases side with
  | user => exact hbind
  | device => exact hbind

end Http.Api

namespace Server

open Http

variable {s : Server} {q : Request} {h : Host}

theorem respond_of_run {sc : Scope} {k : Host} {r : Response}
    (hrun : (s.api.respond q).run { timeout := s.api.timeout } h = (r, sc, k))
    (htimer : k.timer = h.timer) : s.respond q h = (r, s, k) := by
  rw [respond, hrun]
  simp only [htimer, Nat.sub_self, catchUp]

/-- The header is looked at first, and nothing else then. -/
theorem respond_of_distrusts {side : Side} (hasks : q.Asks .issue side)
    (hkey : s.api.Distrusts q) :
    s.respond q h = (ApiError.untrustedCaller.response, s, h.log [.untrustedIssuer]) := by
  obtain ⟨front, back, hfront, -, hrespond⟩ := Api.respond_of_asks s.api hasks
  have hrun : (s.api.respond q).run { timeout := s.api.timeout } h =
      (ApiError.untrustedCaller.response, { timeout := s.api.timeout },
        h.log [.untrustedIssuer]) := by
    rw [hrespond, run_bind, Api.run_issue_of_distrusts hkey]
    dsimp only
    rw [Route.conclude_refused hfront]
    rfl
  exact respond_of_run hrun rfl

/-- A handler that has no answer leaves the registry as it was, and no time passes. -/
theorem registry_of_error {t : Task} {side : Side} {m : MemoryRegistry} {sc sc' : Scope} {k : Host}
    {causes : Rejection} (hk : Undisturbed h.timer sc h) (hm : h.registry = .memory m)
    (hrun : (s.api.handler t side q).run.run sc h = (.error causes, sc', k)) :
    k.timer = h.timer ∧ k.registry = h.registry := by
  have hcourse := yields_course (s.api.handler t side q).run sc h
  obtain ⟨hanswered, htimer, m', hm', hserves⟩ :=
    (s.api.handler t side q).run.serves_undisturbed hk hm
  rw [hrun] at hcourse htimer hm'
  obtain rfl := Api.spares_handler _ _ _ _ _ _ hcourse hanswered m h.clock m' hserves
  exact ⟨htimer, hm'.trans hm.symm⟩

theorem registry_of_refused {m : MemoryRegistry} (hm : h.registry = .memory m)
    (hfaults : h.faults = []) (hstatus : 400 ≤ (s.respond q h).1.status) :
    (s.respond q h).2.1 = s ∧ (s.respond q h).2.2.registry = h.registry := by
  by_cases hasked : ∃ t side, q.Asks t side
  · obtain ⟨t, side, hasks⟩ := hasked
    let sc : Scope := { timeout := s.api.timeout }
    have hk : Undisturbed h.timer sc h := ⟨⟨rfl, rfl⟩, hfaults, ⟨m, hm⟩, rfl⟩
    obtain ⟨⟨a, sc', k⟩, hrun⟩ :
        ∃ x, (s.api.handler t side q).run.run sc h = x := ⟨_, rfl⟩
    cases a with
    | ok r =>
      have hcourse := yields_course (s.api.handler t side q).run sc h
      rw [hrun] at hcourse
      rw [respond, Api.run_respond_of_ok hasks hrun] at hstatus
      rw [(Api.course_of_asks hasks hcourse).status] at hstatus
      exact absurd hstatus (by decide)
    | error causes =>
      obtain ⟨htimer, hregistry⟩ := registry_of_error hk hm hrun
      obtain ⟨front, back, -, -, -, hend⟩ := Api.run_respond_of_error hasks hrun
      rw [respond_of_run hend htimer]
      exact ⟨rfl, hregistry⟩
  · have hrespond := Api.respond_of_not_asks s.api fun t side hasks => hasked ⟨t, side, hasks⟩
    have hend : (s.api.respond q).run { timeout := s.api.timeout } h =
        (ApiError.notFound.response, { timeout := s.api.timeout }, h) := by
      rw [hrespond]
      rfl
    rw [respond_of_run hend rfl]
    exact ⟨rfl, rfl⟩

/-- Whatever is asked, one handler at most gets to see it; a refusal leaves the server and the
registry as they were; and without the service key nothing is asked of anybody. -/
theorem refused_without_effect (s : Server) (q : Request) (h : Host) {m : MemoryRegistry}
    (hm : h.registry = .memory m) (hfaults : h.faults = []) :
    s.api.Sole q ∧
      (400 ≤ (s.respond q h).1.status →
        (s.respond q h).2.1 = s ∧ (s.respond q h).2.2.registry = h.registry) ∧
      ∀ side, q.Asks .issue side → s.api.Distrusts q →
        s.respond q h = (ApiError.untrustedCaller.response, s, h.log [.untrustedIssuer]) :=
  ⟨s.api.sole q, registry_of_refused hm hfaults, fun _ => respond_of_distrusts⟩

/-- A cookie that holds no token, and a body without a key, at a registry with a record. -/
theorem refused_at_sample :
    let p : Retention := ⟨.ofSeconds 60, .zero⟩
    let h : Host := .recording ⟨0⟩ p (.ofUnix 600 0)
    let m := ((MemoryRegistry.empty p).call ⟨0⟩ (.record ⟨""⟩ (.ofUnix 600 0))).2
    let q : Request := { posting "73" ["admin"] with headers := [⟨"content-length", "73"⟩] }
    (h.registry = .memory m ∧ h.faults = []) ∧
      (400 ≤ (sample.respond (refreshing "meshpoint_refresh=x") h).1.status ∧
        (sample.respond (refreshing "meshpoint_refresh=x") h).2.2.registry = h.registry) ∧
      sample.respond q h =
        (ApiError.untrustedCaller.response, sample, h.log [.untrustedIssuer]) := by
  intro p h m q
  have hm : h.registry = .memory m := rfl
  have hstatus : 400 ≤ (sample.respond (refreshing "meshpoint_refresh=x") h).1.status := by
    decide +kernel
  have hasks : q.Asks .issue .user := (asks_posting "73" ["admin"]).congr rfl rfl
  exact ⟨⟨hm, rfl⟩, ⟨hstatus, ((refused_without_effect sample _ h hm rfl).2.1 hstatus).2⟩,
    (refused_without_effect sample q h hm rfl).2.2 .user hasks (.inl rfl)⟩

end Server

end SessionTokens

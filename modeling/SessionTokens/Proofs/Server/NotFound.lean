import SessionTokens.Proofs.Http.NotFound
import SessionTokens.Proofs.Server.RoundTrip

/-! When a server answers that it found nothing: where there is no route, and also where a route
could not measure the body or found it too long. -/

namespace SessionTokens.Server

open Http Program

variable {s : Server} {q : Request} {h : Host} {t : Task} {side : Side}

/-- The route that the request asks for looks how long the body is, and cannot have it. -/
def CannotMeasure (s : Server) (q : Request) (h : Host) (t : Task) (side : Side) : Prop :=
  q.Asks t side ∧ q.Unsized ∧ s.api.Measures q { timeout := s.api.timeout } h t side

theorem respond_of_cause {c : Cause} {sc : Scope} {k : Host} (hasks : q.Asks t side)
    (hrun : (s.api.handler t side q).run.run { timeout := s.api.timeout } h =
      (.error [c], sc, k)) :
    (s.respond q h).1 = (Rejection.error [c, .methodNotAllowed]).response := by
  obtain ⟨front, back, hfront, hback, hother, hanswer⟩ := Api.run_respond_of_error hasks hrun
  rw [respond, hanswer, Route.error_of_faint hfront hback hother]

theorem CannotMeasure.eq_notFound (hc : s.CannotMeasure q h t side) :
    (s.respond q h).1 = ApiError.notFound.response := by
  obtain ⟨hasks, hq, hm⟩ := hc
  obtain ⟨c, _, _, hmute, hrun⟩ := Api.run_handler_of_unsized hq hm
  rw [respond_of_cause hasks hrun, Route.error_of_mute hmute]

theorem status_ne_of_measured (hasks : q.Asks t side) (hc : ¬ s.CannotMeasure q h t side) :
    (s.respond q h).1.status ≠ 404 := by
  have hsized : ¬ (q.Unsized ∧ s.api.Measures q { timeout := s.api.timeout } h t side) :=
    fun hsized => hc ⟨hasks, hsized⟩
  have hcourse := yields_course (s.api.handler t side q).run { timeout := s.api.timeout } h
  obtain ⟨⟨a, sc, k⟩, hrun⟩ : ∃ x,
      (s.api.handler t side q).run.run { timeout := s.api.timeout } h = x := ⟨_, rfl⟩
  cases a with
  | ok r =>
    rw [hrun] at hcourse
    rw [respond, Api.run_respond_of_ok hasks hrun]
    rw [(Api.course_of_asks hasks hcourse).status]
    decide
  | error causes =>
    obtain ⟨c, htold, rfl⟩ := Api.told_of_handler hsized (congrArg Prod.fst hrun)
    rw [respond_of_cause hasks hrun]
    exact fun hstatus => Route.error_of_told htold (ApiError.eq_notFound_of_status hstatus)

theorem eq_notFound_of_not_asks (hnone : ∀ t side, ¬ q.Asks t side) :
    (s.respond q h).1 = ApiError.notFound.response := by
  have hanswer : (s.respond q h).1 = ((s.api.respond q).run { timeout := s.api.timeout } h).1 := rfl
  rw [hanswer, Api.respond_of_not_asks s.api hnone]
  rfl

/-- What the server does not find is a route, or the length of a body; the answer does not say
which. -/
theorem notFound_iff (s : Server) (q : Request) (h : Host) :
    ((s.respond q h).1.status = 404 ↔
        (∀ t side, ¬ q.Asks t side) ∨ ∃ t side, s.CannotMeasure q h t side) ∧
      ((s.respond q h).1.status = 404 → (s.respond q h).1 = ApiError.notFound.response) := by
  have hanswer : (∀ t side, ¬ q.Asks t side) ∨ (∃ t side, s.CannotMeasure q h t side) →
      (s.respond q h).1 = ApiError.notFound.response :=
    fun hend => hend.elim eq_notFound_of_not_asks fun ⟨_, _, hc⟩ => hc.eq_notFound
  have hiff : (s.respond q h).1.status = 404 ↔
      (∀ t side, ¬ q.Asks t side) ∨ ∃ t side, s.CannotMeasure q h t side := by
    refine ⟨fun hstatus => or_iff_not_imp_right.mpr fun hmeasured t side hasks => ?_,
      fun hend => by rw [hanswer hend]; rfl⟩
    exact status_ne_of_measured hasks (fun hc => hmeasured ⟨t, side, hc⟩) hstatus
  exact ⟨hiff, fun hstatus => hanswer (hiff.mp hstatus)⟩

/-- A trusted caller whose body is one character too long is told that there is nothing. -/
theorem oversized_not_found :
    let q : Request := ⟨"POST", "/api/v1/session",
      [⟨"x-service-key", "key"⟩, ⟨"content-length", "16385"⟩], List.replicate 16385 32⟩
    let h : Host := .fresh (.ofUnix 600 0) ⟨.ofSeconds 60, .zero⟩
    q.Asks .issue .user ∧ sample.api.Trusts q ∧
      ¬ ((sample.respond q h).1.status = 404 ↔ ∀ t side, ¬ q.Asks t side) := by
  intro q h
  have hasks : q.Asks .issue .user := (asks_posting "" []).congr rfl rfl
  have hstatus : (sample.respond q h).1.status = 404 := by decide +kernel
  exact ⟨hasks, ⟨"key", by decide +kernel, rfl⟩, fun hiff => hiff.mp hstatus .issue .user hasks⟩

end SessionTokens.Server

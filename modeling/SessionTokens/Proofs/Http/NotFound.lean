import SessionTokens.Proofs.Http.Sparing

/-! Which requests are answered as if there were no route for them. A route that turns a request
down gives one reason for it, which the answer shows as something else than a missing route, with
two exceptions: that a body has no length and that it is too long. Such a reason has no answer of
its own, and that other routes are for another method then counts for more. -/

namespace SessionTokens.Http

open Program

/-- The headers do not give one length that a body may have. -/
def Request.Unsized (q : Request) : Prop := ∀ n, q.contentLength? = some n → Api.bodyLimit < n

namespace Cause

/-- An answer that is made of this reason is not that for a missing route. -/
def Told : Cause → Prop
  | refused e => e ≠ .notFound
  | invalidHeader | unreadableBody | unsupportedMediaType => True
  | _ => False

/-- The reasons that have no answer of their own. -/
def Mute (c : Cause) : Prop := c = lengthRequired ∨ c = bodyTooLarge

end Cause

namespace Route

variable {front back : Rejection} {c : Cause}

theorem refusal?_of_faint (hfront : Faint front) (hback : Faint back) :
    Rejection.refusal? (front ++ [c] ++ back) = Rejection.refusal? [c, .methodNotAllowed] := by
  have hnone : ∀ {causes : Rejection}, Faint causes → causes.refusal? = none :=
    fun h => List.findSome?_eq_none_iff.mpr fun c hc => by rw [h c hc]
  have hf := hnone hfront
  have hb := hnone hback
  rw [Rejection.refusal?] at hf hb ⊢
  rw [List.findSome?_append, List.findSome?_append, hf, hb, Option.none_or, Option.or_none]
  cases c <;> rfl

theorem mem_of_faint {d : Cause} (hfront : Faint front) (hback : Faint back)
    (hother : .methodNotAllowed ∈ front ++ back) :
    d ∈ front ++ [c] ++ back ↔ d ∈ [c, .methodNotAllowed] := by
  have hends : d ∈ front ++ back ↔ d = .methodNotAllowed := by
    refine ⟨fun hd => ?_, fun hd => hd ▸ hother⟩
    exact (List.mem_append.mp hd).elim (hfront d) (hback d)
  rw [List.append_assoc, List.mem_append, List.singleton_append, List.mem_cons, or_left_comm,
    ← List.mem_append, hends, List.mem_pair]

/-- What the other routes add to a reason comes to one complaint about the method. -/
theorem error_of_faint (hfront : Faint front) (hback : Faint back)
    (hother : .methodNotAllowed ∈ front ++ back) :
    Rejection.error (front ++ [c] ++ back) = Rejection.error [c, .methodNotAllowed] := by
  have hne : front ++ [c] ++ back ≠ [] := by simp
  have herror : Rejection.error? (front ++ [c] ++ back) =
      Rejection.error? [c, .methodNotAllowed] := by
    simp only [Rejection.error?, refusal?_of_faint hfront hback, mem_of_faint hfront hback hother,
      hne, reduceCtorEq, false_or]
  exact congrArg (·.getD .internalError) herror

theorem error_of_told (hc : c.Told) :
    Rejection.error [c, .methodNotAllowed] ≠ .notFound := by
  cases c with
  | refused e => exact hc
  | invalidHeader | unreadableBody | unsupportedMediaType => decide
  | _ => exact hc.elim

theorem error_of_mute (hc : c.Mute) : Rejection.error [c, .methodNotAllowed] = .notFound := by
  rcases hc with rfl | rfl <;> rfl

end Route

theorem ApiError.eq_notFound_of_status {e : ApiError} (h : e.response.status = 404) :
    e = .notFound := by
  cases e <;> first | rfl | exact absurd h (by decide)

namespace Handling

variable {α β : Type} {q : Request}

/-- If it turns the request down, then for one reason, which is told. -/
def Tells (x : Handling α) : Prop :=
  ∀ os causes, Gives x os (.error causes) → ∃ c, c.Told ∧ causes = [c]

theorem tells_pure {a : α} : Tells (pure a : Handling α) :=
  fun _ _ h => nomatch (gives_pure.mp h).2

theorem tells_reject {c : Cause} (hc : c.Told) : Tells (reject c : Handling α) :=
  fun _ _ h => ⟨c, hc, Except.error.inj (gives_throw.mp h).2⟩

theorem Tells.bind {x : Handling α} {f : α → Handling β} (hx : Tells x) (hf : ∀ a, Tells (f a)) :
    Tells (x >>= f) := by
  intro os causes h
  rcases gives_bind.mp h with ⟨e, he, herror⟩ | ⟨us, vs, a, rfl, -, hrest⟩
  · obtain rfl := Except.error.inj herror
    exact hx os _ he
  · exact hf a vs causes hrest

theorem tells_emit {e : Log.Event} : Tells (emit e) := by
  intro os causes h
  obtain ⟨us, rfl, hd⟩ := yields_emit.mp h
  exact nomatch (yields_done.mp hd).2

theorem tells_header? {name : String} : Tells (header? q name) := by
  unfold header?
  split
  · exact tells_pure
  · split
    · exact tells_pure
    · exact tells_reject trivial

theorem tells_body {value : Json.Node → Json.Reading α} : Tells (body q value) := by
  have hmedia : Tells (reject .unsupportedMediaType : Handling Unit) := tells_reject trivial
  have hread : Tells (reject .unreadableBody : Handling α) := tells_reject trivial
  unfold body
  cases (Json.readBytes q.body).read value with
  | ok a =>
    cases q.first? "content-type" with
    | none => exact tells_pure
    | some h =>
      dsimp only
      split
      · exact hmedia.bind fun _ => tells_pure
      · exact tells_pure
  | error e =>
    cases q.first? "content-type" with
    | none => exact hread
    | some h =>
      dsimp only
      split
      · exact hmedia.bind fun _ => hread
      · exact hread

theorem ofSession_ne_notFound (e : SessionError) : ApiError.ofSession e ≠ .notFound := by
  cases e <;> exact ApiError.noConfusion

theorem tells_ofOperation {op : Operation α} : Tells (ofOperation op) := by
  have hlift : Tells (ExceptT.lift op.run : Handling (Except SessionError α)) := by
    intro os causes h
    obtain ⟨_, -, ha⟩ := gives_lift.mp h
    exact nomatch ha
  refine hlift.bind fun r => ?_
  cases r with
  | ok a => exact tells_pure
  | error e =>
    have hemit : Tells (emitAll (ApiError.sessionEvents e)) :=
      fun _ _ h => nomatch gives_emitAll h
    exact hemit.bind fun _ => tells_reject (ofSession_ne_notFound e)

theorem tells_run {x : Handling α} (hx : Tells x) {sc : Scope} {h : Host} {causes : Rejection}
    (hrun : (x.run.run sc h).1 = .error causes) : ∃ c, c.Told ∧ causes = [c] :=
  hx _ _ (hrun ▸ yields_course x.run sc h)

section Length

variable {x : Handling α} {rest : α → Handling β} {sc sc' : Scope} {h k : Host}

theorem limitLength_of_unsized (hq : q.Unsized) :
    ∃ c, c.Mute ∧ limitLength q Api.bodyLimit = reject c := by
  unfold limitLength
  cases hlength : q.contentLength? with
  | none => exact ⟨_, .inl rfl, rfl⟩
  | some n => exact ⟨_, .inr rfl, if_neg (Nat.not_le.mpr (hq n hlength))⟩

theorem run_of_unsized {a : α} (rest : α → Handling β) (hq : q.Unsized)
    (hx : x.run.run sc h = (.ok a, sc', k)) : ∃ c, c.Mute ∧
      (x >>= fun a => limitLength q Api.bodyLimit >>= fun _ => rest a).run.run sc h =
        (.error [c], sc', k) := by
  obtain ⟨c, hc, hlimit⟩ := limitLength_of_unsized hq
  refine ⟨c, hc, ?_⟩
  rw [run_exceptT_bind, hx, hlimit]
  rfl

/-- Past the length, what turns a request down is told. -/
theorem told_of_sized {causes : Rejection} (hx : Tells x) (hrest : ∀ a, Tells (rest a))
    (hsized : ¬ (q.Unsized ∧ ∃ a, (x.run.run sc h).1 = .ok a))
    (hrun : ((x >>= fun a => limitLength q Api.bodyLimit >>= fun _ => rest a).run.run sc h).1 =
      .error causes) : ∃ c, c.Told ∧ causes = [c] := by
  by_cases hq : q.Unsized
  · rw [run_exceptT_bind] at hrun
    split at hrun
    · rename_i a sc' k hok
      exact absurd ⟨hq, a, by rw [hok]⟩ hsized
    · rename_i e sc' k herror
      obtain rfl := Except.error.inj hrun
      exact tells_run hx (by rw [herror])
  · obtain ⟨n, hn, hle⟩ := by simpa [Request.Unsized] using hq
    refine tells_run (hx.bind fun a => ?_) hrun
    rw [limitLength_of_le hn hle, pure_bind]
    exact hrest a

end Length

end Handling

namespace Api

open Handling

variable {api : Api} {q : Request} {t : Task} {s : Side} {sc : Scope} {h : Host}

/-- The route measures the body, and the request gets as far as that. -/
inductive Measures (api : Api) (q : Request) (sc : Scope) (h : Host) : Task → Side → Prop
  | issue {s : Side} : api.Trusts q → Measures api q sc h .issue s
  | exchange : Measures api q sc h .exchange .device
  | logout {c : ConnectionClaims} : ((api.device q).run.run sc h).1 = .ok c →
      Measures api q sc h .logout .device

theorem tells_trusted : Tells (api.trusted q) := by
  have hreject : Tells (do
      emit .untrustedIssuer
      reject (.refused .untrustedCaller) : Handling Unit) :=
    tells_emit.bind fun _ => tells_reject (c := .refused .untrustedCaller) ApiError.noConfusion
  unfold trusted
  refine tells_header?.bind fun value => ?_
  cases value with
  | none => exact hreject
  | some key =>
    dsimp only
    split
    · exact tells_pure
    · exact hreject

theorem tells_bearer : Tells (bearer q) := by
  unfold bearer
  refine tells_header?.bind fun value => ?_
  split
  · exact tells_pure
  · exact tells_reject (c := .refused .invalidToken) ApiError.noConfusion

theorem tells_user : Tells (api.user q) := tells_bearer.bind fun _ => tells_ofOperation

theorem tells_device : Tells (api.device q) := tells_bearer.bind fun _ => tells_ofOperation

theorem trusts_iff : api.Trusts q ↔ ((api.trusted q).run.run sc h).1 = .ok () := by
  refine ⟨fun htrusts => by rw [trusted_of_trusts htrusts]; rfl, fun hok => ?_⟩
  exact (idle_trusted _ _ (hok ▸ yields_course (api.trusted q).run sc h)).2 () rfl

/-- A handler that measures the body does so after a gate; what comes before and after tells why
it turns a request down. -/
def Measured (api : Api) (q : Request) (t : Task) (s : Side) : Prop :=
  ∃ (α : Type) (x : Handling α) (rest : α → Handling Response),
    api.handler t s q = (x >>= fun a => limitLength q bodyLimit >>= fun _ => rest a) ∧
      Tells x ∧ (∀ a, Tells (rest a)) ∧
      ∀ sc h, api.Measures q sc h t s ↔ ∃ a, (x.run.run sc h).1 = .ok a

theorem measured_of_limitedBody {α β : Type} {x : Handling α} {value : Json.Node → Json.Reading β}
    {f : α → β → Handling Response}
    (heq : api.handler t s q = (x >>= fun a => limitedBody q value >>= f a)) (hx : Tells x)
    (hf : ∀ a b, Tells (f a b))
    (hiff : ∀ sc h, api.Measures q sc h t s ↔ ∃ a, (x.run.run sc h).1 = .ok a) :
    api.Measured q t s := by
  refine ⟨α, x, fun a => body q value >>= f a, heq.trans ?_, hx,
    fun a => tells_body.bind (hf a), hiff⟩
  exact congrArg _ (funext fun a => bind_assoc ..)

theorem tells_answer {α : Type} {op : Operation α} {f : α → Response} :
    Tells (ofOperation op >>= fun a => pure (f a)) :=
  tells_ofOperation.bind fun _ => tells_pure

theorem measured_or_tells (api : Api) (q : Request) (t : Task) (s : Side) :
    api.Measured q t s ∨ (Tells (api.handler t s q) ∧ ∀ sc h, ¬ api.Measures q sc h t s) := by
  have hissue : ∀ {s : Side} {sc : Scope} {h : Host}, api.Measures q sc h .issue s ↔
      ∃ a, ((api.trusted q).run.run sc h).1 = .ok a :=
    ⟨fun hm => by cases hm with | issue ht => exact ⟨(), trusts_iff.mp ht⟩,
      fun ⟨(), hok⟩ => .issue (trusts_iff.mpr hok)⟩
  cases t with
  | issue =>
    cases s with
    | user | device =>
      exact .inl (measured_of_limitedBody rfl tells_trusted (fun _ _ => tells_answer)
        fun _ _ => hissue)
  | current =>
    refine .inr ⟨?_, fun sc h => nofun⟩
    cases s with
    | user => exact tells_user.bind fun _ => tells_pure
    | device => exact tells_device.bind fun _ => tells_pure
  | exchange =>
    cases s with
    | user =>
      refine .inr ⟨?_, fun sc h => nofun⟩
      change Tells (api.refreshSession q)
      unfold refreshSession
      split
      · exact tells_reject (c := .refused .invalidToken) ApiError.noConfusion
      · exact tells_answer
    | device =>
      have hgate : api.handler .exchange .device q =
          (pure () : Handling Unit) >>= fun _ => api.refreshDeviceSession q := (pure_bind ..).symm
      exact .inl (measured_of_limitedBody hgate tells_pure (fun _ _ => tells_answer)
        fun _ _ => ⟨fun _ => ⟨(), rfl⟩, fun _ => .exchange⟩)
  | logout =>
    cases s with
    | user => exact .inr ⟨tells_user.bind fun _ => tells_answer, fun sc h => nofun⟩
    | device =>
      refine .inl (measured_of_limitedBody rfl tells_device (fun _ _ => tells_answer)
        fun _ _ => ⟨fun hm => ?_, fun ⟨c, hok⟩ => .logout hok⟩)
      cases hm with
      | logout hok => exact ⟨_, hok⟩

/-- Where the body should have been measured, the handler's only reason has no answer. -/
theorem run_handler_of_unsized (hq : q.Unsized) (hm : api.Measures q sc h t s) :
    ∃ c sc' k, c.Mute ∧ (api.handler t s q).run.run sc h = (.error [c], sc', k) := by
  rcases measured_or_tells api q t s with ⟨α, x, rest, heq, -, -, hiff⟩ | ⟨-, hnot⟩
  · obtain ⟨a, ha⟩ := (hiff sc h).mp hm
    obtain ⟨c, hc, hrun⟩ := run_of_unsized rest hq (Prod.ext ha rfl)
    exact ⟨c, _, _, hc, heq ▸ hrun⟩
  · exact absurd hm (hnot sc h)

theorem told_of_handler {causes : Rejection} (hsized : ¬ (q.Unsized ∧ api.Measures q sc h t s))
    (hrun : ((api.handler t s q).run.run sc h).1 = .error causes) :
    ∃ c, c.Told ∧ causes = [c] := by
  rcases measured_or_tells api q t s with ⟨α, x, rest, heq, hx, hrest, hiff⟩ | ⟨htells, -⟩
  · rw [heq] at hrun
    rw [hiff sc h] at hsized
    exact told_of_sized hx hrest hsized hrun
  · exact tells_run htells hrun

end Api

end SessionTokens.Http

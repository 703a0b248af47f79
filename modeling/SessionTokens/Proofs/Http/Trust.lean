import SessionTokens.Proofs.Host.Progress
import SessionTokens.Proofs.Http.Api

/-! The chain of trust. Whoever is answered as a subject holds a token of that subject, and all
tokens go back, from exchange to exchange, to a request of a trusted caller that named it. -/

namespace SessionTokens.Http.Api

open Program SessionTokens.System

variable (api : Api)

def HandedOut (s : System Request Response) (k : TokenKind) (token : String) : Prop :=
  ∃ i q r, s.Ended i q r ∧ r.status = 200 ∧ api.Hands r k token

/-- A request with the service key has named this subject and was answered. -/
def Certified (s : System Request Response) (side : Side) (subject : Uuid) : Prop :=
  ∃ i q r, s.Ended i q r ∧ r.status = 200 ∧ q.Asks .issue side ∧
    q.key? = some api.serviceKey ∧ q.Names side subject

/-- What is relied on: no other key has the digest of the service key, and a text that a request
shows as a token has the signature of its kind only if it was handed out as one. -/
def Relies (s : System Request Response) : Happening Request → Prop
  | .begun q =>
    (∀ key, q.key? = some key → digest key = digest api.serviceKey → key = api.serviceKey) ∧
      (∀ (side : Side) token c audience, q.bearer? = some token →
        (api.services.issuer side).codec.authentic side.bearer token = .ok (c, audience) →
        api.HandedOut s side.bearer token) ∧
      ∀ (side : Side) companion token c audience, q.Shows side companion token →
        (api.services.issuer side).codec.authentic side.refresh token = .ok (c, audience) →
        api.HandedOut s side.refresh token
  | _ => True

/-- The subject that a request is about: the one that it names for a new session, or else the
one in the token that it shows. -/
inductive Concerns (q : Request) : Side → Uuid → Prop
  | issue {s : Side} {subject : Uuid} : q.Asks .issue s →
    q.Names s subject → Concerns q s subject
  | exchange {s : Side} {companion : s.Companion} {token : String} {old : Claims s.refresh} :
    q.Asks .exchange s → q.Shows s companion token →
    (api.services.issuer s).codec.authentic s.refresh token = .ok (old, false) →
    Concerns q s old.subject
  | current {s : Side} {token : String} {c : Claims s.bearer} :
    q.Asks .current s → q.bearer? = some token →
    (api.services.issuer s).codec.authentic s.bearer token = .ok (c, false) →
    Concerns q s c.subject

/-- An identifier is that of a token about a subject: a request that concerns the subject has
recorded it, and no token that was handed out under it says anything else. -/
def About (ls : List (Happening Request)) (s : System Request Response) (j : Jti) (side : Side)
    (subject : Uuid) : Prop :=
  (∃ i q r e x, s.Ended i q r ∧ .moved i (.called (.record j e) x) ∈ ls ∧
      api.Concerns q side subject) ∧
    ∀ (side' : Side) k token (claims : Claims k) audience, k = side'.bearer ∨ k = side'.refresh →
      api.HandedOut s k token →
      (api.services.issuer side').codec.authentic k token = .ok (claims, audience) →
      claims.jti = j → side' = side ∧ claims.subject = subject

variable {api} {h : Host} {ls as bs : List (Happening Request)} {s u : System Request Response}
  {i : Nat} {q : Request} {r : Response}

theorem Certified.mono {side : Side} {subject : Uuid} (hc : api.Certified s side subject)
    (hr : Run api.respond api.Relies s bs u) : api.Certified u side subject := by
  obtain ⟨i, q, r, he, hq⟩ := hc
  exact ⟨i, q, r, (hr.ended he).1, hq⟩

theorem Concerns.unique {side side' : Side} {subject subject' : Uuid}
    (hq : api.Concerns q side subject) (hq' : api.Concerns q side' subject') :
    side = side' ∧ subject = subject' := by
  cases hq with
  | issue ht hn =>
    cases hq' with
    | issue ht' hn' =>
      obtain rfl := (ht.unique ht').2
      exact ⟨rfl, hn.unique hn'⟩
    | exchange ht' | current ht' => exact absurd (ht.unique ht').1 (by decide)
  | exchange ht hs ha =>
    cases hq' with
    | exchange ht' hs' ha' =>
      obtain rfl := (ht.unique ht').2
      obtain rfl := hs.unique hs'
      obtain ⟨rfl, -⟩ := Prod.mk.inj (Except.ok.inj (ha.symm.trans ha'))
      exact ⟨rfl, rfl⟩
    | issue ht' | current ht' => exact absurd (ht.unique ht').1 (by decide)
  | current ht hb ha =>
    cases hq' with
    | current ht' hb' ha' =>
      obtain rfl := (ht.unique ht').2
      obtain rfl := Option.some.inj (hb.symm.trans hb')
      obtain ⟨rfl, -⟩ := Prod.mk.inj (Except.ok.inj (ha.symm.trans ha'))
      exact ⟨rfl, rfl⟩
    | issue ht' | exchange ht' => exact absurd (ht.unique ht').1 (by decide)

theorem status_ne (e : ApiError) : e.response.status ≠ 200 := by
  cases e <;> simp [ApiError.response, Response.json, ApiError.status]

theorem course_of_answered (hr : Run api.respond api.Relies (start h) ls u) (he : u.Ended i q r)
    (hs : r.status = 200) :
    ∃ us ⊆ turnsOf i ls, api.Course q (dealings us) (.ok r) := by
  rcases (Route.yields_respond (hr.yields he).2).1 with ⟨e, rfl⟩ | ⟨us, hus⟩
  · exact absurd hs (status_ne e)
  · exact ⟨us, hus.part, course_of_handles hus⟩

theorem handed_out (hr : Run api.respond api.Relies (start h) ls u) (he : u.Ended i q r)
    (hs : r.status = 200) {k : TokenKind} {token : String} (ht : api.Hands r k token) {c : Codec}
    {claims : Claims k} {audience : Bool} (ha : c.authentic k token = .ok (claims, audience)) :
    ∃ side : Side, (k = side.bearer ∨ k = side.refresh) ∧ api.Concerns q side claims.subject ∧
      (q.Asks .issue side → api.Trusts q) ∧
      .moved i (.drawn claims.jti) ∈ ls := by
  obtain ⟨us, hus, hcourse⟩ := course_of_answered hr he hs
  have hturn : ∀ {o : Occurrence}, o ∈ dealings us → .moved i o ∈ ls :=
    fun ho => mem_turnsOf.mp (hus (mem_of_mem_dealings ho))
  generalize dealings us = ds at hcourse hturn
  have hcarries : ∀ {side : Side} {subject : Uuid} {set : TokenSet}, api.Carries r side set →
      (api.services.issuer side).Made side subject set → set.registration ⊆ ds →
      (k = side.bearer ∨ k = side.refresh) ∧ claims.subject = subject ∧
        .moved i (.drawn claims.jti) ∈ ls := by
    intro side subject set hc hm hds
    rcases hc k token ht with ⟨hk, htoken⟩ | ⟨hk, htoken⟩
    · obtain ⟨hsub, hj⟩ := hm.stated (.inl htoken) ha
      exact ⟨.inl hk, hsub, hturn (hds hj)⟩
    · obtain ⟨hsub, hj⟩ := hm.stated (.inr htoken) ha
      exact ⟨.inr hk, hsub, hturn (hds hj)⟩
  have hempty : token ≠ "" := by
    rintro rfl
    exact nomatch ha
  cases hcourse with
  | @issue side subject _ _ _ _ hq htrusts hnames hd hout =>
    cases hout with
    | answered _ hc =>
      cases hd with
      | issued hm =>
        obtain ⟨hk, rfl, hj⟩ := hcarries hc hm (List.Subset.refl _)
        exact ⟨side, hk, .issue hq hnames, fun _ => htrusts, hj⟩
  | @exchange side companion token _ _ _ _ hq hshows hd hout =>
    cases hout with
    | answered _ hc =>
      cases hd with
      | exchanged hold hd =>
        cases hd with
        | won hm =>
          obtain ⟨hk, hsub, hj⟩ := hcarries hc hm
            fun o ho => List.mem_cons_of_mem _ (List.mem_append_left _ ho)
          refine ⟨side, hk, hsub ▸ .exchange hq hshows hold, fun hq' => ?_, hj⟩
          exact absurd (hq.unique hq').1 (by decide)
  | current _ _ _ _ _ hn => exact absurd (hn k token ht) hempty
  | ended _ _ _ hn => exact absurd (hn k token ht) hempty

/-- Whoever holds a token that was handed out is certified: the exchange that handed it out was
shown one that was handed out before. -/
theorem certified_of_handedOut (hr : Run api.respond api.Relies (start h) as s) {side : Side}
    {k : TokenKind} {token : String} (ht : api.HandedOut s k token)
    (hk : k = side.bearer ∨ k = side.refresh) {claims : Claims k} {audience : Bool}
    (ha : (api.services.issuer side).codec.authentic k token = .ok (claims, audience)) :
    api.Certified s side claims.subject := by
  induction hn : as.length using Nat.strongRecOn generalizing as s side k token audience with
  | ind n ih =>
    obtain ⟨i, q, r, he, hs, ht⟩ := ht
    obtain ⟨side', hk', hconcerns, htrusts, -⟩ := handed_out hr he hs ht ha
    have hside : side' = side := by
      rcases hk with rfl | rfl <;> cases side <;> cases side' <;> simp_all
    subst hside
    obtain ⟨bs, cs, v, w, rfl, hv, hrelies, hstep, hw⟩ := hr.at_mem (hr.yields he).1
    have hlt : bs.length < n := by
      rw [← hn, List.length_append, List.length_cons]
      omega
    have hrest := Run.cons hrelies hstep hw
    generalize claims.subject = subject at hconcerns
    cases hconcerns with
    | issue hq hnames =>
      obtain ⟨key, hkey, hdigest⟩ := htrusts hq
      exact ⟨i, q, r, he, hs, hq, hrelies.1 key hkey hdigest ▸ hkey, hnames⟩
    | exchange _ hshows hold =>
      have ht := hrelies.2.2 _ _ _ _ _ hshows hold
      exact (ih _ hlt hv ht (.inr rfl) hold rfl).mono hrest
    | current _ hbearer hc =>
      have ht := hrelies.2.1 _ _ _ _ hbearer hc
      exact (ih _ hlt hv ht (.inl rfl) hc rfl).mono hrest

theorem certified_of_concerns (hr : Run api.respond api.Relies (start h) as s)
    (hrelies : api.Relies s (.begun q)) {side : Side} {subject : Uuid}
    (hq : api.Concerns q side subject) (hn : ¬ q.Asks .issue side) :
    api.Certified s side subject := by
  cases hq with
  | issue hq => exact absurd hq hn
  | exchange _ hshows hold =>
    exact certified_of_handedOut hr (hrelies.2.2 _ _ _ _ _ hshows hold) (.inr rfl) hold
  | current _ hbearer hc =>
    exact certified_of_handedOut hr (hrelies.2.1 _ _ _ _ hbearer hc) (.inl rfl) hc

theorem concerns_of_answered (hr : Run api.respond api.Relies (start h) ls u) (he : u.Ended i q r)
    (hs : r.status = 200) {side : Side} (hq : q.Asks .current side ∨ q.Asks .exchange side) :
    ∃ subject, api.Concerns q side subject ∧
      (q.Asks .current side → r.Says "subject" (.str subject.text)) := by
  obtain ⟨us, -, hcourse⟩ := course_of_answered hr he hs
  have hside : ∀ {t : Task} {side' : Side}, q.Asks t side' →
      (t = .current ∨ t = .exchange) ∧ side' = side := by
    intro t side' ht
    rcases hq with hq | hq <;> obtain ⟨rfl, rfl⟩ := ht.unique hq <;> simp
  generalize dealings us = ds at hcourse
  cases hcourse with
  | issue ht => exact absurd (hside ht).1 (by decide)
  | ended ht => exact absurd (hside ht).1 (by decide)
  | current ht hb ha _ hdata =>
    obtain rfl := (hside ht).2
    exact ⟨_, .current ht hb ha, fun _ => hdata⟩
  | exchange ht hshows hd hout =>
    obtain rfl := (hside ht).2
    cases hout with
    | answered =>
      generalize hx : (Except.ok _ : Except SessionError TokenSet) = x at hd
      cases hd with
      | unread => exact nomatch hx
      | exchanged ha =>
        exact ⟨_, .exchange ht hshows ha, fun ht' => absurd (ht.unique ht').1 (by decide)⟩

/-- Whatever is recorded is recorded for a subject that is certified, and under an identifier
that was drawn for it. -/
theorem certified_of_recorded (hr : Run api.respond api.Relies (start h) ls u)
    (hfail : ∀ i c e, .moved i (.called c (.error e)) ∉ ls) (he : u.Ended i q r) {j : Jti}
    {e : Instant} {x : Except RegistryError Unit}
    (hj : .moved i (.called (.record j e) x) ∈ ls) :
    .moved i (.drawn j) ∈ ls ∧
      ∃ side subject, api.Concerns q side subject ∧ api.Certified u side subject := by
  obtain ⟨hq, hy⟩ := hr.yields he
  obtain ⟨us, b, hus, hrec, hb⟩ :=
    (Route.yields_respond hy).2 _ (called_mem_dealings.mpr (mem_turnsOf.mpr hj))
  have hcourse := course_of_handles hus
  have hrec := called_mem_dealings.mpr hrec
  have hturn : ∀ {o : Occurrence}, o ∈ dealings us → .moved i o ∈ ls :=
    fun ho => mem_turnsOf.mp (hus.part (mem_of_mem_dealings ho))
  obtain ⟨as, bs, v, w, rfl, hv, hrelies, hstep, hw⟩ := hr.at_mem hq
  generalize dealings us = ds at hcourse hrec hturn
  cases hcourse with
  | @issue side subject _ _ _ _ ht htrusts hnames hd hout =>
    refine ⟨hturn (drawn_mem_of_recorded (Services.recordsDrawn_issue hd) hrec), side, subject,
      .issue ht hnames, ?_⟩
    obtain ⟨key, hkey, hdigest⟩ := htrusts
    cases hout with
    | @answered set r' hs =>
      obtain rfl := hb r' rfl
      exact ⟨i, q, r', he, hs, ht, hrelies.1 key hkey hdigest ▸ hkey, hnames⟩
    | refused =>
      rcases Services.hindered_of_unissued hd with ⟨-, js, rfl⟩ | ⟨c, e, hx⟩
      · simp at hrec
      · exact absurd (hturn hx) (hfail i c e)
  | @exchange side _ _ _ _ _ _ ht hshows hd =>
    cases hd with
    | unread => exact nomatch hrec
    | exchanged ha hx =>
      have hconcerns : api.Concerns q side _ := .exchange ht hshows ha
      refine ⟨hturn (drawn_mem_of_recorded (Services.recordsDrawn_exchange hx) hrec), side, _,
        hconcerns, ?_⟩
      refine Certified.mono (certified_of_concerns hv hrelies hconcerns fun ht' => ?_)
        (.cons hrelies hstep hw)
      exact absurd (ht.unique ht').1 (by decide)
  | current => simp at hrec
  | ended _ hn => exact absurd hrec (hn j e x)
  | refused _ hn => exact absurd hrec (hn j e x)

theorem recorded_of_active {p : Retention} (hm : h.registry = .memory (.empty p))
    (hr : Run api.respond api.Relies (start h) ls u) {j : Jti}
    (ha : u.Holds fun now m => m.state now j = .active) :
    ∃ i e, .moved i (.called (.record j e) (.ok ())) ∈ ls := by
  by_contra hn
  obtain ⟨m, hm', ha⟩ := ha
  obtain ⟨m', hm'', hs⟩ := hr.spent ⟨_, hm, MemoryRegistry.bearsOnly_empty p .revoked j⟩
    fun i e _ hx => hn ⟨i, e, hx⟩
  obtain rfl := Backend.memory.inj (hm'.symm.trans hm'')
  exact hs.state_ne_active _ ha

/-- Whoever is answered as a subject, and whoever an active identifier is about, was named by a
request with the service key that was answered: for an answer, before the request began. -/
theorem chain_of_trust {p : Retention} (hm : h.registry = .memory (.empty p))
    (hinj : Function.Injective h.source) :
    (∀ as bs s u q r side, Run api.respond api.Relies (start h) as s →
        Run api.respond api.Relies s (.begun q :: bs) u → u.Ended s.strands.length q r →
        r.status = 200 → q.Asks .current side ∨ q.Asks .exchange side →
        ∃ subject, api.Concerns q side subject ∧
          (q.Asks .current side → r.Says "subject" (.str subject.text)) ∧
          api.Certified s side subject) ∧
      ∀ ls u, Run api.respond api.Relies (start h) ls u → u.Quiet →
        (∀ i c e, .moved i (.called c (.error e)) ∉ ls) →
        ∀ j, (u.Holds fun now m => m.state now j = .active) →
          ∃ side subject, api.About ls u j side subject ∧ api.Certified u side subject := by
  refine ⟨fun as bs s u q r side hr hrest he hs hq => ?_, fun ls u hr hquiet hfail j hj => ?_⟩
  · obtain ⟨subject, hconcerns, hdata⟩ := concerns_of_answered (hr.trans hrest) he hs hq
    obtain ⟨t, hrelies, -⟩ := hrest.uncons
    refine ⟨subject, hconcerns, hdata, certified_of_concerns hr hrelies hconcerns fun ht => ?_⟩
    rcases hq with hq | hq <;> exact absurd (ht.unique hq).1 (by decide)
  · obtain ⟨i, e, hrec⟩ := recorded_of_active hm hr hj
    obtain ⟨q, prog, hi, -⟩ := hr.strand_of_turn hrec
    obtain ⟨r, rfl⟩ : ∃ r, prog = .done r := hquiet _ (List.mem_of_getElem? hi)
    obtain ⟨hdrawn, side, subject, hconcerns, hcertified⟩ := certified_of_recorded hr hfail hi hrec
    refine ⟨side, subject, ⟨⟨i, q, r, e, _, hi, hrec, hconcerns⟩, ?_⟩, hcertified⟩
    rintro side' k token claims audience hk ⟨i', q', r', he', hs', ht⟩ ha rfl
    obtain ⟨side'', hk', hconcerns', -, hdrawn'⟩ := handed_out hr he' hs' ht ha
    obtain rfl := hr.drawer_unique hinj hdrawn hdrawn'
    obtain ⟨rfl, -⟩ := Strand.mk.inj (Option.some.inj (hi.symm.trans he'))
    obtain ⟨rfl, rfl⟩ := hconcerns.unique hconcerns'
    refine ⟨?_, rfl⟩
    rcases hk with rfl | rfl <;> cases side <;> cases side' <;> simp_all

def posted : Request :=
  ⟨"POST", "/api/v1/session", [⟨"x-service-key", "key"⟩, ⟨"content-length", "50"⟩],
    Utf8.encode (Json.Value.obj [("user_id", .str (default : Uuid).text)]).chars⟩

theorem relies_posted {s : System Request Response} : sample.Relies s (.begun posted) := by
  have hkey : posted.key? = some "key" := by decide +kernel
  have hbearer : posted.bearer? = none := by decide +kernel
  refine ⟨fun key hk _ => Option.some.inj (hk.symm.trans hkey), ?_, ?_⟩
  · exact fun side token c audience ht => nomatch hbearer.symm.trans ht
  · intro side companion token c audience ht
    cases side with
    | user => exact nomatch (show refreshToken? posted = none by decide +kernel).symm.trans ht
    | device =>
      have hbody : ((Json.readBytes posted.body).read rotateDevice).isOk = false := by
        decide +kernel
      rw [show (Json.readBytes posted.body).read rotateDevice = _ from ht] at hbody
      exact nomatch hbody

theorem posted_session_certified :
    ∃ (ls : List (Happening Request)) (u : System Request Response) (r : Response),
      Run sample.respond sample.Relies (start (.fresh ⟨0⟩ ⟨.ofSeconds 60, .zero⟩))
        (.begun posted :: ls) u ∧ u.Ended 0 posted r ∧ r.status = 200 ∧
        (u.Holds fun now m => m.state now ⟨""⟩ = .active) ∧
        ∃ side subject, sample.About (.begun posted :: ls) u ⟨""⟩ side subject ∧
          sample.Certified u side subject := by
  let g : Host := .fresh ⟨0⟩ ⟨.ofSeconds 60, .zero⟩
  let smooth (s : System Request Response) (l : Happening Request) : Prop :=
    sample.Relies s l ∧ ∀ i o, l = .moved i o → o.isFailure = false
  have hsmooth : ∀ v i o, o.isFailure = false → smooth v (.moved i o) :=
    fun _ _ _ ho => ⟨trivial, fun _ _ h => (Happening.moved.inj h).2 ▸ ho⟩
  have hbegun : smooth (start g) (.begun posted) := ⟨relies_posted, nofun⟩
  obtain ⟨os, hr, hs⟩ :=
    exists_served sample.respond hsmooth steady_smooth .patient (smooth_fresh _ _) [] hbegun
  have hstatus : ((sample.respond posted).run .patient g).1.status = 200 := by decide +kernel
  have hstate : (((sample.respond posted).run .patient g).2.2.callRegistry (.state ⟨""⟩)).1 =
      .ok .active := by decide +kernel
  generalize (sample.respond posted).run .patient g = x at hr hs hstatus hstate
  obtain ⟨r, sc, h⟩ := x
  obtain ⟨m, hm⟩ := hs.registry
  rw [Host.callRegistry_memory hm] at hstate
  have hactive : m.state h.clock ⟨""⟩ = .active := Except.ok.inj hstate
  have hr' : Run sample.respond sample.Relies (start g) _ _ := Run.mono (fun _ _ h => h.1) hr
  refine ⟨_, _, r, hr', rfl, hstatus, ⟨m, hm, hactive⟩, ?_⟩
  refine (chain_of_trust rfl (Host.injective_source_fresh ⟨0⟩ ⟨.ofSeconds 60, .zero⟩)).2 _ _ hr'
    (by simp [Quiet]) (fun i c e he => ?_) _ ⟨m, hm, hactive⟩
  obtain ⟨v, hv⟩ := hr.allowed_of_mem he
  exact nomatch hv.2 _ _ rfl

end SessionTokens.Http.Api

import Mathlib.Logic.Relation
import SessionTokens.Proofs.Host.Progress
import SessionTokens.Proofs.Session.Dealings

/-! Sessions never fork. A refresh token is exchanged once, so that those who descend from one
through exchanges form a chain, and what an exchange retires is never active again. Identifiers
of sets that an exchange takes back are part of the session too, and are not active either. -/

namespace SessionTokens

open SessionTokens.System

theorem eq_or_before {α : Type} {as bs cs ds : List α} {a c : α}
    (h : as ++ a :: bs = cs ++ c :: ds) :
    (as = cs ∧ a = c ∧ bs = ds) ∨ (∃ ms, cs = as ++ a :: ms ∧ bs = ms ++ c :: ds) ∨
      ∃ ms, as = cs ++ c :: ms ∧ ds = ms ++ a :: bs := by
  rcases List.append_eq_append_iff.mp h with ⟨ms, rfl, hms⟩ | ⟨ms, rfl, hms⟩
  · rcases List.cons_eq_append_iff.mp hms with ⟨rfl, hc⟩ | ⟨ns, rfl, hns⟩
    · obtain ⟨rfl, rfl⟩ := List.cons.inj hc
      exact .inl ⟨by simp, rfl, rfl⟩
    · exact .inr (.inl ⟨ns, rfl, hns⟩)
  · rcases List.cons_eq_append_iff.mp hms with ⟨rfl, hc⟩ | ⟨ns, rfl, hns⟩
    · obtain ⟨rfl, rfl⟩ := List.cons.inj hc
      exact .inl ⟨by simp, rfl, rfl⟩
    · exact .inr (.inr ⟨ns, rfl, hns⟩)

namespace Services

variable {v : Services}

def exchanged? (v : Services) : Request → Option Jti
  | .rotate s _ token => (v.issuer s).codec.jti? s.refresh token
  | _ => none

def HandedOut (s : System Request (Except SessionError Reply)) (token : String) : Prop :=
  ∃ i q set, s.Ended i q (.ok (.issued set)) ∧ (token = set.bearer.text ∨ token = set.refresh.text)

/-- Only tokens that were handed out are exchanged, no call of the registry fails, and the clock
is set only when nothing is under way. -/
def Faultless (s : System Request (Except SessionError Reply)) : Happening Request → Prop
  | .begun (.rotate _ _ token) => HandedOut s token
  | .moved _ (.called _ (.error _)) => False
  | .clockSet _ => s.Quiet
  | _ => True

/-- A strand exchanges the token under the first identifier and makes its successor under the
second, whether or not it can keep it. -/
def Succeeds (v : Services) (ls : List (Happening Request))
    (s : System Request (Except SessionError Reply)) (j k : Jti) : Prop :=
  ∃ i q p b, s.strands[i]? = some ⟨q, p⟩ ∧ v.exchanged? q = some j ∧ drawsOf i ls = [b, k]

/-- A session has a token under the first identifier and comes to have one under the second. -/
def Descends (v : Services) (ls : List (Happening Request))
    (s : System Request (Except SessionError Reply)) : Jti → Jti → Prop :=
  Relation.ReflTransGen (v.Succeeds ls s)

def Replaces (v : Services) (s : System Request (Except SessionError Reply)) (j k : Jti) : Prop :=
  ∃ i q set, s.Ended i q (.ok (.issued set)) ∧ v.exchanged? q = some j ∧
    set.refresh.entry.jti = k

theorem exchanged_of_rotated {s : Side} {c : s.Companion} {token : String} {r : Reply}
    {os us : List Occurrence} (h : v.Deals os (.rotate s c token) us (.ok r)) :
    ∃ j, v.exchanged? (.rotate s c token) = some j := by
  generalize ha : (Except.ok r : Except SessionError Reply) = a at h
  cases h with
  | rotate h =>
    cases h with
    | unread => exact nomatch ha
    | exchanged hp => exact ⟨_, Codec.jti?_of_authentic hp⟩

theorem dealings_of_exchanged {q : Request} {os us : List Occurrence} {r : Reply} {j : Jti}
    (h : v.Deals os q us (.ok r)) (hj : v.exchanged? q = some j) :
    ∃ ds es e x, us = .called (.state j) (.ok .active) :: (ds ++ .called (.revoke j e) x :: es) ∧
      x ≠ .ok .alreadyRevoked := by
  generalize ha : (Except.ok r : Except SessionError Reply) = a at h
  cases h with
  | rotate h =>
    cases h with
    | unread => exact nomatch ha
    | exchanged hp h =>
      obtain rfl := Option.some.inj ((Codec.jti?_of_authentic hp).symm.trans hj)
      cases h with
      | won _ hx => exact ⟨_, _, _, _, rfl, hx⟩
      | _ => exact nomatch ha
  | _ => exact nomatch hj

/-- Whoever makes a successor under the second identifier exchanges the token for it, or has an
error and has not recorded it or tries to revoke it. -/
theorem dealings_of_successor {q : Request} {os us : List Occurrence}
    {a : Except SessionError Reply} {j b k : Jti} (h : v.Deals os q us a)
    (hj : v.exchanged? q = some j) (hd : us.filterMap (·.draw?) = [b, k]) :
    (∃ set, a = .ok (.issued set) ∧ set.refresh.entry.jti = k) ∨
      (∃ e, a = .error e) ∧ ((∃ c x, .called c (.error x) ∈ us) ∨
        (∀ e x, .called (.record k e) x ∉ us) ∨ ∃ e x, .called (.revoke k e) x ∈ us) := by
  have hset : ∀ {set : TokenSet} {vs : List Occurrence},
      (set.registration ++ vs).filterMap (·.draw?) = [b, k] → set.refresh.entry.jti = k :=
    fun hd => (List.cons.inj (List.cons.inj hd).2).1
  cases h with
  | rotate h =>
    cases h with
    | unread => cases hd
    | exchanged _ h =>
      cases h with
      | refused => cases hd
      | unrenewed hi =>
        refine .inr ⟨⟨_, rfl⟩, ?_⟩
        rcases hindered_of_unissued hi with ⟨-, js, rfl⟩ | ⟨c, x, hx⟩
        · exact .inr (.inl (by simp))
        · exact .inl ⟨c, x, List.mem_cons_of_mem _ hx⟩
      | @lost set x y =>
        obtain rfl := hset hd
        refine .inr ⟨⟨_, rfl⟩, .inr (.inr ⟨set.refresh.entry.expiresAt, y, ?_⟩)⟩
        simp [Entry.revocation]
      | @won set => exact .inl ⟨set, rfl, hset hd⟩
  | _ => cases hj

section Run

variable {h : Host} {p : Retention} {ls : List (Happening Request)}
  {u : System Request (Except SessionError Reply)} {j k : Jti}
  (hr : Run v.serve Faultless (start h) ls u)
include hr

theorem answered_of_called {i : Nat} {c : RegistryCall} {x : Except RegistryError c.Answer}
    (hx : .moved i (.called c x) ∈ ls) : ∃ a, x = .ok a := by
  cases x with
  | ok a => exact ⟨a, rfl⟩
  | error e => exact (hr.allowed_of_mem hx).elim nofun

theorem drawn_of_handedOut {token : String} (ht : HandedOut u token) {c : Codec} {t : TokenKind}
    (hj : c.jti? t token = some j) :
    ∃ i q set, u.Ended i q (.ok (.issued set)) ∧ .moved i (.drawn j) ∈ ls := by
  obtain ⟨i, q, set, he, htext⟩ := ht
  obtain ⟨s, subject, hm, hreg⟩ := made_of_issued (deals (hr.yields he).2)
  obtain ⟨claims, audience, ha, rfl⟩ := Codec.authentic_of_jti? hj
  exact ⟨i, q, set, he, mem_turnsOf.mp (mem_of_mem_dealings (hreg (hm.stated htext ha).2))⟩

theorem drawn_of_exchanging {i : Nat} {q : Request} {prog : Program (Except SessionError Reply)}
    (hi : u.strands[i]? = some ⟨q, prog⟩) (hj : v.exchanged? q = some j) :
    ∃ k q' set, u.Ended k q' (.ok (.issued set)) ∧ .moved k (.drawn j) ∈ ls := by
  rcases hr.leads_of_new (i := i) rfl with ⟨hn, -⟩ | ⟨q', prog', hi', hq, -⟩
  · exact nomatch hn.symm.trans hi
  obtain ⟨rfl, -⟩ := Strand.mk.inj (Option.some.inj (hi.symm.trans hi'))
  obtain ⟨as, bs, w, x, rfl, hw, ha, hs, hx⟩ := hr.at_mem hq
  cases q with
  | rotate s companion token =>
    obtain ⟨k, q', set, he, hd⟩ := drawn_of_handedOut hw ha hj
    exact ⟨k, q', set, ((Run.cons ha hs hx).ended he).1, List.mem_append_left _ hd⟩
  | _ => exact nomatch hj

theorem course_of_exchanged {i : Nat} {q : Request} {r : Reply} (he : u.Ended i q (.ok r))
    (hj : v.exchanged? q = some j) :
    ∃ as bs cs e o, ls = as ++ .moved i (.called (.state j) (.ok .active)) ::
      (bs ++ .moved i (.called (.revoke j e) (.ok o)) :: cs) ∧ o ≠ .alreadyRevoked := by
  obtain ⟨ds, es, e, x, hd, hx⟩ := dealings_of_exchanged (deals (hr.yields he).2) hj
  obtain ⟨os, us, hturns, -, hus⟩ := dealings_eq_append (show _ = [] ++ _ from hd)
  obtain ⟨vs, ws, rfl, -, -⟩ := dealings_eq_append hus
  obtain ⟨as, ms, rfl, -, hms⟩ := turnsOf_eq_append hturns
  obtain ⟨bs, cs, rfl, -, -⟩ := turnsOf_eq_append hms
  obtain ⟨o, rfl⟩ := answered_of_called hr (i := i) (c := .revoke j e) (x := x) (by simp)
  exact ⟨as, bs, cs, e, o, rfl, fun ho => hx (ho ▸ rfl)⟩

variable (hm : h.registry = .memory (.empty p)) (hp : p.Positive)
  (hinj : Function.Injective h.source)

omit hr in
include hinj in
theorem not_recorded_of_exchanging {w : System Request (Except SessionError Reply)}
    {as bs : List (Happening Request)} {i : Nat} {q : Request}
    {prog : Program (Except SessionError Reply)} (ha : Run v.serve Faultless (start h) as w)
    (hi : w.strands[i]? = some ⟨q, prog⟩) (hj : v.exchanged? q = some j)
    (hb : Run v.serve Faultless w bs u) (k : Nat) (e : Instant) (x : Except RegistryError Unit) :
    .moved k (.called (.record j e) x) ∉ bs := by
  obtain ⟨k', q', set, he, hd⟩ := drawn_of_exchanging ha hi hj
  exact ha.not_recorded v.orderly hinj (.inr ⟨k', q', _, hd, he⟩) hb k e x

include hm hp hinj

/-- Once it is exchanged, a token is revoked and nothing will record it again. -/
theorem retired_of_exchanged {i : Nat} {q : Request} {a : Except SessionError Reply}
    {as bs cs : List (Happening Request)} {e : Instant} {o : RevokeOutcome}
    (hls : ls = as ++ .moved i (.called (.state j) (.ok .active)) ::
      (bs ++ .moved i (.called (.revoke j e) (.ok o)) :: cs))
    (he : u.Ended i q a) (hj : v.exchanged? q = some j) :
    ∃ w, Run v.serve Faultless w cs u ∧
      (w.Holds fun now m => m.state now j = .revoked ∧ m.Spent j) ∧
      ∀ k f x, .moved k (.called (.record j f) x) ∉ cs := by
  have hsplit : ls = (as ++ .moved i (.called (.state j) (.ok .active)) ::
      (bs ++ [.moved i (.called (.revoke j e) (.ok o))])) ++ cs := by rw [hls]; simp
  obtain ⟨w, hw, hcs⟩ := (hsplit ▸ hr).split
  obtain ⟨q', prog, hi, -⟩ :=
    hw.strand_of_turn (List.mem_append_right _ (List.mem_cons_self ..))
  have hq : q' = q := by
    obtain ⟨prog', hi', -⟩ := hcs.leads hi
    exact (Strand.mk.inj (Option.some.inj (hi'.symm.trans he))).1
  exact ⟨w, hcs, hw.revoked_of_checked ⟨_, hm, hp⟩ fun _ _ => id,
    not_recorded_of_exchanging hinj hw (hq ▸ hi) hj hcs⟩

/-- Of two who exchange one token, the one who revokes it later is told so. -/
theorem not_exchanged_after {i i' : Nat} {q : Request} {r : Reply} (hne : i ≠ i')
    {as bs cs as' bs' cs' ms : List (Happening Request)} {e e' : Instant} {o o' : RevokeOutcome}
    (hls : ls = as ++ .moved i (.called (.state j) (.ok .active)) ::
      (bs ++ .moved i (.called (.revoke j e) (.ok o)) :: cs))
    (hls' : ls = as' ++ .moved i' (.called (.state j) (.ok .active)) ::
      (bs' ++ .moved i' (.called (.revoke j e') (.ok o')) :: cs'))
    (hbefore : as' ++ .moved i' (.called (.state j) (.ok .active)) :: bs' =
      (as ++ .moved i (.called (.state j) (.ok .active)) :: bs) ++
        .moved i (.called (.revoke j e) (.ok o)) :: ms)
    (hcs : cs = ms ++ .moved i' (.called (.revoke j e') (.ok o')) :: cs')
    (he : u.Ended i q (.ok r)) (hj : v.exchanged? q = some j) : o' = .alreadyRevoked := by
  obtain ⟨w, hw, hrevoked, hrecorded⟩ := retired_of_exchanged hr hm hp hinj hls he hj
  have hspent : w.Holds fun _ m => m.Spent j := hrevoked.imp fun _ h => ⟨h.1, h.2.2⟩
  rcases eq_or_before hbefore with ⟨-, hc, -⟩ | ⟨ns, -, rfl⟩ | ⟨ns, -, rfl⟩
  · exact absurd (Happening.moved.inj hc).1 hne.symm
  · -- The later one found the token active before: the clock has stood still since.
    rw [hcs, List.append_cons] at hw
    obtain ⟨x, hx, -⟩ := hw.split
    refine hx.outcome_of_revoked (fun t ht => ?_) (hrevoked.imp fun _ h => ⟨h.1, h.2.1⟩) (i := i')
      (e := e') (by simp)
    have hms : .clockSet t ∈ ms := by simpa using ht
    exact (hls' ▸ hr).still_between (fun _ _ => id) t
      (List.mem_append_right _ (List.mem_cons_of_mem _ hms))
  · refine absurd ?_ (hw.not_active_of_spent hspent (fun k f x => hrecorded k f (.ok x)) i')
    rw [hcs]
    simp

theorem exchanged_once {i i' : Nat} {q q' : Request} {r r' : Reply} (he : u.Ended i q (.ok r))
    (he' : u.Ended i' q' (.ok r')) (hj : v.exchanged? q = some j) (hj' : v.exchanged? q' = some j) :
    i = i' := by
  by_contra hne
  obtain ⟨as, bs, cs, e, o, hls, ho⟩ := course_of_exchanged hr he hj
  obtain ⟨as', bs', cs', e', o', hls', ho'⟩ := course_of_exchanged hr he' hj'
  have hplaces : (as ++ .moved i (.called (.state j) (.ok .active)) :: bs) ++
      .moved i (.called (.revoke j e) (.ok o)) :: cs =
      (as' ++ .moved i' (.called (.state j) (.ok .active)) :: bs') ++
      .moved i' (.called (.revoke j e') (.ok o')) :: cs' := by
    simpa using hls.symm.trans hls'
  rcases eq_or_before hplaces with ⟨-, hc, -⟩ | ⟨ms, hbefore, hcs⟩ | ⟨ms, hbefore, hcs⟩
  · exact hne (Happening.moved.inj hc).1
  · exact ho' (not_exchanged_after hr hm hp hinj hne hls hls' hbefore hcs he hj)
  · exact ho (not_exchanged_after hr hm hp hinj (Ne.symm hne) hls' hls hbefore hcs he' hj')

theorem spent_of_exchanged {i : Nat} {q : Request} {r : Reply} (he : u.Ended i q (.ok r))
    (hj : v.exchanged? q = some j) : u.Holds fun _ m => m.Spent j := by
  obtain ⟨as, bs, cs, e, o, hls, -⟩ := course_of_exchanged hr he hj
  obtain ⟨w, hw, hrevoked, hrecorded⟩ := retired_of_exchanged hr hm hp hinj hls he hj
  exact hw.spent (hrevoked.imp fun _ h => ⟨h.1, h.2.2⟩) fun k f x => hrecorded k f (.ok x)

omit hp in
theorem spent_of_unrecorded {i : Nat} (hd : .moved i (.drawn k) ∈ ls)
    (hn : ∀ e x, .called (.record k e) x ∉ turnsOf i ls) : u.Holds fun _ m => m.Spent k := by
  refine hr.spent ⟨_, hm, MemoryRegistry.bearsOnly_empty p .revoked k⟩ fun i' e x hx => ?_
  obtain rfl := hr.recorder_unique v.orderly hinj hx hd
  exact hn e (.ok x) (mem_turnsOf.mpr hx)

omit hp in
theorem successor_outcome {i : Nat} {q : Request} {a : Except SessionError Reply} {b : Jti}
    (he : u.Ended i q a) (hj : v.exchanged? q = some j) (hd : drawsOf i ls = [b, k]) :
    (∃ set, a = .ok (.issued set) ∧ set.refresh.entry.jti = k) ∨
      (∃ e, a = .error e) ∧ u.Holds fun _ m => m.Spent k := by
  have hmem : ∀ {o : Occurrence}, o ∈ dealings (turnsOf i ls) → .moved i o ∈ ls :=
    fun ho => mem_turnsOf.mp (mem_of_mem_dealings ho)
  have hdrawn : .moved i (.drawn k) ∈ ls := drawn_of_mem_drawsOf (by simp [hd])
  rcases dealings_of_successor (deals (hr.yields he).2) hj (draws_dealings.trans hd) with
    hwon | ⟨herror, ⟨c, x, hx⟩ | hn | ⟨e, x, hx⟩⟩
  · exact .inl hwon
  · exact nomatch answered_of_called hr (hmem hx)
  · exact .inr ⟨herror, spent_of_unrecorded hr hm hinj hdrawn
      fun e x hx => hn e x (called_mem_dealings.mpr hx)⟩
  · obtain ⟨o, rfl⟩ := answered_of_called hr (hmem hx)
    exact .inr ⟨herror, hr.spent_of_revoked v.orderly hm hinj hdrawn (hmem hx)⟩

theorem replaces_unique : Relator.RightUnique (v.Replaces u) := by
  rintro j k k' ⟨i, q, set, he, hj, rfl⟩ ⟨i', q', set', he', hj', rfl⟩
  obtain rfl := exchanged_once hr hm hp hinj he he' hj hj'
  have hstrand := Strand.mk.inj (Option.some.inj (he.symm.trans he'))
  rw [Reply.issued.inj (Except.ok.inj (Program.done.inj hstrand.2))]

theorem not_active_of_replaces (hj : v.Replaces u j k) :
    ¬ u.Holds fun now m => m.state now j = .active := by
  obtain ⟨i, q, set, he, hj, -⟩ := hj
  rintro ⟨m, hm', ha⟩
  obtain ⟨m', hm'', hs⟩ := spent_of_exchanged hr hm hp hinj he hj
  obtain rfl := Backend.memory.inj (hm'.symm.trans hm'')
  exact hs.state_ne_active _ ha

omit hp in
/-- A successor that is active, or that has a successor itself, was handed out. -/
theorem replaces_of_succeeds (hquiet : u.Quiet) (hjk : v.Succeeds ls u j k)
    (hk : (u.Holds fun now m => m.state now k = .active) ∨ ∃ l, v.Succeeds ls u k l) :
    v.Replaces u j k := by
  obtain ⟨i, q, prog, b, hi, hj, hd⟩ := hjk
  obtain ⟨a, rfl⟩ : ∃ a, prog = .done a := hquiet _ (List.mem_of_getElem? hi)
  rcases successor_outcome hr hm hinj hi hj hd with ⟨set, rfl, hset⟩ | ⟨⟨e, rfl⟩, hspent⟩
  · exact ⟨i, q, set, hi, hj, hset⟩
  · rcases hk with ⟨m, hm', ha⟩ | ⟨l, i', q', prog', b', hi', hk, -⟩
    · obtain ⟨m', hm'', hs⟩ := hspent
      obtain rfl := Backend.memory.inj (hm'.symm.trans hm'')
      exact absurd ha (hs.state_ne_active _)
    · -- The token was handed out, so that another strand has drawn it too.
      obtain ⟨i'', q'', set, he, hdrawn⟩ := drawn_of_exchanging hr hi' hk
      obtain rfl := hr.drawer_unique hinj hdrawn (drawn_of_mem_drawsOf (i := i) (by simp [hd]))
      exact nomatch hi.symm.trans he

omit hp in
theorem replacements (hquiet : u.Quiet) (hk : u.Holds fun now m => m.state now k = .active)
    (hjk : v.Descends ls u j k) : Relation.ReflTransGen (v.Replaces u) j k := by
  rw [Descends] at hjk
  induction hjk using Relation.ReflTransGen.head_induction_on with
  | refl => exact .refl
  | head hstep hrest ih =>
    refine .head (replaces_of_succeeds hr hm hinj hquiet hstep ?_) ih
    rcases hrest.cases_head with rfl | ⟨l, hl, -⟩
    · exact .inl hk
    · exact .inr ⟨l, hl⟩

/-- A refresh token is exchanged once at most, and whenever nothing is under way a session has at
most one refresh token that is active. -/
theorem sessions_never_fork :
    (∀ i i' s s' c c' token token' r r', u.Ended i (.rotate s c token) (.ok r) →
        u.Ended i' (.rotate s' c' token') (.ok r') →
        v.exchanged? (.rotate s c token) = v.exchanged? (.rotate s' c' token') → i = i') ∧
      (u.Quiet → ∀ j k k', v.Descends ls u j k → v.Descends ls u j k' →
        (u.Holds fun now m => m.state now k = .active) →
        (u.Holds fun now m => m.state now k' = .active) → k = k') := by
  refine ⟨fun i i' s s' c c' token token' r r' he he' heq => ?_,
    fun hquiet j k k' hk hk' ha ha' => ?_⟩
  · obtain ⟨j, hj⟩ := exchanged_of_rotated (deals (hr.yields he).2)
    exact exchanged_once hr hm hp hinj he he' hj (heq ▸ hj)
  have hlast : ∀ {k k' : Jti}, (u.Holds fun now m => m.state now k = .active) →
      Relation.ReflTransGen (v.Replaces u) k k' → k = k' := by
    intro k k' ha hr'
    rcases hr'.cases_head with h | ⟨l, hl, -⟩
    · exact h
    · exact absurd ha (not_active_of_replaces hr hm hp hinj hl)
  rcases Relation.ReflTransGen.total_of_right_unique (replaces_unique hr hm hp hinj)
    (replacements hr hm hinj hquiet ha hk) (replacements hr hm hinj hquiet ha' hk') with h | h
  · exact hlast ha h
  · exact (hlast ha' h).symm

omit hr hm hp hinj in
/-- A set is issued and its refresh token is shown twice. -/
theorem second_exchange_fails :
    ∃ (ls : List (Happening Request)) (u : System Request (Except SessionError Reply))
      (set : TokenSet) (a b : Except SessionError Reply),
      Run sample.serve Faultless (start (.fresh ⟨0⟩ ⟨.ofSeconds 60, .zero⟩)) ls u ∧ u.Quiet ∧
        u.Ended 0 (.issue .user default []) (.ok (.issued set)) ∧
        u.Ended 1 (.rotate .user () set.refresh.text) a ∧
        u.Ended 2 (.rotate .user () set.refresh.text) b ∧
        ¬ ∃ r r', a = .ok r ∧ b = .ok r' := by
  let g : Host := .fresh ⟨0⟩ ⟨.ofSeconds 60, .zero⟩
  let smooth (s : System Request (Except SessionError Reply)) (l : Happening Request) : Prop :=
    Faultless s l ∧ ∀ i o, l = .moved i o → o.isFailure = false
  have hsmooth : ∀ v i o, o.isFailure = false → smooth v (.moved i o) := by
    intro v i o ho
    refine ⟨?_, fun _ _ h => (Happening.moved.inj h).2 ▸ ho⟩
    cases o with
    | called c x =>
      cases x with
      | ok => trivial
      | error => exact nomatch ho
    | _ => trivial
  let first : Request := .issue .user default []
  have hbegun : smooth (start g) (.begun first) := ⟨trivial, nofun⟩
  obtain ⟨os, hr₁, hs₁⟩ :=
    exists_served sample.serve hsmooth steady_smooth .patient (smooth_fresh _ _) [] hbegun
  generalize (sample.serve first).run .patient g = x at hr₁ hs₁
  obtain ⟨a, sc, h⟩ := x
  obtain ⟨-, hissue⟩ := Run.yields (g := g) (i := 0) hr₁ rfl
  have hturn : ∀ {o : Occurrence}, o ∈ turnsOf 0 (.begun first :: os.map (.moved 0)) →
      o.isFailure = false := fun ho =>
    (hr₁.allowed_of_mem (mem_turnsOf.mp ho)).elim fun _ h => h.2 _ _ rfl
  obtain ⟨set, rfl⟩ : ∃ set, a = .ok (.issued set) := by
    cases show sample.Deals _ (.issue .user default []) _ a from deals hissue with
    | @issue _ _ _ _ x hi =>
      cases x with
      | ok set => exact ⟨set, rfl⟩
      | error e =>
        rcases hindered_of_unissued hi with ⟨⟨t, ht, hn⟩ | ⟨user, e, ht⟩, -⟩ | ⟨c, e, ht⟩
        · obtain rfl := hr₁.clock_of_mem (by simp) (mem_turnsOf.mp ht)
          exact absurd hn (by decide)
        · exact nomatch hturn ht
        · exact nomatch hturn (mem_of_mem_dealings ht)
  let q : Request := .rotate .user () set.refresh.text
  have hshown : ∀ (h : Host) (sts : List (Strand Request (Except SessionError Reply))),
      smooth ⟨h, ⟨first, .done (.ok (.issued set))⟩ :: sts⟩ (.begun q) :=
    fun _ _ => ⟨⟨0, _, set, rfl, .inr rfl⟩, nofun⟩
  obtain ⟨ps, hr₂, hs₂⟩ :=
    exists_served sample.serve hsmooth steady_smooth sc hs₁ [_] (hshown _ [])
  obtain ⟨rs, hr₃, -⟩ :=
    exists_served sample.serve hsmooth steady_smooth _ hs₂ [_, _] (hshown _ [_])
  have hr : Run sample.serve Faultless (start g) _ _ :=
    (Run.trans hr₁ (hr₂.trans hr₃)).mono fun _ _ h => h.1
  refine ⟨_, _, set, _, _, hr, ?_, rfl, rfl, rfl, ?_⟩
  · simp [Quiet]
  · rintro ⟨r, r', hb, hc⟩
    have h := (sessions_never_fork hr rfl (by decide) (Host.injective_source_fresh _ _)).1 1 2
      .user .user () () set.refresh.text set.refresh.text r r' (hb ▸ rfl) (hc ▸ rfl) rfl
    exact absurd h (by decide)

end Run

end Services

end SessionTokens

import SessionTokens.Proofs.Host.Progress
import SessionTokens.Proofs.Session.Dealings

/-! A refresh token has one successor. Whatever contends for the token and in whatever order the
calls come, the first to revoke it decides; the registry tells all others that it was revoked
before. -/

namespace SessionTokens

section Revokers

variable {Q A : Type} {serve : Q → Program A} {allowed : System Q A → Happening Q → Prop}
  {s u : System Q A} {ls : List (Happening Q)} {j : Jti} {i : Nat}

/-- The strand that revokes the identifier, if the registry says that it was active. -/
def Happening.revoker? (j : Jti) : Happening Q → Option Nat
  | moved i (.called (.revoke k _) (.ok .revoked)) => if k = j then some i else none
  | _ => none

def revokersOf (j : Jti) (ls : List (Happening Q)) : List Nat := ls.filterMap (·.revoker? j)

theorem Happening.revoker?_eq_some {l : Happening Q} :
    l.revoker? j = some i ↔ ∃ e, l = .moved i (.called (.revoke j e) (.ok .revoked)) := by
  constructor
  · intro h
    unfold revoker? at h
    split at h
    · split at h
      · obtain rfl := Option.some.inj h
        subst j
        exact ⟨_, rfl⟩
      · exact nomatch h
    · exact nomatch h
  · rintro ⟨e, rfl⟩
    simp [revoker?]

theorem mem_revokersOf :
    i ∈ revokersOf j ls ↔ ∃ e, .moved i (.called (.revoke j e) (.ok .revoked)) ∈ ls := by
  simp only [revokersOf, List.mem_filterMap, Happening.revoker?_eq_some]
  constructor
  · rintro ⟨l, hl, e, rfl⟩
    exact ⟨e, hl⟩
  · rintro ⟨e, he⟩
    exact ⟨_, he, e, rfl⟩

@[simp] theorem revokersOf_append (ls ms : List (Happening Q)) :
    revokersOf j (ls ++ ms) = revokersOf j ls ++ revokersOf j ms := List.filterMap_append

/-- While the clock stands still, an active identifier stays active until some strand revokes
it. It is the only strand that the registry tells so. -/
theorem System.Run.revokers (h : System.Run serve allowed s ls u) (hc : ∀ t, .clockSet t ∉ ls)
    (hs : s.Holds fun now m => m.retention.Positive ∧ m.state now j = .active) :
    ((u.Holds fun now m => m.retention.Positive ∧ m.state now j = .active) ∧
        ∀ i e o, .moved i (.called (.revoke j e) (.ok o)) ∉ ls) ∨
      ((u.Holds fun now m => m.state now j = .revoked) ∧ ∃ i, revokersOf j ls = [i]) := by
  induction h with
  | refl => exact .inl ⟨hs, by simp⟩
  | @next ls l t u hr ha hstep ih =>
    have hone : System.Run serve allowed t [l] u := .cons ha hstep .refl
    have hc' : ∀ t, .clockSet t ∉ [l] := fun t ht => hc t (List.mem_append_right _ ht)
    rcases ih fun t ht => hc t (List.mem_append_left _ ht) with ⟨ht, hno⟩ | ⟨ht, i, hi⟩
    · by_cases hl : ∃ i e o, l = .moved i (.called (.revoke j e) (.ok o))
      · obtain ⟨i, e, o, rfl⟩ := hl
        obtain ⟨m, hm, hp, hactive⟩ := ht
        obtain ⟨rfl, hu, hclock⟩ := hstep.answered hm
        have ho : (m.call t.host.clock (.revoke j e)).1 = .revoked := by
          simp only [MemoryRegistry.call, MemoryRegistry.outcome_revoke, hactive]
        refine .inr ⟨⟨_, hu, ?_⟩, i, ?_⟩
        · rw [hclock]
          exact MemoryRegistry.state_revoke hp (MemoryRegistry.lt_last_of_active hactive) e
        · have hnone : revokersOf j ls = [] := by
            refine List.eq_nil_iff_forall_not_mem.mpr fun k hk => ?_
            obtain ⟨e, he⟩ := mem_revokersOf.mp hk
            exact hno k e _ he
          rw [revokersOf_append, hnone, ho]
          simp [revokersOf, Happening.revoker?]
      · have hno' : ∀ i e o, .moved i (.called (.revoke j e) (.ok o)) ∉ [l] :=
          fun i e o h => hl ⟨i, e, o, (List.mem_singleton.mp h).symm⟩
        refine .inl ⟨hone.active_still hc' ht hno', fun i e o h => ?_⟩
        exact (List.mem_append.mp h).elim (hno i e o) (hno' i e o)
    · refine .inr ⟨hone.revoked_still hc' ht, i, ?_⟩
      have hnone : revokersOf j [l] = [] := by
        refine List.eq_nil_iff_forall_not_mem.mpr fun k hk => ?_
        obtain ⟨e, he⟩ := mem_revokersOf.mp hk
        cases hone.outcome_of_revoked hc' ht he
      rw [revokersOf_append, hi, hnone, List.append_nil]

end Revokers

namespace Services

/-- A refresh token that is about to be contended for: an issuer has issued it and reads it, the
registry of the process reports it active, and whoever exchanges it can make its successor. -/
structure Contest (v : Services) (h : Host) (s : Side) (token : String)
    (old : Claims s.refresh) : Prop where
  registry : ∃ m, h.registry = .memory m ∧ m.retention.Positive ∧
    m.state h.clock old.jti = .active ∧ ∀ n, h.drawn ≤ n → m.get? (h.source n) = none
  distinct : Function.Injective h.source
  drawn : h.Drawn old.jti
  read : (v.issuer s).codec.parse s.refresh h.clock.unix token = .ok old
  bearerTtl : (h.clock.plus? (v.issuer s).bearerTtl).isSome
  refreshTtl : (h.clock.plus? (v.issuer s).refreshTtl).isSome

/-- The requests that contend for a refresh token: exchanges, and logouts of the same subject
that show it. Other tokens shown with it were issued before. -/
inductive Contends (v : Services) (h : Host) (s : Side) (token : String)
    (old : Claims s.refresh) : Request → Prop
  | rotate (companion : s.Companion) : v.Admits h.clock s companion token old →
    (∀ e ∈ v.extras s companion, h.Drawn e.jti) →
    Contends v h s token old (.rotate s companion token)
  | logout (c : Claims s.bearer) : c.subject = old.subject → h.Drawn c.jti →
    Contends v h s token old (.logout s c (some token))

/-- Contending requests and issues begin, nothing fails, and the clock stands still. -/
def Undisturbed (v : Services) (h : Host) (s : Side) (token : String) (old : Claims s.refresh) :
    Happening Request → Prop
  | .begun q => v.Contends h s token old q ∨ ∃ s' subject roles, q = .issue s' subject roles
  | .moved _ (.called _ (.error _)) => False
  | .moved _ (.roles _ (.error _)) => False
  | .moved _ _ => True
  | .clockSet _ => False

section Contest

open SessionTokens.System

variable {v : Services} {h : Host} {s : Side} {token : String} {old : Claims s.refresh}
  {ls : List (Happening Request)} {u : System Request (Except SessionError Reply)}
  (hc : v.Contest h s token old)
  (hr : Run v.serve (fun _ => v.Undisturbed h s token old) (start h) ls u)

theorem holds_active (hc : v.Contest h s token old) :
    (start h : System Request (Except SessionError Reply)).Holds fun now m =>
      m.retention.Positive ∧ m.state now old.jti = .active := by
  obtain ⟨m, hm, hp, ha, -⟩ := hc.registry
  exact ⟨m, hm, hp, ha⟩

include hr

theorem clock_still (t : Instant) : .clockSet t ∉ ls := fun ht => (hr.allowed_of_mem ht).elim nofun

theorem not_failed {k : Nat} {c : RegistryCall} {e : RegistryError} :
    .moved k (.called c (.error e)) ∉ ls := fun he => (hr.allowed_of_mem he).elim nofun

theorem begun_of_mem {q : Request} (hq : .begun q ∈ ls) :
    v.Contends h s token old q ∨ ∃ s' subject roles, q = .issue s' subject roles :=
  (hr.allowed_of_mem hq).elim fun _ => id

theorem clock_eq_of_turn {k : Nat} {t : Instant} (ht : .clock t ∈ turnsOf k ls) : t = h.clock :=
  hr.clock_of_mem (clock_still hr) (mem_turnsOf.mp ht)

theorem dealings_of_ended {k : Nat} {q : Request} {a : Except SessionError Reply}
    (he : u.Ended k q a) :
    .begun q ∈ ls ∧ v.Deals (turnsOf k ls) q (dealings (turnsOf k ls)) a :=
  ⟨(hr.yields he).1, deals (hr.yields he).2⟩

include hc

theorem not_hindered {k : Nat} : ¬ (v.issuer s).Hindered (turnsOf k ls) := by
  rintro (⟨t, ht, hn | hn⟩ | ⟨user, e, he⟩)
  · obtain rfl := clock_eq_of_turn hr ht
    simpa [hn] using hc.bearerTtl
  · obtain rfl := clock_eq_of_turn hr ht
    simpa [hn] using hc.refreshTtl
  · exact (hr.allowed_of_mem (mem_turnsOf.mp he)).elim nofun

theorem state_before {as bs : List (Happening Request)} {k : Nat} {c : RegistryCall} {x : c.Answer}
    (hls : ls = as ++ .moved k (.called c (.ok x)) :: bs) :
    ∃ (m : MemoryRegistry) (now : Instant), x = (m.call now c).1 ∧ (m.state now old.jti = .active ∨
      (m.state now old.jti = .revoked ∧ ∃ i, i ∈ revokersOf old.jti ls)) := by
  have hstill := clock_still hr
  subst hls
  obtain ⟨w, z, m, hw, hm, hx, -⟩ := hr.answered ((holds_active hc).imp fun _ h => ⟨h.1, trivial⟩)
  refine ⟨m, w.host.clock, hx, ?_⟩
  rcases hw.revokers (fun t ht => hstill t (List.mem_append_left _ ht)) (holds_active hc) with
    ⟨⟨m', hm', -, ha⟩, -⟩ | ⟨⟨m', hm', hrev⟩, i, hi⟩
  · obtain rfl := Backend.memory.inj (hm.symm.trans hm')
    exact .inl ha
  · obtain rfl := Backend.memory.inj (hm.symm.trans hm')
    exact .inr ⟨hrev, i, by rw [revokersOf_append, hi]; simp⟩

theorem answer_of_asked {k : Nat} {x : JtiState}
    (hx : .moved k (.called (.state old.jti) (.ok x)) ∈ ls) :
    x = .active ∨ (x = .revoked ∧ ∃ i, i ∈ revokersOf old.jti ls) := by
  obtain ⟨as, bs, hls⟩ := List.append_of_mem hx
  obtain ⟨m, now, rfl, h⟩ := state_before hc hr hls
  exact h

theorem answer_of_revoked {k : Nat} {e : Instant} {o : RevokeOutcome}
    (ho : .moved k (.called (.revoke old.jti e) (.ok o)) ∈ ls) :
    (o = .revoked ∧ k ∈ revokersOf old.jti ls) ∨
      (o = .alreadyRevoked ∧ ∃ i, i ∈ revokersOf old.jti ls) := by
  obtain ⟨as, bs, hls⟩ := List.append_of_mem ho
  obtain ⟨m, now, hx, h | ⟨h, hi⟩⟩ := state_before hc hr hls
  · have hrev : o = .revoked := by
      rw [hx]
      simp only [MemoryRegistry.call, MemoryRegistry.outcome_revoke, h]
    exact .inl ⟨hrev, mem_revokersOf.mpr ⟨e, hrev ▸ ho⟩⟩
  · refine .inr ⟨?_, hi⟩
    rw [hx]
    simp only [MemoryRegistry.call, MemoryRegistry.outcome_revoke, h]

omit hr in
theorem old_eq {c : Claims s.refresh}
    (ha : (v.issuer s).codec.authentic s.refresh token = .ok (c, false)) : c = old :=
  (Prod.mk.inj (Except.ok.inj (ha.symm.trans (Codec.authentic_of_parse hc.read)))).1

/-- A contending exchange comes to ask about the token. -/
theorem exchange_of_ended {k : Nat} {companion : s.Companion} {b : Except SessionError Reply}
    (he : u.Ended k (.rotate s companion token) b) :
    ∃ r : Except SessionError TokenSet, b = r.map .issued ∧
      ExchangeDeals (v.issuer s) s old (v.extras s companion) (turnsOf k ls)
        (dealings (turnsOf k ls)) r := by
  obtain ⟨hq, hd⟩ := dealings_of_ended hr he
  have hadmits : v.Admits h.clock s companion token old := by
    rcases begun_of_mem hr hq with hq | ⟨s', subject, roles, hq⟩
    · cases hq with
      | rotate _ ha => exact ha
    · cases hq
  generalize dealings (turnsOf k ls) = ds at hd ⊢
  cases hd with
  | rotate hd =>
    cases hd with
    | unread _ hun => exact absurd hadmits (hun _ _ fun t ht => clock_eq_of_turn hr ht)
    | exchanged ha hx =>
      obtain rfl := old_eq hc ha
      exact ⟨_, rfl, hx⟩

/-- A contending logout comes to revoke both tokens. -/
theorem logout_of_ended {k : Nat} {c : Claims s.bearer} {b : Except SessionError Reply}
    (he : u.Ended k (.logout s c (some token)) b) :
    ∃ x y, dealings (turnsOf k ls) = [c.entry.revocation x, old.entry.revocation y] := by
  obtain ⟨hq, hd⟩ := dealings_of_ended hr he
  have hsub : c.subject = old.subject := by
    rcases begun_of_mem hr hq with hq | ⟨s', subject, roles, hq⟩
    · cases hq with
      | logout _ hsub => exact hsub
    · cases hq
  have hread : ∀ {t : Instant} {token' : String}, some token = some token' →
      .clock t ∈ turnsOf k ls →
      (v.issuer s).codec.parse s.refresh t.unix token' = .ok old := by
    intro t token' hshown ht
    obtain rfl := Option.some.inj hshown
    obtain rfl := clock_eq_of_turn hr ht
    exact hc.read
  generalize dealings (turnsOf k ls) = ds at hd ⊢
  cases hd with
  | logout hd =>
    cases hd with
    | mismatch hshown ht hp hne =>
      obtain rfl := Except.ok.inj (hp.symm.trans (hread hshown ht))
      exact absurd hsub.symm hne
    | pair x y _ hshown ht hp =>
      obtain rfl := Except.ok.inj (hp.symm.trans (hread hshown ht))
      exact ⟨x, y, rfl⟩
    | bearer x _ hnone =>
      obtain ⟨t, e, ht, he⟩ := hnone token rfl
      cases he.symm.trans (hread rfl ht)

omit hc in
theorem not_revoked_of_issuing {k : Nat} {s' : Side} {subject : Uuid} {roles : s'.bearer.Roles}
    {b : Except SessionError Reply} (he : u.Ended k (.issue s' subject roles) b) {j : Jti}
    {e : Instant} {y : Except RegistryError RevokeOutcome} :
    .moved k (.called (.revoke j e) y) ∉ ls := by
  intro hy
  have hd := (dealings_of_ended hr he).2
  have hy := called_mem_dealings.mpr (mem_turnsOf.mpr hy)
  generalize dealings (turnsOf k ls) = ds at hd hy
  cases hd with
  | issue hi => exact not_revoked_of_issue hi hy

/-- A strand revokes what was drawn before, or else a set that it has to take back. -/
theorem drawn_of_revoked {k : Nat} {q : Request} {a : Except SessionError Reply}
    (he : u.Ended k q a) {j : Jti} {e : Instant} {y : Except RegistryError RevokeOutcome}
    (hy : .moved k (.called (.revoke j e) y) ∈ ls) :
    h.Drawn j ∨ (.moved k (.drawn j) ∈ ls ∧ a = .error .reuseDetected) := by
  have hdealt := called_mem_dealings.mpr (mem_turnsOf.mpr hy)
  rcases begun_of_mem hr (dealings_of_ended hr he).1 with hq | ⟨s', subject, roles, rfl⟩
  · cases hq with
    | rotate companion _ hextras =>
      obtain ⟨r, rfl, hx⟩ := exchange_of_ended hc hr he
      rcases revoked_of_exchange hx hdealt with rfl | ⟨f, hf, rfl⟩ | ⟨hj, rfl⟩
      · exact .inl hc.drawn
      · exact .inl (hextras f hf)
      · exact .inr ⟨mem_turnsOf.mp (drawn_mem_dealings.mp hj), rfl⟩
    | logout c _ hdrawn =>
      obtain ⟨x, z, hd⟩ := logout_of_ended hc hr he
      simp only [hd, List.mem_cons, List.not_mem_nil, or_false] at hdealt
      rcases hdealt with hy | hy
      · exact .inl (jti_of_revocation hy ▸ hdrawn)
      · exact .inl (jti_of_revocation hy ▸ hc.drawn)
  · exact absurd hy (not_revoked_of_issuing hr he)

theorem old_ne_of_drawn {k : Nat} {j : Jti} (hj : .moved k (.drawn j) ∈ ls) : old.jti ≠ j := by
  rintro rfl
  exact hr.not_mem_drawsIn hc.distinct hc.drawn (mem_drawsIn.mpr ⟨k, hj⟩)

theorem spent_of_taken_back {k : Nat} {e : Entry} {z : Except RegistryError RevokeOutcome}
    (hd : .moved k (.drawn e.jti) ∈ ls) (hz : .moved k (e.revocation z) ∈ ls) :
    u.Holds fun _ m => m.Spent e.jti := by
  obtain ⟨m, hm, -⟩ := hc.registry
  cases z with
  | error x => exact absurd hz (not_failed hr)
  | ok o => exact hr.spent_of_revoked v.orderly hm hc.distinct hd hz

/-- A rotation either revokes the token itself and has its successor, or finds that another
strand did, and has nothing left that is active. -/
theorem rotation_outcome {k : Nat} {companion : s.Companion} {b : Except SessionError Reply}
    (he : u.Ended k (.rotate s companion token) b) :
    (∃ set, b = .ok (.issued set) ∧ k ∈ revokersOf old.jti ls ∧
        ∀ e ∈ [set.bearer.entry, set.refresh.entry],
          .moved k (.drawn e.jti) ∈ ls ∧ .moved k (e.recording (.ok ())) ∈ ls) ∨
      (b = .error .reuseDetected ∧ k ∉ revokersOf old.jti ls ∧ (∃ i, i ∈ revokersOf old.jti ls) ∧
        ∀ j, .moved k (.drawn j) ∈ ls → u.Holds fun _ m => m.Spent j) := by
  obtain ⟨r, rfl, hx⟩ := exchange_of_ended hc hr he
  have hmem : ∀ {o : Occurrence}, o ∈ dealings (turnsOf k ls) → .moved k o ∈ ls :=
    fun ho => mem_turnsOf.mp (mem_of_mem_dealings ho)
  have hdrawn : ∀ {j : Jti}, .moved k (.drawn j) ∈ ls → .drawn j ∈ dealings (turnsOf k ls) :=
    fun hj => drawn_mem_dealings.mpr (mem_turnsOf.mpr hj)
  have hrevoker : k ∈ revokersOf old.jti ls →
      ∃ e, .called (.revoke old.jti e) (.ok .revoked) ∈ dealings (turnsOf k ls) := fun hk =>
    (mem_revokersOf.mp hk).imp fun e he => called_mem_dealings.mpr (mem_turnsOf.mpr he)
  generalize dealings (turnsOf k ls) = ds at hx hmem hdrawn hrevoker
  cases hx with
  | @refused a e hready =>
    cases a with
    | error e => exact absurd (hmem (List.mem_singleton_self _)) (not_failed hr)
    | ok x =>
      rcases answer_of_asked hc hr (hmem (List.mem_singleton_self _)) with rfl | ⟨rfl, hi⟩
      · cases hready
      · obtain rfl := Except.error.inj hready
        refine .inr ⟨rfl, fun hk => ?_, hi, fun j hj => ?_⟩
        · obtain ⟨e, he⟩ := hrevoker hk
          simp at he
        · simpa using hdrawn hj
  | unrenewed hi =>
    rcases hindered_of_unissued hi with ⟨hh, -⟩ | ⟨c, x, hx⟩
    · exact absurd hh (not_hindered hc hr)
    · exact absurd (hmem (List.mem_cons_of_mem _ hx)) (not_failed hr)
  | @lost set x y =>
    have hraced : .moved k (old.entry.revocation (.ok .alreadyRevoked)) ∈ ls := hmem (by simp)
    have hbearer : .moved k (set.bearer.entry.revocation x) ∈ ls := hmem (by simp)
    have hrefresh : .moved k (set.refresh.entry.revocation y) ∈ ls := hmem (by simp)
    have hset : .moved k (.drawn set.bearer.entry.jti) ∈ ls ∧
        .moved k (.drawn set.refresh.entry.jti) ∈ ls :=
      ⟨hmem (by simp [TokenSet.registration]), hmem (by simp [TokenSet.registration])⟩
    refine .inr ⟨rfl, fun hk => ?_, ?_, fun j hj => ?_⟩
    · obtain ⟨e, he⟩ := hrevoker hk
      simp only [TokenSet.registration, Entry.recording, List.cons_append, List.nil_append,
        List.mem_cons, List.not_mem_nil, or_false, reduceCtorEq, false_or,
        Occurrence.called.injEq, false_and] at he
      rcases he with he | he | he
      · exact absurd (Occurrence.called.inj he).2 (by simp)
      · exact old_ne_of_drawn hc hr hset.1 (jti_of_revocation he)
      · exact old_ne_of_drawn hc hr hset.2 (jti_of_revocation he)
    · rcases answer_of_revoked hc hr hraced with ⟨ho, -⟩ | ⟨-, hi⟩
      · cases ho
      · exact hi
    · have hj := hdrawn hj
      simp [TokenSet.registration, Entry.recording, Entry.revocation] at hj
      rcases hj with rfl | rfl
      · exact spent_of_taken_back hc hr hset.1 hbearer
      · exact spent_of_taken_back hc hr hset.2 hrefresh
  | @won set x closing _ hx =>
    have hretired : .moved k (old.entry.revocation x) ∈ ls := hmem (by simp)
    cases x with
    | error e => exact absurd hretired (not_failed hr)
    | ok o =>
      rcases answer_of_revoked hc hr hretired with ⟨-, hk⟩ | ⟨rfl, -⟩
      · refine .inl ⟨set, rfl, hk, ?_⟩
        simp only [List.mem_cons, List.not_mem_nil, or_false, forall_eq_or_imp, forall_eq]
        exact ⟨⟨hmem (by simp [TokenSet.registration]), hmem (by simp [TokenSet.registration])⟩,
          hmem (by simp [TokenSet.registration]), hmem (by simp [TokenSet.registration])⟩
      · exact absurd rfl hx

theorem active_at_end {k : Nat} {q : Request} {r : Reply} {e : Entry} (he : u.Ended k q (.ok r))
    (hq : u.Quiet) (hd : .moved k (.drawn e.jti) ∈ ls)
    (hrec : .moved k (e.recording (.ok ())) ∈ ls) :
    u.Holds fun now m => m.retention.Positive ∧ m.state now e.jti = .active := by
  obtain ⟨m, hm, hp, ha, hfresh⟩ := hc.registry
  obtain ⟨n, hn, hj⟩ := hr.source_of_mem (mem_drawsIn.mpr ⟨k, hd⟩)
  have hnone : m.get? e.jti = none := hj ▸ hfresh n hn
  have hstart : (start h : System Request (Except SessionError Reply)).Holds fun now m =>
      (m.retention.Positive ∧ now.nanos < Instant.last.nanos) ∧ m.BearsOnly .active e.jti :=
    ⟨m, hm, ⟨hp, MemoryRegistry.lt_last_of_active ha⟩, fun r hr => nomatch hnone.symm.trans hr⟩
  refine hr.active_of_recorded (clock_still hr) hstart hrec fun i f o ho => ?_
  obtain ⟨q', p, hi, -, -⟩ := hr.strand_of_turn ho
  obtain ⟨b, rfl⟩ : ∃ b, p = .done b := hq _ (List.mem_of_getElem? hi)
  rcases drawn_of_revoked hc hr hi ho with hj | ⟨hj, rfl⟩
  · exact hr.not_mem_drawsIn hc.distinct hj (mem_drawsIn.mpr ⟨k, hd⟩)
  · obtain rfl := hr.drawer_unique hc.distinct hj hd
    exact nomatch hi.symm.trans he

theorem exists_revoker {q : Request} (hq : u.Quiet) (hbegun : .begun q ∈ ls)
    (hcontends : v.Contends h s token old q) : ∃ i, i ∈ revokersOf old.jti ls := by
  obtain ⟨k, p, -, hk⟩ := hr.strand_of_begun hbegun
  obtain ⟨a, rfl⟩ : ∃ a, p = .done a := hq _ (List.mem_of_getElem? hk)
  cases hcontends with
  | rotate companion =>
    rcases rotation_outcome hc hr hk with ⟨_, -, hi, -⟩ | ⟨-, -, hi, -⟩
    · exact ⟨k, hi⟩
    · exact hi
  | logout c =>
    obtain ⟨x, y, hd⟩ := logout_of_ended hc hr hk
    have hrev : .moved k (old.entry.revocation y) ∈ ls :=
      mem_turnsOf.mp (mem_of_mem_dealings (by simp [hd]))
    cases y with
    | error e => exact absurd hrev (not_failed hr)
    | ok o =>
      rcases answer_of_revoked hc hr hrev with ⟨-, hi⟩ | ⟨-, hi⟩
      · exact ⟨k, hi⟩
      · exact hi

/-- Whoever contends for a refresh token, and in whatever order their calls come, one of them
revokes it. If that is a rotation it alone has its set, both of whose tokens are active in the
end; any other rotation learns that the token was used before and leaves nothing active. -/
theorem one_successor (hquiet : u.Quiet)
    (hcontended : ∃ q, .begun q ∈ ls ∧ v.Contends h s token old q) :
    ∃ i q a, revokersOf old.jti ls = [i] ∧ u.Ended i q a ∧
      ((∃ companion set, q = .rotate s companion token ∧ a = .ok (.issued set) ∧
          u.Holds fun now m => m.state now set.bearer.entry.jti = .active ∧
            m.state now set.refresh.entry.jti = .active) ∨
        ∃ c, q = .logout s c (some token)) ∧
      ∀ k companion b, k ≠ i → u.Ended k (.rotate s companion token) b →
        b = .error .reuseDetected ∧
          ∀ j, .moved k (.drawn j) ∈ ls → u.Holds fun now m => m.state now j ≠ .active := by
  obtain ⟨q, hbegun, hcontends⟩ := hcontended
  obtain ⟨i, hi⟩ := exists_revoker hc hr hquiet hbegun hcontends
  have hone : revokersOf old.jti ls = [i] := by
    rcases hr.revokers (clock_still hr) (holds_active hc) with ⟨-, hno⟩ | ⟨-, k, hk⟩
    · obtain ⟨e, he⟩ := mem_revokersOf.mp hi
      exact absurd he (hno i e _)
    · rw [hk] at hi ⊢
      rw [List.mem_singleton.mp hi]
  obtain ⟨e, he⟩ := mem_revokersOf.mp hi
  obtain ⟨q', p, hs, hb, -⟩ := hr.strand_of_turn he
  obtain ⟨a, rfl⟩ : ∃ a, p = .done a := hquiet _ (List.mem_of_getElem? hs)
  have hcontends' : v.Contends h s token old q' := by
    rcases begun_of_mem hr hb with hq | ⟨s', subject, roles, rfl⟩
    · exact hq
    · exact absurd he (not_revoked_of_issuing hr hs)
  refine ⟨i, q', a, hone, hs, ?_, ?_⟩
  · cases hcontends' with
    | logout c => exact .inr ⟨c, rfl⟩
    | rotate companion =>
      rcases rotation_outcome hc hr hs with ⟨set, rfl, -, hset⟩ | ⟨-, hni, -⟩
      · refine .inl ⟨companion, set, rfl, rfl, ?_⟩
        simp only [List.mem_cons, List.not_mem_nil, or_false, forall_eq_or_imp, forall_eq] at hset
        obtain ⟨⟨hbd, hbr⟩, hrd, hrr⟩ := hset
        obtain ⟨m, hm, -, hba⟩ := active_at_end hc hr hs hquiet hbd hbr
        obtain ⟨m', hm', -, hra⟩ := active_at_end hc hr hs hquiet hrd hrr
        obtain rfl := Backend.memory.inj (hm.symm.trans hm')
        exact ⟨m, hm, hba, hra⟩
      · exact absurd hi hni
  · intro k companion b hk hb
    rcases rotation_outcome hc hr hb with ⟨_, -, hki, -⟩ | ⟨hb, -, -, hspent⟩
    · exact absurd (List.mem_singleton.mp (hone ▸ hki)) hk
    · refine ⟨hb, fun j hj => ?_⟩
      obtain ⟨m, hm, hs⟩ := hspent j hj
      exact ⟨m, hm, hs.state_ne_active _⟩

omit hc hr in
theorem contest_sample : sample.Contest (.recording ⟨0⟩ ⟨.ofSeconds 60, .zero⟩ sampleRefresh.expiry)
    .user (sample.users.codec.sign sampleRefresh) sampleRefresh where
  registry :=
    ⟨_, Host.registry_recording .., by decide, by decide, fun _ => Host.get?_recording⟩
  distinct := Host.injective_source_fresh ⟨0⟩ ⟨.ofSeconds 60, .zero⟩
  drawn := ⟨0, by decide, rfl⟩
  read := by
    refine Codec.read_eq_ok.mpr ⟨Codec.authentic_sign _ _ rfl rfl, by decide, by decide, by decide⟩
  bearerTtl := by decide
  refreshTtl := by decide

omit hc hr in
theorem one_of_two_rotations :
    ∃ (ls : List (Happening Request)) (h : Host) (set : TokenSet)
      (a b : Except SessionError Reply),
      let q : Request := .rotate .user () (sample.users.codec.sign sampleRefresh)
      Run sample.serve (fun _ => sample.Undisturbed
          (.recording ⟨0⟩ ⟨.ofSeconds 60, .zero⟩ sampleRefresh.expiry) .user
          (sample.users.codec.sign sampleRefresh) sampleRefresh)
        (start (.recording ⟨0⟩ ⟨.ofSeconds 60, .zero⟩ sampleRefresh.expiry))
        (.begun q :: .begun q :: ls) ⟨h, [⟨q, .done a⟩, ⟨q, .done b⟩]⟩ ∧
        (a = .ok (.issued set) ∧ b = .error .reuseDetected ∨
          a = .error .reuseDetected ∧ b = .ok (.issued set)) := by
  let g : Host := .recording ⟨0⟩ ⟨.ofSeconds 60, .zero⟩ sampleRefresh.expiry
  let token : String := sample.users.codec.sign sampleRefresh
  let q : Request := .rotate .user () token
  have hc : sample.Contest g .user token sampleRefresh := contest_sample
  have hq : sample.Contends g .user token sampleRefresh q := .rotate (s := .user) () hc.read nofun
  have hallowed : ∀ (v : System Request (Except SessionError Reply)) (i : Nat) (o : Occurrence),
      o.isFailure = false → sample.Undisturbed g .user token sampleRefresh (.moved i o) := by
    intro v i o ho
    cases o with
    | called c x =>
      cases x with
      | ok => trivial
      | error => exact nomatch ho
    | roles user x =>
      cases x with
      | ok => trivial
      | error => exact nomatch ho
    | _ => trivial
  have hbegun : Run sample.serve (fun _ => sample.Undisturbed g .user token sampleRefresh) (start g)
      [.begun q, .begun q] ⟨g, [⟨q, sample.serve q⟩, ⟨q, sample.serve q⟩]⟩ :=
    Run.begins (start g) [q, q] fun _ => by simp [Undisturbed, hq]
  have hfirst : [⟨q, sample.serve q⟩, ⟨q, sample.serve q⟩][0]? =
      some (Strand.mk q (sample.serve q)) := rfl
  obtain ⟨⟨os, hr₁⟩, hs₁⟩ := moves_run sample.serve hallowed steady_smooth .patient
    (smooth_recording ⟨0⟩ ⟨.ofSeconds 60, .zero⟩ sampleRefresh.expiry) hfirst
  generalize (sample.serve q).run .patient _ = x at hr₁ hs₁
  obtain ⟨a, sc, h⟩ := x
  have hsecond : [⟨q, .done a⟩, ⟨q, sample.serve q⟩][1]? =
      some (Strand.mk q (sample.serve q)) := rfl
  obtain ⟨⟨us, hr₂⟩, -⟩ := moves_run sample.serve hallowed steady_smooth sc hs₁ hsecond
  generalize (sample.serve q).run sc h = x at hr₂
  obtain ⟨b, sc', h'⟩ := x
  have hr := hbegun.trans (hr₁.trans hr₂)
  obtain ⟨i, q', a', -, he, hwon, hlost⟩ :=
    one_successor hc hr (by simp [Quiet]) ⟨q, by simp, hq⟩
  have hset : ∀ {a}, q' = q → a' = a → ∃ set, a = .ok (.issued set) := by
    rintro a rfl rfl
    rcases hwon with ⟨_, set, -, hok, -⟩ | ⟨c, hlogout⟩
    · exact ⟨set, hok⟩
    · exact nomatch hlogout
  match i, he with
  | 0, he =>
    obtain ⟨hq', ha⟩ := Strand.mk.inj (Option.some.inj he.symm)
    obtain ⟨set, hset⟩ := hset hq' (Program.done.inj ha)
    exact ⟨_, _, set, _, _, hr, .inl ⟨hset, (hlost 1 () _ (by decide) rfl).1⟩⟩
  | 1, he =>
    obtain ⟨hq', ha⟩ := Strand.mk.inj (Option.some.inj he.symm)
    obtain ⟨set, hset⟩ := hset hq' (Program.done.inj ha)
    exact ⟨_, _, set, _, _, hr, .inr ⟨(hlost 0 () _ (by decide) rfl).1, hset⟩⟩

end Contest

end Services

end SessionTokens

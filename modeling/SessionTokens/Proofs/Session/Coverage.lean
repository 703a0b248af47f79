import SessionTokens.Proofs.Host.Progress
import SessionTokens.Proofs.Registry.Coverage
import SessionTokens.Proofs.Session.Dealings

/-! What follows for sessions from a skew that is longer than the leeway. A token that was issued
and has not been revoked is never refused as revoked, and one that was exchanged is always reported
as used before, for as long as its codec accepts it. -/

namespace SessionTokens

open Program Operation SessionTokens.System

namespace System

section Runs

variable {Q A : Type} {serve : Q → Program A} {allowed : System Q A → Happening Q → Prop}
  {s u : System Q A} {ls : List (Happening Q)} {p : Retention} {j : Jti} {expiresAt : Instant}
  {mark : Mark}

theorem drawsOf_sublist (i : Nat) (ls : List (Happening Q)) :
    (drawsOf i ls).Sublist (drawsIn ls) := by
  induction ls with
  | nil => exact .slnil
  | cons l ls ih =>
    have hturns : drawsOf i (l :: ls) = drawsOf i [l] ++ drawsOf i ls := by
      simp only [drawsOf, ← List.filterMap_append, ← turnsOf_append, List.singleton_append]
    have hdraws : drawsIn (l :: ls) = drawsIn [l] ++ drawsIn ls := drawsIn_append [l] ls
    rw [hturns, hdraws]
    refine List.Sublist.append ?_ ih
    cases l with
    | moved k o =>
      by_cases hk : k = i
      · have hturn : turnsOf i [(.moved k o : Happening Q)] = [o] := by
          simp [turnsOf, Happening.turn?, hk]
        rw [drawsOf, hturn]
        exact .refl _
      · simp [drawsOf, turnsOf, Happening.turn?, hk]
    | begun | clockSet => exact .slnil

theorem Run.clock_unique {i : Nat} {t t' : Instant} (h : Run serve allowed s ls u)
    (hq : ∀ v t, allowed v (.clockSet t) → v.Quiet) (ht : .moved i (.clock t) ∈ ls)
    (ht' : .moved i (.clock t') ∈ ls) : t = t' := by
  obtain ⟨as, bs, v, w, rfl, hv, -, hs, hw⟩ := h.at_mem ht
  rw [hs.clock_read]
  exact hv.clock_of_turn hs hw hq ht'

/-- What a registry knows of an identifier it knows to the end of a run in which the clock is only
set forward, if no call makes it forget. -/
theorem Run.knows (h : Run serve allowed s ls u)
    (honward : ∀ v t, allowed v (.clockSet t) → v.host.clock.nanos ≤ t.nanos)
    (hs : s.Holds fun now m => m.Knows p j expiresAt mark now)
    (hcalls : ∀ i c x, .moved i (.called c (.ok x)) ∈ ls →
      mark = .revoked ∨ (c.jti? = some j → c = .record j expiresAt ∨ c = .state j)) :
    u.Holds fun now m => m.Knows p j expiresAt mark now :=
  h.preserves hs (fun i c x hx _ _ hm => hm.call (hcalls i c x hx))
    fun v t ha _ _ hm => hm.later (honward v t ha)

end Runs

end System

namespace SessionError

theorem ofCodec_ne_revokedToken (e : CodecError) : ofCodec e ≠ .revokedToken := by
  cases e <;> nofun

theorem ofRegistry_ne_revokedToken (e : RegistryError) : ofRegistry e ≠ .revokedToken := by
  cases e <;> nofun

end SessionError

namespace Services

variable {v : Services}

/-- No call of the registry fails, and the clock is set only when nothing is under way, and only
forward. -/
def Onward (s : System Request (Except SessionError Reply)) : Happening Request → Prop
  | .moved _ (.called _ (.error _)) => False
  | .clockSet t => s.Quiet ∧ s.host.clock.nanos ≤ t.nanos
  | _ => True

/-- The requests that show a token to have it accepted. -/
inductive Presents (s : Side) (token : String) : Request → Prop
  | validate : Presents s token (.validate s token)
  | rotate (companion : s.Companion) : Presents s token (.rotate s companion token)

section Courses

variable {s : Side} {token : String} {os : List Occurrence}

theorem not_issued_revokedToken {i : Issuer} {bearer refresh : TokenKind} {subject : Uuid}
    {roles : bearer.Roles} {refreshRoles : refresh.Roles} {note : TokenSet → Log.Event} :
    ¬ Gives (i.issue bearer refresh subject roles refreshRoles note) os
      (.error .revokedToken) := by
  intro h
  generalize hr : (Except.error SessionError.revokedToken : Except SessionError TokenSet) = r at h
  cases Issuer.gives_issue h with
  | unminted hm => cases hm <;> exact nomatch hr
  | bearerUnrecorded e | refreshUnrecorded e =>
    exact absurd (Except.error.inj hr).symm (SessionError.ofRegistry_ne_revokedToken e)
  | issued => exact nomatch hr

theorem userNotFound_of_renewal {i : Issuer} {user : Uuid}
    (h : Gives (User.renewal i user) os (.error .revokedToken)) :
    .roles user (.error .userNotFound) ∈ os := by
  rcases gives_rolesOf_bind.mp h with ⟨e, rfl, he⟩ | ⟨roles, us, rfl, hi⟩
  · cases e with
    | userNotFound => exact List.mem_singleton_self _
    | store reason => exact nomatch he
  · exact absurd hi not_issued_revokedToken

/-- An exchange is refused as revoked because the registry does not know the token, or because the
new set cannot be had. -/
theorem exchange_revokedToken {k : TokenKind} {old : Claims k} {renew : Operation TokenSet}
    {finish : TokenSet → Operation Unit}
    (hfinish : ∀ set us x, Gives (finish set) us x → x = .ok ())
    (h : Gives (Issuer.exchange old token renew finish) os (.error .revokedToken)) :
    dealings os = [.called (.state old.jti) (.ok .unknown)] ∨
      ∃ us ⊆ os, Gives renew us (.error .revokedToken) := by
  generalize hr : (Except.error SessionError.revokedToken : Except SessionError TokenSet) = r at h
  cases Issuer.gives_exchange h with
  | @refused a e ha =>
    obtain rfl := Except.error.inj hr
    match a with
    | .ok .unknown => exact .inl rfl
    | .ok .active => exact nomatch ha
    | .ok .revoked => exact nomatch ha
    | .error e =>
      exact absurd (Except.error.inj ha) (SessionError.ofRegistry_ne_revokedToken e)
  | unrenewed hn =>
    obtain rfl := Except.error.inj hr
    exact .inr ⟨_, List.subset_cons_self .., hn⟩
  | lost => exact nomatch hr
  | unfinished _ _ _ hf => exact nomatch hfinish _ _ _ hf
  | won => exact nomatch hr

/-- A token was read in its time, and the registry did not call it active. -/
def FoundInactive (c : Codec) (token : String) (os : List Occurrence) : Prop :=
  ∃ (k : TokenKind) (t : Instant) (claims : Claims k) (x : JtiState), .clock t ∈ os ∧
    c.InTime k t.unix token claims ∧ x ≠ .active ∧
    dealings os = [.called (.state claims.jti) (.ok x)]

theorem validate_revokedToken {i : Issuer} {k : TokenKind}
    (h : Gives (i.validate k token) os (.error .revokedToken)) :
    FoundInactive i.codec token os := by
  generalize hr : (Except.error SessionError.revokedToken : Except SessionError _) = r at h
  cases Issuer.gives_validate h with
  | unread =>
    exact absurd (Except.error.inj hr).symm (SessionError.ofCodec_ne_revokedToken _)
  | @refused t c us e hp he =>
    obtain rfl := Except.error.inj hr
    generalize hr : (Except.error SessionError.revokedToken : Except SessionError Unit) = r at he
    cases he with
    | active => exact nomatch hr
    | @inactive x hx =>
      exact ⟨k, t, c, x, List.mem_cons_self .., Codec.inTime_of_parse hp, hx, by simp⟩
    | failed e =>
      exact absurd (Except.error.inj hr).symm (SessionError.ofRegistry_ne_revokedToken e)
  | accepted => exact nomatch hr

theorem rotateUser_revokedToken {i : Issuer}
    (h : Gives (User.rotate i token) os (.error .revokedToken)) :
    (∃ user, .roles user (.error .userNotFound) ∈ os) ∨ FoundInactive i.codec token os := by
  obtain ⟨t, us, rfl, ⟨e, -, -, he⟩ | ⟨old, hp, hx⟩⟩ := User.gives_rotate.mp h
  · exact absurd (Except.error.inj he).symm (SessionError.ofCodec_ne_revokedToken e)
  have hnote : ∀ set us x, Gives (User.rotationNote old set) us x → x = .ok () :=
    fun _ _ _ hf => (gives_emit.mp hf).2
  rcases exchange_revokedToken hnote hx with hd | ⟨ws, hws, hn⟩
  · exact .inr ⟨_, t, old, .unknown, List.mem_cons_self .., Codec.inTime_of_parse hp, nofun,
      by simpa using hd⟩
  · exact .inl ⟨_, List.mem_cons_of_mem _ (hws (userNotFound_of_renewal hn))⟩

theorem rotateDevice_revokedToken {i : Issuer} {connection : String}
    (hclock : ∀ t t', .clock t ∈ os → .clock t' ∈ os → t = t')
    (h : Gives (Device.rotate i connection token) os (.error .revokedToken)) :
    FoundInactive i.codec token os := by
  rcases Device.gives_rotate h with ⟨e, hpair, he⟩ | ⟨us, ws, c, old, rfl, hpair, hx⟩
  · obtain rfl := Except.error.inj he
    generalize hr : (Except.error SessionError.revokedToken : Except SessionError _) = r at hpair
    cases hpair with
    | refreshUnread | connectionUnread | expired =>
      exact absurd (Except.error.inj hr).symm (SessionError.ofCodec_ne_revokedToken _)
    | mismatch | read => exact nomatch hr
  · cases hpair with
    | @read t t' t'' _ _ hread _ _ hfresh =>
      obtain rfl : t = t'' := hclock t t'' (by simp) (by simp)
      have hend : ∀ set us x, Gives (Device.rotationEnd c old set) us x → x = .ok () :=
        fun _ _ _ hf => (Device.dealings_rotationEnd hf).1
      rcases exchange_revokedToken hend hx with hd | ⟨xs, -, hn⟩
      · exact ⟨_, t, old, .unknown, by simp, Codec.inTime_of_checked hread hfresh, nofun,
          by simpa using hd⟩
      · exact absurd hn not_issued_revokedToken

/-- A token is refused as revoked because the registry does not call it active, or because its
user is gone. -/
theorem foundInactive_of_revokedToken {q : Request} (hq : Presents s token q)
    (hclock : ∀ t t', .clock t ∈ os → .clock t' ∈ os → t = t')
    (h : (v.serve q).Yields os (.error .revokedToken)) :
    (∃ user, .roles user (.error .userNotFound) ∈ os) ∨
      FoundInactive (v.issuer s).codec token os := by
  have hg : Gives (v.operation q) os (.error .revokedToken) := h
  cases hq with
  | validate =>
    cases s with
    | user => exact .inr (validate_revokedToken (gives_map_error.mp hg))
    | device => exact .inr (validate_revokedToken (gives_map_error.mp hg))
  | rotate companion =>
    cases s with
    | user => exact rotateUser_revokedToken (gives_map_error.mp hg)
    | device => exact .inr (rotateDevice_revokedToken hclock (gives_map_error.mp hg))

/-- Whoever hands out a set drew its two identifiers and recorded nothing else. -/
theorem recorded_of_issued {q : Request} {us : List Occurrence} {set : TokenSet}
    (h : v.Deals os q us (.ok (.issued set))) :
    us.filterMap (·.draw?) = [set.bearer.entry.jti, set.refresh.entry.jti] ∧
      ∀ j e x, .called (.record j e) x ∈ us →
        (⟨j, e⟩ : Entry) = set.bearer.entry ∨ (⟨j, e⟩ : Entry) = set.refresh.entry := by
  have hset : ∀ {j : Jti} {e : Instant} {x : Except RegistryError Unit},
      .called (.record j e) x ∈ set.registration →
      (⟨j, e⟩ : Entry) = set.bearer.entry ∨ (⟨j, e⟩ : Entry) = set.refresh.entry := by
    intro j e x hx
    simp only [TokenSet.registration, Entry.recording, List.mem_cons, List.not_mem_nil,
      reduceCtorEq, or_false, false_or] at hx
    rcases hx with hx | hx <;> cases hx
    · exact .inl rfl
    · exact .inr rfl
  have hok : ∀ {r : Except SessionError TokenSet},
      Except.ok (Reply.issued set) = r.map .issued → r = .ok set := by
    rintro (e | set') hr
    · simp [Except.map] at hr
    · rw [Reply.issued.inj (Except.ok.inj hr)]
  generalize ha : (Except.ok (Reply.issued set) : Except SessionError Reply) = a at h
  cases h with
  | issue h =>
    obtain rfl := hok ha
    cases h with
    | issued => exact ⟨rfl, fun _ _ _ => hset⟩
  | rotate h =>
    obtain rfl := hok ha
    cases h with
    | exchanged _ h =>
      cases h with
      | @won _ _ closing _ _ hc =>
        have hclosing : closing.filterMap (·.draw?) = [] := by
          refine List.filterMap_eq_nil_iff.mpr fun o ho => ?_
          obtain ⟨e, -, y, rfl⟩ := hc o ho
          rfl
        refine ⟨?_, fun j e x hx => ?_⟩
        · exact congrArg (set.bearer.entry.jti :: set.refresh.entry.jti :: ·) hclosing
        rcases List.mem_cons.mp hx with hx | hx
        · cases hx
        rcases List.mem_append.mp hx with hx | hx
        · exact hset hx
        rcases List.mem_cons.mp hx with hx | hx
        · cases hx
        obtain ⟨f, -, y, hy⟩ := hc _ hx
        cases hy
  | @validate _ _ _ r | @revoke _ _ _ _ _ r | @logout _ _ _ _ r | @stats _ r =>
    cases r <;> simp [Except.map] at ha

end Courses

section Runs

variable {h : Host} {m : MemoryRegistry} {p : Retention} {s : Side} {skew : Nat}
  {before after : List (Happening Request)} {t u : System Request (Except SessionError Reply)}
  {i k : Nat} {q q' : Request} {a : Except SessionError Reply}

theorem quiet_of_onward (v : System Request (Except SessionError Reply)) (t : Instant)
    (h : Onward v (.clockSet t)) : v.Quiet := h.1

theorem forward_of_onward (v : System Request (Except SessionError Reply)) (t : Instant)
    (h : Onward v (.clockSet t)) : v.host.clock.nanos ≤ t.nanos := h.2

/-- A call about an identifier is answered by what the registry knows of it, while its token is
accepted. -/
theorem state_of_known {j : Jti} {e now : Instant} {mark : Mark} {x : JtiState}
    (hafter : Run v.serve Onward t after u)
    (hknown : t.Holds fun now m => m.Knows p j e mark now)
    (hcalls : ∀ i c x, .moved i (.called c (.ok x)) ∈ after →
      mark = .revoked ∨ (c.jti? = some j → c = .record j e ∨ c = .state j))
    (hx : .moved k (.called (.state j) (.ok x)) ∈ after) (hnow : .moved k (.clock now) ∈ after)
    (hremembers : p.Remembers e now) : x = mark.state := by
  obtain ⟨as, bs, y, w, rfl, hy, -, hstep, hw⟩ := hafter.at_mem hx
  obtain ⟨m, hm, hknows⟩ := hy.knows forward_of_onward hknown
    fun i c x hx => hcalls i c x (List.mem_append_left _ hx)
  obtain ⟨rfl, -⟩ := hstep.answered hm
  have hclock : y.host.clock = now := hy.clock_of_turn hstep hw quiet_of_onward hnow
  exact hknows.2 _ (Int.le_refl _) (hclock.symm ▸ hremembers)

theorem not_failed_of_onward (hr : Run v.serve Onward t after u) {c : RegistryCall}
    {x : Except RegistryError c.Answer} (hx : .moved k (.called c x) ∈ after) :
    ∃ y, x = .ok y := by
  cases x with
  | ok y => exact ⟨y, rfl⟩
  | error e => exact (hr.allowed_of_mem hx).elim nofun

/-- The registry never changes how long it keeps records. -/
theorem retention_of_run (hm : h.registry = .memory m)
    (hr : Run v.serve Onward (start h) before t) :
    t.Holds fun _ m' => m'.retention = m.retention := by
  refine hr.holds ⟨m, hm, rfl⟩ (fun _ _ _ _ _ m' hm' => ?_) fun _ _ _ _ hm' => hm'
  rw [MemoryRegistry.retention_call, hm']

section Rotated

variable {companion companion' : s.Companion} {token : String} {r : Reply}
  {old : Claims s.refresh}

/-- A rotation that hands out a set revokes the token, which nothing else did before. -/
theorem revocation_of_rotated {os us : List Occurrence}
    (h : v.Deals os (.rotate s companion token) us (.ok r))
    (hold : (v.issuer s).codec.authentic s.refresh token = .ok (old, false)) :
    ∃ x, old.entry.revocation x ∈ us ∧ x ≠ .ok .alreadyRevoked := by
  generalize ha : (Except.ok r : Except SessionError Reply) = a at h
  cases h with
  | rotate h =>
    cases h with
    | unread => exact nomatch ha
    | exchanged hold' h =>
      obtain rfl := (Prod.mk.inj (Except.ok.inj (hold.symm.trans hold'))).1
      cases h with
      | won _ hx => exact ⟨_, by simp, hx⟩
      | _ => exact nomatch ha

theorem knows_of_rotated (hm : h.registry = .memory m)
    (hbefore : Run v.serve Onward (start h) before t)
    (he : t.Ended i (.rotate s companion token) (.ok r))
    (hold : (v.issuer s).codec.authentic s.refresh token = .ok (old, false)) :
    t.Holds fun now m' => m'.Knows m.retention old.jti old.expiry .revoked now := by
  obtain ⟨x, hx, hne⟩ := revocation_of_rotated (deals (hbefore.yields he).2) hold
  have hmoved : .moved i (old.entry.revocation x) ∈ before :=
    mem_turnsOf.mp (mem_of_mem_dealings hx)
  obtain ⟨o, rfl⟩ := not_failed_of_onward hbefore hmoved
  obtain ⟨as, bs, rfl⟩ := List.append_of_mem hmoved
  obtain ⟨y, w, m', hy, hm', hanswer, hw, -, hrest⟩ := hbefore.answered ⟨m, hm, trivial⟩
  obtain ⟨m'', hm'', hretention⟩ := retention_of_run hm hy
  obtain rfl := Backend.memory.inj (hm'.symm.trans hm'')
  have hmarks : m'.Marks y.host.clock old.jti old.expiry .revoked _ :=
    .revoked fun ho => hne (congrArg Except.ok (hanswer.trans ho))
  have hknown : w.Holds fun now m' => m'.Knows m.retention old.jti old.expiry .revoked now :=
    ⟨_, hw, hretention ▸ hmarks.knows _⟩
  exact hrest.knows forward_of_onward hknown fun _ _ _ _ => .inl rfl

theorem Admits.inTime {now : Instant} (h : v.Admits now s companion token old) :
    (v.issuer s).codec.InTime s.refresh now.unix token old := by
  cases s with
  | user => exact Codec.inTime_of_parse h
  | device => exact Codec.inTime_of_checked h.1 h.2.1

/-- A token that was exchanged is reported as used before whenever it is shown again, as long as
its codec accepts it. -/
theorem reuse_of_rotated (hm : h.registry = .memory m) (hskew : m.retention.skew = .ofSeconds skew)
    (hle : skew ≤ 1000000000) (hlt : (v.issuer s).codec.leeway < skew)
    (hbefore : Run v.serve Onward (start h) before t)
    (he : t.Ended i (.rotate s companion token) (.ok r))
    (hafter : Run v.serve Onward t after u) (hnew : t.strands[k]? = none)
    (hk : u.Ended k (.rotate s companion' token) a) {now : Instant}
    (hnow : .moved k (.clock now) ∈ after) (hadmits : v.Admits now s companion' token old)
    (hexp : old.expiresAt ≤ 1000000000000) : a = .error .reuseDetected := by
  have hremembers := Codec.remembers_of_inTime hskew hle hlt hadmits.inTime hexp
  have hread := hadmits.inTime.authentic
  have hknown := knows_of_rotated hm hbefore he hread
  rcases hafter.leads_of_new hnew with ⟨hn, -⟩ | ⟨q', prog, hi, -, hl⟩
  · exact nomatch hn.symm.trans hk
  obtain ⟨rfl, rfl⟩ := Strand.mk.inj (Option.some.inj (hi.symm.trans hk))
  have hasked : ∀ {x : Except RegistryError JtiState},
      .called (.state old.jti) x ∈ dealings (turnsOf k after) → x = .ok .revoked := by
    intro x hx
    have hmoved := mem_turnsOf.mp (mem_of_mem_dealings hx)
    obtain ⟨st, rfl⟩ := not_failed_of_onward hafter hmoved
    rw [state_of_known hafter hknown (fun _ _ _ _ => .inl rfl) hmoved hnow hremembers]
    rfl
  have hdeals := deals hl
  generalize dealings (turnsOf k after) = us at hdeals hasked
  cases hdeals with
  | rotate hd =>
    cases hd with
    | unread _ hunread =>
      exact absurd hadmits (hunread _ _ fun t' ht' =>
        hafter.clock_unique quiet_of_onward (mem_turnsOf.mp ht') hnow)
    | exchanged hold hx =>
      obtain rfl := (Prod.mk.inj (Except.ok.inj (hread.symm.trans hold))).1
      cases hx with
      | refused ha =>
        obtain rfl := hasked (List.mem_singleton_self _)
        obtain rfl : SessionError.reuseDetected = _ := Except.error.inj ha
        rfl
      | unrenewed | lost | won => exact nomatch hasked (List.mem_cons_self ..)

end Rotated

section Issued

variable {set : TokenSet} {e : Entry} {token : String}
  (hm : h.registry = .memory m) (hinj : Function.Injective h.source)
  (hbefore : Run v.serve Onward (start h) before t) (he : t.Ended i q (.ok (.issued set)))
  (hentry : e = set.bearer.entry ∨ e = set.refresh.entry)

include hinj hbefore he hentry in
theorem expiry_of_recorded {f : Instant} {x : Except RegistryError Unit}
    (hx : .moved k (.called (.record e.jti f) x) ∈ before) : f = e.expiresAt := by
  have hdeals := deals (hbefore.yields he).2
  obtain ⟨hdraws, hrecorded⟩ := recorded_of_issued hdeals
  have hdrawn : drawsOf i before = [set.bearer.entry.jti, set.refresh.entry.jti] :=
    draws_dealings.symm.trans hdraws
  have hne : set.bearer.entry.jti ≠ set.refresh.entry.jti := by
    have hnodup := (hbefore.nodup_drawsIn hinj).sublist (drawsOf_sublist i before)
    simpa [hdrawn] using hnodup
  have hmem : .moved i (.drawn e.jti) ∈ before := by
    refine drawn_of_mem_drawsOf ?_
    rw [hdrawn]
    rcases hentry with rfl | rfl <;> simp
  obtain rfl := hbefore.recorder_unique v.orderly hinj hx hmem
  have hpair := hrecorded _ _ _ (called_mem_dealings.mpr (mem_turnsOf.mpr hx))
  rcases hentry with rfl | rfl <;> rcases hpair with hpair | hpair
  · rw [← hpair]
  · exact absurd (congrArg Entry.jti hpair) hne
  · exact absurd (congrArg Entry.jti hpair).symm hne
  · rw [← hpair]

include hm hinj hbefore he hentry in
/-- The registry knows an issued token that nothing has revoked. -/
theorem knows_of_issued (hfresh : ∀ n, h.drawn ≤ n → m.get? (h.source n) = none)
    (hrevoked : ∀ k f o, .moved k (.called (.revoke e.jti f) (.ok o)) ∉ before) :
    t.Holds fun now m' => m'.Knows m.retention e.jti e.expiresAt .active now := by
  obtain ⟨s, subject, -, hreg⟩ := made_of_issued (deals (hbefore.yields he).2)
  have hmoved : ∀ {o : Occurrence}, o ∈ set.registration → .moved i o ∈ before :=
    fun ho => mem_turnsOf.mp (mem_of_mem_dealings (hreg ho))
  have hdrawn : .moved i (.drawn e.jti) ∈ before ∧
      .moved i (.called (.record e.jti e.expiresAt) (.ok ())) ∈ before := by
    rcases hentry with rfl | rfl
    · exact ⟨hmoved (by simp [TokenSet.registration]),
        hmoved (by simp [TokenSet.registration, Entry.recording])⟩
    · exact ⟨hmoved (by simp [TokenSet.registration]),
        hmoved (by simp [TokenSet.registration, Entry.recording])⟩
  obtain ⟨n, hn, hj⟩ := hbefore.source_of_mem (mem_drawsIn.mpr ⟨i, hdrawn.1⟩)
  have hnone : m.get? e.jti = none := hj ▸ hfresh n hn
  obtain ⟨as, bs, rfl⟩ := List.append_of_mem hdrawn.2
  obtain ⟨y, w, m', hy, hm', -, hw, -, hrest⟩ := hbefore.answered ⟨m, hm, trivial⟩
  obtain ⟨m'', hm'', hretention⟩ := retention_of_run hm hy
  obtain rfl := Backend.memory.inj (hm'.symm.trans hm'')
  have hbears : y.Holds fun _ m' => m'.BearsOnly .active e.jti := by
    refine hy.holds ⟨m, hm, fun r hr => absurd (hnone.symm.trans hr) (by simp)⟩
      (fun k c x hx _ m' hm' => hm'.call fun mark hmark => ?_) fun _ _ _ _ hm' => hm'
    cases c with
    | record j f => exact (Prod.mk.inj (Option.some.inj hmark)).2.symm
    | revoke j f =>
      obtain ⟨rfl, -⟩ := Prod.mk.inj (Option.some.inj hmark)
      exact absurd (List.mem_append_left _ hx) (hrevoked k f x)
    | state j | stats => simp [RegistryCall.marking?] at hmark
  obtain ⟨m'', hm'', hbears⟩ := hbears
  obtain rfl := Backend.memory.inj (hm'.symm.trans hm'')
  have hne : m'.state y.host.clock e.jti ≠ .revoked := by
    rcases hbears.state_eq_unknown_or y.host.clock with hs | hs <;> simp [hs]
  have hmarks : m'.Marks y.host.clock e.jti e.expiresAt .active _ := .active hne
  have hknown : w.Holds fun now m' => m'.Knows m.retention e.jti e.expiresAt .active now :=
    ⟨_, hw, hretention ▸ hmarks.knows _⟩
  refine hrest.knows forward_of_onward hknown fun k c x hx => .inr fun hj => ?_
  have hx' : .moved k (.called c (.ok x)) ∈
      as ++ .moved i (.called (.record e.jti e.expiresAt) (.ok ())) :: bs :=
    List.mem_append_right _ (List.mem_cons_of_mem _ hx)
  cases c with
  | record j f =>
    obtain rfl := Option.some.inj hj
    rw [expiry_of_recorded hinj hbefore he hentry hx']
    exact .inl rfl
  | revoke j f =>
    obtain rfl := Option.some.inj hj
    exact absurd hx' (hrevoked k f x)
  | state j =>
    obtain rfl := Option.some.inj hj
    exact .inr rfl
  | stats => simp [RegistryCall.jti?] at hj

include hm hinj hbefore he in
/-- A token that was issued and that nothing else has revoked is refused as revoked only if its user
is gone. -/
theorem userNotFound_of_issued (hskew : m.retention.skew = .ofSeconds skew)
    (hle : skew ≤ 1000000000) (hlt : (v.issuer s).codec.leeway < skew)
    (hfresh : ∀ n, h.drawn ≤ n → m.get? (h.source n) = none)
    (hafter : Run v.serve Onward t after u) (hnew : t.strands[k]? = none)
    (hpresents : Presents s token q') (htoken : token = set.bearer.text ∨ token = set.refresh.text)
    (hexp : ∀ (k : TokenKind) (claims : Claims k),
      (v.issuer s).codec.authentic k token = .ok (claims, false) →
      claims.expiresAt ≤ 1000000000000)
    (hrevoked : ∀ e, e = set.bearer.entry ∨ e = set.refresh.entry → ∀ k' f o,
      .moved k' (.called (.revoke e.jti f) (.ok o)) ∈ before ++ after → k' = k)
    (hk : u.Ended k q' (.error .revokedToken)) :
    ∃ user, .moved k (.roles user (.error .userNotFound)) ∈ after := by
  rcases hafter.leads_of_new hnew with ⟨hn, -⟩ | ⟨q'', prog, hi, -, hl⟩
  · exact nomatch hn.symm.trans hk
  obtain ⟨rfl, rfl⟩ := Strand.mk.inj (Option.some.inj (hi.symm.trans hk))
  have hclock : ∀ t t', .clock t ∈ turnsOf k after → .clock t' ∈ turnsOf k after → t = t' :=
    fun _ _ ht ht' =>
      hafter.clock_unique quiet_of_onward (mem_turnsOf.mp ht) (mem_turnsOf.mp ht')
  rcases foundInactive_of_revokedToken hpresents hclock hl with ⟨user, hgone⟩ | hfound
  · exact ⟨user, mem_turnsOf.mp hgone⟩
  obtain ⟨kind, now, claims, x, hnow, hread, hne, hdealings⟩ := hfound
  have hauthentic := hread.authentic
  obtain ⟨s', subject, hmade, -⟩ := made_of_issued (deals (hbefore.yields he).2)
  have hentry : claims.entry = set.bearer.entry ∨ claims.entry = set.refresh.entry :=
    hmade.entry_stated htoken hauthentic
  have hbefore_revoked : ∀ k' f o,
      .moved k' (.called (.revoke claims.entry.jti f) (.ok o)) ∉ before := by
    intro k' f o ho
    obtain rfl := hrevoked _ hentry k' f o (List.mem_append_left _ ho)
    obtain ⟨_, _, hstrand, -⟩ := hbefore.strand_of_turn ho
    exact nomatch hnew.symm.trans hstrand
  have hknown := knows_of_issued hm hinj hbefore he hentry hfresh hbefore_revoked
  have hremembers := Codec.remembers_of_inTime hskew hle hlt hread (hexp kind claims hauthentic)
  have hasked : .moved k (.called (.state claims.entry.jti) (.ok x)) ∈ after := by
    refine mem_turnsOf.mp (mem_of_mem_dealings ?_)
    rw [hdealings]
    exact List.mem_singleton_self _
  have hactive : x = Mark.active.state := by
    refine state_of_known hafter hknown (fun k' c y hy => .inr fun hj => ?_) hasked
      (mem_turnsOf.mp hnow) hremembers
    cases c with
    | record j f =>
      obtain rfl := Option.some.inj hj
      have hended := (hafter.ended he).1
      rw [expiry_of_recorded hinj (hbefore.trans hafter) hended hentry
        (List.mem_append_right _ hy)]
      exact .inl rfl
    | revoke j f =>
      obtain rfl := Option.some.inj hj
      obtain rfl := hrevoked _ hentry k' f y (List.mem_append_right _ hy)
      have hdealt := called_mem_dealings.mpr (mem_turnsOf.mpr hy)
      simp [hdealings] at hdealt
    | state j =>
      obtain rfl := Option.some.inj hj
      exact .inr rfl
    | stats => exact nomatch hj
  exact absurd hactive hne

end Issued

end Runs

/-- What the services know of their tokens in every run in which no call of the registry fails and
the clock is only set forward, over a registry that keeps its records by `p`. -/
structure Recalls (v : Services) (p : Retention) : Prop where
  issued {h : Host} {m : MemoryRegistry} {before after : List (Happening Request)}
    {t u : System Request (Except SessionError Reply)} {i k : Nat} {q q' : Request}
    {set : TokenSet} {s : Side} {token : String} :
    h.registry = .memory m → m.retention = p → Function.Injective h.source →
    (∀ n, h.drawn ≤ n → m.get? (h.source n) = none) →
    Run v.serve Onward (start h) before t → t.Ended i q (.ok (.issued set)) →
    Run v.serve Onward t after u → t.strands[k]? = none → Presents s token q' →
    (token = set.bearer.text ∨ token = set.refresh.text) →
    (∀ (k : TokenKind) (claims : Claims k),
      (v.issuer s).codec.authentic k token = .ok (claims, false) →
      claims.expiresAt ≤ 1000000000000) →
    (∀ e, e = set.bearer.entry ∨ e = set.refresh.entry → ∀ k' f o,
      .moved k' (.called (.revoke e.jti f) (.ok o)) ∈ before ++ after → k' = k) →
    u.Ended k q' (.error .revokedToken) →
    ∃ user, .moved k (.roles user (.error .userNotFound)) ∈ after
  rotated {h : Host} {m : MemoryRegistry} {before after : List (Happening Request)}
    {t u : System Request (Except SessionError Reply)} {i k : Nat} {s : Side}
    {companion companion' : s.Companion} {token : String} {r : Reply}
    {a : Except SessionError Reply} {old : Claims s.refresh} {now : Instant} :
    h.registry = .memory m → m.retention = p → Run v.serve Onward (start h) before t →
    t.Ended i (.rotate s companion token) (.ok r) → Run v.serve Onward t after u →
    t.strands[k]? = none → u.Ended k (.rotate s companion' token) a →
    .moved k (.clock now) ∈ after → v.Admits now s companion' token old →
    old.expiresAt ≤ 1000000000000 → a = .error .reuseDetected

/-- A registry knows every token that a codec accepts if and only if its skew is longer than the
leeway. Then no token is refused as revoked that was issued and not revoked, and none that was
exchanged is taken for unknown. -/
theorem window_covered_iff (secrets : Secrets) {leeway fallback skew : Nat}
    (hleeway : leeway ≤ 1000000000) (hfallback : fallback ≤ 1000000000)
    (hskew : skew ≤ 1000000000) :
    ((⟨.ofSeconds fallback, .ofSeconds skew⟩ : Retention).Covers ⟨secrets, leeway⟩ ↔
      leeway < skew) ∧
    (leeway < skew → ∀ v : Services, (∀ s, (v.issuer s).codec = ⟨secrets, leeway⟩) →
      v.Recalls ⟨.ofSeconds fallback, .ofSeconds skew⟩) := by
  refine ⟨Retention.covers_iff hfallback hskew hleeway, fun hlt v hv => ?_⟩
  have hshort : ∀ s, (v.issuer s).codec.leeway < skew := fun s => by rw [hv s]; exact hlt
  constructor
  · intro h m _ _ _ _ _ _ _ _ _ s _ hm hp hinj hfresh hbefore he hafter hnew hpresents htoken
      hexp hrevoked hk
    exact userNotFound_of_issued hm hinj hbefore he (by rw [hp]) hskew (hshort s) hfresh hafter
      hnew hpresents htoken hexp hrevoked hk
  · intro h m _ _ _ _ _ _ s _ _ _ _ _ _ _ hm hp hbefore he hafter hnew hk hnow hadmits hexp
    exact reuse_of_rotated hm (by rw [hp]) hskew (hshort s) hbefore he hafter hnew hk hnow hadmits
      hexp

/-- Without a leeway one second is enough, and less is not. -/
theorem window_covered_by_a_second :
    (⟨.ofSeconds 60, .ofSeconds 1⟩ : Retention).Covers sample.users.codec ∧
      ¬ (⟨.ofSeconds 60, .ofSeconds 0⟩ : Retention).Covers sample.users.codec ∧
      sample.Recalls ⟨.ofSeconds 60, .ofSeconds 1⟩ := by
  have hsecond := @window_covered_iff ⟨[1], [2], [3], [4]⟩ 0 60 1 (by decide) (by decide)
    (by decide)
  have hnone := @window_covered_iff ⟨[1], [2], [3], [4]⟩ 0 60 0 (by decide) (by decide)
    (by decide)
  refine ⟨hsecond.1.mpr (by decide), fun h => absurd (hnone.1.mp h) (by decide),
    hsecond.2 (by decide) sample fun s => ?_⟩
  cases s <;> rfl

end Services

end SessionTokens

import SessionTokens.Proofs.Session.Dealings
import SessionTokens.Proofs.Session.Tries

/-! A rotation happens as a whole or not at all. Unless it hands out a new set, the token that was
shown can be shown again: whatever fails before that leaves every identifier as it was. -/

namespace SessionTokens

open Program Operation

section Reuse

variable {os : List Occurrence}

/-- The registry has reported, about an entry, that it was revoked before. -/
def Entry.ReportedUsed (e : Entry) (os : List Occurrence) : Prop :=
  .called (.state e.jti) (.ok .revoked) ∈ os ∨ e.revocation (.ok .alreadyRevoked) ∈ os

theorem Entry.reportedUsed_dealings {e : Entry} :
    e.ReportedUsed (dealings os) ↔ e.ReportedUsed os :=
  or_congr called_mem_dealings called_mem_dealings

theorem SessionError.ofCodec_ne_reuseDetected (e : CodecError) : ofCodec e ≠ .reuseDetected := by
  cases e <;> nofun

theorem SessionError.ofRegistry_ne_reuseDetected (e : RegistryError) :
    ofRegistry e ≠ .reuseDetected := by
  cases e <;> nofun

theorem SessionError.ofRoles_ne_reuseDetected (e : RoleError) : ofRoles e ≠ .reuseDetected := by
  cases e <;> nofun

theorem Issuer.ne_reuseDetected_of_issue {i : Issuer} {bearer refresh : TokenKind}
    {subject : Uuid} {roles : bearer.Roles} {refreshRoles : refresh.Roles}
    {note : TokenSet → Log.Event} {e : SessionError}
    (h : Gives (i.issue bearer refresh subject roles refreshRoles note) os (.error e)) :
    e ≠ .reuseDetected := by
  cases gives_issue h with
  | unminted hm => cases hm <;> nofun
  | bearerUnrecorded e | refreshUnrecorded e => exact SessionError.ofRegistry_ne_reuseDetected e

theorem User.ne_reuseDetected_of_renewal {i : Issuer} {user : Uuid} {e : SessionError}
    (h : Gives (renewal i user) os (.error e)) : e ≠ .reuseDetected := by
  rcases gives_rolesOf_bind.mp h with ⟨e', -, he⟩ | ⟨roles, us, -, hi⟩
  · rw [Except.error.inj he]
    exact SessionError.ofRoles_ne_reuseDetected e'
  · exact Issuer.ne_reuseDetected_of_issue hi

/-- Reuse is reported on the registry's word alone. -/
theorem Issuer.reported_of_exchange {k : TokenKind} {old : Claims k} {token : String}
    {renew : Operation TokenSet} {finish : TokenSet → Operation Unit}
    (hrenew : ∀ us e, Gives renew us (.error e) → e ≠ .reuseDetected)
    (hfinish : ∀ set us x, Gives (finish set) us x → x = .ok ())
    (h : Gives (exchange old token renew finish) os (.error .reuseDetected)) :
    old.entry.ReportedUsed os := by
  generalize hr : (Except.error .reuseDetected : Except SessionError TokenSet) = r at h
  cases gives_exchange h with
  | @refused a e ha =>
    obtain rfl := Except.error.inj hr
    match a with
    | .ok .revoked => exact .inl List.mem_cons_self
    | .ok .active | .ok .unknown => exact nomatch ha
    | .error f => exact absurd (Except.error.inj ha) (SessionError.ofRegistry_ne_reuseDetected f)
  | unrenewed hn => exact absurd (Except.error.inj hr).symm (hrenew _ _ hn)
  | lost x y hn => exact .inr (by simp)
  | unfinished x _ _ hf => exact nomatch hfinish _ _ _ hf
  | won => exact nomatch hr

end Reuse

theorem Device.revoked_of_rotationEnd {c : ConnectionClaims} {old : DeviceRefreshClaims}
    {set : TokenSet} {os : List Occurrence} {x : Except SessionError Unit}
    (h : Gives (Device.rotationEnd c old set) os x) : ∃ y, c.entry.revocation y ∈ os := by
  rcases gives_bind.mp h with ⟨e, hq, -⟩ | ⟨us, vs, _, rfl, hq, -⟩
  · obtain ⟨y, rfl, -⟩ := Ledger.gives_revokeQuietly hq
    exact ⟨y, List.mem_cons_self⟩
  · obtain ⟨y, rfl, -⟩ := Ledger.gives_revokeQuietly hq
    exact ⟨y, List.mem_append_left _ List.mem_cons_self⟩

/-- What a host draws from now on is new: no two draws are the same, the registry has no record of
them, and no entry of the list bears them. -/
structure Host.DrawsAnew (h : Host) (m : MemoryRegistry) (es : List Entry) : Prop where
  distinct : Function.Injective h.source
  unknown : ∀ n, h.drawn ≤ n → m.get? (h.source n) = none
  unborne : ∀ n, h.drawn ≤ n → ∀ e ∈ es, e.jti ≠ h.source n

theorem Host.DrawsAnew.source_ne {h : Host} {m : MemoryRegistry} {es : List Entry} {j : Jti}
    (hnew : h.DrawsAnew m es) (hj : m.get? j ≠ none) {n : Nat} (hn : h.drawn ≤ n) :
    h.source n ≠ j := fun he => hj (he ▸ hnew.unknown n hn)

/-- Tokens that are made at `now` expire before the end of the calendar. -/
def Issuer.Fits (i : Issuer) (now : Instant) : Prop :=
  (now.plus? i.bearerTtl).isSome ∧ (now.plus? i.refreshTtl).isSome

namespace Services

variable {v : Services} {s : Side} {companion : s.Companion} {token : String} {now : Instant}
  {os : List Occurrence} {old : Claims s.refresh} {r : Except SessionError TokenSet}

/-- What a rotation meets with whose tokens are admitted at `now`. -/
structure Rotates (v : Services) (s : Side) (companion : s.Companion) (token : String)
    (now : Instant) (old : Claims s.refresh) (os : List Occurrence)
    (r : Except SessionError TokenSet) : Prop where
  admitted : v.Admits now s companion token old
  exchanged : ExchangeDeals (v.issuer s) s old (v.extras s companion) os (dealings os) r
  reported : r = .error .reuseDetected → old.entry.ReportedUsed os
  closed {set : TokenSet} : r = .ok set → ∀ e ∈ v.extras s companion, ∃ y, e.revocation y ∈ os

theorem Admits.unique {c : Claims s.refresh} (h : v.Admits now s companion token old)
    (hc : v.Admits now s companion token c) : c = old := by
  cases s with
  | user => exact Except.ok.inj (hc.symm.trans h)
  | device => exact Except.ok.inj (hc.1.symm.trans h.1)

theorem Admits.authentic (h : v.Admits now s companion token old) :
    (v.issuer s).codec.authentic s.refresh token = .ok (old, false) := by
  cases s with
  | user => exact Codec.authentic_of_parse h
  | device => exact Codec.authentic_of_parseAllowExpired h.1

theorem exchangeDeals_of_admits {us : List Occurrence}
    (h : RotateDeals v s companion token os us r)
    (hadmits : v.Admits now s companion token old) (hclock : ∀ t, .clock t ∈ os → t = now) :
    ExchangeDeals (v.issuer s) s old (v.extras s companion) os us r := by
  cases h with
  | unread e hno => exact absurd hadmits (hno now old hclock)
  | @exchanged c _ _ hc hx =>
    obtain ⟨rfl, -⟩ := Prod.mk.inj (Except.ok.inj (hc.symm.trans hadmits.authentic))
    exact hx

/-- A rotation that goes no further than its tokens. -/
structure Unread (v : Services) (s : Side) (companion : s.Companion) (token : String)
    (now : Instant) (os : List Occurrence) (r : Except SessionError TokenSet) : Prop where
  unread (old : Claims s.refresh) : ¬ v.Admits now s companion token old
  nothing : dealings os = []
  error : ∃ e, r = .error e ∧ e ≠ .reuseDetected

theorem unread_or_rotates_user (h : Gives (User.rotate v.users token) os r)
    (hclock : ∀ t, .clock t ∈ os → t = now) :
    v.Unread .user () token now os r ∨ ∃ old, v.Rotates .user () token now old os r := by
  have hdeals := User.dealings_rotate h
  obtain ⟨t, us, rfl, ⟨e, he, rfl, rfl⟩ | ⟨old, ho, hx⟩⟩ := User.gives_rotate.mp h
  · obtain rfl := hclock t List.mem_cons_self
    refine .inl ⟨fun old hold => (nomatch he.symm.trans hold), rfl, _, rfl, ?_⟩
    exact SessionError.ofCodec_ne_reuseDetected e
  · obtain rfl := hclock t List.mem_cons_self
    refine .inr ⟨old, ho, exchangeDeals_of_admits hdeals ho hclock, fun hr => ?_, nofun⟩
    subst hr
    refine (Issuer.reported_of_exchange ?_ ?_ hx).imp (List.mem_cons_of_mem _)
      (List.mem_cons_of_mem _)
    · exact fun us e => User.ne_reuseDetected_of_renewal
    · exact fun set us x hf => (gives_emit.mp hf).2

theorem unread_or_rotates_device {connection : String}
    (h : Gives (Device.rotate v.devices connection token) os r)
    (hclock : ∀ t, .clock t ∈ os → t = now) :
    v.Unread .device connection token now os r ∨
      ∃ old, v.Rotates .device connection token now old os r := by
  have hdeals := Device.dealings_rotate h
  rcases Device.gives_rotate h with ⟨e, hp, rfl⟩ | ⟨us, ws, c, old, rfl, hp, hx⟩
  · refine .inl ⟨fun old => Device.not_admits_of_unread hp hclock, ?_, e, rfl, ?_⟩
    · cases hp <;> rfl
    · cases hp with
      | mismatch => nofun
      | refreshUnread | connectionUnread | expired => exact SessionError.ofCodec_ne_reuseDetected _
  · cases hp with
    | @read t u w _ _ hr hc hm hv =>
      obtain rfl := hclock t (by simp)
      obtain rfl := hclock u (by simp)
      obtain rfl := hclock w (by simp)
      have hadmits : v.Admits w .device connection token old := ⟨hr, hv, c, hc, hm⟩
      refine .inr ⟨old, hadmits, exchangeDeals_of_admits hdeals hadmits hclock, fun hr => ?_, ?_⟩
      · subst hr
        refine (Issuer.reported_of_exchange ?_ ?_ hx).imp (List.mem_append_right _)
          (List.mem_append_right _)
        · exact fun us e => Issuer.ne_reuseDetected_of_issue
        · exact fun set us x hf => (Device.dealings_rotationEnd hf).1
      · rintro set rfl e he
        obtain rfl : e = c.entry := by
          simpa [extras, Codec.authentic_of_parseAllowExpired hc] using he
        cases Issuer.gives_exchange hx with
        | won x _ _ hf =>
          obtain ⟨y, hy⟩ := Device.revoked_of_rotationEnd hf
          exact ⟨y, by simp [hy]⟩

theorem unread_or_rotates {a : Except SessionError Reply}
    (h : (v.serve (.rotate s companion token)).Yields os a)
    (hclock : ∀ t, .clock t ∈ os → t = now) :
    ∃ r : Except SessionError TokenSet, a = r.map .issued ∧
      (v.Unread s companion token now os r ∨ ∃ old, v.Rotates s companion token now old os r) := by
  have hg : Gives (v.operation (.rotate s companion token)) os a := h
  cases s <;> obtain ⟨r, hr, rfl⟩ := gives_map.mp hg
  · exact ⟨r, rfl, unread_or_rotates_user hr hclock⟩
  · exact ⟨r, rfl, unread_or_rotates_device hr hclock⟩

end Services

section Effects

variable {i : Issuer} {s : Side} {m m' : MemoryRegistry} {now : Instant} {os us : List Occurrence}
  {j : Jti}

theorem recorded_of_called_issue {subject : Uuid} {r : Except SessionError TokenSet}
    {c : RegistryCall} {x : Except RegistryError c.Answer}
    (h : IssueDeals i s subject os us r) (hc : .called c x ∈ us) :
    ∃ k e, c = .record k e ∧ .drawn k ∈ us := by
  have hrecord {e : Entry} {y : Except RegistryError Unit} (hc : .called c x = e.recording y) :
      c = .record e.jti e.expiresAt := (Occurrence.called.inj hc).1
  cases h with
  | unminted js e => simp at hc
  | bearerUnrecorded e =>
    simp only [List.mem_cons, reduceCtorEq, List.not_mem_nil, or_false, false_or] at hc
    exact ⟨_, _, hrecord hc, by simp⟩
  | refreshUnrecorded e =>
    simp only [List.mem_cons, reduceCtorEq, List.not_mem_nil, or_false, false_or] at hc
    rcases hc with hc | hc <;> exact ⟨_, _, hrecord hc, by simp⟩
  | issued =>
    simp only [TokenSet.registration, List.mem_cons, reduceCtorEq, List.not_mem_nil, or_false,
      false_or] at hc
    rcases hc with hc | hc <;> exact ⟨_, _, hrecord hc, by simp [TokenSet.registration]⟩

theorem get?_of_issue {subject : Uuid} {r : Except SessionError TokenSet}
    (h : IssueDeals i s subject os us r) (hserves : m.Serves now us m') (hj : .drawn j ∉ us) :
    m'.get? j = m.get? j := by
  refine hserves.get?_eq fun c x hc => ?_
  obtain ⟨k, e, rfl, hk⟩ := recorded_of_called_issue h hc
  refine ⟨nofun, fun mark hmark => hj ?_⟩
  exact (Prod.mk.inj (Option.some.inj hmark)).1 ▸ hk

theorem get?_of_registration {set : TokenSet} (hserves : m.Serves now set.registration m')
    (hne : set.bearer.entry.jti ≠ set.refresh.entry.jti)
    (hrevoked : ∀ e ∈ [set.bearer.entry, set.refresh.entry], m.state now e.jti ≠ .revoked) :
    ∀ e ∈ [set.bearer.entry, set.refresh.entry],
      m'.get? e.jti = some (m.retention.record .active e.expiresAt now) := by
  let n : MemoryRegistry := (m.call now (.record set.bearer.entry.jti set.bearer.entry.expiresAt)).2
  have hm' : m' = (n.call now (.record set.refresh.entry.jti set.refresh.entry.expiresAt)).2 :=
    hserves.2.2
  have hrefresh : n.get? set.refresh.entry.jti = m.get? set.refresh.entry.jti := by
    rw [MemoryRegistry.get?_call_record, if_neg fun h => hne h.1]
  have hstate : n.state now set.refresh.entry.jti = m.state now set.refresh.entry.jti :=
    MemoryRegistry.state_eq_of_get? hrefresh
  -- neither recording touches the identifier of the other
  intro e he
  rw [hm', MemoryRegistry.get?_call_record]
  simp only [List.mem_cons, List.not_mem_nil, or_false] at he
  rcases he with rfl | rfl
  · rw [if_neg fun h => hne h.1.symm, MemoryRegistry.get?_call_record,
      if_pos ⟨rfl, hrevoked _ (by simp)⟩]
  · rw [if_pos ⟨rfl, by rw [hstate]; exact hrevoked _ (by simp)⟩, MemoryRegistry.retention_call]

/-- Whoever has found the old token active and sees nothing else of it does not lose. -/
theorem not_lost {subject : Uuid} {old : Entry} {set : TokenSet} (hmade : i.Made s subject set)
    (hactive : m.state now old.jti = .active) (hj : .drawn old.jti ∉ set.registration)
    (hserves : m.Serves now (set.registration ++ old.revocation (.ok .alreadyRevoked) :: us) m') :
    False := by
  obtain ⟨n, hn, hrest⟩ := MemoryRegistry.serves_append.mp hserves
  have hissue : IssueDeals i s subject [] set.registration (.ok set) := .issued hmade
  have hstate : n.state now old.jti = .active :=
    (MemoryRegistry.state_eq_of_get? (get?_of_issue hissue hn hj)).trans hactive
  -- so the first to revoke it is told that it was active
  have hanswer := (MemoryRegistry.serves_answered.mp hrest).1
  simp only [MemoryRegistry.call, MemoryRegistry.outcome_revoke, hstate] at hanswer
  cases hanswer

end Effects

namespace Services

variable {v : Services} {s : Side} {companion : s.Companion} {token : String} {now : Instant}
  {os : List Occurrence} {old : Claims s.refresh} {r : Except SessionError TokenSet}
  {m m' : MemoryRegistry}

section Failed

variable (h : v.Rotates s companion token now old os r) (hserves : m.Serves now os m')
include h hserves

theorem Rotates.get?_of_error {e : SessionError} (hr : r = .error e) (he : e ≠ .reuseDetected)
    {j : Jti} (hj : .drawn j ∉ os) : m'.get? j = m.get? j := by
  rw [← drawn_mem_dealings] at hj
  rw [← MemoryRegistry.serves_dealings] at hserves
  obtain ⟨-, hx, -, -⟩ := h
  generalize dealings os = ds at hx hserves hj
  cases hx with
  | @refused a _ _ =>
    cases a with
    | ok x => rw [(MemoryRegistry.serves_state.mp hserves).2]
    | error f => rw [MemoryRegistry.serves_nil.mp (MemoryRegistry.serves_failed.mp hserves)]
  | unrenewed hi =>
    exact get?_of_issue hi (MemoryRegistry.serves_state.mp hserves).2 (by simpa using hj)
  | lost => exact absurd (Except.error.inj hr).symm he
  | won => exact nomatch hr

theorem Rotates.revoked_of_reuse (hnew : ∀ j, .drawn j ∈ os → m.get? j = none)
    (hr : r = .error .reuseDetected) :
    m.state now old.jti = .revoked ∧ m' = m ∧ ∀ j, .drawn j ∉ os := by
  have hreported := Entry.reportedUsed_dealings.mpr (h.reported hr)
  -- all of this depends on the dealings alone
  simp only [← @drawn_mem_dealings os] at hnew ⊢
  rw [← MemoryRegistry.serves_dealings] at hserves
  obtain ⟨-, hx, -, -⟩ := h
  generalize dealings os = ds at hx hserves hnew hreported ⊢
  cases hx with
  | @refused a e ha =>
    obtain rfl := Except.error.inj hr
    match a with
    | .ok .revoked =>
      obtain ⟨hstate, hm⟩ := MemoryRegistry.serves_state.mp hserves
      exact ⟨hstate.symm, hm, by simp⟩
    | .ok .active | .ok .unknown => exact nomatch ha
    | .error f => exact absurd (Except.error.inj ha) (SessionError.ofRegistry_ne_reuseDetected f)
  | @unrenewed us e hi =>
    -- an issue asks about nothing and revokes nothing
    have hissue {c : RegistryCall} {x : Except RegistryError c.Answer} (hc : .called c x ∈ us) :
        ∃ k e, c = .record k e :=
      (recorded_of_called_issue hi hc).imp fun _ h => h.imp fun _ h => h.1
    rcases hreported with hc | hc <;> rcases List.mem_cons.mp hc with hc | hc
    case inl.inl | inr.inl => exact nomatch hc
    case inl.inr | inr.inr =>
      obtain ⟨_, _, hc⟩ := hissue hc
      exact nomatch hc
  | @lost set x y hmade =>
    -- what is active is on record already, and what is drawn is not
    obtain ⟨hactive, hserves⟩ := MemoryRegistry.serves_state.mp hserves
    refine (not_lost hmade hactive.symm (fun hj => ?_) hserves).elim
    have hnone := hnew _ (List.mem_cons_of_mem _ (List.mem_append_left _ hj))
    exact nomatch hactive.trans (MemoryRegistry.state_eq_unknown_of_get? hnone)
  | won => exact nomatch hr

end Failed

/-- How a rotation hands out a set: once it is on record, the old token is to be revoked, and then
the tokens besides it. -/
structure HandsOut (v : Services) (s : Side) (companion : s.Companion) (now : Instant)
    (old : Claims s.refresh) (set : TokenSet) (m n m' : MemoryRegistry) (os : List Occurrence)
    (x : Except RegistryError RevokeOutcome) (ts : List Try) : Prop where
  active : m.state now old.jti = .active
  registers : m.Serves now set.registration n
  revokes : n.Serves now ((⟨old.entry, x⟩ :: ts : List Try).map (·.occurrence)) m'
  kept {j : Jti} : .drawn j ∉ set.registration → n.get? j = m.get? j
  draws : [set.bearer.entry.jti, set.refresh.entry.jti].Sublist (os.filterMap (·.draw?))
  tried {e : Entry} {y : Except RegistryError RevokeOutcome} :
    e.revocation y ∈ os ↔ e.revocation y ∈ (⟨old.entry, x⟩ :: ts : List Try).map (·.occurrence)
  besides : ∀ t ∈ ts, t.entry ∈ v.extras s companion

theorem Rotates.handsOut {set : TokenSet} (h : v.Rotates s companion token now old os (.ok set))
    (hserves : m.Serves now os m') :
    ∃ n x ts, v.HandsOut s companion now old set m n m' os x ts := by
  obtain ⟨-, hx, -, -⟩ := h
  rw [← MemoryRegistry.serves_dealings] at hserves
  have hdraws : (dealings os).filterMap (·.draw?) = os.filterMap (·.draw?) := draws_dealings
  have htried {e : Entry} {y : Except RegistryError RevokeOutcome} :
      e.revocation y ∈ dealings os ↔ e.revocation y ∈ os := called_mem_dealings
  generalize dealings os = ds at hx hserves hdraws htried
  cases hx with
  | @won _ x closing hmade _ hclosing =>
    obtain ⟨ts, rfl, hts⟩ := exists_tries hclosing
    obtain ⟨hactive, hserves⟩ := MemoryRegistry.serves_state.mp hserves
    obtain ⟨n, hissue, hrevokes⟩ := MemoryRegistry.serves_append.mp hserves
    have hdeals : IssueDeals (v.issuer s) s old.subject [] set.registration (.ok set) :=
      .issued hmade
    refine ⟨n, x, ts, hactive.symm, hissue, hrevokes, get?_of_issue hdeals hissue, ?_, ?_, hts⟩
    · rw [← hdraws]
      simp [TokenSet.registration, Entry.recording, Occurrence.draw?]
    · intro e y
      rw [← htried]
      simp [TokenSet.registration, Entry.revocation, Entry.recording, Try.occurrence]

/-- What a rotation leaves behind that hands out a set. -/
structure Succession (v : Services) (s : Side) (companion : s.Companion) (now : Instant)
    (old : Claims s.refresh) (set : TokenSet) (m m' : MemoryRegistry) (os : List Occurrence) :
    Prop where
  active : m.state now old.jti = .active
  stored : ∀ e ∈ [set.bearer.entry, set.refresh.entry],
    m'.get? e.jti = some (m.retention.record .active e.expiresAt now)
  /-- The old token is revoked until the end of its mark, unless the call that does so fails. -/
  retired : ∃ x, old.entry.revocation x ∈ os ∧
    (∀ o, x = .ok o → m'.Withdrawn old.jti ∧
      (now.nanos < (m.retention.deadline old.expiry now).nanos →
        m'.state now old.jti = .revoked)) ∧
    ∀ f, x = .error f → (∀ e ∈ v.extras s companion, e.jti ≠ old.jti) →
      m'.get? old.jti = m.get? old.jti
  extras : ∀ e ∈ v.extras s companion, ∃ y, e.revocation y ∈ os ∧
    ∀ o, y = .ok o → m'.Withdrawn e.jti
  others : ∀ j, j ≠ old.jti → (∀ e ∈ v.extras s companion, e.jti ≠ j) →
    (∀ e ∈ [set.bearer.entry, set.refresh.entry], e.jti ≠ j) → m'.get? j = m.get? j

section HandsOut

variable {set : TokenSet} {n : MemoryRegistry} {x : Except RegistryError RevokeOutcome}
  {ts : List Try} (h : v.HandsOut s companion now old set m n m' os x ts)

theorem drawn_mem_registration {j : Jti} : .drawn j ∈ set.registration ↔
    ∃ e ∈ [set.bearer.entry, set.refresh.entry], e.jti = j := by
  simp [TokenSet.registration, Entry.recording, eq_comm]

include h

theorem HandsOut.get?_eq {j : Jti} (hold : (∃ o, x = .ok o) → old.jti ≠ j)
    (hextras : ∀ e ∈ v.extras s companion, e.jti ≠ j) : m'.get? j = n.get? j :=
  get?_of_tries h.revokes
    (List.forall_mem_cons.mpr ⟨hold, fun t ht _ => hextras _ (h.besides t ht)⟩)

theorem HandsOut.withdrawn {e : Entry} {o : RevokeOutcome} (he : e.revocation (.ok o) ∈ os) :
    m'.Withdrawn e.jti := by
  obtain ⟨t, ht, hc, hsucceeds⟩ := answered_of_tries (h.tried.mp he)
  rw [(RegistryCall.revoke.inj hc).1]
  exact withdrawn_of_tries h.revokes ht hsucceeds

theorem HandsOut.retired : old.entry.revocation x ∈ os := h.tried.mpr List.mem_cons_self

theorem HandsOut.drawn_mem {j : Jti} (hj : .drawn j ∈ set.registration) : .drawn j ∈ os := by
  have hmem : j ∈ os.filterMap (·.draw?) := by
    refine h.draws.subset ?_
    obtain ⟨e, he, rfl⟩ := drawn_mem_registration.mp hj
    exact List.mem_map_of_mem (f := (·.jti)) he
  obtain ⟨o, ho, hd⟩ := List.mem_filterMap.mp hmem
  exact Occurrence.draw?_eq_some.mp hd ▸ ho

theorem HandsOut.old_ne_of_drawn {j : Jti} (hnew : m.get? j = none) : old.jti ≠ j := by
  rintro rfl
  exact nomatch h.active.symm.trans (MemoryRegistry.state_eq_unknown_of_get? hnew)

theorem HandsOut.unknown_of_lapsed {o : RevokeOutcome} (ho : x = .ok o)
    (hold : .drawn old.jti ∉ set.registration)
    (hextras : ∀ e ∈ v.extras s companion, e.jti ≠ old.jti)
    (hlapsed : (m.retention.deadline old.expiry now).nanos ≤ now.nanos) :
    m'.state now old.jti = .unknown := by
  subst x
  let retired : MemoryRegistry := (n.call now (.revoke old.jti old.expiry)).2
  have hrest : retired.Serves now (ts.map (·.occurrence)) m' :=
    (MemoryRegistry.serves_answered.mp h.revokes).2
  have hstate : n.state now old.jti ≠ .revoked := by
    rw [MemoryRegistry.state_eq_of_get? (h.kept hold), h.active]
    nofun
  have hget : m'.get? old.jti = some (m.retention.record .revoked old.expiry now) := by
    rw [get?_of_tries hrest fun t ht _ => hextras _ (h.besides t ht),
      MemoryRegistry.get?_call_revoke, if_pos ⟨rfl, hstate⟩, h.registers.retention_eq]
  rw [MemoryRegistry.state_eq_unknown, MemoryRegistry.live?, hget]
  exact Option.filter_eq_none_iff.mpr (by simpa [Record.live, Retention.record] using hlapsed)

end HandsOut

theorem Rotates.succeeds {set : TokenSet} (h : v.Rotates s companion token now old os (.ok set))
    (hserves : m.Serves now os m') (hdistinct : (os.filterMap (·.draw?)).Nodup)
    (hnew : ∀ j, .drawn j ∈ os → m.get? j = none ∧ ∀ e ∈ v.extras s companion, e.jti ≠ j) :
    v.Succession s companion now old set m m' os := by
  obtain ⟨n, x, ts, hout⟩ := h.handsOut hserves
  have hset : ∀ e ∈ [set.bearer.entry, set.refresh.entry],
      m.get? e.jti = none ∧ ∀ f ∈ v.extras s companion, f.jti ≠ e.jti :=
    fun e he => hnew _ (hout.drawn_mem (drawn_mem_registration.mpr ⟨e, he, rfl⟩))
  refine ⟨hout.active, ?stored, ?retired, ?extras, ?others⟩
  case stored =>
    have hne : set.bearer.entry.jti ≠ set.refresh.entry.jti := by
      simpa using hdistinct.sublist hout.draws
    intro e he
    obtain ⟨hnone, hextras⟩ := hset e he
    rw [hout.get?_eq (fun _ => hout.old_ne_of_drawn hnone) hextras]
    refine get?_of_registration hout.registers hne (fun e he => ?_) e he
    rw [MemoryRegistry.state_eq_unknown_of_get? (hset e he).1]
    nofun
  case retired =>
    refine ⟨x, hout.retired, ?_, ?_⟩
    · rintro o rfl
      refine ⟨hout.withdrawn hout.retired, fun hlater => ?_⟩
      exact revoked_of_tries hout.revokes (hout.registers.retention_eq ▸ hlater)
    · rintro f rfl hother
      rw [hout.get?_eq (fun ⟨_, hok⟩ => nomatch hok) hother, hout.kept]
      intro hj
      exact hout.old_ne_of_drawn (hnew _ (hout.drawn_mem hj)).1 rfl
  case extras =>
    intro e he
    obtain ⟨y, hy⟩ := h.closed rfl e he
    refine ⟨y, hy, ?_⟩
    rintro o rfl
    exact hout.withdrawn hy
  case others =>
    intro j hj hextras hne
    rw [hout.get?_eq (fun _ => hj.symm) hextras, hout.kept]
    intro hdrawn
    obtain ⟨e, he, hej⟩ := drawn_mem_registration.mp hdrawn
    exact hne e he hej

theorem Rotates.ok_of_active (h : v.Rotates s companion token now old os r)
    (hserves : m.Serves now os m') (hclock : ∀ t, .clock t ∈ os → t = now)
    (hcalm : ∀ o ∈ os, o.isFailure = false) (hactive : m.state now old.jti = .active)
    (hold : .drawn old.jti ∉ os) (hfits : (v.issuer s).Fits now) : ∃ set, r = .ok set := by
  have hhindered : ¬ (v.issuer s).Hindered os := by
    rintro (⟨t, ht, hn | hn⟩ | ⟨user, e, he⟩)
    · obtain rfl := hclock t ht
      simpa [hn] using hfits.1
    · obtain rfl := hclock t ht
      simpa [hn] using hfits.2
    · exact nomatch hcalm _ he
  have hanswered {c : RegistryCall} {e : RegistryError} (hc : .called c (.error e) ∈ dealings os) :
      False := nomatch hcalm _ (mem_of_mem_dealings hc)
  rw [← drawn_mem_dealings] at hold
  rw [← MemoryRegistry.serves_dealings] at hserves
  obtain ⟨-, hx, -, -⟩ := h
  generalize dealings os = ds at hx hserves hold hanswered
  cases hx with
  | @refused a e ha =>
    cases a with
    | error f => exact (hanswered List.mem_cons_self).elim
    | ok x =>
      obtain rfl := (MemoryRegistry.serves_state.mp hserves).1.trans hactive
      exact nomatch ha
  | unrenewed hi =>
    rcases hindered_of_unissued hi with ⟨hh, -⟩ | ⟨c, x, hc⟩
    · exact absurd hh hhindered
    · exact (hanswered (List.mem_cons_of_mem _ hc)).elim
  | lost x y hmade =>
    have hrest := (MemoryRegistry.serves_state.mp hserves).2
    refine (not_lost hmade hactive (fun hj => hold ?_) hrest).elim
    exact List.mem_cons_of_mem _ (List.mem_append_left _ hj)
  | won => exact ⟨_, rfl⟩

abbrev rotation (v : Services) (s : Side) (companion : s.Companion) (token : String) :
    Program (Except SessionError Reply) := v.serve (.rotate s companion token)

theorem exists_rotation (v : Services) (s : Side) (companion : s.Companion) (token : String)
    (sc : Scope) {P : Occurrence → Prop} {K : Scope → Host → Prop} (hK : Steady P K) {h : Host}
    (hk : K sc h) (hm : h.registry = .memory m) :
    ∃ m' r, ((v.rotation s companion token).run sc h).2.2.registry = .memory m' ∧
      m.Serves h.clock ((v.rotation s companion token).course sc h) m' ∧
      ((v.rotation s companion token).run sc h).1 = r.map .issued ∧
      (v.Unread s companion token h.clock ((v.rotation s companion token).course sc h) r ∨
        ∃ old, v.Rotates s companion token h.clock old
          ((v.rotation s companion token).course sc h) r) := by
  let p := v.rotation s companion token
  obtain ⟨m', hm', hserves⟩ := (p.follows_course hK hk).1.serves (m := m) hm
  obtain ⟨r, hr, hcase⟩ :=
    unread_or_rotates (p.yields_course sc h) fun t => clock_of_course (h := h)
  exact ⟨m', r, hm', hserves, hr, hcase⟩

section Smooth

variable {sc : Scope} {h : Host} (hs : Smooth sc h) (hm : h.registry = .memory m)
  (hadmits : v.Admits h.clock s companion token old)
  (hactive : m.state h.clock old.jti = .active) (hfits : (v.issuer s).Fits h.clock)
  (hold : ∀ n, h.drawn ≤ n → h.source n ≠ old.jti)
include hs hm hadmits hactive hfits hold

/-- A token that is active is exchanged on a host on which nothing fails. -/
theorem issued_of_active :
    ∃ set m', ((v.rotation s companion token).run sc h).1 = .ok (.issued set) ∧
      ((v.rotation s companion token).run sc h).2.2.registry = .memory m' ∧
      m.Serves h.clock ((v.rotation s companion token).course sc h) m' ∧
      v.Rotates s companion token h.clock old ((v.rotation s companion token).course sc h)
        (.ok set) ∧ .drawn old.jti ∉ (v.rotation s companion token).course sc h := by
  obtain ⟨m', r, hm', hserves, hr, hunread | ⟨old', hrotates⟩⟩ :=
    v.exists_rotation s companion token sc steady_smooth hs hm
  · exact absurd hadmits (hunread.unread old)
  · obtain rfl := hrotates.admitted.unique hadmits
    obtain ⟨hfollows, hcalm, -⟩ := (v.rotation s companion token).follows_course steady_smooth hs
    have hundrawn : .drawn old.jti ∉ (v.rotation s companion token).course sc h := by
      intro hj
      obtain ⟨n, hn, -, hn'⟩ := hfollows.drawn_of_mem hj
      exact hold n hn hn'
    obtain ⟨set, rfl⟩ := hrotates.ok_of_active hserves (fun t => clock_of_course) hcalm hactive
      hundrawn hfits
    exact ⟨set, m', hr, hm', hserves, hrotates, hundrawn⟩

/-- Where marks are not kept beyond the time of their tokens, that of a token which is shown in its
last moment ends as soon as it is made. -/
theorem unknown_of_lapsed (hextras : ∀ e ∈ v.extras s companion, e.jti ≠ old.jti)
    (hlapsed : (m.retention.deadline old.expiry h.clock).nanos ≤ h.clock.nanos) :
    ∃ set m', ((v.rotation s companion token).run sc h).1 = .ok (.issued set) ∧
      ((v.rotation s companion token).run sc h).2.2.registry = .memory m' ∧
      m'.state h.clock old.jti = .unknown := by
  obtain ⟨set, m', hset, hm', hserves, hrotates, hundrawn⟩ :=
    issued_of_active hs hm hadmits hactive hfits hold
  obtain ⟨-, hcalm, -⟩ := (v.rotation s companion token).follows_course steady_smooth hs
  obtain ⟨n, x, ts, hout⟩ := hrotates.handsOut hserves
  refine ⟨set, m', hset, hm', ?_⟩
  cases x with
  | error f => exact nomatch hcalm _ hout.retired
  | ok o =>
    have hold : .drawn old.jti ∉ set.registration := fun hj => hundrawn (hout.drawn_mem hj)
    exact hout.unknown_of_lapsed rfl hold hextras hlapsed

end Smooth

/-- Then nothing has failed, and yet the token is not reported as revoked. -/
theorem rotated_unknown_at_expiry :
    let token := sample.users.codec.sign sampleRefresh
    let now : Instant := .ofUnix 86400 0
    let h : Host := .recording now ⟨.zero, .zero⟩ (.ofUnix 90000 0)
    (∀ o ∈ (sample.rotation .user () token).course .patient h, o.isFailure = false) ∧
      ∃ set m', ((sample.rotation .user () token).run .patient h).1 = .ok (.issued set) ∧
        ((sample.rotation .user () token).run .patient h).2.2.registry = .memory m' ∧
        m'.state now sampleRefresh.jti = .unknown := by
  intro token now h
  have hs : Smooth .patient h := smooth_recording now ⟨.zero, .zero⟩ (.ofUnix 90000 0)
  have hadmits : sample.Admits now .user () token sampleRefresh :=
    Codec.read_eq_ok.mpr ⟨Codec.authentic_sign _ _ rfl rfl, by decide, by decide, by decide⟩
  refine ⟨((sample.rotation .user () token).follows_course steady_smooth hs).2.1, ?_⟩
  refine unknown_of_lapsed hs (Host.registry_recording ..) hadmits (by decide)
    ⟨by decide, by decide⟩ (fun n hn hold => ?_) nofun (by decide)
  have hzero : n = 0 := Host.injective_source_fresh now ⟨.zero, .zero⟩ hold
  have hone : 1 ≤ n := hn
  omega

/-- What becomes of a rotation. -/
structure AllOrNothing (v : Services) (s : Side) (companion : s.Companion) (token : String)
    (sc : Scope) (h : Host) (m m' : MemoryRegistry) : Prop where
  registry : ((v.rotation s companion token).run sc h).2.2.registry = .memory m'
  /-- A failure leaves behind at most new identifiers. -/
  failed {e : SessionError} : ((v.rotation s companion token).run sc h).1 = .error e →
    e ≠ .reuseDetected → ∀ j, m'.get? j = m.get? j ∨
      m.get? j = none ∧ .drawn j ∈ (v.rotation s companion token).course sc h
  /-- Whoever shows the same tokens again has a set, if nothing fails any more. -/
  again {e : SessionError} {old : Claims s.refresh} {sc' : Scope} {h' : Host} :
    ((v.rotation s companion token).run sc h).1 = .error e → e ≠ .reuseDetected →
    v.Admits h.clock s companion token old → m.state h.clock old.jti = .active →
    (v.issuer s).Fits h.clock → Smooth sc' h' → h'.registry = .memory m' → h'.clock = h.clock →
    h'.source = h.source → h.drawn ≤ h'.drawn →
    ∃ set, ((v.rotation s companion token).run sc' h').1 = .ok (.issued set)
  reused : ((v.rotation s companion token).run sc h).1 = .error .reuseDetected →
    (∃ old, v.Admits h.clock s companion token old ∧ m.state h.clock old.jti = .revoked) ∧
      m' = m ∧ ((v.rotation s companion token).run sc h).2.2.drawn = h.drawn
  succeeded {a : Reply} : ((v.rotation s companion token).run sc h).1 = .ok a →
    ∃ old set, a = .issued set ∧ v.Admits h.clock s companion token old ∧
      v.Succession s companion h.clock old set m m' ((v.rotation s companion token).course sc h)

theorem get?_of_error {e : SessionError}
    (h : v.Unread s companion token now os r ∨ ∃ old, v.Rotates s companion token now old os r)
    (hserves : m.Serves now os m') (hr : r = .error e) (he : e ≠ .reuseDetected) {j : Jti}
    (hj : .drawn j ∉ os) : m'.get? j = m.get? j := by
  rcases h with hunread | ⟨old, hrotates⟩
  · rw [← MemoryRegistry.serves_dealings, hunread.nothing] at hserves
    rw [MemoryRegistry.serves_nil.mp hserves]
  · exact hrotates.get?_of_error hserves hr he hj

theorem rotation_all_or_nothing (v : Services) (s : Side) (companion : s.Companion)
    (token : String) (sc : Scope) {h : Host} (hm : h.registry = .memory m) (hh : h.Honest)
    (hnew : h.DrawsAnew m (v.extras s companion)) :
    ∃ m', v.AllOrNothing s companion token sc h m m' := by
  obtain ⟨m', r, hm', hserves, hr, hcase⟩ :=
    v.exists_rotation s companion token sc steady_honest hh hm
  have hfollows := ((v.rotation s companion token).follows_course steady_honest (s := sc) hh).1
  have hdrawn : ∀ j, .drawn j ∈ (v.rotation s companion token).course sc h →
      m.get? j = none ∧ ∀ e ∈ v.extras s companion, e.jti ≠ j := by
    intro j hj
    obtain ⟨n, hn, -, rfl⟩ := hfollows.drawn_of_mem hj
    exact ⟨hnew.unknown n hn, hnew.unborne n hn⟩
  have herror {e : SessionError} (he : r.map .issued = (.error e : Except _ Reply)) :
      r = .error e := by
    cases r with
    | error f => rw [Except.error.inj he]
    | ok set => exact nomatch he
  have hkept {e : SessionError} (he : r.map .issued = (.error e : Except _ Reply))
      (hne : e ≠ .reuseDetected) {j : Jti} : m'.get? j = m.get? j ∨
        m.get? j = none ∧ .drawn j ∈ (v.rotation s companion token).course sc h := by
    by_cases hj : .drawn j ∈ (v.rotation s companion token).course sc h
    · exact .inr ⟨(hdrawn j hj).1, hj⟩
    · exact .inl (get?_of_error hcase hserves (herror he) hne hj)
  refine ⟨m', hm', ?failed, ?again, ?reused, ?succeeded⟩ <;> rw [hr]
  case failed => exact fun he hne j => hkept he hne
  case again =>
    intro e old sc' h' he hne hadmits hactive hfits hsmooth hregistry hclock hsource hle
    -- the second rotation finds the old token as the first one did, and does not draw it anew
    have hknown : m.get? old.jti ≠ none := fun hnone =>
      nomatch hactive.symm.trans (MemoryRegistry.state_eq_unknown_of_get? hnone)
    have hget : m'.get? old.jti = m.get? old.jti :=
      (hkept he hne).resolve_right fun hnone => hknown hnone.1
    rw [← hclock] at hadmits hactive hfits
    have hold (n : Nat) (hn : h'.drawn ≤ n) : h'.source n ≠ old.jti := by
      rw [hsource]
      exact hnew.source_ne hknown (hle.trans hn)
    obtain ⟨set, -, hset, -⟩ := issued_of_active hsmooth hregistry hadmits
      ((MemoryRegistry.state_eq_of_get? hget).trans hactive) hfits hold
    exact ⟨set, hset⟩
  case reused =>
    intro he
    rcases hcase with hunread | ⟨old, hrotates⟩
    · obtain ⟨e, he', hne⟩ := hunread.error
      exact absurd (Except.error.inj (he'.symm.trans (herror he))) hne
    · obtain ⟨hrevoked, hm, hno⟩ :=
        hrotates.revoked_of_reuse hserves (fun j hj => (hdrawn j hj).1) (herror he)
      exact ⟨⟨old, hrotates.admitted, hrevoked⟩, hm, hfollows.drawn_eq_of_no_draws hno⟩
  case succeeded =>
    intro a ha
    cases r with
    | error e => exact nomatch ha
    | ok set =>
      rcases hcase with hunread | ⟨old, hrotates⟩
      · obtain ⟨e, he, -⟩ := hunread.error
        exact nomatch he
      · refine ⟨old, set, (Except.ok.inj ha).symm, hrotates.admitted, ?_⟩
        exact hrotates.succeeds hserves (hfollows.nodup_draws hnew.distinct) hdrawn

/-- A rotation whose first recording times out. -/
theorem rotation_of_sample :
    let token := sample.users.codec.sign sampleRefresh
    let p : Retention := ⟨.ofSeconds 60, .zero⟩
    let h : Host := { Host.recording ⟨0⟩ p sampleRefresh.expiry with
      faults := [.none, .fail .timedOut] }
    let m := ((MemoryRegistry.empty p).call ⟨0⟩
      (.record sampleRefresh.jti sampleRefresh.expiry)).2
    (h.registry = .memory m ∧ h.Honest ∧ h.DrawsAnew m (sample.extras .user ())) ∧
      ∃ m', sample.AllOrNothing .user () token .patient h m m' := by
  intro token p h m
  have hm : h.registry = .memory m := rfl
  have hh : h.Honest := by simp [Host.Honest, h, Fault.Honest]
  have hnew : h.DrawsAnew m (sample.extras .user ()) :=
    ⟨Host.injective_source_fresh ⟨0⟩ p, fun _ => Host.get?_recording, by simp [extras]⟩
  exact ⟨⟨hm, hh, hnew⟩, rotation_all_or_nothing sample .user () token .patient hm hh hnew⟩

end Services

end SessionTokens

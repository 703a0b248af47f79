import SessionTokens.Proofs.Host.System
import SessionTokens.Proofs.Program.Dealings
import SessionTokens.Proofs.Session.Exchange
import SessionTokens.Proofs.Session.Issuance
import SessionTokens.Proofs.Session.Services
import SessionTokens.Proofs.Token.RoundTrip

/-! What a request has to do with identifiers: those it draws and its calls of the registry, in
order. All that the two sides differ in here is that a device's rotation revokes one more
token. -/

namespace SessionTokens

open Program Operation

section Dealings

variable {os : List Occurrence}

@[simp] theorem dealings_recording {e : Entry} {x : Except RegistryError Unit} :
    dealings (e.recording x :: os) = e.recording x :: dealings os := rfl

@[simp] theorem dealings_revocation {e : Entry} {x : Except RegistryError RevokeOutcome} :
    dealings (e.revocation x :: os) = e.revocation x :: dealings os := rfl

@[simp] theorem dealings_failureNote {note : SessionError → Log.Event}
    {x : Except RegistryError RevokeOutcome} : dealings (Ledger.failureNote note x) = [] := by
  cases x <;> rfl

@[simp] theorem dealings_attempted {e : Entry} {note : SessionError → Log.Event}
    {x : Except RegistryError RevokeOutcome} :
    dealings (Ledger.attempted e note x) = [e.revocation x] := by
  simp [Ledger.attempted]

@[simp] theorem dealings_reuseNote {k : TokenKind} {c : Claims k} {token : String}
    {a : Except RegistryError JtiState} : dealings (Issuer.reuseNote c token a) = [] := by
  unfold Issuer.reuseNote
  split <;> rfl

end Dealings

def Issuer.Made (i : Issuer) (s : Side) (subject : Uuid) (set : TokenSet) : Prop :=
  ∃ roles refreshRoles t, i.MadeAt s.bearer s.refresh subject roles refreshRoles t set

/-- What keeps a set from being made: a time to live that leads off the calendar, or a failure
to look up roles. -/
def Issuer.Hindered (i : Issuer) (os : List Occurrence) : Prop :=
  (∃ t, .clock t ∈ os ∧ (t.plus? i.bearerTtl = none ∨ t.plus? i.refreshTtl = none)) ∨
    ∃ user e, .roles user (.error e) ∈ os

def TokenSet.registration (set : TokenSet) : List Occurrence :=
  [.drawn set.bearer.entry.jti, .drawn set.refresh.entry.jti,
    set.bearer.entry.recording (.ok ()), set.refresh.entry.recording (.ok ())]

/-- Read as whatever kind, by whatever codec, a token of a set says whom the set was made for and
carries an identifier of the set. -/
theorem Issuer.Made.stated {i : Issuer} {s : Side} {subject : Uuid} {set : TokenSet}
    (h : i.Made s subject set) {token : String}
    (ht : token = set.bearer.text ∨ token = set.refresh.text) {c : Codec} {k : TokenKind}
    {claims : Claims k} {audience : Bool} (ha : c.authentic k token = .ok (claims, audience)) :
    claims.subject = subject ∧ .drawn claims.jti ∈ set.registration := by
  obtain ⟨roles, refreshRoles, t, b, r, be, re, -, -, rfl⟩ := h
  rcases ht with rfl | rfl <;>
    obtain ⟨hs, hj, -⟩ := Codec.same_of_authentic ha <;>
    exact ⟨hs, by simp [hj, TokenSet.registration, Issuer.token, Claims.entry]⟩

theorem Issuer.Made.entry_stated {i : Issuer} {s : Side} {subject : Uuid} {set : TokenSet}
    (h : i.Made s subject set) {token : String}
    (ht : token = set.bearer.text ∨ token = set.refresh.text) {c : Codec} {k : TokenKind}
    {claims : Claims k} {audience : Bool} (ha : c.authentic k token = .ok (claims, audience)) :
    claims.entry = set.bearer.entry ∨ claims.entry = set.refresh.entry := by
  obtain ⟨roles, refreshRoles, t, b, r, be, re, -, -, rfl⟩ := h
  have hentry : ∀ {k' : TokenKind} {claims' : Claims k'},
      c.authentic k (i.codec.sign claims') = .ok (claims, audience) →
      claims.entry = claims'.entry := by
    intro k' claims' ha
    obtain ⟨-, hj, he⟩ := Codec.same_of_authentic ha
    simp only [Claims.entry, Claims.expiry, hj, he]
  rcases ht with rfl | rfl
  · exact .inl (hentry ha)
  · exact .inr (hentry ha)

section Deals

variable (i : Issuer) (s : Side)

inductive IssueDeals (subject : Uuid) (os : List Occurrence) :
    List Occurrence → Except SessionError TokenSet → Prop
  | unminted (js : List Jti) (e : SessionError) : i.Hindered os →
    IssueDeals subject os (js.map .drawn) (.error e)
  | bearerUnrecorded {set : TokenSet} (e : RegistryError) : i.Made s subject set →
    IssueDeals subject os
      [.drawn set.bearer.entry.jti, .drawn set.refresh.entry.jti,
        set.bearer.entry.recording (.error e)] (.error (.ofRegistry e))
  | refreshUnrecorded {set : TokenSet} (e : RegistryError) : i.Made s subject set →
    IssueDeals subject os
      [.drawn set.bearer.entry.jti, .drawn set.refresh.entry.jti,
        set.bearer.entry.recording (.ok ()), set.refresh.entry.recording (.error e)]
      (.error (.ofRegistry e))
  | issued {set : TokenSet} : i.Made s subject set →
    IssueDeals subject os set.registration (.ok set)

inductive ValidateDeals (token : String) (os : List Occurrence) :
    List Occurrence → Except SessionError (Claims s.bearer) → Prop
  | unread {t : Instant} {e : CodecError} : .clock t ∈ os →
    i.codec.parse s.bearer t.unix token = .error e →
    ValidateDeals token os [] (.error (.ofCodec e))
  | refused {c : Claims s.bearer} {a : Except RegistryError JtiState} (e : SessionError) :
    a ≠ .ok .active → ValidateDeals token os [.called (.state c.jti) a] (.error e)
  | accepted {t : Instant} {c : Claims s.bearer} : .clock t ∈ os →
    i.codec.parse s.bearer t.unix token = .ok c →
    ValidateDeals token os [.called (.state c.jti) (.ok .active)] (.ok c)

/-- The dealings of the exchange of a refresh token; `extra` is what it revokes in the end
besides. -/
inductive ExchangeDeals (old : Claims s.refresh) (extra : List Entry) (os : List Occurrence) :
    List Occurrence → Except SessionError TokenSet → Prop
  | refused {a : Except RegistryError JtiState} {e : SessionError} :
    Ledger.readiness a = .error e →
    ExchangeDeals old extra os [.called (.state old.jti) a] (.error e)
  | unrenewed {us : List Occurrence} {e : SessionError} :
    IssueDeals i s old.subject os us (.error e) →
    ExchangeDeals old extra os (.called (.state old.jti) (.ok .active) :: us) (.error e)
  | lost {set : TokenSet} (x y : Except RegistryError RevokeOutcome) :
    i.Made s old.subject set →
    ExchangeDeals old extra os
      (.called (.state old.jti) (.ok .active) :: (set.registration ++
        [old.entry.revocation (.ok .alreadyRevoked), set.bearer.entry.revocation x,
          set.refresh.entry.revocation y])) (.error .reuseDetected)
  | won {set : TokenSet} {x : Except RegistryError RevokeOutcome} {closing : List Occurrence} :
    i.Made s old.subject set → x ≠ .ok .alreadyRevoked →
    (∀ o ∈ closing, ∃ e ∈ extra, ∃ y, o = e.revocation y) →
    ExchangeDeals old extra os
      (.called (.state old.jti) (.ok .active) :: (set.registration ++
        old.entry.revocation x :: closing)) (.ok set)

end Deals

variable {i : Issuer} {s : Side} {os : List Occurrence}

section Mono

variable {os' us : List Occurrence} {r : Except SessionError TokenSet} (hs : os ⊆ os')
include hs

theorem Issuer.Hindered.mono (h : i.Hindered os) : i.Hindered os' := by
  rcases h with ⟨t, ht, h⟩ | ⟨user, e, h⟩
  · exact .inl ⟨t, hs ht, h⟩
  · exact .inr ⟨user, e, hs h⟩

theorem IssueDeals.mono {subject : Uuid} (h : IssueDeals i s subject os us r) :
    IssueDeals i s subject os' us r := by
  cases h with
  | unminted js e hi => exact .unminted js e (hi.mono hs)
  | bearerUnrecorded e hm => exact .bearerUnrecorded e hm
  | refreshUnrecorded e hm => exact .refreshUnrecorded e hm
  | issued hm => exact .issued hm

theorem ExchangeDeals.mono {old : Claims s.refresh} {extra : List Entry}
    (h : ExchangeDeals i s old extra os us r) : ExchangeDeals i s old extra os' us r := by
  cases h with
  | refused ha => exact .refused ha
  | unrenewed hi => exact .unrenewed (hi.mono hs)
  | lost x y hm => exact .lost x y hm
  | won hm hx hc => exact .won hm hx hc

end Mono

namespace Issuer

theorem dealings_issue {subject : Uuid} {roles : s.bearer.Roles} {refreshRoles : s.refresh.Roles}
    {note : TokenSet → Log.Event} {r : Except SessionError TokenSet}
    (h : Gives (i.issue s.bearer s.refresh subject roles refreshRoles note) os r) :
    IssueDeals i s subject os (dealings os) r := by
  cases gives_issue h with
  | unminted hm =>
    cases hm with
    | @bearerOutOfRange t b ht => exact .unminted [b] _ (.inl ⟨t, by simp, .inl ht⟩)
    | @refreshOutOfRange t b r ht => exact .unminted [b, r] _ (.inl ⟨t, by simp, .inr ht⟩)
  | bearerUnrecorded e hm =>
    cases hm with
    | minted hm => simpa using .bearerUnrecorded e ⟨_, _, _, hm⟩
  | refreshUnrecorded e hm =>
    cases hm with
    | minted hm => simpa using .refreshUnrecorded e ⟨_, _, _, hm⟩
  | issued hm =>
    cases hm with
    | minted hm => simpa using .issued ⟨_, _, _, hm⟩

theorem dealings_validate {token : String} {r : Except SessionError (Claims s.bearer)}
    (h : Gives (i.validate s.bearer token) os r) :
    ValidateDeals i s token os (dealings os) r := by
  cases gives_validate h with
  | unread ht => exact .unread (List.mem_singleton_self _) ht
  | @refused t c us e ht he =>
    cases he with
    | inactive hs => exact .refused (c := c) _ fun h => hs (Except.ok.inj h)
    | failed e => exact .refused (c := c) _ nofun
  | accepted ht => exact .accepted (List.mem_cons_self ..) ht

theorem dealings_exchange {old : Claims s.refresh} {token : String} {renew : Operation TokenSet}
    {finish : TokenSet → Operation Unit} {extra : List Entry} {r : Except SessionError TokenSet}
    (hrenew : ∀ us x, Gives renew us x → IssueDeals i s old.subject us (dealings us) x)
    (hfinish : ∀ set us x, Gives (finish set) us x →
      x = .ok () ∧ ∀ o ∈ dealings us, ∃ e ∈ extra, ∃ y, o = e.revocation y)
    (h : Gives (exchange old token renew finish) os r) :
    ExchangeDeals i s old extra os (dealings os) r := by
  have hset : ∀ {us : List Occurrence} {set : TokenSet}, Gives renew us (.ok set) →
      i.Made s old.subject set ∧ dealings us = set.registration := by
    intro us set hn
    generalize hd : dealings us = ds
    cases hd ▸ hrenew us _ hn with
    | issued hm => exact ⟨hm, rfl⟩
  cases gives_exchange h with
  | refused ha => simpa using .refused ha
  | unrenewed hn =>
    simpa using .unrenewed ((hrenew _ _ hn).mono (List.subset_cons_self ..))
  | @lost us set x y hn =>
    obtain ⟨hm, hd⟩ := hset hn
    have hw : dealings (withdrawal set x y) =
        [set.bearer.entry.revocation x, set.refresh.entry.revocation y] := by
      simp [withdrawal]
    simpa [reuseReport, hd, hw] using .lost x y hm
  | unfinished x _ _ hf => exact nomatch (hfinish _ _ _ hf).1
  | @won us vs set x hn hx hf =>
    obtain ⟨hm, hd⟩ := hset hn
    simpa [hd] using .won hm hx (hfinish _ _ _ hf).2

end Issuer

/-- What a side reads the refresh token of a rotation as, at `t`. A device's is looked at for its
expiry only after it was read, and the connection token has to name the same device. -/
def Services.Admits (v : Services) (t : Instant) :
    (s : Side) → s.Companion → String → Claims s.refresh → Prop
  | .user, _, token, old => v.users.codec.parse .userRefresh t.unix token = .ok old
  | .device, connection, token, old =>
    v.devices.codec.parseAllowExpired .deviceRefresh t.unix token = .ok old ∧
      v.devices.codec.checkExpiry t.unix old = .ok () ∧
      ∃ c, v.devices.codec.parseAllowExpired .deviceConnection t.unix connection = .ok c ∧
        c.subject = old.subject

def Services.extras (v : Services) : (s : Side) → s.Companion → List Entry
  | .user, _ => []
  | .device, connection =>
    match v.devices.codec.authentic .deviceConnection connection with
    | .ok (c, _) => [c.entry]
    | .error _ => []

inductive RotateDeals (v : Services) (s : Side) (companion : s.Companion) (token : String)
    (os : List Occurrence) : List Occurrence → Except SessionError TokenSet → Prop
  | unread (e : SessionError) :
    (∀ t old, (∀ t', .clock t' ∈ os → t' = t) → ¬ v.Admits t s companion token old) →
    RotateDeals v s companion token os [] (.error e)
  | exchanged {old : Claims s.refresh} {us : List Occurrence} {r : Except SessionError TokenSet} :
    (v.issuer s).codec.authentic s.refresh token = .ok (old, false) →
    ExchangeDeals (v.issuer s) s old (v.extras s companion) os us r →
    RotateDeals v s companion token os us r

theorem User.dealings_renewal {user : Uuid} {r : Except SessionError TokenSet}
    (h : Gives (renewal i user) os r) : IssueDeals i .user user os (dealings os) r := by
  rcases gives_rolesOf_bind.mp h with ⟨e, rfl, rfl⟩ | ⟨roles, us, rfl, hi⟩
  · exact .unminted [] _ (.inr ⟨user, e, List.mem_singleton_self _⟩)
  · have hd : IssueDeals i .user user us (dealings us) r := Issuer.dealings_issue hi
    simpa using hd.mono (List.subset_cons_self ..)

theorem User.dealings_rotate {v : Services} {token : String} {r : Except SessionError TokenSet}
    (h : Gives (User.rotate v.users token) os r) :
    RotateDeals v .user () token os (dealings os) r := by
  obtain ⟨t, us, rfl, ⟨e, he, rfl, rfl⟩ | ⟨old, ho, hx⟩⟩ := gives_rotate.mp h
  · refine .unread _ fun t' old ht ha => ?_
    obtain rfl := ht t (List.mem_singleton_self _)
    exact nomatch he.symm.trans ha
  · have hd : ExchangeDeals v.users .user old [] us (dealings us) r := by
      refine Issuer.dealings_exchange (fun _ _ => dealings_renewal) (fun set ws x hf => ?_) hx
      obtain ⟨rfl, rfl⟩ := gives_emit.mp hf
      exact ⟨rfl, by simp⟩
    exact .exchanged (Codec.authentic_of_parse ho) (hd.mono (List.subset_cons_self ..))

/-- A pair that is not read while the clock shows one time only is not admitted at that time. -/
theorem Device.not_admits_of_unread {v : Services} {connection token : String} {e : SessionError}
    (hp : ParsesPair v.devices connection token os (.error e)) {t : Instant}
    {old : DeviceRefreshClaims} (ht : ∀ t', .clock t' ∈ os → t' = t) :
    ¬ v.Admits t .device connection token old := by
  rintro ⟨hr, hv, c, hc, hm⟩
  cases hp with
  | @refreshUnread t' _ he =>
    obtain rfl := ht t' (by simp)
    exact nomatch he.symm.trans hr
  | @connectionUnread t' u' _ _ _ he =>
    obtain rfl := ht u' (by simp)
    exact nomatch he.symm.trans hc
  | @mismatch t' u' old' c' hr' hc' hm' =>
    obtain rfl := ht u' (by simp)
    obtain rfl : t' = u' := ht t' (by simp)
    obtain rfl := Except.ok.inj (hr.symm.trans hr')
    obtain rfl := Except.ok.inj (hc.symm.trans hc')
    exact hm' hm
  | @expired t' u' v' old' c' _ hr' _ _ he =>
    obtain rfl := ht v' (by simp)
    obtain rfl : t' = v' := ht t' (by simp)
    obtain rfl := Except.ok.inj (hr.symm.trans hr')
    exact nomatch he.symm.trans hv

theorem Device.dealings_rotationEnd {c : ConnectionClaims} {old : DeviceRefreshClaims}
    {set : TokenSet} {x : Except SessionError Unit}
    (h : Gives (Device.rotationEnd c old set) os x) :
    x = .ok () ∧ ∀ o ∈ dealings os, ∃ e ∈ [c.entry], ∃ y, o = e.revocation y := by
  rcases gives_bind.mp h with ⟨e, hq, rfl⟩ | ⟨us, vs, _, rfl, hq, hn⟩
  · obtain ⟨_, -, hq⟩ := Ledger.gives_revokeQuietly hq
    exact nomatch hq
  · obtain ⟨y, rfl, -⟩ := Ledger.gives_revokeQuietly hq
    obtain ⟨rfl, rfl⟩ := gives_emit.mp hn
    exact ⟨rfl, by simp⟩

theorem Device.dealings_rotate {v : Services} {connection token : String}
    {r : Except SessionError TokenSet} (h : Gives (Device.rotate v.devices connection token) os r) :
    RotateDeals v .device connection token os (dealings os) r := by
  rcases gives_rotate h with ⟨e, hp, rfl⟩ | ⟨us, ws, c, old, rfl, hp, hx⟩
  · have hunread : ∀ t old, (∀ t', .clock t' ∈ os → t' = t) →
        ¬ v.Admits t .device connection token old :=
      fun _ _ ht => not_admits_of_unread hp ht
    cases hp <;> exact .unread _ hunread
  · have hd : ExchangeDeals v.devices .device old [c.entry] ws (dealings ws) r :=
      Issuer.dealings_exchange (fun _ _ => Issuer.dealings_issue)
        (fun _ _ _ => dealings_rotationEnd) hx
    cases hp with
    | read hr hc hm hv =>
      have he : v.extras .device connection = [c.entry] := by
        simp [Services.extras, Codec.authentic_of_parseAllowExpired hc]
      rw [← he] at hd
      exact .exchanged (Codec.authentic_of_parseAllowExpired hr)
        (hd.mono (List.subset_append_right ..))

inductive LogoutDeals (i : Issuer) (s : Side) (c : Claims s.bearer) (shown : Option String)
    (os : List Occurrence) : List Occurrence → Except SessionError Unit → Prop
  | mismatch {t : Instant} {token : String} {r : Claims s.refresh} : shown = some token →
    .clock t ∈ os → i.codec.parse s.refresh t.unix token = .ok r → r.subject ≠ c.subject →
    LogoutDeals i s c shown os [] (.error .subjectMismatch)
  | pair {t : Instant} {token : String} {r : Claims s.refresh}
    (x y : Except RegistryError RevokeOutcome) (a : Except SessionError Unit) :
    shown = some token → .clock t ∈ os → i.codec.parse s.refresh t.unix token = .ok r →
    r.subject = c.subject →
    LogoutDeals i s c shown os [c.entry.revocation x, r.entry.revocation y] a
  | bearer (x : Except RegistryError RevokeOutcome) (a : Except SessionError Unit) :
    (∀ token, shown = some token → ∃ t e, .clock t ∈ os ∧
      i.codec.parse s.refresh t.unix token = .error e) →
    LogoutDeals i s c shown os [c.entry.revocation x] a

theorem Issuer.dealings_logout {holder : Log.Holder} {c : Claims s.bearer} {shown : Option String}
    {r : Except SessionError Unit} (h : Gives (i.logout holder s.refresh c shown) os r) :
    LogoutDeals i s c shown os (dealings os) r := by
  have hnone : ∀ {us : List Occurrence}, Shows i s.refresh holder shown us none →
      dealings us = [] ∧ ∀ token, shown = some token → ∃ t e, .clock t ∈ us ∧
        i.codec.parse s.refresh t.unix token = .error e := by
    intro us hs
    cases hs with
    | nothing => exact ⟨rfl, nofun⟩
    | @ignored t token e he =>
      refine ⟨rfl, fun token' ht => ?_⟩
      obtain rfl := Option.some.inj ht
      exact ⟨t, e, List.mem_cons_self .., he⟩
  have hmono : ∀ {us vs : List Occurrence}, (∀ token, shown = some token → ∃ t e, .clock t ∈ us ∧
      i.codec.parse s.refresh t.unix token = .error e) → ∀ token, shown = some token →
      ∃ t e, .clock t ∈ us ++ vs ∧ i.codec.parse s.refresh t.unix token = .error e := by
    intro us vs hu token ht
    obtain ⟨t, e, hc, he⟩ := hu token ht
    exact ⟨t, e, List.mem_append_left _ hc, he⟩
  cases gives_logout h with
  | mismatch hs hm =>
    cases hs with
    | read hr => exact .mismatch rfl (List.mem_cons_self ..) hr hm
  | failedPair x y hs hm =>
    cases hs with
    | read hr => exact .pair x y _ rfl (List.mem_cons_self ..) hr hm
  | pair x y hs hm =>
    cases hs with
    | read hr => exact .pair (.ok x) (.ok y) _ rfl (List.mem_cons_self ..) hr hm
  | failedBearer e hs =>
    obtain ⟨hd, hu⟩ := hnone hs
    simpa [hd] using .bearer (.error e) _ (hmono hu)
  | bearer x hs =>
    obtain ⟨hd, hu⟩ := hnone hs
    simpa [hd] using .bearer (.ok x) _ (hmono hu)

namespace Services

variable {v : Services}

inductive Deals (v : Services) (os : List Occurrence) :
    Request → List Occurrence → Except SessionError Reply → Prop
  | issue {s : Side} {subject : Uuid} {roles : s.bearer.Roles} {us : List Occurrence}
    {r : Except SessionError TokenSet} : IssueDeals (v.issuer s) s subject os us r →
    Deals v os (.issue s subject roles) us (r.map .issued)
  | validate {s : Side} {token : String} {us : List Occurrence}
    {r : Except SessionError (Claims s.bearer)} : ValidateDeals (v.issuer s) s token os us r →
    Deals v os (.validate s token) us (r.map (.validated s))
  | rotate {s : Side} {companion : s.Companion} {token : String} {us : List Occurrence}
    {r : Except SessionError TokenSet} : RotateDeals v s companion token os us r →
    Deals v os (.rotate s companion token) us (r.map .issued)
  | revoke {s : Side} {bearer refresh : Entry} (x y : Except RegistryError RevokeOutcome)
    (r : Except SessionError Unit) :
    Deals v os (.revoke s bearer refresh) [bearer.revocation x, refresh.revocation y]
      (r.map fun _ => .done)
  | logout {s : Side} {c : Claims s.bearer} {shown : Option String} {us : List Occurrence}
    {r : Except SessionError Unit} : LogoutDeals (v.issuer s) s c shown os us r →
    Deals v os (.logout s c shown) us (r.map fun _ => .done)
  | stats (x : Except RegistryError JtiStats) (r : Except SessionError JtiStats) :
    Deals v os .stats [.called .stats x] (r.map .counted)

theorem deals {q : Request} {a : Except SessionError Reply} (h : (v.serve q).Yields os a) :
    v.Deals os q (dealings os) a := by
  have hg : Gives (v.operation q) os a := h
  cases q with
  | issue s subject roles =>
    cases s <;> obtain ⟨r, hr, rfl⟩ := gives_map.mp hg <;> exact .issue (Issuer.dealings_issue hr)
  | validate s token =>
    cases s <;> obtain ⟨r, hr, rfl⟩ := gives_map.mp hg
    · exact .validate (s := .user) (Issuer.dealings_validate hr)
    · exact .validate (s := .device) (Issuer.dealings_validate hr)
  | rotate s companion token =>
    cases s <;> obtain ⟨r, hr, rfl⟩ := gives_map.mp hg
    · exact .rotate (User.dealings_rotate hr)
    · exact .rotate (Device.dealings_rotate hr)
  | revoke s bearer refresh =>
    cases s <;> obtain ⟨r, hr, rfl⟩ := gives_map.mp hg <;>
      obtain ⟨x, y, rfl, -⟩ := Ledger.gives_revokePair hr <;> exact .revoke x y _
  | logout s c shown =>
    cases s <;> obtain ⟨r, hr, rfl⟩ := gives_map.mp hg
    · exact .logout (s := .user) (Issuer.dealings_logout hr)
    · exact .logout (s := .device) (Issuer.dealings_logout hr)
  | stats =>
    obtain ⟨r, hr, rfl⟩ := gives_map.mp hg
    obtain ⟨x, rfl, rfl⟩ := gives_call.mp hr
    exact .stats x _

section Records

variable {i : Issuer} {s : Side} {given : List Jti} {os us : List Occurrence}

theorem recordsDrawn_issue {subject : Uuid} {r : Except SessionError TokenSet}
    (h : IssueDeals i s subject os us r) : RecordsDrawn given us := by
  cases h with
  | unminted js e => exact recordsDrawn_of_not_recorded (by simp)
  | bearerUnrecorded e => simp [RecordsDrawn, Entry.recording]
  | refreshUnrecorded e => simp [RecordsDrawn, Entry.recording]
  | issued => simp [RecordsDrawn, Entry.recording, TokenSet.registration]

theorem recordsDrawn_exchange {old : Claims s.refresh} {extra : List Entry}
    {r : Except SessionError TokenSet} (h : ExchangeDeals i s old extra os us r) :
    RecordsDrawn given us := by
  cases h with
  | refused => exact recordsDrawn_of_not_recorded (by simp)
  | unrenewed hi => simpa only [RecordsDrawn] using recordsDrawn_issue hi
  | lost x y => simp [RecordsDrawn, Entry.recording, Entry.revocation, TokenSet.registration]
  | won _ _ hc =>
    simp only [RecordsDrawn, Entry.recording, Entry.revocation, TokenSet.registration,
      List.cons_append, List.nil_append, List.mem_cons, true_or, or_true, true_and]
    refine recordsDrawn_of_not_recorded fun j e x hx => ?_
    obtain ⟨_, -, _, h⟩ := hc _ hx
    cases h

theorem not_recorded_of_logout {c : Claims s.bearer} {shown : Option String}
    {r : Except SessionError Unit} (h : LogoutDeals i s c shown os us r) (j : Jti) (e : Instant)
    (x : Except RegistryError Unit) : .called (.record j e) x ∉ us := by
  cases h <;> simp [Entry.revocation]

theorem recordsDrawn {q : Request} {a : Except SessionError Reply} (h : v.Deals os q us a) :
    RecordsDrawn given us := by
  cases h with
  | issue h => exact recordsDrawn_issue h
  | rotate h =>
    cases h with
    | unread => trivial
    | exchanged _ h => exact recordsDrawn_exchange h
  | validate h => cases h <;> exact recordsDrawn_of_not_recorded (by simp)
  | revoke => exact recordsDrawn_of_not_recorded (by simp [Entry.revocation])
  | logout h => exact recordsDrawn_of_not_recorded (not_recorded_of_logout h)
  | stats => exact recordsDrawn_of_not_recorded (by simp)

theorem recordsFirst_issue {subject : Uuid} {r : Except SessionError TokenSet}
    (h : IssueDeals i s subject os us r) : ∀ o ∈ us, o.isRevoke = false := by
  cases h <;> simp [Entry.recording, TokenSet.registration, Occurrence.isRevoke]

theorem recordsFirst_exchange {old : Claims s.refresh} {extra : List Entry}
    {r : Except SessionError TokenSet} (h : ExchangeDeals i s old extra os us r) :
    RecordsFirst us := by
  have hset : ∀ set : TokenSet,
      ∀ o ∈ .called (.state old.jti) (.ok .active) :: set.registration, o.isRevoke = false := by
    simp [TokenSet.registration, Entry.recording, Occurrence.isRevoke]
  cases h with
  | refused => exact List.pairwise_singleton ..
  | unrenewed hi =>
    refine recordsFirst_of_not_revoked fun o ho => ?_
    rcases List.mem_cons.mp ho with rfl | ho
    · rfl
    · exact recordsFirst_issue hi o ho
  | @lost set x y =>
    rw [← List.cons_append]
    exact recordsFirst_append (hset set) (by simp [Entry.revocation, Occurrence.isRecord])
  | @won set x closing _ _ hc =>
    rw [← List.cons_append]
    refine recordsFirst_append (hset set) fun o ho => ?_
    rcases List.mem_cons.mp ho with rfl | ho
    · rfl
    · obtain ⟨_, -, _, rfl⟩ := hc o ho
      rfl

theorem recordsFirst {q : Request} {a : Except SessionError Reply} (h : v.Deals os q us a) :
    RecordsFirst us := by
  cases h with
  | issue h => exact recordsFirst_of_not_revoked (recordsFirst_issue h)
  | rotate h =>
    cases h with
    | unread => exact .nil
    | exchanged _ h => exact recordsFirst_exchange h
  | validate h => cases h <;> exact recordsFirst_of_not_recorded (by simp [Occurrence.isRecord])
  | revoke => exact recordsFirst_of_not_recorded (by simp [Entry.revocation, Occurrence.isRecord])
  | logout h =>
    cases h <;>
      exact recordsFirst_of_not_recorded (by simp [Entry.revocation, Occurrence.isRecord])
  | stats => exact recordsFirst_of_not_recorded (by simp [Occurrence.isRecord])

theorem orderly (v : Services) : System.Orderly v.serve where
  own h := recordsDrawn_dealings.mp (recordsDrawn (deals h))
  first h := recordsFirst_dealings.mp (recordsFirst (deals h))

end Records

section Revokes

variable {i : Issuer} {s : Side} {os us : List Occurrence} {j : Jti} {e : Instant}
  {y : Except RegistryError RevokeOutcome}

theorem jti_of_revocation {f : Entry} {x : Except RegistryError RevokeOutcome}
    (h : .called (.revoke j e) y = f.revocation x) : j = f.jti :=
  (RegistryCall.revoke.inj (Occurrence.called.inj h).1).1

theorem not_revoked_of_issue {subject : Uuid} {r : Except SessionError TokenSet}
    (h : IssueDeals i s subject os us r) : .called (.revoke j e) y ∉ us :=
  fun hy => Bool.noConfusion (recordsFirst_issue h _ hy)

theorem revoked_of_exchange {old : Claims s.refresh} {extra : List Entry}
    {r : Except SessionError TokenSet} (h : ExchangeDeals i s old extra os us r)
    (hy : .called (.revoke j e) y ∈ us) :
    j = old.jti ∨ (∃ f ∈ extra, j = f.jti) ∨ (.drawn j ∈ us ∧ r = .error .reuseDetected) := by
  have hset : ∀ set : TokenSet, .called (.revoke j e) y ∉ set.registration := by
    simp [TokenSet.registration, Entry.recording]
  cases h with
  | refused => simp at hy
  | unrenewed hi =>
    rcases List.mem_cons.mp hy with hy | hy
    · cases hy
    · exact absurd hy (not_revoked_of_issue hi)
  | @lost set x z =>
    rcases List.mem_cons.mp hy with hy | hy
    · cases hy
    rcases List.mem_append.mp hy with hy | hy
    · exact absurd hy (hset set)
    simp only [List.mem_cons, List.not_mem_nil, or_false] at hy
    rcases hy with hy | hy | hy
    · exact .inl (jti_of_revocation hy)
    all_goals
      obtain rfl := jti_of_revocation hy
      exact .inr (.inr ⟨by simp [TokenSet.registration], rfl⟩)
  | @won set x closing _ _ hc =>
    rcases List.mem_cons.mp hy with hy | hy
    · cases hy
    rcases List.mem_append.mp hy with hy | hy
    · exact absurd hy (hset set)
    rcases List.mem_cons.mp hy with hy | hy
    · exact .inl (jti_of_revocation hy)
    · obtain ⟨f, hf, z, hz⟩ := hc _ hy
      exact .inr (.inl ⟨f, hf, jti_of_revocation hz⟩)

end Revokes

theorem hindered_of_unissued {i : Issuer} {s : Side} {subject : Uuid} {os us : List Occurrence}
    {e : SessionError} (h : IssueDeals i s subject os us (.error e)) :
    (i.Hindered os ∧ ∃ js : List Jti, us = js.map .drawn) ∨ ∃ c x, .called c (.error x) ∈ us := by
  generalize hr : (Except.error e : Except SessionError TokenSet) = r at h
  cases h with
  | unminted js _ hi => exact .inl ⟨hi, js, rfl⟩
  | @bearerUnrecorded set x =>
    have hx : set.bearer.entry.recording (.error x) ∈ [.drawn set.bearer.entry.jti,
        .drawn set.refresh.entry.jti, set.bearer.entry.recording (.error x)] := by simp
    exact .inr ⟨_, x, hx⟩
  | @refreshUnrecorded set x =>
    have hx : set.refresh.entry.recording (.error x) ∈ [.drawn set.bearer.entry.jti,
        .drawn set.refresh.entry.jti, set.bearer.entry.recording (.ok ()),
        set.refresh.entry.recording (.error x)] := by simp
    exact .inr ⟨_, x, hx⟩
  | issued => exact nomatch hr

theorem made_of_issued {q : Request} {os us : List Occurrence} {set : TokenSet}
    (h : v.Deals os q us (.ok (.issued set))) :
    ∃ s subject, (v.issuer s).Made s subject set ∧ set.registration ⊆ us := by
  have hok : ∀ {r : Except SessionError TokenSet},
      Except.ok (Reply.issued set) = r.map .issued → r = .ok set := by
    rintro (e | set') hr
    · exact nomatch hr
    · rw [Reply.issued.inj (Except.ok.inj hr)]
  generalize ha : (Except.ok (Reply.issued set) : Except SessionError Reply) = a at h
  cases h with
  | @issue s subject _ _ r h =>
    obtain rfl := hok ha
    cases h with
    | issued hm => exact ⟨s, subject, hm, List.Subset.refl _⟩
  | @rotate s _ _ _ r h =>
    obtain rfl := hok ha
    cases h with
    | exchanged _ h =>
      cases h with
      | won hm =>
        exact ⟨s, _, hm, fun o ho => List.mem_cons_of_mem _ (List.mem_append_left _ ho)⟩
  | @validate _ _ _ r | @revoke _ _ _ _ _ r | @logout _ _ _ _ r | @stats _ r =>
    cases r <;> exact nomatch ha

end Services

end SessionTokens

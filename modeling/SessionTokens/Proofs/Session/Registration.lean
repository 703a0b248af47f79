import SessionTokens.Proofs.Registry.Coverage
import SessionTokens.Proofs.Session.AllOrNothing
import SessionTokens.Proofs.Session.Pairing

/-! The issue of a set of tokens, alone on a host: what it says of itself is what its tokens say and
what the registry is told, to the second. -/

namespace SessionTokens

open Program

abbrev Entry.recordCall (e : Entry) : RegistryCall := .record e.jti e.expiresAt

namespace Issuer

section Mint

variable (i : Issuer) (subject : Uuid) {bearer refresh : TokenKind} (roles : bearer.Roles)
  (refreshRoles : refresh.Roles) (s : Scope) {h : Host} {u v : Instant}

theorem run_claims {k : TokenKind} (roles : k.Roles) (now : Instant) (ttl : Span) (s : Scope)
    (h : Host) : Program.run (claims k subject roles now ttl).run s h =
      (match now.plus? ttl with
        | some u => .ok ⟨subject, roles, h.draw.1, now.unix, u.unix⟩
        | none => .error (.internal (.ttlOutOfRange ttl)), s, h.draw.2) := by
  unfold claims expiry
  cases now.plus? ttl <;> rfl

/-- The set that is made at the host's time from its next two draws. -/
def nextSet (i : Issuer) (bearer refresh : TokenKind) (subject : Uuid) (roles : bearer.Roles)
    (refreshRoles : refresh.Roles) (h : Host) (u v : Instant) : TokenSet :=
  ⟨i.token ⟨subject, roles, h.source h.drawn, h.clock.unix, u.unix⟩,
    i.token ⟨subject, refreshRoles, h.source (h.drawn + 1), h.clock.unix, v.unix⟩⟩

theorem run_mint (hu : h.clock.plus? i.bearerTtl = some u)
    (hv : h.clock.plus? i.refreshTtl = some v) :
    Program.run (i.mint bearer refresh subject roles refreshRoles).run s h =
      (.ok (i.nextSet bearer refresh subject roles refreshRoles h u v), s, h.draw.2.draw.2) := by
  have hnow : Program.run (Operation.now).run s h = (.ok h.clock, s, h) := rfl
  have hb := run_claims subject roles h.clock i.bearerTtl s h
  have hr := run_claims subject refreshRoles h.clock i.refreshTtl s h.draw.2
  rw [hu] at hb
  rw [hv] at hr
  rw [mint, Operation.run_bind_of_ok hnow, Operation.run_bind_of_ok hb, Operation.run_bind_of_ok hr]
  rfl

/-- One of the two tokens would expire after the end of the calendar. -/
def Outlasts (i : Issuer) (now : Instant) : Prop :=
  ∃ ttl ∈ [i.bearerTtl, i.refreshTtl], Instant.last.nanos < now.nanos + ttl.nanos

theorem run_mint_of_outlasts (hstart : 0 ≤ h.clock.nanos) (hout : i.Outlasts h.clock) :
    ∃ ttl ∈ [i.bearerTtl, i.refreshTtl], ∃ h',
      Program.run (i.mint bearer refresh subject roles refreshRoles).run s h =
        (.error (.internal (.ttlOutOfRange ttl)), s, h') ∧
      h'.calls = h.calls ∧ h'.registry = h.registry := by
  have hnow : Program.run (Operation.now).run s h = (.ok h.clock, s, h) := rfl
  have hb := run_claims subject roles h.clock i.bearerTtl s h
  have hr := run_claims subject refreshRoles h.clock i.refreshTtl s h.draw.2
  cases hu : h.clock.plus? i.bearerTtl with
  | none =>
    rw [hu] at hb
    refine ⟨i.bearerTtl, by simp, h.draw.2, ?_, rfl, rfl⟩
    rw [mint, Operation.run_bind_of_ok hnow, Operation.run_bind_of_error hb]
  | some u =>
    have hv : h.clock.plus? i.refreshTtl = none := by
      obtain ⟨ttl, httl, hlong⟩ := hout
      rw [← Instant.plus?_eq_none_iff (Instant.first_le_of_nonneg hstart)] at hlong
      simp only [List.mem_cons, List.not_mem_nil, or_false] at httl
      rcases httl with rfl | rfl
      · exact nomatch hu.symm.trans hlong
      · exact hlong
    rw [hu] at hb
    rw [hv] at hr
    refine ⟨i.refreshTtl, by simp, h.draw.2.draw.2, ?_, rfl, rfl⟩
    rw [mint, Operation.run_bind_of_ok hnow, Operation.run_bind_of_ok hb,
      Operation.run_bind_of_error hr]

end Mint

variable {i : Issuer} {bearer refresh : TokenKind} {subject : Uuid} {roles : bearer.Roles}
  {refreshRoles : refresh.Roles} {s : Scope} {h : Host}

section Record

variable {set : TokenSet} {s' s'' : Scope} {h' h'' : Host}

theorem run_record {e : Entry} {a : Except RegistryError Unit}
    (hcall : s.call h e.recordCall = (a, s', h')) :
    Program.run (Ledger.record e).run s h = (a.mapError .ofRegistry, s', h') := by
  have hrun : Program.run (Ledger.record e).run s h =
    ((s.call h e.recordCall).1.mapError .ofRegistry, (s.call h e.recordCall).2) := rfl
  rw [hrun, hcall]

theorem run_recordSet_of_error {e : RegistryError}
    (hfirst : s.call h set.bearer.entry.recordCall = (.error e, s', h')) :
    Program.run (recordSet set).run s h = (.error (.ofRegistry e), s', h') := by
  rw [recordSet, Operation.run_bind_of_error (run_record hfirst)]

theorem run_recordSet_of_ok {x : Unit} {y : Except RegistryError Unit}
    (hfirst : s.call h set.bearer.entry.recordCall = (.ok x, s', h'))
    (hsecond : s'.call h' set.refresh.entry.recordCall = (y, s'', h'')) :
    Program.run (recordSet set).run s h = (y.mapError .ofRegistry, s'', h'') := by
  rw [recordSet, Operation.run_bind_of_ok (run_record hfirst), run_record hsecond]

/-- A set is recorded with one call for each of its tokens, the second only after the first has
succeeded. What the calls come to is what the issue comes to. -/
inductive Records (set : TokenSet) (s : Scope) (h : Host) :
    List RegistryCall → Except SessionError TokenSet → Host → Prop
  | bearerFailed {e : RegistryError} {s' : Scope} {h' : Host} :
    s.call h set.bearer.entry.recordCall = (.error e, s', h') →
    Records set s h [set.bearer.entry.recordCall] (.error (.ofRegistry e)) h'
  | refreshFailed {e : RegistryError} {s' s'' : Scope} {h' h'' : Host} :
    s.call h set.bearer.entry.recordCall = (.ok (), s', h') →
    s'.call h' set.refresh.entry.recordCall = (.error e, s'', h'') →
    Records set s h [set.bearer.entry.recordCall, set.refresh.entry.recordCall]
      (.error (.ofRegistry e)) h''
  | both {s' s'' : Scope} {h' h'' : Host} :
    s.call h set.bearer.entry.recordCall = (.ok (), s', h') →
    s'.call h' set.refresh.entry.recordCall = (.ok (), s'', h'') →
    Records set s h [set.bearer.entry.recordCall, set.refresh.entry.recordCall] (.ok set) h''

/-- What an issue comes to once the set is made. -/
theorem records_of_set (set : TokenSet) (note : TokenSet → Log.Event) (s : Scope) (h : Host)
    {out : Except SessionError TokenSet × Scope × Host}
    (hout : Program.run (do
      recordSet set
      .emit (note set)
      return set : Operation TokenSet).run s h = out) :
    ∃ asked g, Records set s h asked out.1 g ∧ out.2.2.calls = g.calls ∧
      out.2.2.registry = g.registry := by
  subst hout
  rcases hfirst : s.call h set.bearer.entry.recordCall with ⟨e | x, s', h'⟩
  · rw [Operation.run_bind_of_error (run_recordSet_of_error hfirst)]
    exact ⟨_, h', .bearerFailed hfirst, rfl, rfl⟩
  · rcases hsecond : s'.call h' set.refresh.entry.recordCall with ⟨e | y, s'', h''⟩
    · rw [Operation.run_bind_of_error (run_recordSet_of_ok hfirst hsecond)]
      exact ⟨_, h'', .refreshFailed hfirst hsecond, rfl, rfl⟩
    · rw [Operation.run_bind_of_ok (run_recordSet_of_ok hfirst hsecond)]
      exact ⟨_, h'', .both hfirst hsecond, rfl, rfl⟩

theorem Records.calls_eq {asked : List RegistryCall} {r : Except SessionError TokenSet} {g : Host}
    (hr : Records set s h asked r g) :
    g.calls = h.calls ++ if s.isOver h.timer then [] else asked := by
  have hafter : ∀ {s' s'' : Scope} {h' h'' : Host} {a : Except RegistryError Unit},
      s.call h set.bearer.entry.recordCall = (.ok (), s', h') →
      s'.call h' set.refresh.entry.recordCall = (a, s'', h'') →
      h''.calls = h.calls ++ if s.isOver h.timer then [] else
        [set.bearer.entry.recordCall, set.refresh.entry.recordCall] := by
    intro s' s'' h' h'' a hfirst hsecond
    obtain ⟨hopen, hopen'⟩ := Scope.isOver_of_ok (congrArg Prod.fst hfirst)
    have hcalls := s.calls_call h set.bearer.entry.recordCall
    have hcalls' := s'.calls_call h' set.refresh.entry.recordCall
    rw [hfirst] at hcalls hopen'
    rw [hsecond] at hcalls'
    rw [hcalls', hcalls, hopen, hopen', List.append_assoc]
    rfl
  cases hr with
  | bearerFailed hfirst =>
    have hcalls := s.calls_call h set.bearer.entry.recordCall
    rwa [hfirst] at hcalls
  | refreshFailed hfirst hsecond => exact hafter hfirst hsecond
  | both hfirst hsecond => exact hafter hfirst hsecond

/-- Where both calls succeed under honest faults, a registry of one process has taken both. -/
theorem Records.serves {asked : List RegistryCall} {g : Host} {m : MemoryRegistry}
    (hr : Records set s h asked (.ok set) g) (hh : h.Honest) (hm : h.registry = .memory m) :
    ∃ m', g.registry = .memory m' ∧ m.Serves h.clock set.registration m' := by
  generalize hout : (Except.ok set : Except SessionError TokenSet) = r at hr
  cases hr with
  | bearerFailed | refreshFailed => exact nomatch hout
  | @both s' s'' h' h'' hfirst hsecond =>
    obtain ⟨hregistry, hhonest⟩ := Scope.registry_of_ok hh hm (congrArg Prod.fst hfirst)
    have hclock := s.clock_call h set.bearer.entry.recordCall
    rw [hfirst] at hregistry hhonest hclock
    obtain ⟨hregistry', -⟩ := Scope.registry_of_ok hhonest hregistry (congrArg Prod.fst hsecond)
    rw [hsecond, hclock] at hregistry'
    exact ⟨_, hregistry', rfl, rfl, rfl⟩

theorem Records.eq_of_ok {set' : TokenSet} {asked : List RegistryCall} {g : Host}
    (hr : Records set s h asked (.ok set') g) : set' = set := by
  cases hr
  rfl

end Record

section Tells

/-- What a token that is made at `now` and lasts for `ttl` says when it is read again. Its expiry is
one second, whoever is told of it. -/
structure Tells (i : Issuer) (k : TokenKind) (subject : Uuid) (roles : k.Roles) (now : Instant)
    (ttl : Span) (t : IssuedToken) : Prop where
  accepted : i.codec.parseAllowExpired k now.unix t.text =
    .ok ⟨subject, roles, t.entry.jti, now.unix, (now.nanos + ttl.nanos) / 1000000000⟩
  expiry : t.entry.expiresAt = .ofUnix ((now.nanos + ttl.nanos) / 1000000000) 0

theorem tells_token {k : TokenKind} {roles : k.Roles} {now u : Instant} {ttl : Span}
    (hu : now.plus? ttl = some u) (hstart : 0 ≤ now.nanos)
    (hleeway : now.unix + i.codec.leeway < Word.signedBound) (j : Jti) :
    i.Tells k subject roles now ttl (i.token ⟨subject, roles, j, now.unix, u.unix⟩) := by
  have hunix : u.unix = (now.nanos + ttl.nanos) / 1000000000 := by
    rw [Instant.unix, (Instant.plus?_eq_some hu).1]
  refine ⟨hunix ▸ parseAllowExpired_sign i.codec roles j hu hstart hleeway, ?_⟩
  have hfirst : Instant.firstSecond ≤ u.unix := by
    simp only [hunix, Instant.firstSecond]
    omega
  have hend := Instant.unix_lt_endSecond (Instant.le_last_of_plus? hu)
  rw [← hunix]
  simp only [token, Claims.entry, Claims.expiry, Instant.ofSecondsOrFirst, hfirst, hend, and_self,
    if_true]

/-- A set of two tokens that tell of one subject. -/
structure SetTells (i : Issuer) (bearer refresh : TokenKind) (subject : Uuid)
    (roles : bearer.Roles) (refreshRoles : refresh.Roles) (now : Instant) (set : TokenSet) :
    Prop where
  distinct : set.bearer.entry.jti ≠ set.refresh.entry.jti
  bearer : i.Tells bearer subject roles now i.bearerTtl set.bearer
  refresh : i.Tells refresh subject refreshRoles now i.refreshTtl set.refresh

theorem setTells_nextSet (subject : Uuid) (roles : bearer.Roles) (refreshRoles : refresh.Roles)
    {u v : Instant} (hu : h.clock.plus? i.bearerTtl = some u)
    (hv : h.clock.plus? i.refreshTtl = some v) (hstart : 0 ≤ h.clock.nanos)
    (hleeway : h.clock.unix + i.codec.leeway < Word.signedBound)
    (hdistinct : Function.Injective h.source) :
    i.SetTells bearer refresh subject roles refreshRoles h.clock
      (i.nextSet bearer refresh subject roles refreshRoles h u v) where
  distinct heq := Nat.succ_ne_self _ (hdistinct heq).symm
  bearer := tells_token hu hstart hleeway _
  refresh := tells_token hv hstart hleeway _

end Tells

end Issuer

/-- A record made at `now` for a token that then lasts for `ttl` is not dead from the start. -/
def Retention.Holds (p : Retention) (now : Instant) (ttl : Span) : Prop :=
  1000000000 ≤ ttl.nanos ∨ p.Positive ∧ now.nanos < Instant.last.nanos

theorem Retention.Holds.live_record {p : Retention} {now : Instant} {ttl : Span}
    (hp : p.Holds now ttl) (hfits : now.nanos + ttl.nanos ≤ Instant.last.nanos) :
    (p.record .active (.ofUnix ((now.nanos + ttl.nanos) / 1000000000) 0) now).live now = true := by
  rcases hp with hlong | ⟨hpos, hlast⟩
  · refine Remembers.live_record ⟨?_, ?_⟩ .active now
    · simp only [Instant.ofUnix]
      omega
    · omega
  · exact Retention.live_record hpos hlast .active _

namespace Issuer

variable {i : Issuer} {bearer refresh : TokenKind} {subject : Uuid} {roles : bearer.Roles}
  {refreshRoles : refresh.Roles} {s : Scope} {h : Host}

/-- What becomes of an issue: no call is made unless both tokens can be, and a set is handed out if
both of its calls succeed. -/
structure Registers (i : Issuer) (bearer refresh : TokenKind) (subject : Uuid)
    (roles : bearer.Roles) (refreshRoles : refresh.Roles) (s : Scope) (h : Host)
    (out : Except SessionError TokenSet × Scope × Host) : Prop where
  outlasting : i.Outlasts h.clock →
    (∃ ttl ∈ [i.bearerTtl, i.refreshTtl], out.1 = .error (.internal (.ttlOutOfRange ttl))) ∧
      out.2.2.calls = h.calls ∧ out.2.2.registry = h.registry
  recorded : ¬ i.Outlasts h.clock → ∃ set asked g,
    i.SetTells bearer refresh subject roles refreshRoles h.clock set ∧
      Records set s h.draw.2.draw.2 asked out.1 g ∧ out.2.2.registry = g.registry ∧
      out.2.2.calls = h.calls ++ if s.isOver h.timer then [] else asked
  issued {set : TokenSet} : out.1 = .ok set →
    ¬ i.Outlasts h.clock ∧ i.SetTells bearer refresh subject roles refreshRoles h.clock set
  /-- A registry of one process then knows both tokens at the time at which they were made. -/
  active {set : TokenSet} {m : MemoryRegistry} : out.1 = .ok set → h.Honest →
    h.registry = .memory m →
    (∀ e ∈ [set.bearer.entry, set.refresh.entry], m.state h.clock e.jti ≠ .revoked) →
    ∃ m', out.2.2.registry = .memory m' ∧
      (m.retention.Holds h.clock i.bearerTtl →
        m'.state h.clock set.bearer.entry.jti = .active) ∧
      (m.retention.Holds h.clock i.refreshTtl →
        m'.state h.clock set.refresh.entry.jti = .active)

theorem state_of_holds {k : TokenKind} {roles : k.Roles} {ttl : Span} {t : IssuedToken}
    {p : Retention} {m' : MemoryRegistry} {now : Instant}
    (htells : i.Tells k subject roles now ttl t)
    (hfits : now.nanos + ttl.nanos ≤ Instant.last.nanos)
    (hget : m'.get? t.entry.jti = some (p.record .active t.entry.expiresAt now))
    (hp : p.Holds now ttl) : m'.state now t.entry.jti = .active := by
  refine MemoryRegistry.state_eq_active.mpr ⟨_, Option.filter_eq_some_iff.mpr ⟨hget, ?_⟩, rfl⟩
  rw [htells.expiry]
  exact hp.live_record hfits

theorem issue_registers (note : TokenSet → Log.Event) (s : Scope) (hstart : 0 ≤ h.clock.nanos)
    (hleeway : h.clock.unix + i.codec.leeway < Word.signedBound)
    (hdistinct : Function.Injective h.source) :
    i.Registers bearer refresh subject roles refreshRoles s h
      (Program.run (i.issue bearer refresh subject roles refreshRoles note).run s h) := by
  by_cases hout : i.Outlasts h.clock
  · obtain ⟨ttl, httl, h', hmint, hcalls, hregistry⟩ :=
      i.run_mint_of_outlasts subject roles refreshRoles s hstart hout
    rw [issue, Operation.run_bind_of_error hmint]
    exact {
      outlasting := fun _ => ⟨⟨ttl, httl, rfl⟩, hcalls, hregistry⟩
      recorded := fun hno => absurd hout hno
      issued := nofun
      active := nofun }
  have hfits : ∀ ttl ∈ [i.bearerTtl, i.refreshTtl],
      h.clock.nanos + ttl.nanos ≤ Instant.last.nanos := by
    intro ttl httl
    by_contra hlong
    exact hout ⟨ttl, httl, by omega⟩
  have hsome : ∀ ttl ∈ [i.bearerTtl, i.refreshTtl], ∃ u, h.clock.plus? ttl = some u := by
    intro ttl httl
    rw [← Option.ne_none_iff_exists', ne_eq,
      Instant.plus?_eq_none_iff (Instant.first_le_of_nonneg hstart)]
    exact fun hlong => hout ⟨ttl, httl, hlong⟩
  obtain ⟨u, hu⟩ := hsome i.bearerTtl (by simp)
  obtain ⟨v, hv⟩ := hsome i.refreshTtl (by simp)
  have htells := setTells_nextSet subject roles refreshRoles hu hv hstart hleeway hdistinct
  have hmint := i.run_mint subject roles refreshRoles s hu hv
  rw [issue, Operation.run_bind_of_ok hmint]
  generalize i.nextSet bearer refresh subject roles refreshRoles h u v = set at htells
  generalize hout' : Program.run _ s h.draw.2.draw.2 = out
  obtain ⟨asked, g, hrecords, hcalls, hregistry⟩ := records_of_set set note s _ hout'
  constructor
  case outlasting => exact fun h => absurd h hout
  case recorded =>
    intro _
    exact ⟨set, asked, g, htells, hrecords, hregistry, hcalls.trans hrecords.calls_eq⟩
  case issued =>
    intro set' hok
    rw [hok] at hrecords
    exact ⟨hout, hrecords.eq_of_ok ▸ htells⟩
  case active =>
    intro set' m hok hhonest hm hrevoked
    rw [hok] at hrecords
    obtain rfl := hrecords.eq_of_ok
    obtain ⟨m', hm', hserves⟩ := hrecords.serves hhonest hm
    have hget := get?_of_registration hserves htells.distinct hrevoked
    refine ⟨m', hregistry.trans hm', ?_, ?_⟩
    · exact state_of_holds htells.bearer (hfits _ (by simp)) (hget _ (by simp))
    · exact state_of_holds htells.refresh (hfits _ (by simp)) (hget _ (by simp))

end Issuer

/-- No record outlives the calendar, however long it is to be kept. -/
theorem MemoryRegistry.state_last (m : MemoryRegistry) (j : Jti) :
    m.state Instant.last j = .unknown := by
  rw [state_eq_unknown, Option.eq_none_iff_forall_ne_some]
  exact fun r hr => absurd (lt_last_of_live? hr) (Int.lt_irrefl _)

/-- An issue for a user or a device fails before anything is recorded if one of its tokens would
expire after the end of the calendar. Otherwise both tokens are recorded, one after the other, and
the set is handed out if both records are made. -/
theorem sets_registered_exactly (i : Issuer) (subject : Uuid) (roles : List String) (s : Scope)
    {h : Host} (hstart : 0 ≤ h.clock.nanos)
    (hleeway : h.clock.unix + i.codec.leeway < Word.signedBound)
    (hdistinct : Function.Injective h.source) :
    i.Registers .userAccess .userRefresh subject roles () s h
        (Program.run (User.issue i subject roles).run s h) ∧
      i.Registers .deviceConnection .deviceRefresh subject () () s h
        (Program.run (Device.issue i subject).run s h) :=
  ⟨Issuer.issue_registers _ s hstart hleeway hdistinct,
    Issuer.issue_registers _ s hstart hleeway hdistinct⟩

namespace Services

/-- On a new host a user gets a set of two active tokens. -/
theorem set_registered_on_fresh_host :
    let h := Host.fresh ⟨0⟩ ⟨.ofSeconds 60, .zero⟩
    (0 ≤ h.clock.nanos ∧ h.clock.unix + sample.users.codec.leeway < Word.signedBound ∧
        Function.Injective h.source) ∧
      ∃ set m',
        (Program.run (User.issue sample.users default ["viewer"]).run .patient h).1 = .ok set ∧
        (Program.run (User.issue sample.users default ["viewer"]).run .patient h).2.2.registry =
          .memory m' ∧
        m'.state h.clock set.bearer.entry.jti = .active ∧
        m'.state h.clock set.refresh.entry.jti = .active := by
  intro h
  have hdistinct : Function.Injective h.source := Host.injective_source_fresh ..
  have hregisters := (sets_registered_exactly sample.users default ["viewer"] .patient
    (h := h) (by decide) (by decide) hdistinct).1
  have hhonest : h.Honest := by simp [Host.Honest, h, Host.fresh]
  obtain ⟨m', hm', hbearer, hrefresh⟩ :=
    hregisters.active rfl hhonest rfl fun _ _ hstate => JtiState.noConfusion hstate
  exact ⟨⟨by decide, by decide, hdistinct⟩, _, m', rfl, hm', hbearer (.inl (by decide)),
    hrefresh (.inl (by decide))⟩

/-- At the last instant of the calendar both tokens of a set are unknown as soon as they are made,
although their records are to be kept for six minutes. -/
theorem unknown_once_issued_at_last :
    let h := Host.fresh .last ⟨.ofSeconds 60, .ofSeconds 300⟩
    let i : Issuer := ⟨sample.users.codec, .zero, .zero⟩
    ∃ set m', (Program.run (User.issue i default []).run .patient h).1 = .ok set ∧
      (Program.run (User.issue i default []).run .patient h).2.2.registry = .memory m' ∧
      m'.retention.Positive ∧ m'.state h.clock set.bearer.entry.jti = .unknown ∧
      m'.state h.clock set.refresh.entry.jti = .unknown := by
  intro h i
  exact ⟨_, _, rfl, rfl, by decide, MemoryRegistry.state_last _ _, MemoryRegistry.state_last _ _⟩

end Services

end SessionTokens

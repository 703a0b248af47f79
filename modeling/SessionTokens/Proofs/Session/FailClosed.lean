import SessionTokens.Proofs.Host.Timing
import SessionTokens.Proofs.Registry.Keyed
import SessionTokens.Session.Device
import SessionTokens.Session.User

/-! A token passes only if the registry itself calls it active, in time. Whatever keeps the
registry from saying so is reported as what it is: no failure of a call makes a token revoked,
and none lets it pass. -/

namespace SessionTokens

open Keyed.Server (millisecond)

/-- The same registry, as far as anyone can tell from `now` on: nothing that was live is lost or
lives longer or shorter, and nothing else is live. -/
def Backend.Keeps (now : Instant) : Backend → Backend → Prop
  | .memory m, .memory m' => m' = m
  | .keyed r, .keyed r' => r'.root = r.root ∧ r'.retention = r.retention ∧
    ∀ n key, millisecond now ≤ n → r'.server.store.has n key = r.server.store.has n key
  | _, _ => False

namespace Backend

theorem Keeps.refl (now : Instant) (b : Backend) : b.Keeps now b := by
  cases b with
  | memory m => exact rfl
  | keyed r => exact ⟨rfl, rfl, fun _ _ _ => rfl⟩

theorem keeps_call_state (now : Instant) (b : Backend) (j : Jti) :
    b.Keeps now (b.call now (.state j)).registry := by
  cases b with
  | memory m => exact rfl
  | keyed r =>
    let asked := r.runScript now .state j none
    have hstore : asked.2.server.store = r.server.store ∨
        asked.2.server.store = r.server.store.purge (millisecond now) := by
      simp only [asked, KeyedRegistry.runScript, Keyed.Server.execute]
      rcases r.server.canned with - | ⟨- | reply, more⟩
      · exact .inr (by simp [Keyed.Reply.integer?, Keyed.Store.run])
      · exact .inr (by simp [Keyed.Reply.integer?, Keyed.Store.run])
      · exact .inl (by cases reply.integer? <;> rfl)
    have hrest : asked.2.root = r.root ∧ asked.2.retention = r.retention := by
      simp only [asked, KeyedRegistry.runScript]
      split <;> exact ⟨rfl, rfl⟩
    refine ⟨hrest.1, hrest.2, fun n key hn => ?_⟩
    change asked.2.server.store.has n key = _
    rcases hstore with hstore | hstore
    · rw [hstore]
    · rw [hstore, Keyed.Store.has_purge, Int.max_eq_right hn]

end Backend

section Run

variable {α β : Type}

theorem Program.run_bind (p : Program α) (f : α → Program β) (s : Scope) (h : Host) :
    (p.bind f).run s h = (f (p.run s h).1).run (p.run s h).2.1 (p.run s h).2.2 := by
  induction p generalizing s h with
  | done a => rfl
  | readClock next ih => exact ih h.clock s h
  | drawJti next ih => exact ih h.draw.1 s h.draw.2
  | emit event next ih => exact ih s (h.log [event])
  | lookUpRoles user next ih => exact ih (h.lookUpRoles user).1 s (h.lookUpRoles user).2
  | call c next ih => exact ih (s.call h c).1 (s.call h c).2.1 (s.call h c).2.2

theorem Program.run_exceptT_bind {ε : Type} (x : ExceptT ε Program α) (f : α → ExceptT ε Program β)
    (s : Scope) (h : Host) :
    Program.run (x >>= f).run s h =
      match Program.run x.run s h with
      | (.ok a, s, h) => Program.run (f a).run s h
      | (.error e, s, h) => (.error e, s, h) := by
  rw [ExceptT.run_bind]
  refine (Program.run_bind x.run _ s h).trans ?_
  rcases Program.run x.run s h with ⟨e | a, s', h'⟩ <;> rfl

variable {op : Operation α} {f : α → Operation β} {s s' : Scope} {h h' : Host}

theorem Operation.run_bind_of_ok {a : α} (hop : Program.run op.run s h = (.ok a, s', h')) :
    Program.run (op >>= f).run s h = Program.run (f a).run s' h' := by
  rw [Program.run_exceptT_bind, hop]

theorem Operation.run_bind_of_error {e : SessionError}
    (hop : Program.run op.run s h = (.error e, s', h')) :
    Program.run (op >>= f).run s h = (.error e, s', h') := by
  rw [Program.run_exceptT_bind, hop]

theorem Operation.run_map (f : α → β) (op : Operation α) (s : Scope) (h : Host) :
    (Program.run (f <$> op).run s h).1 = (Program.run op.run s h).1.map f := by
  rw [← bind_pure_comp, Program.run_exceptT_bind]
  rcases Program.run op.run s h with ⟨- | a, s', h'⟩ <;> rfl

end Run

section Validation

variable (i : Issuer) (k : TokenKind) (token : String) (s : Scope) (h : Host)

/-- What a call about the state of an identifier comes to for a token that bears it. -/
def Ledger.verdict : Except RegistryError JtiState → Except SessionError Unit
  | .ok .active => .ok ()
  | .ok _ => .error .revokedToken
  | .error e => .error (.ofRegistry e)

theorem run_ensureActive (j : Jti) :
    let met := s.call h (.state j)
    ∃ events, Program.run (Ledger.ensureActive j).run s h =
      (Ledger.verdict met.1, met.2.1, met.2.2.log events) := by
  intro met
  have hcall : Program.run (Ledger.state j).run s h = (met.1.mapError .ofRegistry, met.2) := rfl
  rw [Ledger.ensureActive, Program.run_exceptT_bind, hcall]
  rcases met with ⟨e | st, s', h'⟩
  · exact ⟨[], by simp [Except.mapError, Ledger.verdict, Host.log]⟩
  · cases st with
    | active => exact ⟨[], by simp [Except.mapError, Ledger.verdict, Host.log]; rfl⟩
    | unknown => exact ⟨[.notActive j .unknown], rfl⟩
    | revoked => exact ⟨[.notActive j .revoked], rfl⟩

theorem run_validate :
    match i.codec.parse k h.clock.unix token with
    | .error e => Program.run (i.validate k token).run s h = (.error (.ofCodec e), s, h)
    | .ok c =>
      let met := s.call h (.state c.jti)
      ∃ events, Program.run (i.validate k token).run s h =
        ((Ledger.verdict met.1).map fun _ => c, met.2.1, met.2.2.log events) := by
  have hparse : Program.run (i.parse k token).run s h =
    ((i.codec.parse k h.clock.unix token).mapError .ofCodec, s, h) := rfl
  rw [Issuer.validate, Program.run_exceptT_bind, hparse]
  cases i.codec.parse k h.clock.unix token with
  | error e => rfl
  | ok c =>
    obtain ⟨events, hactive⟩ := run_ensureActive s h c.jti
    refine ⟨events, ?_⟩
    simp only [Except.mapError]
    rw [Program.run_exceptT_bind, hactive]
    cases Ledger.verdict (s.call h (.state c.jti)).1 <;> rfl

/-- What may become of a token that is shown under the scope `s`. -/
structure FailsClosed (i : Issuer) (k : TokenKind) (token : String) (s : Scope) (h : Host)
    (out : Except SessionError (Claims k) × Scope × Host) : Prop where
  /-- The registry is not asked about a token that cannot be read. -/
  unread {e : CodecError} : i.codec.parse k h.clock.unix token = .error e →
    out = (.error (.ofCodec e), s, h)
  passed (c : Claims k) : out.1 = .ok c ↔
    i.codec.parse k h.clock.unix token = .ok c ∧ s.Hears h (.state c.jti) (.ok .active)
  revoked {c : Claims k} {st : JtiState} : i.codec.parse k h.clock.unix token = .ok c →
    s.Hears h (.state c.jti) (.ok st) → st ≠ .active → out.1 = .error .revokedToken
  indeterminate {c : Claims k} : i.codec.parse k h.clock.unix token = .ok c →
    (∀ st, ¬ s.Hears h (.state c.jti) (.ok st)) →
    ∃ e, out.1 = .error e ∧ e.isIndeterminate = true ∧
      (e = .cancelled ↔ s.CancelledFirst h ∨ s.Hears h (.state c.jti) (.error .cancelled))
  asked {c : Claims k} : i.codec.parse k h.clock.unix token = .ok c →
    out.2.2.calls = h.calls ++ if s.isOver h.timer then [] else [.state c.jti]
  kept : h.registry.Keeps h.clock out.2.2.registry

section Met

variable {s h} {j : Jti} {a : Except RegistryError (RegistryCall.state j).Answer} {b : Backend}

theorem keeps_met (hmet : s.Met h (RegistryCall.state j) a b) : h.registry.Keeps h.clock b := by
  cases hmet with
  | cancelled | timedOut => exact .refl _ _
  | answered =>
    have hcall := h.registry.keeps_call_state h.clock j
    unfold Host.answer
    split
    · exact .refl _ _
    · split <;> exact hcall

theorem verdict_met_eq_ok (hmet : s.Met h (RegistryCall.state j) a b) :
    Ledger.verdict a = .ok () ↔ s.Hears h (.state j) (.ok .active) := by
  have hactive : Ledger.verdict a = .ok () ↔ a = .ok .active := by
    rcases a with e | st
    · exact iff_of_false nofun nofun
    · cases st <;> simp [Ledger.verdict]
  rw [hactive]
  refine ⟨fun ha => ?_, hmet.eq_of_hears⟩
  cases hmet with
  | answered hheard => exact ha ▸ hheard
  | cancelled | timedOut => exact nomatch ha

theorem verdict_met_of_unheard (hmet : s.Met h (RegistryCall.state j) a b)
    (hunheard : ∀ st, ¬ s.Hears h (.state j) (.ok st)) :
    ∃ e, Ledger.verdict a = .error e ∧ e.isIndeterminate = true ∧
      (e = .cancelled ↔ s.CancelledFirst h ∨ s.Hears h (.state j) (.error .cancelled)) := by
  cases hmet with
  | cancelled hno hfirst => exact ⟨.cancelled, rfl, rfl, by simp [hfirst]⟩
  | timedOut hno hfirst => exact ⟨.registryUnavailable "timed out", rfl, rfl, by simp [hfirst, hno]⟩
  | answered ha hfirst =>
    rcases a with e | st
    · refine ⟨.ofRegistry e, rfl, SessionError.isIndeterminate_ofRegistry e, ?_⟩
      have hsaid : s.Hears h (.state j) (.error .cancelled) ↔ e = .cancelled :=
        ⟨fun hc => Except.error.inj (ha.unique hc), fun he => he ▸ ha⟩
      simp only [hfirst, hsaid, false_or]
      cases e <;> simp [SessionError.ofRegistry]
    · exact absurd ha (hunheard st)

end Met

theorem Issuer.validate_failsClosed :
    FailsClosed i k token s h (Program.run (i.validate k token).run s h) := by
  have hrun := run_validate i k token s h
  cases hparse : i.codec.parse k h.clock.unix token with
  | error e =>
    rw [hparse] at hrun
    rw [hrun]
    constructor
    case unread => exact fun he => by rw [Except.error.inj (hparse.symm.trans he)]
    case passed => simp [hparse]
    case kept => exact .refl _ _
    all_goals simp [hparse]
  | ok c =>
    rw [hparse] at hrun
    obtain ⟨events, hrun⟩ := hrun
    have hmet := s.met_call h (.state c.jti)
    have hsame {c' : Claims k} (hc' : i.codec.parse k h.clock.unix token = .ok c') : c' = c :=
      Except.ok.inj (hc'.symm.trans hparse)
    rw [hrun]
    constructor
    case unread => exact fun he => absurd (hparse.symm.trans he) nofun
    case passed =>
      intro c'
      have hpass := verdict_met_eq_ok hmet
      have hout : ((Ledger.verdict (s.call h (.state c.jti)).1).map fun _ => c) = .ok c' ↔
          Ledger.verdict (s.call h (.state c.jti)).1 = .ok () ∧ c = c' := by
        cases Ledger.verdict (s.call h (.state c.jti)).1 <;> simp [Except.map]
      constructor
      · intro hc'
        obtain ⟨hverdict, rfl⟩ := hout.mp hc'
        exact ⟨hparse, hpass.mp hverdict⟩
      · rintro ⟨hc', hheard⟩
        obtain rfl := hsame hc'
        exact hout.mpr ⟨hpass.mpr hheard, rfl⟩
    case revoked =>
      intro c' st hc' hheard hne
      obtain rfl := hsame hc'
      simp only [hmet.eq_of_hears hheard]
      cases st with
      | active => exact absurd rfl hne
      | unknown | revoked => rfl
    case indeterminate =>
      intro c' hc' hunheard
      obtain rfl := hsame hc'
      obtain ⟨e, hverdict, he⟩ := verdict_met_of_unheard hmet hunheard
      exact ⟨e, by simp only [hverdict]; rfl, he⟩
    case asked =>
      intro c' hc'
      obtain rfl := hsame hc'
      exact s.calls_call h (.state c'.jti)
    case kept => exact keeps_met hmet

end Validation

/-- Fail closed: whatever the registry does and whenever the request ends, an access token and a
connection token pass only on the registry's own word that they are active. -/
theorem validation_fails_closed (i : Issuer) (token : String) (s : Scope) (h : Host) :
    FailsClosed i .userAccess token s h (Program.run (User.validate i token).run s h) ∧
      FailsClosed i .deviceConnection token s h (Program.run (Device.validate i token).run s h) :=
  ⟨i.validate_failsClosed .userAccess token s h, i.validate_failsClosed .deviceConnection token s h⟩

end SessionTokens

import SessionTokens.Proofs.Host.Alone
import SessionTokens.Proofs.Host.Progress
import SessionTokens.Proofs.Session.Ledger

/-! Entries that a program tries to revoke, each whatever became of the one before, and what this
leaves of a registry of one process. -/

namespace SessionTokens

open Program Operation

def Entry.revoking (e : Entry) : RegistryCall := .revoke e.jti e.expiresAt

/-- A revocation that was tried, and what it was answered. -/
structure Try where
  entry : Entry
  answer : Except RegistryError RevokeOutcome

namespace Try

def occurrence (t : Try) : Occurrence := t.entry.revocation t.answer

def Succeeds (t : Try) : Prop := ∃ o, t.answer = .ok o

def failure? (t : Try) : Option RegistryError :=
  match t.answer with
  | .ok _ => none
  | .error e => some e

/-- The first failure counts. -/
def report (ts : List Try) : Except SessionError Unit :=
  match ts.findSome? (·.failure?) with
  | none => .ok ()
  | some e => .error (.ofRegistry e)

variable {t : Try} {ts : List Try}

theorem failure?_eq_none : t.failure? = none ↔ t.Succeeds := by
  obtain ⟨e, x | o⟩ := t <;> simp [failure?, Succeeds]

theorem failure?_eq_some {x : RegistryError} : t.failure? = some x ↔ t.answer = .error x := by
  obtain ⟨e, y | o⟩ := t <;> simp [failure?]

theorem report_eq_ok : report ts = .ok () ↔ ∀ t ∈ ts, t.Succeeds := by
  simp only [← failure?_eq_none, ← List.findSome?_eq_none_iff, report]
  cases ts.findSome? (·.failure?) <;> simp

theorem report_eq_error {e : SessionError} : report ts = .error e ↔
    ∃ before t after x, ts = before ++ t :: after ∧ (∀ b ∈ before, b.Succeeds) ∧
      t.answer = .error x ∧ e = .ofRegistry x := by
  have hfirst : report ts = .error e ↔
      ∃ x, ts.findSome? (·.failure?) = some x ∧ e = .ofRegistry x := by
    rw [report]
    cases ts.findSome? (·.failure?) <;> simp [eq_comm]
  simp only [hfirst, List.findSome?_eq_some_iff, failure?_eq_none, failure?_eq_some]
  constructor
  · rintro ⟨x, ⟨before, t, after, rfl, hx, hbefore⟩, rfl⟩
    exact ⟨before, t, after, x, rfl, hbefore, hx, rfl⟩
  · rintro ⟨before, t, after, x, rfl, hbefore, hx, rfl⟩
    exact ⟨x, ⟨before, t, after, rfl, hx, hbefore⟩, rfl⟩

end Try

/-- The program does nothing at `now` but try to revoke the entries, one after the other, and
report. -/
def Program.Tries (p : Program (Except SessionError Unit)) (now : Instant) (es : List Entry) :
    Prop :=
  ∀ os r, p.Yields os r → (∀ t, .clock t ∈ os → t = now) →
    ∃ ts : List Try, ts.map (·.entry) = es ∧ dealings os = ts.map (·.occurrence) ∧
      r = Try.report ts

/-- What comes of entries that a program tries to revoke. -/
structure Withdraws (p : Program (Except SessionError Unit)) (es : List Entry) (s : Scope)
    (h : Host) (m : MemoryRegistry) (ts : List Try) (m' : MemoryRegistry) : Prop where
  tried : ts.map (·.entry) = es
  attempted : dealings (p.course s h) = ts.map (·.occurrence)
  /-- The registry sees all of these calls, unless the scope is cancelled. -/
  begun : ∃ cs : List RegistryCall, (p.run s h).2.2.calls = h.calls ++ cs ∧
    cs.Sublist (es.map (·.revoking)) ∧ (s.Uncancelled h → cs = es.map (·.revoking))
  registry : (p.run s h).2.2.registry = .memory m'
  succeeded : (p.run s h).1 = .ok () ↔ ∀ t ∈ ts, t.Succeeds
  failed {e : SessionError} : (p.run s h).1 = .error e ↔
    ∃ before t after x, ts = before ++ t :: after ∧ (∀ b ∈ before, b.Succeeds) ∧
      t.answer = .error x ∧ e = .ofRegistry x
  /-- What has been revoked stays so, at whatever time one asks, until it is recorded anew. -/
  inForce {t : Try} : t ∈ ts → t.Succeeds → m'.Withdrawn t.entry.jti ∧
    ∀ calls : List (Instant × RegistryCall), (∀ c ∈ calls, ∀ e, c.2 ≠ .record t.entry.jti e) →
      ∀ u, (m'.after calls).state u t.entry.jti ≠ .active
  kept {j : Jti} : (∀ t ∈ ts, t.Succeeds → t.entry.jti ≠ j) → m'.get? j = m.get? j
  again {s' : Scope} {h' : Host} : Smooth s' h' → h'.clock = h.clock →
    h'.registry = .memory m' → (p.run s' h').1 = .ok () ∧
      ((p.run s h).1 = .ok () → ∃ m'', (p.run s' h').2.2.registry = .memory m'' ∧
        ∀ j, m''.get? j = m'.get? j)

section Serves

variable {m m' : MemoryRegistry} {now : Instant} {ts : List Try}

theorem answered_of_tries {c : RegistryCall} {x : c.Answer}
    (h : .called c (.ok x) ∈ ts.map (·.occurrence)) :
    ∃ t ∈ ts, c = t.entry.revoking ∧ t.Succeeds := by
  obtain ⟨⟨e, y⟩, ht, hc⟩ := List.mem_map.mp h
  refine ⟨_, ht, ?_⟩
  cases y with
  | ok o => exact ⟨(Occurrence.called.inj hc).1.symm, o, rfl⟩
  | error f => exact nomatch hc

theorem exists_tries {es : List Entry} {os : List Occurrence}
    (h : ∀ o ∈ os, ∃ e ∈ es, ∃ x, o = e.revocation x) :
    ∃ ts : List Try, os = ts.map (·.occurrence) ∧ ∀ t ∈ ts, t.entry ∈ es := by
  induction os with
  | nil => exact ⟨[], rfl, nofun⟩
  | cons o os ih =>
    obtain ⟨⟨e, he, x, rfl⟩, hrest⟩ := List.forall_mem_cons.mp h
    obtain ⟨ts, rfl, hts⟩ := ih hrest
    exact ⟨⟨e, x⟩ :: ts, rfl, List.forall_mem_cons.mpr ⟨he, hts⟩⟩

theorem revoked_of_tries {e : Entry} {o : RevokeOutcome}
    (h : m.Serves now ((⟨e, .ok o⟩ :: ts : List Try).map (·.occurrence)) m')
    (hlater : now.nanos < (m.retention.deadline e.expiresAt now).nanos) :
    m'.state now e.jti = .revoked := by
  refine (MemoryRegistry.serves_answered.mp h).2.state_of_revoked ?_
  by_cases hs : m.state now e.jti = .revoked
  · exact MemoryRegistry.state_call_of_revoked (Int.le_refl _) hs _
  · have hget := m.get?_call_revoke now e.jti e.jti e.expiresAt
    rw [if_pos ⟨rfl, hs⟩] at hget
    exact MemoryRegistry.state_eq_revoked_of_get? hget rfl (decide_eq_true hlater)

theorem eq_after_of_tries (h : m.Serves now (ts.map (·.occurrence)) m')
    (hts : ∀ t ∈ ts, t.Succeeds) :
    m' = m.after (MemoryRegistry.revocations now
      ((ts.map (·.entry)).map fun e => (e.jti, e.expiresAt))) := by
  induction ts generalizing m with
  | nil => exact h
  | cons t ts ih =>
    obtain ⟨e, x⟩ := t
    obtain ⟨⟨o, ho⟩, hrest⟩ := List.forall_mem_cons.mp hts
    obtain rfl : x = .ok o := ho
    exact ih (m := (m.call now e.revoking).2) (MemoryRegistry.serves_answered.mp h).2 hrest

theorem withdrawn_of_tries {t : Try} (h : m.Serves now (ts.map (·.occurrence)) m') (ht : t ∈ ts)
    (hsucceeds : t.Succeeds) : m'.Withdrawn t.entry.jti := by
  obtain ⟨before, after, rfl⟩ := List.append_of_mem ht
  obtain ⟨e, x⟩ := t
  obtain ⟨o, rfl⟩ := hsucceeds
  rw [List.map_append, List.map_cons] at h
  refine MemoryRegistry.Serves.withdrawn_of_revoked h fun c y hc => ?_
  obtain ⟨t, -, rfl, -⟩ := answered_of_tries hc
  exact ⟨nofun, nofun⟩

theorem get?_of_tries {j : Jti} (h : m.Serves now (ts.map (·.occurrence)) m')
    (hts : ∀ t ∈ ts, t.Succeeds → t.entry.jti ≠ j) : m'.get? j = m.get? j := by
  refine h.get?_eq fun c x hc => ?_
  obtain ⟨t, ht, rfl, hsucceeds⟩ := answered_of_tries hc
  exact ⟨nofun, fun mark hmark => hts t ht hsucceeds (Prod.mk.inj (Option.some.inj hmark)).1⟩

end Serves

theorem Program.Tries.withdraws {p : Program (Except SessionError Unit)} {es : List Entry}
    {s : Scope} {h : Host} {m : MemoryRegistry} (hp : p.Tries h.clock es)
    (hm : h.registry = .memory m) (hh : h.Honest) :
    ∃ ts m', Withdraws p es s h m ts m' := by
  obtain ⟨ts, rfl, hdealings, hresult⟩ :=
    hp _ _ (p.yields_course s h) fun t => clock_of_course
  obtain ⟨m', hm', hserves⟩ := (p.follows_course steady_honest hh).1.serves (m := m) hm
  change m.Serves h.clock (p.course s h) m' at hserves
  rw [← MemoryRegistry.serves_dealings, hdealings] at hserves
  refine ⟨ts, m', rfl, hdealings, ?begun, hm', ?succeeded, ?failed, ?inForce,
    get?_of_tries hserves, ?again⟩
  case begun =>
    have hcalls : (p.course s h).filterMap (·.call?) = (ts.map (·.entry)).map (·.revoking) := by
      rw [← calls_dealings, hdealings]
      rw [List.filterMap_map, List.map_map]
      exact congrFun List.filterMap_eq_map ts
    rw [← hcalls]
    exact p.calls_run s h
  case succeeded => rw [hresult, Try.report_eq_ok]
  case failed => exact fun {e} => by rw [hresult, Try.report_eq_error]
  case inForce =>
    intro t ht hsucceeds
    have hwithdrawn := withdrawn_of_tries hserves ht hsucceeds
    exact ⟨hwithdrawn, fun calls hcalls u => (hwithdrawn.spent.after hcalls).state_ne_active u⟩
  case again =>
    intro s' h' hs' hclock hm'
    obtain ⟨ts', hes, hdealings', hresult'⟩ :=
      hp _ _ (p.yields_course s' h') fun t ht => (clock_of_course ht).trans hclock
    obtain ⟨hfollows, hsmooth, -⟩ := p.follows_course steady_smooth hs'
    obtain ⟨m'', hm'', hserves'⟩ := hfollows.serves (m := m') hm'
    change m'.Serves h'.clock (p.course s' h') m'' at hserves'
    rw [← MemoryRegistry.serves_dealings, hdealings', hclock] at hserves'
    have hall : ∀ t ∈ ts', t.Succeeds := by
      rintro ⟨e, x⟩ ht
      cases x with
      | ok o => exact ⟨o, rfl⟩
      | error x =>
        have hmem : e.revocation (.error x) ∈ p.course s' h' :=
          mem_of_mem_dealings (hdealings' ▸ List.mem_map_of_mem ht)
        exact nomatch hsmooth _ hmem
    refine ⟨hresult'.trans (Try.report_eq_ok.mpr hall), fun hok => ⟨m'', hm'', fun j => ?_⟩⟩
    -- both times the same entries are revoked at the same time, and all of them are answered
    have hfirst := eq_after_of_tries hserves (Try.report_eq_ok.mp (hresult.symm.trans hok))
    have hsecond := eq_after_of_tries hserves' hall
    rw [hes] at hsecond
    rw [hsecond, hfirst]
    exact MemoryRegistry.get?_revocations_again m h.clock _ j

end SessionTokens

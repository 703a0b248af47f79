import SessionTokens.Proofs.Registry.Keyed
import SessionTokens.Proofs.Registry.Memory

/-! A registry on a key server and the registry of a single process cannot be told apart by what
they answer, as long as all times are ones that both can express. -/

namespace SessionTokens

open Keyed (activeKey revokedKey ttlMillis)

open Keyed.Server (millisecond)

namespace Instant

/-- A whole millisecond of the calendar. -/
def OnMillisecond (t : Instant) : Prop := t.nanos % 1000000 = 0 ∧ t.inRange = true

def OnSecond (t : Instant) : Prop := t.nanos % 1000000000 = 0

instance (t : Instant) : Decidable t.OnMillisecond := inferInstanceAs (Decidable (_ ∧ _))

instance (t : Instant) : Decidable t.OnSecond := inferInstanceAs (Decidable (_ = _))

variable {t u : Instant}

theorem OnMillisecond.nanos_eq (h : t.OnMillisecond) : t.nanos = millisecond t * 1000000 := by
  have hm := h.1
  simp only [millisecond]
  omega

theorem OnMillisecond.bounds (h : t.OnMillisecond) :
    first.nanos ≤ t.nanos ∧ t.nanos ≤ last.nanos :=
  inRange_iff.mp h.2

end Instant

namespace Retention

def OnSeconds (p : Retention) : Prop :=
  p.fallback.nanos % 1000000000 = 0 ∧ p.skew.nanos % 1000000000 = 0

instance (p : Retention) : Decidable p.OnSeconds := inferInstanceAs (Decidable (_ ∧ _))

variable {p : Retention} {expiresAt now u : Instant}

theorem ttl_nanos_eq (hp : p.OnSeconds) (he : expiresAt.OnSecond) (hnow : now.OnMillisecond)
    (hlt : (p.ttl expiresAt now).millis < Word.signedBound) :
    (p.ttl expiresAt now).nanos = (p.ttl expiresAt now).millis * 1000000 := by
  obtain ⟨hf, hs⟩ := hp
  have hn := hnow.1
  have hmost := Span.nanos_most
  simp only [Instant.OnSecond] at he
  have hrest : (now.timeTo expiresAt).nanos % 1000000 = 0 := by
    simp only [Instant.timeTo]
    omega
  simp only [Span.millis, nanos_ttl_eq_min, Word.signedBound] at hlt ⊢
  omega

theorem one_le_ttlMillis (p : Retention) (expiresAt now : Instant) :
    1 ≤ ttlMillis p expiresAt now :=
  Nat.le_max_right ..

theorem ttlMillis_of_lt (h : (p.ttl expiresAt now).millis < Word.bound) :
    ttlMillis p expiresAt now = max (p.ttl expiresAt now).millis 1 := by
  rw [ttlMillis, Nat.mod_eq_of_lt h]

theorem ttlMillis_eq (hpos : p.Positive) (hp : p.OnSeconds) (he : expiresAt.OnSecond)
    (hnow : now.OnMillisecond) (hlt : (p.ttl expiresAt now).millis < Word.signedBound) :
    ttlMillis p expiresAt now = (p.ttl expiresAt now).millis := by
  have hnanos := ttl_nanos_eq hp he hnow hlt
  have httl := ttl_pos hpos expiresAt now
  have hbound : (p.ttl expiresAt now).millis < Word.bound := by
    rw [Word.signedBound] at hlt
    rw [Word.bound]
    omega
  rw [ttlMillis_of_lt hbound]
  omega

/-- The calendar ends where no clock that counts milliseconds can see it. -/
theorem live_record_iff (hpos : p.Positive) (hp : p.OnSeconds) (he : expiresAt.OnSecond)
    (hnow : now.OnMillisecond) (hlt : (p.ttl expiresAt now).millis < Word.signedBound)
    (hu : u.OnMillisecond) (mark : Mark) :
    (p.record mark expiresAt now).live u = true ↔
      millisecond u < millisecond now + ttlMillis p expiresAt now := by
  have hnanos := ttl_nanos_eq hp he hnow hlt
  have hnow' := hnow.nanos_eq
  have hu' := hu.nanos_eq
  have hfirst := hnow.bounds.1
  have hlast := hu.bounds.2
  have hlongest : (p.ttl expiresAt now).nanos ≤ Span.longest.nanos := by
    rw [hnanos, Span.longest, Span.ofMillis]
    exact Nat.mul_le_mul_right _ (Nat.le_pred_of_lt hlt)
  rw [ttlMillis_eq hpos hp he hnow hlt]
  simp only [record, Record.live, deadline, Instant.plusClamped, Instant.plus?, if_pos hlongest,
    decide_eq_true_eq]
  split
  · simp only [Option.getD_some]
    omega
  · rename_i hout
    simp only [Instant.inRange, Bool.and_eq_true, decide_eq_true_eq, not_and] at hout
    simp only [Option.getD_none]
    simp only [Instant.first, Instant.last, Instant.ofUnix, Instant.firstSecond,
      Instant.endSecond] at *
    omega

end Retention

def Mark.state : Mark → JtiState
  | .active => .active
  | .revoked => .revoked

theorem MemoryRegistry.state_put_at (m : MemoryRegistry) (j k : Jti) (r : Record) (u : Instant) :
    (m.put j r).state u k =
      if k = j then (if r.live u = true then r.mark.state else .unknown) else m.state u k := by
  by_cases hk : k = j
  · subst k
    by_cases hl : r.live u = true
    · rw [state_put hl, if_pos rfl, if_pos hl]
      cases r.mark <;> rfl
    · rw [if_pos rfl, if_neg hl]
      exact state_eq_unknown.mpr (by rw [live?_put, if_pos rfl, if_neg hl])
  · rw [if_neg hk]
    exact state_congr (by rw [live?_put, if_neg hk])

/-- What is marked at a time that a key server can express, and for how long. -/
structure RegistryCall.Suits (c : RegistryCall) (p : Retention) (now : Instant) : Prop where
  onMillisecond : now.OnMillisecond
  marks : c ≠ .stats
  onSecond : ∀ e ∈ c.expiry?, e.OnSecond
  fits : ∀ e ∈ c.expiry?, (p.ttl e now).millis < Word.signedBound

/-- A server takes the key of whatever a call at `now` marks. One that has no last millisecond does
so for every call. -/
def Keyed.Server.Keeps (s : Keyed.Server) (p : Retention) (now : Instant) (c : RegistryCall) :
    Prop :=
  ∀ e ∈ c.expiry?, s.takes (millisecond now + ttlMillis p e now) = true

instance (s : Keyed.Server) (p : Retention) (now : Instant) (c : RegistryCall) :
    Decidable (s.Keeps p now c) :=
  inferInstanceAs (Decidable (∀ e ∈ c.expiry?, _))

namespace KeyedRegistry

variable {r : KeyedRegistry} {m : MemoryRegistry} {t now : Instant} {j : Jti}

/-- The registry with another store behind it, and other commands sent to it. -/
def withStore (r : KeyedRegistry) (store : Keyed.Store) (sent : List Keyed.Command) :
    KeyedRegistry :=
  { r with server := { r.server with store, sent } }

/-- A script runs on what is left when the dead keys are dropped. -/
theorem runScript_eq (h : r.server.canned = []) (now : Instant) (script : Keyed.Script) (j : Jti)
    (ttl : Option Nat) :
    let out := (r.server.store.purge (millisecond now)).run r.server.takes (millisecond now) script
      (activeKey r.root j) (revokedKey r.root j) (ttl.getD 0)
    ∃ sent, r.runScript now script j ttl =
      (out.1.elim (.error .server) .ok, r.withStore out.2 sent) := by
  obtain ⟨root, p, ⟨store, horizon, page, selects, canned, sent⟩⟩ := r
  obtain rfl : canned = [] := h
  intro out
  refine ⟨sent ++ [.run script (activeKey root j) (revokedKey root j) ttl], ?_⟩
  simp only [runScript, Keyed.Server.execute, List.drop_nil]
  -- a script without a status comes to a reply that holds no number
  generalize hrun : Keyed.Store.run _ _ _ _ _ _ _ = done
  obtain rfl : done = out := hrun.symm
  cases out.1 <;> rfl

theorem state_eq (h : r.server.canned = []) (now : Instant) (j : Jti) :
    (r.state now j).1 = .ok (r.server.store.state r.root (millisecond now) j) := by
  obtain ⟨sent, hrun⟩ := runScript_eq h now .state j none
  rw [Keyed.Store.run_state, Keyed.Store.state_purge _ _ (Int.le_refl _)] at hrun
  rw [state, hrun]
  cases r.server.store.state r.root (millisecond now) j <;> rfl

/-- From `t` on, both registries say the same of every identifier, and none has two keys. -/
structure Mirrors (r : KeyedRegistry) (m : MemoryRegistry) (t : Instant) : Prop where
  retention : r.retention = m.retention
  uncanned : r.server.canned = []
  state (j : Jti) (u : Instant) : t.nanos ≤ u.nanos → u.OnMillisecond →
    r.server.store.state r.root (millisecond u) j = m.state u j
  apart (j : Jti) (n : Int) : ¬ r.server.store.HasBoth r.root n j

namespace Mirrors

variable {store : Keyed.Store} {sent : List Keyed.Command} {expiresAt : Instant}

theorem purged (h : r.Mirrors m t) (ht : t.nanos ≤ now.nanos) (hnow : now.OnMillisecond)
    (j : Jti) :
    (r.server.store.purge (millisecond now)).state r.root (millisecond now) j = m.state now j := by
  rw [Keyed.Store.state_purge _ _ (Int.le_refl _), h.state j now ht hnow]

theorem apart_purged (h : r.Mirrors m t) (j : Jti) (n k : Int) :
    ¬ (r.server.store.purge k).HasBoth r.root n j := by
  rintro ⟨ha, hr⟩
  rw [Keyed.Store.has_purge] at ha hr
  exact h.apart j (max k n) ⟨ha, hr⟩

theorem kept (h : r.Mirrors m t) (ht : t.nanos ≤ now.nanos) (sent : List Keyed.Command) :
    (r.withStore (r.server.store.purge (millisecond now)) sent).Mirrors m now where
  retention := h.retention
  uncanned := h.uncanned
  state j u hu hu' := by
    have hle : millisecond now ≤ millisecond u := Int.ediv_le_ediv (by decide) hu
    have hstate := h.state j u (by omega) hu'
    rw [← hstate]
    exact Keyed.Store.state_purge _ _ hle j
  apart j n := h.apart_purged j n _

section Marked

variable (hpos : m.retention.Positive) (hsec : m.retention.OnSeconds)
  (hnow : now.OnMillisecond) (he : expiresAt.OnSecond)
  (hfits : (m.retention.ttl expiresAt now).millis < Word.signedBound)
include hpos hsec hnow he hfits

theorem marked_active (h : r.Mirrors m t) (ht : t.nanos ≤ now.nanos)
    (hj : m.state now j ≠ .revoked) (sent : List Keyed.Command) :
    (r.withStore ((r.server.store.purge (millisecond now)).set (activeKey r.root j)
        (millisecond now + ttlMillis m.retention expiresAt now)) sent).Mirrors
      (m.put j (m.retention.record .active expiresAt now)) now := by
  have hkept := h.kept ht sent
  have hrev : ∀ n, (r.server.store.purge (millisecond now)).has n (revokedKey r.root j) =
      false := by
    refine Keyed.Store.has_purge_of_not_has ?_
    have hstate := h.purged ht hnow j
    by_contra hhas
    refine hj (hstate.symm.trans ?_)
    simp only [Bool.not_eq_false] at hhas
    simp [Keyed.Store.state, hhas]
  refine ⟨h.retention, h.uncanned, fun k u hu hu' => ?_, fun k n => ?_⟩
  · have hlive := Retention.live_record_iff hpos hsec he hnow hfits hu' .active
    have hother : (r.server.store.purge (millisecond now)).state r.root (millisecond u) k =
        m.state u k := hkept.state k u hu hu'
    rw [MemoryRegistry.state_put_at]
    refine (Keyed.Store.state_set_active (hrev _)).trans ?_
    simp only [hlive, hother]
    rfl
  · exact Keyed.Store.not_hasBoth_set_active (fun i => h.apart_purged i n _) (hrev n)

theorem marked_revoked (h : r.Mirrors m t) (ht : t.nanos ≤ now.nanos) (j : Jti)
    (sent : List Keyed.Command) :
    (r.withStore (((r.server.store.purge (millisecond now)).delete (activeKey r.root j)).set
        (revokedKey r.root j) (millisecond now + ttlMillis m.retention expiresAt now))
      sent).Mirrors (m.put j (m.retention.record .revoked expiresAt now)) now := by
  have hkept := h.kept ht sent
  refine ⟨h.retention, h.uncanned, fun k u hu hu' => ?_, fun k n => ?_⟩
  · have hlive := Retention.live_record_iff hpos hsec he hnow hfits hu' .revoked
    have hother : (r.server.store.purge (millisecond now)).state r.root (millisecond u) k =
        m.state u k := hkept.state k u hu hu'
    rw [MemoryRegistry.state_put_at]
    refine Keyed.Store.state_set_revoked.trans ?_
    simp only [hlive, hother]
    rfl
  · exact Keyed.Store.not_hasBoth_set_revoked fun i => h.apart_purged i n _

end Marked

/-- The step: a call is answered alike, and what both registries say afterwards is alike. -/
theorem call (h : r.Mirrors m t) (ht : t.nanos ≤ now.nanos) (hpos : m.retention.Positive)
    (hsec : m.retention.OnSeconds) {c : RegistryCall} (hc : c.Suits m.retention now)
    (hkeeps : r.server.Keeps m.retention now c) :
    (r.call now c).answer = .ok (m.call now c).1 ∧
      ∃ store sent, (r.call now c).registry = .keyed (r.withStore store sent) ∧
        (r.withStore store sent).Mirrors (m.call now c).2 now := by
  have hnow := hc.onMillisecond
  cases c with
  | record j e =>
    obtain ⟨sent, hrun⟩ :=
      runScript_eq h.uncanned now .record j (some (ttlMillis r.retention e now))
    have he := hc.onSecond e rfl
    have hfits := hc.fits e rfl
    have hset : m.state now j ≠ .revoked → _ :=
      fun hj => h.marked_active hpos hsec hnow he hfits ht hj sent
    rw [Option.getD_some, Keyed.Store.run_record, h.purged ht hnow, h.retention,
      if_pos (hkeeps e rfl)] at hrun
    cases hj : m.state now j <;> rw [hj] at hrun <;>
      simp only [KeyedRegistry.call, KeyedRegistry.record, h.retention, hrun,
        MemoryRegistry.call, MemoryRegistry.record, hj]
    case revoked => exact ⟨rfl, _, _, rfl, h.kept ht sent⟩
    all_goals exact ⟨rfl, _, _, rfl, hset (by simp [hj])⟩
  | revoke j e =>
    obtain ⟨sent, hrun⟩ :=
      runScript_eq h.uncanned now .revoke j (some (ttlMillis r.retention e now))
    have he := hc.onSecond e rfl
    have hfits := hc.fits e rfl
    have hset := h.marked_revoked hpos hsec hnow he hfits ht j sent
    rw [Option.getD_some, Keyed.Store.run_revoke, h.purged ht hnow, h.retention] at hrun
    simp only [if_pos (hkeeps e rfl)] at hrun
    cases hj : m.state now j <;> rw [hj] at hrun <;>
      simp only [KeyedRegistry.call, KeyedRegistry.revoke, h.retention, hrun,
        MemoryRegistry.call, MemoryRegistry.revoke, hj]
    case revoked => exact ⟨rfl, _, _, rfl, h.kept ht sent⟩
    all_goals exact ⟨rfl, _, _, rfl, hset⟩
  | state j =>
    obtain ⟨sent, hrun⟩ := runScript_eq h.uncanned now .state j none
    rw [Keyed.Store.run_state, h.purged ht hnow] at hrun
    simp only [KeyedRegistry.call, KeyedRegistry.state, hrun, MemoryRegistry.call]
    refine ⟨?_, _, _, rfl, h.kept ht sent⟩
    cases m.state now j <;> rfl
  | stats => exact absurd rfl hc.marks

end Mirrors

theorem mirrors_empty {p : Retention} {server : Keyed.Server} (hstore : server.store = .empty)
    (hcanned : server.canned = []) (root : String) (t : Instant) :
    (KeyedRegistry.mk root p server).Mirrors (.empty p) t := by
  have hno : ∀ n key, server.store.has n key = false := fun _ _ => by rw [hstore]; rfl
  refine ⟨rfl, hcanned, fun j u _ _ => ?_, fun j n hboth => ?_⟩
  · simp only [Keyed.Store.state, hno]
    rfl
  · simp [Keyed.Store.HasBoth, hno] at hboth

end KeyedRegistry

/-- What is asked of a registry about identifiers. -/
inductive Inquiry where
  | record (jti : Jti) (expiresAt : Instant)
  | revoke (jti : Jti) (expiresAt : Instant)
  | state (jti : Jti)
  /-- Whether a token with it is to be turned away, which is read off its state. -/
  | isRevoked (jti : Jti)
  deriving DecidableEq, Repr

namespace Inquiry

def call : Inquiry → RegistryCall
  | record j e => .record j e
  | revoke j e => .revoke j e
  | state j => .state j
  | isRevoked j => .state j

abbrev Answer : Inquiry → Type
  | record _ _ => Unit
  | revoke _ _ => RevokeOutcome
  | state _ => JtiState
  | isRevoked _ => Bool

instance (q : Inquiry) : DecidableEq q.Answer :=
  match q with
  | record _ _ => inferInstanceAs (DecidableEq Unit)
  | revoke _ _ => inferInstanceAs (DecidableEq RevokeOutcome)
  | state _ => inferInstanceAs (DecidableEq JtiState)
  | isRevoked _ => inferInstanceAs (DecidableEq Bool)

def read : (q : Inquiry) → q.call.Answer → q.Answer
  | record _ _, answer => answer
  | revoke _ _, answer => answer
  | state _, answer => answer
  | isRevoked _, answer => answer.isRevoked

/-- An inquiry with what came of it. -/
abbrev Settled : Type := (q : Inquiry) × Except RegistryError q.Answer

/-- What is asked one after the other, at times that both registries can express. -/
structure Timely (p : Retention) (asked : List (Instant × Inquiry)) : Prop where
  inOrder : asked.Pairwise (·.1.nanos ≤ ·.1.nanos)
  suits : ∀ a ∈ asked, a.2.call.Suits p a.1

theorem Timely.of_append {p : Retention} {front back : List (Instant × Inquiry)}
    (h : Timely p (front ++ back)) : Timely p front where
  inOrder := (List.pairwise_append.mp h.inOrder).1
  suits a ha := h.suits a (List.mem_append_left _ ha)

end Inquiry

namespace Backend

def inquire (b : Backend) (now : Instant) (q : Inquiry) :
    Except RegistryError q.Answer × Backend :=
  let result := b.call now q.call
  (result.answer.map q.read, result.registry)

def history (b : Backend) : List (Instant × Inquiry) → List Inquiry.Settled × Backend
  | [] => ([], b)
  | (now, q) :: asked =>
    let (answer, after) := b.inquire now q
    let (settled, last) := after.history asked
    (⟨q, answer⟩ :: settled, last)

end Backend

/-- The run: from registries that mirror each other, all that is asked is answered alike. -/
theorem KeyedRegistry.Mirrors.history {r : KeyedRegistry} {m : MemoryRegistry} {t : Instant}
    {asked : List (Instant × Inquiry)} (h : r.Mirrors m t) (hpos : m.retention.Positive)
    (hsec : m.retention.OnSeconds) (hasked : Inquiry.Timely m.retention asked)
    (hkeeps : ∀ a ∈ asked, r.server.Keeps m.retention a.1 a.2.call)
    (hstart : ∀ a ∈ asked, t.nanos ≤ a.1.nanos) :
    ∃ settled store sent m' t',
      (Backend.keyed r).history asked = (settled, .keyed (r.withStore store sent)) ∧
      (Backend.memory m).history asked = (settled, .memory m') ∧
      (∀ s ∈ settled, ∃ answer, s.2 = .ok answer) ∧ (r.withStore store sent).Mirrors m' t' := by
  induction asked generalizing r m t with
  | nil => exact ⟨[], r.server.store, r.server.sent, m, t, rfl, rfl, by simp, h⟩
  | cons a asked ih =>
    obtain ⟨now, q⟩ := a
    obtain ⟨hlater, horder⟩ := List.pairwise_cons.mp hasked.inOrder
    have hnow : t.nanos ≤ now.nanos := hstart _ List.mem_cons_self
    have hsuits := hasked.suits _ List.mem_cons_self
    obtain ⟨hanswer, store, sent, hr', hnext⟩ :=
      h.call hnow hpos hsec hsuits (hkeeps _ List.mem_cons_self)
    have hretention := m.retention_call now q.call
    have hrest : Inquiry.Timely (m.call now q.call).2.retention asked := by
      rw [hretention]
      exact ⟨horder, fun a ha => hasked.suits a (List.mem_cons_of_mem _ ha)⟩
    obtain ⟨settled, store', sent', m', t', hk, hm, hok, hlast⟩ :=
      ih hnext (hretention ▸ hpos) (hretention ▸ hsec) hrest
        (hretention ▸ fun a ha => hkeeps a (List.mem_cons_of_mem _ ha)) hlater
    refine ⟨⟨q, .ok (q.read (m.call now q.call).1)⟩ :: settled, store', sent', m', t', ?_, ?_, ?_,
      hlast⟩
    · simp only [Backend.history, Backend.inquire, Backend.call, hanswer, hr', hk]
      rfl
    · simp only [Backend.history, Backend.inquire, Backend.call, hm]
      rfl
    · intro s hs
      obtain rfl | hs := List.mem_cons.mp hs
      · exact ⟨_, rfl⟩
      · exact hok s hs

/-- Whatever is asked, a registry on a fresh key server that takes its keys and a fresh registry of
one process give the same answers, and the key server never holds both keys of an identifier. -/
theorem registries_interchangeable {p : Retention} (hpos : p.Positive) (hsec : p.OnSeconds)
    (root : String) {server : Keyed.Server} (hstore : server.store = .empty)
    (hcanned : server.canned = []) {asked : List (Instant × Inquiry)}
    (hasked : Inquiry.Timely p asked) (hkeeps : ∀ a ∈ asked, server.Keeps p a.1 a.2.call) :
    let keyed : Backend := .keyed ⟨root, p, server⟩
    let memory : Backend := .memory (.empty p)
    (keyed.history asked).1 = (memory.history asked).1 ∧
      (∀ s ∈ (keyed.history asked).1, ∃ answer, s.2 = .ok answer) ∧
      ∀ front back, asked = front ++ back →
        ∃ r, (keyed.history front).2 = .keyed r ∧ ∀ j n, ¬ r.server.store.HasBoth root n j := by
  intro keyed memory
  have hstart : ∀ a ∈ asked, Instant.first.nanos ≤ a.1.nanos :=
    fun a ha => (hasked.suits a ha).onMillisecond.bounds.1
  have hmirrors := KeyedRegistry.mirrors_empty (p := p) hstore hcanned root Instant.first
  obtain ⟨settled, store, sent, m, t, hk, hm, hok, -⟩ :=
    hmirrors.history hpos hsec hasked hkeeps hstart
  refine ⟨?_, ?_, ?_⟩
  · rw [hk, hm]
  · rw [hk]
    exact hok
  · rintro front back rfl
    obtain ⟨_, store, sent, _, _, hk, -, -, hlast⟩ := hmirrors.history hpos hsec hasked.of_append
      (fun a ha => hkeeps a (List.mem_append_left _ ha))
      fun a ha => hstart a (List.mem_append_left _ ha)
    exact ⟨_, congrArg Prod.snd hk, hlast.apart⟩

/-- A record dies on the millisecond and is revoked untracked there; the mark keeps the identifier
from being recorded until it dies in turn. -/
theorem interchangeable_across_deadlines :
    let j : Jti := ⟨"a"⟩
    let p : Retention := ⟨.ofSeconds 1, .ofSeconds 1⟩
    let expiry : Instant := .ofUnix 10 0
    let asked : List (Instant × Inquiry) :=
      [(.ofUnix 0 0, .record j expiry), (.ofUnix 10 999000000, .isRevoked j),
        (.ofUnix 11 0, .state j), (.ofUnix 11 0, .revoke j expiry),
        (.ofUnix 12 999000000, .record j expiry), (.ofUnix 12 999000000, .state j),
        (.ofUnix 13 0, .record j expiry), (.ofUnix 13 0, .state j)]
    let server : Keyed.Server := { selects := fun _ _ => true }
    let keyed : Backend := .keyed ⟨"sessions", p, server⟩
    let memory : Backend := .memory (.empty p)
    Inquiry.Timely p asked ∧ (∀ a ∈ asked, server.Keeps p a.1 a.2.call) ∧
      (keyed.history asked).1 = (memory.history asked).1 ∧
      (memory.history asked).1 =
        [⟨.record j expiry, .ok ()⟩, ⟨.isRevoked j, .ok false⟩, ⟨.state j, .ok .unknown⟩,
          ⟨.revoke j expiry, .ok .revokedUntracked⟩, ⟨.record j expiry, .ok ()⟩,
          ⟨.state j, .ok .revoked⟩, ⟨.record j expiry, .ok ()⟩, ⟨.state j, .ok .active⟩] := by
  intro j p expiry asked server keyed memory
  have htimely : Inquiry.Timely p asked := by
    refine ⟨by decide, ?_⟩
    simp only [asked, List.forall_mem_cons, List.not_mem_nil, false_imp_iff, implies_true, and_true]
    refine ⟨?_, ?_, ?_, ?_, ?_, ?_, ?_, ?_⟩ <;>
      exact ⟨by decide, by decide, by decide, by decide⟩
  have hkeeps : ∀ a ∈ asked, server.Keeps p a.1 a.2.call := by decide
  have hsame := registries_interchangeable (by decide) (by decide) "sessions" rfl rfl htimely
    hkeeps
  exact ⟨htimely, hkeeps, hsame.1, by decide +kernel⟩

end SessionTokens

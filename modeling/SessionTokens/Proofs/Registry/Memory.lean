import Mathlib.Data.List.Nodup
import Mathlib.Logic.Basic
import SessionTokens.Registry.Backend

/-! What a registry of one process says about an identifier after a call: each call leaves the
others alone, marks last at least to the end of the instant they are made at, and an identifier
whose record bears no active mark gets one only by being recorded anew. -/

namespace SessionTokens

namespace Instant

theorem lt_plusClamped {t : Instant} {d : Span} (ht : t.nanos < last.nanos) (hd : 0 < d.nanos) :
    t.nanos < (t.plusClamped d).nanos := by
  unfold plusClamped
  cases h : t.plus? d with
  | none => exact ht
  | some u =>
    have hu := (plus?_eq_some h).1
    simp only [Option.getD_some]
    omega

end Instant

namespace Retention

/-- Something is added to what is left of a token's time, so that no record is born dead. -/
def Positive (p : Retention) : Prop := 0 < p.fallback.nanos + p.skew.nanos

instance (p : Retention) : Decidable p.Positive := inferInstanceAs (Decidable (0 < _))

theorem ttl_pos {p : Retention} (hp : p.Positive) (expiresAt now : Instant) :
    0 < (p.ttl expiresAt now).nanos := by
  have hmost := Span.nanos_most
  rw [nanos_ttl_eq_min]
  simp only [Positive] at hp
  omega

theorem live_record {p : Retention} (hp : p.Positive) {now : Instant}
    (ht : now.nanos < Instant.last.nanos) (mark : Mark) (expiresAt : Instant) :
    (p.record mark expiresAt now).live now = true := by
  exact decide_eq_true (Instant.lt_plusClamped ht (ttl_pos hp expiresAt now))

end Retention

def RegistryCall.marking? : RegistryCall → Option (Jti × Mark)
  | record j _ => some (j, .active)
  | revoke j _ => some (j, .revoked)
  | _ => none

namespace MemoryRegistry

variable {m : MemoryRegistry} {j k : Jti} {now : Instant}

section Entries

theorem get?_put (m : MemoryRegistry) (j k : Jti) (r : Record) :
    (m.put j r).get? k = if k = j then some r else m.get? k := by
  simp only [get?, put]
  generalize m.entries = es
  induction es with
  | nil =>
    by_cases h : k = j
    · simp [putEntry, h]
    · simp [putEntry, h, Ne.symm h]
  | cons e es ih =>
    by_cases he : e.1 = j
    · by_cases h : k = j
      · simp [putEntry, he, h]
      · simp [putEntry, he, h, Ne.symm h]
    · by_cases hk : e.1 = k
      · have h : k ≠ j := fun h => he (hk.trans h)
        simp [putEntry, hk, h]
      · simpa [putEntry, he, hk] using ih

theorem mem_of_get? {r : Record} (h : m.get? j = some r) : (j, r) ∈ m.entries := by
  obtain ⟨e, he, rfl⟩ := Option.map_eq_some_iff.mp h
  have hj : e.1 = j := by simpa using List.find?_some he
  exact hj ▸ List.mem_of_find?_eq_some he

theorem get?_of_mem {r : Record} (h : (j, r) ∈ m.entries) : m.get? j = some r := by
  have hf : (m.entries.find? fun e => e.1 = j).isSome := by
    simpa using ⟨r, h⟩
  obtain ⟨e, he⟩ := Option.isSome_iff_exists.mp hf
  have hj : e.1 = j := by simpa using List.find?_some he
  have heq : e = (j, r) :=
    List.inj_on_of_nodup_map m.nodup (List.mem_of_find?_eq_some he) h hj
  simp [get?, he, heq]

theorem get?_purge (m : MemoryRegistry) (now : Instant) (j : Jti) :
    (m.purge now).get? j = m.live? now j := by
  refine Option.ext fun r => ?_
  constructor
  · intro h
    have hm := mem_of_get? h
    simp only [purge, List.mem_filter] at hm
    simpa [live?, Option.filter_eq_some_iff] using ⟨get?_of_mem hm.1, hm.2⟩
  · intro h
    obtain ⟨hg, hl⟩ := Option.filter_eq_some_iff.mp h
    exact get?_of_mem (List.mem_filter.mpr ⟨mem_of_get? hg, hl⟩)

theorem get?_of_live? {r : Record} (h : m.live? now j = some r) : m.get? j = some r :=
  (Option.filter_eq_some_iff.mp h).1

theorem live?_put (m : MemoryRegistry) (now : Instant) (j k : Jti) (r : Record) :
    (m.put j r).live? now k =
      if k = j then (if r.live now then some r else none) else m.live? now k := by
  simp only [live?, get?_put]
  split
  · simp [Option.filter]
  · rfl

theorem live_of_later {r : Record} {u : Instant} (hu : now.nanos ≤ u.nanos)
    (h : r.live u = true) : r.live now = true := by
  simp only [Record.live, decide_eq_true_eq] at h ⊢
  omega

theorem live?_of_later {r : Record} {u : Instant} (hu : now.nanos ≤ u.nanos)
    (h : m.live? u j = some r) : m.live? now j = some r := by
  obtain ⟨hg, hl⟩ := Option.filter_eq_some_iff.mp h
  exact Option.filter_eq_some_iff.mpr ⟨hg, live_of_later hu hl⟩

theorem live?_purge (m : MemoryRegistry) {u : Instant} (hu : now.nanos ≤ u.nanos) (j : Jti) :
    (m.purge now).live? u j = m.live? u j := by
  rw [live?, get?_purge, live?, Option.filter_filter]
  refine congrArg (m.get? j).filter (funext fun r => ?_)
  cases hl : r.live u with
  | false => simp
  | true => simp [live_of_later hu hl]

end Entries

section State

theorem state_eq_active :
    m.state now j = .active ↔ ∃ r, m.live? now j = some r ∧ r.mark = .active := by
  unfold state
  split <;> simp_all

theorem state_eq_revoked :
    m.state now j = .revoked ↔ ∃ r, m.live? now j = some r ∧ r.mark = .revoked := by
  unfold state
  split <;> simp_all

theorem state_eq_unknown : m.state now j = .unknown ↔ m.live? now j = none := by
  unfold state
  split <;> simp_all

theorem state_congr {m' : MemoryRegistry} (h : m'.live? now j = m.live? now j) :
    m'.state now j = m.state now j := by
  simp only [state, h]

/-- The calendar has not ended where something is on record. -/
theorem lt_last_of_live? {r : Record} (h : m.live? now j = some r) :
    now.nanos < Instant.last.nanos := by
  have hl : now.nanos < r.evictAt.nanos := by
    simpa [Record.live] using (Option.filter_eq_some_iff.mp h).2
  have := r.onCalendar
  omega

theorem lt_last_of_active (h : m.state now j = .active) : now.nanos < Instant.last.nanos := by
  obtain ⟨r, hr, -⟩ := state_eq_active.mp h
  exact lt_last_of_live? hr

end State

section Call

theorem retention_call (m : MemoryRegistry) (now : Instant) (c : RegistryCall) :
    (m.call now c).2.retention = m.retention := by
  cases c with
  | record j e =>
    simp only [call, record]
    split <;> rfl
  | revoke j e =>
    simp only [call, revoke]
    split <;> rfl
  | state j => rfl
  | stats => rfl

theorem get?_call {c : RegistryCall} {r : Record} (h : (m.call now c).2.get? j = some r) :
    m.get? j = some r ∨ c.marking? = some (j, r.mark) := by
  have hput : ∀ {k : Jti} {e : Instant} {mark : Mark},
      (m.put k (m.retention.record mark e now)).get? j = some r →
      m.get? j = some r ∨ some (k, mark) = some (j, r.mark) := by
    intro k e mark h
    rw [get?_put] at h
    split at h
    · obtain rfl := Option.some.inj h
      subst j
      exact .inr rfl
    · exact .inl h
  cases c with
  | record k e =>
    simp only [call, record] at h
    split at h
    · exact .inl h
    · exact hput h
  | revoke k e =>
    simp only [call, revoke] at h
    split at h
    · exact .inl h
    · exact hput h
    · exact hput h
  | state k => exact .inl h
  | stats =>
    have hp : (m.purge now).get? j = some r := h
    rw [get?_purge] at hp
    exact .inl (get?_of_live? hp)

theorem live?_call {u : Instant} (hu : now.nanos ≤ u.nanos) {c : RegistryCall}
    (h : ∀ mark, c.marking? ≠ some (j, mark)) : (m.call now c).2.live? u j = m.live? u j := by
  have hput : ∀ {k : Jti} {r : Record}, j ≠ k → (m.put k r).live? u j = m.live? u j :=
    fun hk => by rw [live?_put, if_neg hk]
  cases c with
  | record k e =>
    have hk : j ≠ k := fun hk => h .active (by rw [hk]; rfl)
    simp only [call, record]
    split
    · rfl
    · exact hput hk
  | revoke k e =>
    have hk : j ≠ k := fun hk => h .revoked (by rw [hk]; rfl)
    simp only [call, revoke]
    split
    · rfl
    · exact hput hk
    · exact hput hk
  | state k => rfl
  | stats => exact live?_purge m hu j

/-- A call does not change what is said later about an identifier that is still revoked then. -/
theorem state_call_of_revoked {u : Instant} (hu : now.nanos ≤ u.nanos)
    (h : m.state u j = .revoked) (c : RegistryCall) : (m.call now c).2.state u j = .revoked := by
  obtain ⟨r, hr, hmark⟩ := state_eq_revoked.mp h
  have hnow : m.state now j = .revoked := state_eq_revoked.mpr ⟨r, live?_of_later hu hr, hmark⟩
  by_cases hc : ∀ mark, c.marking? ≠ some (j, mark)
  · rw [state_congr (live?_call hu hc), h]
  · obtain ⟨mark, hc⟩ := not_forall_not.mp hc
    cases c with
    | record k e =>
      obtain ⟨rfl, -⟩ := Prod.mk.inj (Option.some.inj hc)
      simp only [call, record, hnow, h]
    | revoke k e =>
      obtain ⟨rfl, -⟩ := Prod.mk.inj (Option.some.inj hc)
      simp only [call, revoke, hnow, h]
    | state k => exact nomatch hc
    | stats => exact nomatch hc

end Call

/-! While the clock stands still a mark lasts, if records are not born dead. -/

section Still

theorem state_put {r : Record} (hr : r.live now = true) :
    (m.put j r).state now j = match r.mark with
      | .active => .active
      | .revoked => .revoked := by
  have h : (m.put j r).live? now j = some r := by
    rw [live?_put, if_pos rfl, if_pos hr]
  cases hm : r.mark with
  | active => exact state_eq_active.mpr ⟨r, h, hm⟩
  | revoked => exact state_eq_revoked.mpr ⟨r, h, hm⟩

theorem state_record (hp : m.retention.Positive) (ht : now.nanos < Instant.last.nanos)
    (e : Instant) (h : m.state now j ≠ .revoked) : (m.record now j e).state now j = .active := by
  unfold record
  split
  · contradiction
  · rw [state_put (Retention.live_record hp ht _ _)]
    rfl

theorem state_revoke (hp : m.retention.Positive) (ht : now.nanos < Instant.last.nanos)
    (e : Instant) : (m.revoke now j e).2.state now j = .revoked := by
  simp only [revoke]
  split
  · assumption
  all_goals
    rw [state_put (Retention.live_record hp ht _ _)]
    rfl

theorem outcome_revoke (m : MemoryRegistry) (now : Instant) (j : Jti) (e : Instant) :
    (m.revoke now j e).1 = match m.state now j with
      | .revoked => .alreadyRevoked
      | .active => .revoked
      | .unknown => .revokedUntracked := by
  simp only [revoke]
  cases m.state now j <;> rfl

theorem state_call_of_active (hp : m.retention.Positive) (h : m.state now j = .active)
    {c : RegistryCall} (hc : ∀ e, c ≠ .revoke j e) : (m.call now c).2.state now j = .active := by
  by_cases hm : ∀ mark, c.marking? ≠ some (j, mark)
  · rw [state_congr (live?_call (Int.le_refl _) hm), h]
  · obtain ⟨mark, hm⟩ := not_forall_not.mp hm
    cases c with
    | record k e =>
      obtain ⟨rfl, -⟩ := Prod.mk.inj (Option.some.inj hm)
      exact state_record hp (lt_last_of_active h) e (by simp [h])
    | revoke k e =>
      obtain ⟨rfl, -⟩ := Prod.mk.inj (Option.some.inj hm)
      exact absurd rfl (hc e)
    | state k => exact nomatch hm
    | stats => exact nomatch hm

end Still

/-! An identifier is spent if no record of it bears an active mark. It stays so, whatever the
clock does, until it is recorded anew. -/

section Spent

def BearsOnly (m : MemoryRegistry) (mark : Mark) (j : Jti) : Prop :=
  ∀ r, m.get? j = some r → r.mark = mark

def Spent (m : MemoryRegistry) (j : Jti) : Prop := m.BearsOnly .revoked j

theorem BearsOnly.call {mark : Mark} (h : m.BearsOnly mark j) {c : RegistryCall}
    (hc : ∀ mark', c.marking? = some (j, mark') → mark' = mark) :
    (m.call now c).2.BearsOnly mark j := by
  intro r hr
  rcases get?_call hr with hr | hr
  · exact h r hr
  · exact hc _ hr

theorem Spent.call (h : m.Spent j) {c : RegistryCall} (hc : ∀ e, c ≠ .record j e) :
    (m.call now c).2.Spent j := by
  refine BearsOnly.call h fun mark hm => ?_
  cases c with
  | record k e =>
    obtain ⟨rfl, -⟩ := Prod.mk.inj (Option.some.inj hm)
    exact absurd rfl (hc e)
  | revoke k e => exact (Prod.mk.inj (Option.some.inj hm)).2.symm
  | state k => exact nomatch hm
  | stats => exact nomatch hm

theorem spent_revoke (m : MemoryRegistry) (now : Instant) (j : Jti) (e : Instant) :
    (m.revoke now j e).2.Spent j := by
  intro r hr
  simp only [revoke] at hr
  split at hr
  · rename_i hs
    obtain ⟨r', hl, hm⟩ := state_eq_revoked.mp hs
    obtain rfl := Option.some.inj ((get?_of_live? hl).symm.trans hr)
    exact hm
  all_goals
    rw [get?_put, if_pos rfl] at hr
    obtain rfl := Option.some.inj hr
    rfl

theorem BearsOnly.state_eq_unknown_or {mark : Mark} (h : m.BearsOnly mark j) (now : Instant) :
    m.state now j = .unknown ∨ m.state now j = match mark with
      | .active => .active
      | .revoked => .revoked := by
  cases hl : m.live? now j with
  | none => exact .inl (state_eq_unknown.mpr hl)
  | some r =>
    have hm := h r (get?_of_live? hl)
    cases mark with
    | active => exact .inr (state_eq_active.mpr ⟨r, hl, hm⟩)
    | revoked => exact .inr (state_eq_revoked.mpr ⟨r, hl, hm⟩)

theorem Spent.state_ne_active (h : m.Spent j) (now : Instant) : m.state now j ≠ .active := by
  rcases BearsOnly.state_eq_unknown_or h now with hs | hs <;> simp [hs]

theorem bearsOnly_empty (p : Retention) (mark : Mark) (j : Jti) :
    (empty p).BearsOnly mark j := nofun

end Spent

end MemoryRegistry

end SessionTokens

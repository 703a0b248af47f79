import SessionTokens.Proofs.Registry.Coverage
import SessionTokens.Proofs.Registry.Interchange

/-! What any registry that works says of identifiers at one time, whether it is that of a single
process or on a key server, and how its calls change that. -/

namespace SessionTokens

open Keyed (activeKey revokedKey ttlMillis)

open Keyed.Server (millisecond)

namespace Backend

/-- No reply of a key server is made up, and it takes every key of a token of the calendar. -/
def Sound : Backend → Prop
  | .memory _ => True
  | .keyed r => r.server.canned = [] ∧ ∀ now e : Instant, now.inRange = true → e.inRange = true →
    r.server.takes (millisecond now + ttlMillis r.retention e now) = true

def state : Backend → Instant → Jti → JtiState
  | .memory m, now, j => m.state now j
  | .keyed r, now, j => r.server.store.state r.root (millisecond now) j

/-- A call is answered with `x`, and from then on the registry says `said`. -/
structure Meets (b : Backend) (now : Instant) (c : RegistryCall) (x : c.Answer)
    (said : Jti → JtiState) : Prop where
  answer : (b.call now c).answer = .ok x
  sound : (b.call now c).registry.Sound
  state (k : Jti) : (b.call now c).registry.state now k = said k

variable {b : Backend} {now e : Instant} {j : Jti}

theorem state_purged (r : KeyedRegistry) (now : Instant) (k : Jti) :
    (r.server.store.purge (millisecond now)).state r.root (millisecond now) k =
      (keyed r).state now k :=
  Keyed.Store.state_purge _ _ (Int.le_refl _) k

theorem lt_deadline (p : Retention) (e now : Instant) :
    millisecond now < millisecond now + ttlMillis p e now := by
  have hone := p.one_le_ttlMillis e now
  omega

theorem meets_state (hb : b.Sound) (now : Instant) (j : Jti) :
    b.Meets now (.state j) (b.state now j) (b.state now) := by
  cases b with
  | memory m => exact ⟨rfl, trivial, fun _ => rfl⟩
  | keyed r =>
    obtain ⟨sent, hrun⟩ := KeyedRegistry.runScript_eq hb.1 now .state j none
    rw [Keyed.Store.run_state, state_purged] at hrun
    have hcall : (keyed r).call now (.state j) =
        ⟨.ok ((keyed r).state now j), [],
          .keyed (r.withStore (r.server.store.purge (millisecond now)) sent)⟩ := by
      simp only [call, KeyedRegistry.call, KeyedRegistry.state, hrun]
      cases (keyed r).state now j <;> rfl
    refine ⟨by rw [hcall], by rw [hcall]; exact hb, fun k => ?_⟩
    rw [hcall]
    exact state_purged r now k

section Marking

variable (hb : b.Sound) (hnow : now.inRange = true) (he : e.inRange = true)
  (hlive : now.nanos < e.nanos)
include hb hnow he hlive

theorem meets_record (hj : b.state now j ≠ .revoked) :
    b.Meets now (.record j e) () fun k => if k = j then .active else b.state now k := by
  cases b with
  | memory m =>
    have hlast := (Instant.inRange_iff.mp he).2
    have hremembers : m.retention.Remembers e now := ⟨by omega, by omega⟩
    have hrecord : m.record now j e = m.put j (m.retention.record .active e now) :=
      (MemoryRegistry.Marks.active hj).eq_put
    refine ⟨rfl, trivial, fun k => ?_⟩
    change (m.record now j e).state now k = _
    rw [hrecord, MemoryRegistry.state_put_at, if_pos (hremembers.live_record .active now)]
    rfl
  | keyed r =>
    obtain ⟨sent, hrun⟩ := KeyedRegistry.runScript_eq hb.1 now .record j
      (some (ttlMillis r.retention e now))
    rw [Option.getD_some, Keyed.Store.run_record, state_purged, if_pos (hb.2 now e hnow he)] at hrun
    have hcall : (keyed r).call now (.record j e) =
        ⟨.ok (), [], .keyed (r.withStore ((r.server.store.purge (millisecond now)).set
          (activeKey r.root j) (millisecond now + ttlMillis r.retention e now)) sent)⟩ := by
      cases hs : (keyed r).state now j with
      | revoked => exact absurd hs hj
      | active | unknown =>
        rw [hs] at hrun
        simp only [call, KeyedRegistry.call, KeyedRegistry.record, hrun]
        rfl
    have hrevoked : (r.server.store.purge (millisecond now)).has (millisecond now)
        (revokedKey r.root j) = false := by
      by_contra hhas
      rw [Bool.not_eq_false] at hhas
      exact hj (by rw [← state_purged, Keyed.Store.state, if_pos hhas])
    refine ⟨by rw [hcall], by rw [hcall]; exact hb, fun k => ?_⟩
    rw [hcall]
    refine (Keyed.Store.state_set_active hrevoked).trans ?_
    rw [if_pos (lt_deadline ..), state_purged]

theorem meets_revoke (hj : b.state now j = .active) :
    b.Meets now (.revoke j e) .revoked fun k => if k = j then .revoked else b.state now k := by
  cases b with
  | memory m =>
    have hlast := (Instant.inRange_iff.mp he).2
    have hremembers : m.retention.Remembers e now := ⟨by omega, by omega⟩
    have hstate : m.state now j = .active := hj
    have houtcome : (m.revoke now j e).1 = .revoked := by rw [m.outcome_revoke, hstate]
    have hrevoke : (m.revoke now j e).2 = m.put j (m.retention.record .revoked e now) :=
      (MemoryRegistry.Marks.revoked (by rw [houtcome]; decide)).eq_put
    refine ⟨congrArg Except.ok houtcome, trivial, fun k => ?_⟩
    change (m.revoke now j e).2.state now k = _
    rw [hrevoke, MemoryRegistry.state_put_at, if_pos (hremembers.live_record .revoked now)]
    rfl
  | keyed r =>
    obtain ⟨sent, hrun⟩ := KeyedRegistry.runScript_eq hb.1 now .revoke j
      (some (ttlMillis r.retention e now))
    rw [Option.getD_some, Keyed.Store.run_revoke, state_purged, hj] at hrun
    simp only [if_pos (hb.2 now e hnow he)] at hrun
    have hcall : (keyed r).call now (.revoke j e) =
        ⟨.ok .revoked, [], .keyed (r.withStore (((r.server.store.purge (millisecond now)).delete
          (activeKey r.root j)).set (revokedKey r.root j)
            (millisecond now + ttlMillis r.retention e now)) sent)⟩ := by
      simp only [call, KeyedRegistry.call, KeyedRegistry.revoke, hrun]
      rfl
    refine ⟨by rw [hcall], by rw [hcall]; exact hb, fun k => ?_⟩
    rw [hcall]
    refine Keyed.Store.state_set_revoked.trans ?_
    rw [if_pos (lt_deadline ..), state_purged]

end Marking

end Backend

end SessionTokens

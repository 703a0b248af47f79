import SessionTokens.Registry.Basic
import SessionTokens.Registry.Retention

/-! The registry of a single process: one record an identifier, dead from its deadline on.
Dead records stay until something overwrites them or the records are counted. -/

namespace SessionTokens

inductive Mark where
  | active
  | revoked
  deriving DecidableEq, Repr

structure Record where
  mark : Mark
  evictAt : Instant
  onCalendar : evictAt.nanos ≤ Instant.last.nanos
  deriving DecidableEq, Repr

def Record.live (r : Record) (now : Instant) : Bool := now.nanos < r.evictAt.nanos

/-- The record of a mark made at `now` for a token that expires at `expiresAt`. -/
def Retention.record (p : Retention) (mark : Mark) (expiresAt now : Instant) : Record :=
  ⟨mark, p.deadline expiresAt now, p.deadline_le_last expiresAt now⟩

/-- No identifier has two entries. -/
structure MemoryRegistry where
  retention : Retention
  entries : List (Jti × Record)
  nodup : (entries.map (·.1)).Nodup

namespace MemoryRegistry

def empty (p : Retention) : MemoryRegistry := ⟨p, [], List.nodup_nil⟩

def get? (m : MemoryRegistry) (j : Jti) : Option Record :=
  (m.entries.find? fun e => e.1 = j).map (·.2)

def putEntry (j : Jti) (r : Record) : List (Jti × Record) → List (Jti × Record)
  | [] => [(j, r)]
  | e :: es => if e.1 = j then (j, r) :: es else e :: putEntry j r es

theorem mem_putEntry {j k : Jti} {r : Record} {es : List (Jti × Record)}
    (h : k ∈ (putEntry j r es).map (·.1)) : k = j ∨ k ∈ es.map (·.1) := by
  induction es with
  | nil => simpa [putEntry] using h
  | cons e es ih =>
    by_cases he : e.1 = j
    · simp only [putEntry, he, if_true, List.map_cons, List.mem_cons] at h ⊢
      exact h.imp_right .inr
    · simp only [putEntry, he, if_false, List.map_cons, List.mem_cons] at h ⊢
      rcases h with h | h
      · exact .inr (.inl h)
      · exact (ih h).imp_right .inr

theorem nodup_putEntry (j : Jti) (r : Record) {es : List (Jti × Record)}
    (h : (es.map (·.1)).Nodup) : ((putEntry j r es).map (·.1)).Nodup := by
  induction es with
  | nil => simp [putEntry]
  | cons e es ih =>
    obtain ⟨hn, hd⟩ := List.nodup_cons.mp h
    by_cases he : e.1 = j
    · simp only [putEntry, he, if_true, List.map_cons, List.nodup_cons]
      exact ⟨he ▸ hn, hd⟩
    · simp only [putEntry, he, if_false, List.map_cons, List.nodup_cons]
      exact ⟨fun hm => (mem_putEntry hm).elim he hn, ih hd⟩

def put (m : MemoryRegistry) (j : Jti) (r : Record) : MemoryRegistry :=
  { m with entries := putEntry j r m.entries, nodup := nodup_putEntry j r m.nodup }

def live? (m : MemoryRegistry) (now : Instant) (j : Jti) : Option Record :=
  (m.get? j).filter (·.live now)

def state (m : MemoryRegistry) (now : Instant) (j : Jti) : JtiState :=
  match m.live? now j with
  | some ⟨.active, _, _⟩ => .active
  | some ⟨.revoked, _, _⟩ => .revoked
  | none => .unknown

/-- Marks an identifier active, unless it is revoked. -/
def record (m : MemoryRegistry) (now : Instant) (j : Jti) (expiresAt : Instant) :
    MemoryRegistry :=
  match m.state now j with
  | .revoked => m
  | _ => m.put j (m.retention.record .active expiresAt now)

/-- Marks an identifier revoked, unless it is revoked already. -/
def revoke (m : MemoryRegistry) (now : Instant) (j : Jti) (expiresAt : Instant) :
    RevokeOutcome × MemoryRegistry :=
  let marked := m.put j (m.retention.record .revoked expiresAt now)
  match m.state now j with
  | .revoked => (.alreadyRevoked, m)
  | .active => (.revoked, marked)
  | .unknown => (.revokedUntracked, marked)

def purge (m : MemoryRegistry) (now : Instant) : MemoryRegistry :=
  { m with
    entries := m.entries.filter fun e => e.2.live now
    nodup := m.nodup.sublist (List.filter_sublist.map _) }

/-- Drops the dead records and counts the others. -/
def stats (m : MemoryRegistry) (now : Instant) : JtiStats × MemoryRegistry :=
  let m := m.purge now
  (⟨(m.entries.filter fun e => e.2.mark = .active).length,
    (m.entries.filter fun e => e.2.mark = .revoked).length⟩, m)

end MemoryRegistry

end SessionTokens

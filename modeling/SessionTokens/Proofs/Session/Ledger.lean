import SessionTokens.Proofs.Program.Course
import SessionTokens.Session.Ledger

/-! The courses of the ledger's operations: the calls they make, and what they come to for each
answer. -/

namespace SessionTokens

open Program Operation

variable {os : List Occurrence}

def Entry.revocation (e : Entry) (x : Except RegistryError RevokeOutcome) : Occurrence :=
  .called (.revoke e.jti e.expiresAt) x

def Entry.recording (e : Entry) (x : Except RegistryError Unit) : Occurrence :=
  .called (.record e.jti e.expiresAt) x

namespace Ledger

/-- What the answer about a refresh token's identifier means for a rotation. -/
def readiness : Except RegistryError JtiState → Except SessionError Unit
  | .ok .active => .ok ()
  | .ok .revoked => .error .reuseDetected
  | .ok .unknown => .error .revokedToken
  | .error e => .error (.ofRegistry e)

def failureNote (note : SessionError → Log.Event) :
    Except RegistryError RevokeOutcome → List Occurrence
  | .ok _ => []
  | .error e => [.emitted (note (.ofRegistry e))]

def attempted (e : Entry) (note : SessionError → Log.Event)
    (x : Except RegistryError RevokeOutcome) : List Occurrence :=
  e.revocation x :: failureNote note x

theorem eq_active_of_readiness {a : Except RegistryError JtiState} (h : readiness a = .ok ()) :
    a = .ok .active := by
  unfold readiness at h
  split at h <;> simp_all

inductive EnsuresActive (j : Jti) : List Occurrence → Except SessionError Unit → Prop
  | active : EnsuresActive j [.called (.state j) (.ok .active)] (.ok ())
  | inactive {s : JtiState} : s ≠ .active →
    EnsuresActive j [.called (.state j) (.ok s), .emitted (.notActive j s)] (.error .revokedToken)
  | failed (e : RegistryError) :
    EnsuresActive j [.called (.state j) (.error e)] (.error (.ofRegistry e))

theorem gives_ensureActive {j : Jti} {r : Except SessionError Unit}
    (h : Gives (ensureActive j) os r) : EnsuresActive j os r := by
  rcases gives_call_bind.mp h with ⟨e, rfl, rfl⟩ | ⟨s, us, rfl, hs⟩
  · exact .failed e
  · by_cases ha : s = JtiState.active
    · rw [if_pos ha] at hs
      obtain ⟨rfl, rfl⟩ := gives_pure.mp hs
      exact ha ▸ .active
    · rw [if_neg ha] at hs
      obtain ⟨us, rfl, ht⟩ := gives_emit_bind.mp hs
      obtain ⟨rfl, rfl⟩ := gives_throw.mp ht
      exact .inactive ha

theorem gives_ensureRotatable {j : Jti} {r : Except SessionError Unit}
    (h : Gives (ensureRotatable j) os r) :
    ∃ a, os = [.called (.state j) a] ∧ r = readiness a := by
  rcases gives_call_bind.mp h with ⟨e, rfl, rfl⟩ | ⟨s, us, rfl, hs⟩
  · exact ⟨.error e, rfl, rfl⟩
  · refine ⟨.ok s, ?_⟩
    cases s <;> obtain ⟨rfl, rfl⟩ := yields_done.mp hs <;> exact ⟨rfl, rfl⟩

theorem gives_revokePair {a b : Entry} {r : Except SessionError Unit}
    (h : Gives (revokePair a b) os r) :
    ∃ x y, os = [a.revocation x, b.revocation y] ∧
      r = ((x.mapError .ofRegistry).bind fun _ =>
        (y.mapError .ofRegistry).bind fun _ => .ok ()) := by
  obtain ⟨x, us, rfl, hx⟩ := gives_attempt_call_bind.mp h
  obtain ⟨y, vs, rfl, hy⟩ := gives_attempt_call_bind.mp hx
  refine ⟨x, y, ?_⟩
  cases x <;> cases y <;> obtain ⟨rfl, rfl⟩ := yields_done.mp hy <;> exact ⟨rfl, rfl⟩

theorem gives_revokeQuietly {e : Entry} {r : Except SessionError Unit}
    (h : Gives (revokeQuietly e) os r) :
    ∃ x, os = attempted e (.revokeFailed e.jti) x ∧ r = .ok () := by
  obtain ⟨x, us, rfl, hx⟩ := gives_attempt_call_bind.mp h
  refine ⟨x, ?_⟩
  cases x with
  | ok o =>
    obtain ⟨rfl, rfl⟩ := gives_pure.mp hx
    exact ⟨rfl, rfl⟩
  | error e =>
    obtain ⟨rfl, rfl⟩ := gives_emit.mp hx
    exact ⟨rfl, rfl⟩

def retirement : Except RegistryError RevokeOutcome → Retirement
  | .ok .alreadyRevoked => .raced
  | .ok _ => .retired
  | .error _ => .deferred

theorem gives_retire {e : Entry} {r : Except SessionError Retirement}
    (h : Gives (retire e) os r) :
    ∃ x, os = attempted e (.retireFailed e.jti) x ∧ r = .ok (retirement x) := by
  obtain ⟨x, us, rfl, hx⟩ := gives_attempt_call_bind.mp h
  refine ⟨x, ?_⟩
  cases x with
  | ok o => cases o <;> obtain ⟨rfl, rfl⟩ := gives_pure.mp hx <;> exact ⟨rfl, rfl⟩
  | error e =>
    obtain ⟨us, rfl, he⟩ := gives_emit_bind.mp hx
    obtain ⟨rfl, rfl⟩ := gives_pure.mp he
    exact ⟨rfl, rfl⟩

end Ledger

end SessionTokens

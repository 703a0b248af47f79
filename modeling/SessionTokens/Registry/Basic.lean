import SessionTokens.Token.Claims

/-! What a registry of token identifiers is asked and what it answers. -/

namespace SessionTokens

/-- Unknown identifiers are trusted no more than revoked ones. -/
inductive JtiState where
  | unknown
  | active
  | revoked
  deriving DecidableEq, Repr

def JtiState.isRevoked : JtiState → Bool
  | .active => false
  | _ => true

def JtiState.name : JtiState → String
  | .unknown => "Unknown"
  | .active => "Active"
  | .revoked => "Revoked"

inductive RevokeOutcome where
  /-- It was active. -/
  | revoked
  /-- It was not recorded as active; it is marked all the same. -/
  | revokedUntracked
  /-- It was revoked before, and nothing changed. -/
  | alreadyRevoked
  deriving DecidableEq, Repr

def RevokeOutcome.name : RevokeOutcome → String
  | .revoked => "Revoked"
  | .revokedUntracked => "RevokedUntracked"
  | .alreadyRevoked => "AlreadyRevoked"

structure JtiStats where
  active : Nat
  revoked : Nat
  deriving DecidableEq, Repr

def JtiStats.total (s : JtiStats) : Nat := s.active + s.revoked

inductive RegistryError where
  | unavailable (reason : String)
  | timedOut
  | cancelled
  deriving DecidableEq, Repr

def RegistryError.message : RegistryError → String
  | .unavailable reason => "registry unavailable: " ++ reason
  | .timedOut => "registry call timed out"
  | .cancelled => "registry call cancelled"

inductive RegistryCall where
  | record (jti : Jti) (expiresAt : Instant)
  | revoke (jti : Jti) (expiresAt : Instant)
  | state (jti : Jti)
  | stats
  deriving DecidableEq, Repr

namespace RegistryCall

abbrev Answer : RegistryCall → Type
  | record _ _ => Unit
  | revoke _ _ => RevokeOutcome
  | state _ => JtiState
  | stats => JtiStats

def jti? : RegistryCall → Option Jti
  | record j _ => some j
  | revoke j _ => some j
  | state j => some j
  | stats => none

/-- The expiry of the token that a call marks. -/
def expiry? : RegistryCall → Option Instant
  | record _ e => some e
  | revoke _ e => some e
  | _ => none

end RegistryCall

end SessionTokens

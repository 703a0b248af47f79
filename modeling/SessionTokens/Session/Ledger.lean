import SessionTokens.Session.Program

/-! Operations on the registry that sessions are built from. Only an identifier that the
registry reports active passes. -/

namespace SessionTokens

inductive Retirement where
  | retired
  /-- Something else revoked it first. -/
  | raced
  /-- The revocation failed; the token lives on until it expires. -/
  | deferred
  deriving DecidableEq, Repr

def Retirement.name : Retirement → String
  | .retired => "Retired"
  | .raced => "Raced"
  | .deferred => "Deferred"

structure Entry where
  jti : Jti
  expiresAt : Instant
  deriving DecidableEq, Repr

namespace Ledger

def record (e : Entry) : Operation Unit := .call (.record e.jti e.expiresAt)

def state (j : Jti) : Operation JtiState := .call (.state j)

def revoke (e : Entry) : Operation RevokeOutcome := .call (.revoke e.jti e.expiresAt)

def ensureActive (j : Jti) : Operation Unit := do
  let s ← state j
  if s = .active then return ()
  .emit (.notActive j s)
  throw .revokedToken

/-- As `ensureActive`, except that a revoked identifier means that the token was used before. -/
def ensureRotatable (j : Jti) : Operation Unit := do
  match ← state j with
  | .active => return ()
  | .revoked => throw .reuseDetected
  | .unknown => throw .revokedToken

/-- Revokes both, the second even if the first fails. -/
def revokePair (first second : Entry) : Operation Unit := do
  let a ← (revoke first).attempt
  let b ← (revoke second).attempt
  let _ ← ExceptT.mk (pure a)
  let _ ← ExceptT.mk (pure b)
  return ()

def revokeQuietly (e : Entry) : Operation Unit := do
  match ← (revoke e).attempt with
  | .ok _ => return ()
  | .error error => .emit (.revokeFailed e.jti error)

/-- Revokes a token whose successor is recorded. -/
def retire (e : Entry) : Operation Retirement := do
  match ← (revoke e).attempt with
  | .ok .alreadyRevoked => return .raced
  | .ok _ => return .retired
  | .error error =>
    .emit (.retireFailed e.jti error)
    return .deferred

end Ledger

end SessionTokens

import SessionTokens.Host.Scope

/-! How a registry call may depart from being answered at once. -/

namespace SessionTokens

inductive Fault where
  | none
  | wait (w : Wait)
  /-- Fails, at once or after a wait, and stores nothing. -/
  | fail (error : RegistryError) (after : Wait := .ready)
  /-- Cancels the caller's scope and never returns. -/
  | cancelScope
  /-- Something else revokes the identifier just before it is recorded or revoked. -/
  | raceRevoke
  /-- A revocation answers this, and stores nothing. -/
  | outcome (o : RevokeOutcome)
  | state (s : JtiState)
  deriving DecidableEq, Repr

namespace Fault

def toWait : Fault → Wait
  | wait w => w
  | fail _ w => w
  | cancelScope => .forever
  | _ => .ready

/-- The answer that a fault gives in place of the registry's. -/
def answer? : Fault → (c : RegistryCall) → Option (Except RegistryError c.Answer)
  | fail e _, _ => some (.error e)
  | outcome o, .revoke _ _ => some (.ok o)
  | state s, .state _ => some (.ok s)
  | _, _ => Option.none

end Fault

end SessionTokens

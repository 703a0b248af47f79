import SessionTokens.Registry.Basic
import SessionTokens.Roles.Directory
import SessionTokens.Token.Codec

/-! Why a session operation fails. -/

namespace SessionTokens

/-- A failure that is neither the caller's nor the registry's. -/
inductive InternalError where
  | ttlOutOfRange (ttl : Span)
  | roleStore (reason : String)
  deriving DecidableEq, Repr

inductive SessionError where
  | malformedToken (defect : Defect)
  | expiredToken
  | revokedToken
  | subjectMismatch
  | reuseDetected
  | registryUnavailable (reason : String)
  | cancelled
  | internal (error : InternalError)
  deriving DecidableEq, Repr

def InternalError.message : InternalError → String
  | .ttlOutOfRange ttl => "token ttl out of range: " ++ ttl.secondsText
  | .roleStore reason => reason

namespace SessionError

def message : SessionError → String
  | malformedToken defect => "malformed token: " ++ defect.text
  | expiredToken => "token expired"
  | revokedToken => "token revoked"
  | subjectMismatch => "token subjects do not match"
  | reuseDetected => "refresh token reuse detected"
  | registryUnavailable reason => "registry unavailable: " ++ reason
  | cancelled => "operation cancelled before completion"
  | internal error => "internal error: " ++ error.message

/-- Whether the failure leaves open if the token is valid. -/
def isIndeterminate : SessionError → Bool
  | registryUnavailable _ => true
  | cancelled => true
  | _ => false

def ofCodec : CodecError → SessionError
  | .malformed defect => malformedToken defect
  | .expired => expiredToken

def ofRegistry : RegistryError → SessionError
  | .unavailable reason => registryUnavailable reason
  | .timedOut => registryUnavailable "timed out"
  | .cancelled => cancelled

/-- A user who is gone has no valid token. -/
def ofRoles : RoleError → SessionError
  | .userNotFound => revokedToken
  | .store reason => internal (.roleStore reason)

theorem isIndeterminate_ofRegistry (e : RegistryError) : (ofRegistry e).isIndeterminate = true := by
  cases e <;> rfl

end SessionError

end SessionTokens

import SessionTokens.Token.Kind

/-! The signing secrets and the check that keeps them apart. -/

namespace SessionTokens

structure Secrets where
  userAccess : List UInt8
  userRefresh : List UInt8
  deviceConnection : List UInt8
  deviceRefresh : List UInt8
  deriving DecidableEq

inductive SecretsError where
  | empty (k : TokenKind)
  | shared (a b : TokenKind)
  deriving DecidableEq, Repr

def SecretsError.message : SecretsError → String
  | .empty k => "empty signing secret for " ++ k.name
  | .shared a b => a.name ++ " and " ++ b.name ++ " share a signing secret"

namespace Secrets

def of (s : Secrets) : TokenKind → List UInt8
  | .userAccess => s.userAccess
  | .userRefresh => s.userRefresh
  | .deviceConnection => s.deviceConnection
  | .deviceRefresh => s.deviceRefresh

/-- The first thing wrong with these kinds' secrets: one that is empty, or that a later kind
has too. -/
def firstError (s : Secrets) : List TokenKind → Option SecretsError
  | [] => none
  | k :: ks =>
    if s.of k = [] then some (.empty k)
    else match ks.find? (fun b => s.of k = s.of b) with
      | some b => some (.shared k b)
      | none => s.firstError ks

def error? (s : Secrets) : Option SecretsError := s.firstError TokenKind.all

/-- A dump that shows no secret. -/
def redacted : String := "TokenSecrets([redacted])"

end Secrets

end SessionTokens

import SessionTokens.Digest.Sha256
import SessionTokens.Log.Level
import SessionTokens.Session.Error

/-! What is logged, and the lines it is logged as. Tokens themselves are never logged, only a
short digest of them. -/

namespace SessionTokens.Log

/-- Who reads a line: the operators of the service, or those who watch for attacks. -/
inductive Channel where
  | service
  | security
  deriving DecidableEq, Repr

inductive Detail where
  | text (s : String)
  | count (n : Nat)
  deriving DecidableEq, Repr

structure Line where
  level : Level
  channel : Channel
  message : String
  details : List (String × Detail)
  deriving DecidableEq, Repr

inductive Holder where
  | user (id : Uuid)
  | device (id : Uuid)
  deriving DecidableEq

def Holder.detail : Holder → String × Detail
  | .user id => ("user_id", .text id.text)
  | .device id => ("device_id", .text id.text)

/-- Twelve hex digits of the digest of a token. -/
def fingerprint (token : String) : String :=
  String.ofList (Hex.ofBytes ((Sha256.digest (Utf8.encode token.toList)).take 6))

inductive Event where
  | userTokensIssued (user : Uuid) (access refresh : Jti)
  | deviceTokensIssued (device : Uuid) (connection : Jti)
  | notActive (jti : Jti) (state : JtiState)
  | rotated (holder : Holder) (old new : Jti)
  | refreshReuse (kind : TokenKind) (subject : Uuid) (jti : Jti) (token : String)
  | subjectMismatch (kind : TokenKind) (expected presented : Uuid) (token : String)
  | revokeFailed (jti : Jti) (error : SessionError)
  | retireFailed (jti : Jti) (error : SessionError)
  | refreshIgnored (holder : Holder) (error : CodecError) (token : String)
  | sessionRevoked (holder : Holder)
  | bearerRevoked (holder : Holder)
  | recordRefused (jti : Jti)
  | registryCounted (instanceId : Option String) (stats : JtiStats)
  | reporterFailed (error : RegistryError)
  | reporterStopping
  | reporterStopped
  | serverStarted (registry : String)
  | serverStopping
  | untrustedIssuer
  | malformedTokenRejected (defect : Defect)
  | registryUnavailable (reason : String)
  | internalError (error : InternalError)
  | unhandledRejection
  deriving DecidableEq

namespace Event

def line : Event → Line
  | userTokensIssued user access refresh =>
    ⟨.debug, .service, "issued session tokens",
      [("user_id", .text user.text), ("access_jti", .text access.text),
        ("refresh_jti", .text refresh.text)]⟩
  | deviceTokensIssued device connection =>
    ⟨.debug, .service, "issued device tokens",
      [("device_id", .text device.text), ("connection_jti", .text connection.text)]⟩
  | notActive jti state =>
    ⟨.debug, .service, "jti not active", [("jti", .text jti.text), ("state", .text state.name)]⟩
  | rotated holder old new =>
    ⟨.info, .service,
      match holder with
      | .user _ => "refresh token rotated"
      | .device _ => "device tokens rotated",
      [holder.detail, ("old_jti", .text old.text), ("new_jti", .text new.text)]⟩
  | refreshReuse kind subject jti token =>
    ⟨.warn, .security, "rotated refresh token presented again",
      [("event", .text "refresh_reuse"), ("kind", .text kind.name), ("subject", .text subject.text),
        ("jti", .text jti.text), ("fingerprint", .text (fingerprint token))]⟩
  | subjectMismatch kind expected presented token =>
    ⟨.warn, .security, "paired tokens name different subjects",
      [("event", .text "subject_mismatch"), ("kind", .text kind.name),
        ("expected", .text expected.text), ("presented", .text presented.text),
        ("fingerprint", .text (fingerprint token))]⟩
  | revokeFailed jti error =>
    ⟨.warn, .service, "best-effort revoke failed",
      [("jti", .text jti.text), ("error", .text error.message)]⟩
  | retireFailed jti error =>
    ⟨.warn, .service, "rotated token not revoked, retry later",
      [("jti", .text jti.text), ("error", .text error.message)]⟩
  | refreshIgnored holder error token =>
    ⟨.debug, .service,
      match holder with
      | .user _ => "refresh token not revocable at logout"
      | .device _ => "device refresh token not revocable at logout",
      [holder.detail, ("error", .text error.message), ("fingerprint", .text (fingerprint token))]⟩
  | sessionRevoked holder =>
    ⟨.info, .service,
      match holder with
      | .user _ => "session revoked"
      | .device _ => "device session revoked", [holder.detail]⟩
  | bearerRevoked holder =>
    ⟨.info, .service,
      match holder with
      | .user _ => "access token revoked"
      | .device _ => "device connection token revoked", [holder.detail]⟩
  | recordRefused jti =>
    ⟨.warn, .service, "refusing to record a revoked jti", [("jti", .text jti.text)]⟩
  | registryCounted instanceId stats =>
    ⟨.info, .service, "jti registry stats",
      (match instanceId with
        | some id => [("instance_id", .text id)]
        | none => []) ++
      [("active", .count stats.active), ("revoked", .count stats.revoked),
        ("total", .count stats.total)]⟩
  | reporterFailed error => ⟨.error, .service, "StatsReporter error: " ++ error.message, []⟩
  | reporterStopping => ⟨.info, .service, "StatsReporter shutting down...", []⟩
  | reporterStopped => ⟨.info, .service, "stats reporter handle dropped: Ok(())", []⟩
  | serverStarted registry =>
    ⟨.info, .service, "server started", [("registry", .text registry)]⟩
  | serverStopping => ⟨.info, .service, "server shutting down...", []⟩
  | untrustedIssuer =>
    ⟨.warn, .security, "issuance requested without a valid service key",
      [("event", .text "untrusted_issuer")]⟩
  | malformedTokenRejected defect =>
    ⟨.debug, .service, "rejecting malformed token", [("reason", .text defect.text)]⟩
  | registryUnavailable reason => ⟨.error, .service, "Registry unavailable: " ++ reason, []⟩
  | internalError error => ⟨.error, .service, "Internal error: " ++ error.message, []⟩
  | unhandledRejection => ⟨.error, .service, "Unhandled rejection", []⟩

end Event

end SessionTokens.Log

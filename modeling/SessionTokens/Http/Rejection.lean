import SessionTokens.Http.Message
import SessionTokens.Log.Event

/-! Why routes turn a request down, and the one answer that is made of their reasons. Answers
are few and coarse, so that a caller does not learn which check failed. -/

namespace SessionTokens.Http

inductive ApiError where
  | invalidToken
  | untrustedCaller
  | serviceUnavailable
  | badRequest
  | notFound
  | internalError
  deriving DecidableEq, Repr

namespace ApiError

def status : ApiError → Nat
  | invalidToken => 401
  | untrustedCaller => 403
  | serviceUnavailable => 503
  | badRequest => 400
  | notFound => 404
  | internalError => 500

def name : ApiError → String
  | invalidToken => "InvalidToken"
  | untrustedCaller => "UntrustedCaller"
  | serviceUnavailable => "ServiceUnavailable"
  | badRequest => "BadRequest"
  | notFound => "NotFound"
  | internalError => "InternalError"

def message : ApiError → String
  | invalidToken => "Token is not valid"
  | untrustedCaller => "Caller is not allowed to issue tokens"
  | serviceUnavailable => "Service temporarily unavailable"
  | badRequest => "Bad request"
  | notFound => "Not found"
  | internalError => "Internal error"

def json (e : ApiError) : Json.Value :=
  .obj [("success", .bool false), ("data", .null),
    ("error", .obj [("code", .str e.name), ("message", .str e.message)])]

def response (e : ApiError) : Response := .json e.status e.json

def ofSession : SessionError → ApiError
  | .malformedToken _ => invalidToken
  | .expiredToken => invalidToken
  | .revokedToken => invalidToken
  | .subjectMismatch => invalidToken
  | .reuseDetected => invalidToken
  | .registryUnavailable _ => serviceUnavailable
  | .cancelled => serviceUnavailable
  | .internal _ => internalError

/-- What the log keeps of a session error that a caller is not told. -/
def sessionEvents : SessionError → List Log.Event
  | .malformedToken defect => [.malformedTokenRejected defect]
  | .registryUnavailable reason => [.registryUnavailable reason]
  | .internal error => [.internalError error]
  | _ => []

end ApiError

inductive Cause where
  | refused (error : ApiError)
  | methodNotAllowed
  | missingHeader
  | invalidHeader
  | missingCookie
  | unreadableBody
  | unsupportedMediaType
  | unreadableQuery
  | lengthRequired
  | bodyTooLarge
  | other
  deriving DecidableEq, Repr

/-- The reasons of the routes in order. A route whose path is another one gives none. -/
abbrev Rejection := List Cause

namespace Rejection

def refusal? (r : Rejection) : Option ApiError :=
  r.findSome? fun c => match c with
    | .refused e => some e
    | _ => none

def error? (r : Rejection) : Option ApiError :=
  match r.refusal? with
  | some e => some e
  | none =>
    if .missingHeader ∈ r ∨ .missingCookie ∈ r then some .invalidToken
    else if .invalidHeader ∈ r ∨ .unreadableBody ∈ r ∨ .unsupportedMediaType ∈ r then
      some .badRequest
    else if r = [] ∨ .methodNotAllowed ∈ r then some .notFound
    else none

def error (r : Rejection) : ApiError := r.error?.getD .internalError

def events (r : Rejection) : List Log.Event :=
  if r.error?.isNone then [.unhandledRejection] else []

end Rejection

end SessionTokens.Http

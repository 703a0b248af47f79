import SessionTokens.Digest.Hmac
import SessionTokens.Json.Reader
import SessionTokens.Text.Base64Url
import SessionTokens.Token.Claims
import SessionTokens.Token.Header
import SessionTokens.Token.Secrets

/-! Signed tokens: header, claims and signature, each in base-64, joined by dots. The secret of
a kind signs and checks the tokens of that kind alone. -/

namespace SessionTokens

/-- What makes a text no valid token, whatever the time. -/
inductive Defect where
  | parts
  | base64
  | json
  | algorithm
  | signature
  | missingExpiry
  | audience
  | issuedInFuture
  deriving DecidableEq, Repr

def Defect.text : Defect → String
  | .parts => "InvalidToken"
  | .base64 => "Base64 error"
  | .json => "JSON error"
  | .algorithm => "InvalidAlgorithm"
  | .signature => "InvalidSignature"
  | .missingExpiry => "Missing required claim: exp"
  | .audience => "InvalidAudience"
  | .issuedInFuture => "issued in the future"

inductive CodecError where
  | malformed (defect : Defect)
  | expired
  deriving DecidableEq, Repr

def CodecError.message : CodecError → String
  | .malformed d => "malformed token: " ++ d.text
  | .expired => "token expired"

/-- Signs and reads tokens. Clocks may differ by `leeway` seconds. -/
structure Codec where
  secrets : Secrets
  leeway : Nat
  deriving DecidableEq

namespace Codec

def make (secrets : Secrets) (leeway : Nat) : Except SecretsError Codec :=
  match secrets.error? with
  | some e => .error e
  | none => .ok ⟨secrets, leeway⟩

def signature (c : Codec) (k : TokenKind) (message : List Char) : List Char :=
  Base64Url.encode (Hmac.tag (c.secrets.of k) (Utf8.encode message))

def encodeText (s : List Char) : List Char := Base64Url.encode (Utf8.encode s)

def message {k : TokenKind} (claims : Claims k) : List Char :=
  encodeText Header.written.toList ++ '.' :: encodeText claims.json.chars

def sign (c : Codec) {k : TokenKind} (claims : Claims k) : String :=
  String.ofList (message claims ++ '.' :: c.signature k (message claims))

/-- What stands before and after the last dot. -/
def splitLastDot? : List Char → Option (List Char × List Char)
  | [] => none
  | c :: r =>
    match splitLastDot? r with
    | some (a, b) => some (c :: a, b)
    | none => if c = '.' then some ([], r) else none

def decodePart (part : List Char) : Except Defect Json.Document :=
  match Base64Url.decode part with
  | some bytes => .ok (Json.readBytes bytes)
  | none => .error .base64

def readPart {α : Type} (d : Json.Document) (value : Json.Node → Json.Reading α) :
    Except Defect α :=
  match d.read value with
  | .ok a => .ok a
  | .error _ => .error .json

/-- A container is passed over where a plain value is expected only if it is empty. -/
def plainOrEmpty (n : Json.Node) : Json.Reading Unit :=
  match n with
  | .array [] close => Json.closed close
  | .object [] close => Json.closed close
  | .array _ _ => throw (.badText .misplaced)
  | .object _ _ => throw (.badText .misplaced)
  | .string q => do
    let _ ← q.text
    return ()
  | n => n.skip

def isAudience (n : Json.Node) : Bool :=
  match n with
  | .string _ => true
  | .array items _ => items.all fun i => match i with
    | .string _ => true
    | _ => false
  | _ => false

/-- A value of any kind, kept before it is looked at. A number too large to keep is let go. -/
def keptOrNumber (n : Json.Node) : Json.Reading Unit :=
  match n with
  | .number _ => .ok ()
  | n => n.kept Json.depthLimit

/-- Whether the claims name an audience. The members that every token may have are read here,
none of them twice. -/
def namesAudience (n : Json.Node) : Json.Reading Bool :=
  match n with
  | .array _ _ => throw .mismatch
  | n => n.record ["exp", "nbf", "sub", "iss", "aud"]
    (fun name n found =>
      match name with
      | "nbf" => do
        plainOrEmpty n
        return found
      | "iss" => do
        keptOrNumber n
        return found
      | "aud" => do
        keptOrNumber n
        return isAudience n
      | _ => .ok found) false

def readPayload (k : TokenKind) (d : Json.Document) : Except Defect (Claims k × Bool) := do
  return (← readPart d (Claims.ofJson k), ← readPart d namesAudience)

def authentic (c : Codec) (k : TokenKind) (token : String) :
    Except Defect (Claims k × Bool) := do
  let some (message, sig) := splitLastDot? token.toList | throw .parts
  let some (header, payload) := splitLastDot? message | throw .parts
  let algorithm ← readPart (← decodePart header) Header.algorithm
  if algorithm ≠ .hs256 then throw .algorithm
  if sig ≠ c.signature k message then throw .signature
  readPayload k (← decodePart payload)

/-- Whether a token is too old to be read. Seconds have no sign here. -/
def outdated (c : Codec) (now expiresAt : Int) : Bool := expiresAt < Word.sub now c.leeway

/-- The leeway where seconds have a sign. -/
def signedLeeway (c : Codec) : Int := Word.signed c.leeway

def issuedAhead (c : Codec) (now issuedAt : Int) : Bool := Word.add now c.signedLeeway < issuedAt

/-- Whether a token has expired that could be read. Seconds have a sign here. -/
def expired (c : Codec) (now expiresAt : Int) : Bool := expiresAt < Word.add now (-c.signedLeeway)

/-- Reads a token at a time in seconds; `strict` says that it must not have expired. -/
def read (c : Codec) (k : TokenKind) (strict : Bool) (now : Int) (token : String) :
    Except CodecError (Claims k) :=
  match c.authentic k token with
  | .error d => .error (.malformed d)
  | .ok (claims, audience) =>
    if claims.expiresAt < 0 then .error (.malformed .missingExpiry)
    else if strict && c.outdated now claims.expiresAt then .error .expired
    else if audience then .error (.malformed .audience)
    else if c.issuedAhead now claims.issuedAt then .error (.malformed .issuedInFuture)
    else .ok claims

def parse (c : Codec) (k : TokenKind) (now : Int) (token : String) :
    Except CodecError (Claims k) :=
  c.read k true now token

def parseAllowExpired (c : Codec) (k : TokenKind) (now : Int) (token : String) :
    Except CodecError (Claims k) :=
  c.read k false now token

def checkExpiry (c : Codec) {k : TokenKind} (now : Int) (claims : Claims k) :
    Except CodecError Unit :=
  if c.expired now claims.expiresAt then .error .expired else .ok ()

def leewayText (c : Codec) : String := (Span.ofSeconds c.leeway).secondsText

def sourceText (c : Codec) : String :=
  "JwtConfig \x7b secrets: " ++ Secrets.redacted ++ ", leeway: " ++ c.leewayText ++ " \x7d"

def text (c : Codec) : String := "JwtHs256Codec \x7b leeway: " ++ c.leewayText ++ ", .. \x7d"

end Codec

end SessionTokens

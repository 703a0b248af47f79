import SessionTokens.Identity.Uuid
import SessionTokens.Time.Instant
import SessionTokens.Token.Kind

/-! What a token says. Only an access token names roles. -/

namespace SessionTokens

/-- The identifier under which a token is recorded and revoked. -/
structure Jti where
  text : String
  deriving DecidableEq, Repr, Inhabited

def TokenKind.Roles : TokenKind → Type
  | .userAccess => List String
  | .userRefresh => Unit
  | .deviceConnection => Unit
  | .deviceRefresh => Unit

instance (k : TokenKind) : DecidableEq k.Roles := by
  cases k <;> unfold TokenKind.Roles <;> infer_instance

/-- Times are seconds since the start of 1970. -/
structure Claims (k : TokenKind) where
  subject : Uuid
  roles : k.Roles
  jti : Jti
  issuedAt : Int
  expiresAt : Int
  deriving DecidableEq

abbrev AccessClaims := Claims .userAccess

abbrev RefreshClaims := Claims .userRefresh

abbrev ConnectionClaims := Claims .deviceConnection

abbrev DeviceRefreshClaims := Claims .deviceRefresh

namespace Claims

def expiry {k : TokenKind} (c : Claims k) : Instant := .ofSecondsOrFirst c.expiresAt

def memberNames : TokenKind → List String
  | .userAccess => ["sub", "roles", "jti", "iat", "exp"]
  | _ => ["sub", "jti", "iat", "exp"]

def rolesJson : (k : TokenKind) → k.Roles → List (String × Json.Value)
  | .userAccess, roles => [("roles", .arr (roles.map .str))]
  | .userRefresh, _ => []
  | .deviceConnection, _ => []
  | .deviceRefresh, _ => []

def json {k : TokenKind} (c : Claims k) : Json.Value :=
  .obj (("sub", .str c.subject.text) :: rolesJson k c.roles ++
    [("jti", .str c.jti.text), ("iat", .int c.issuedAt), ("exp", .int c.expiresAt)])

structure Draft where
  subject : Option Uuid := none
  roles : Option (List String) := none
  jti : Option String := none
  issuedAt : Option Int := none
  expiresAt : Option Int := none

end Claims

def Json.Node.uuid (n : Json.Node) : Json.Reading Uuid := do
  match Uuid.ofText? (← n.text) with
  | some u => return u
  | none => throw .mismatch

namespace Claims

def Draft.fill (name : String) (n : Json.Node) (d : Draft) : Json.Reading Draft :=
  match name with
  | "sub" => do return { d with subject := some (← n.uuid) }
  | "roles" => do return { d with roles := some (← n.list (·.text)) }
  | "jti" => do return { d with jti := some (← n.text) }
  | "iat" => do return { d with issuedAt := some (← n.int64) }
  | "exp" => do return { d with expiresAt := some (← n.int64) }
  | _ => .ok d

def Draft.readRoles (d : Draft) : (k : TokenKind) → Json.Reading k.Roles
  | .userAccess => Json.required d.roles
  | .userRefresh => .ok ()
  | .deviceConnection => .ok ()
  | .deviceRefresh => .ok ()

def Draft.finish (k : TokenKind) (d : Draft) : Json.Reading (Claims k) := do
  return {
    subject := ← Json.required d.subject
    roles := ← d.readRoles k
    jti := ⟨← Json.required d.jti⟩
    issuedAt := ← Json.required d.issuedAt
    expiresAt := ← Json.required d.expiresAt }

def ofJson (k : TokenKind) (n : Json.Node) : Json.Reading (Claims k) := do
  (← n.record (memberNames k) Draft.fill {}).finish k

end Claims

end SessionTokens

import SessionTokens.Session.Issuer

/-! Sessions of users: access tokens with roles, which are looked up anew at every rotation. -/

namespace SessionTokens.User

def issue (i : Issuer) (user : Uuid) (roles : List String) : Operation TokenSet :=
  i.issue .userAccess .userRefresh user roles () fun set =>
    .userTokensIssued user set.bearer.entry.jti set.refresh.entry.jti

def validate (i : Issuer) (token : String) : Operation AccessClaims :=
  i.validate .userAccess token

/-- Exchanges a refresh token for a new set, with the roles that the user has now. -/
def rotate (i : Issuer) (token : String) : Operation TokenSet := do
  let old ← i.parse .userRefresh token
  Issuer.exchange old token
    (do issue i old.subject (← .rolesOf old.subject))
    fun set => .emit (.rotated (.user old.subject) old.jti set.refresh.entry.jti)

def revoke (access refresh : Entry) : Operation Unit := Ledger.revokePair access refresh

def logout (i : Issuer) (c : AccessClaims) (refreshToken : Option String) : Operation Unit :=
  i.logout (.user c.subject) .userRefresh c refreshToken

end SessionTokens.User

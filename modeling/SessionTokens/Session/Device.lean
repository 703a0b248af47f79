import SessionTokens.Session.Issuer

/-! Sessions of devices. A device shows both of its tokens to rotate them; the connection token
may have expired. -/

namespace SessionTokens.Device

def issue (i : Issuer) (device : Uuid) : Operation TokenSet :=
  i.issue .deviceConnection .deviceRefresh device () () fun set =>
    .deviceTokensIssued device set.bearer.entry.jti

def validate (i : Issuer) (token : String) : Operation ConnectionClaims :=
  i.validate .deviceConnection token

/-- The claims of two authentic tokens of one device. The expiry of the refresh token is
checked last, so that a pair of two devices is always reported. -/
def parsePair (i : Issuer) (connection refresh : String) :
    Operation (ConnectionClaims × DeviceRefreshClaims) := do
  let r ← i.parseAllowExpired .deviceRefresh refresh
  let c ← i.parseAllowExpired .deviceConnection connection
  if c.subject ≠ r.subject then
    .emit (.subjectMismatch .deviceRefresh c.subject r.subject refresh)
    throw .subjectMismatch
  let now ← Operation.now
  .ofCodec (i.codec.checkExpiry now.unix r)
  return (c, r)

/-- Exchanges a pair of tokens for a new set; the old connection token is revoked too, if that
can be done. -/
def rotate (i : Issuer) (connection refresh : String) : Operation TokenSet := do
  let (c, old) ← parsePair i connection refresh
  Issuer.exchange old refresh (issue i old.subject) fun set => do
    Ledger.revokeQuietly c.entry
    .emit (.rotated (.device old.subject) old.jti set.refresh.entry.jti)

def revoke (connection refresh : Entry) : Operation Unit := Ledger.revokePair connection refresh

def logout (i : Issuer) (c : ConnectionClaims) (refreshToken : Option String) : Operation Unit :=
  i.logout (.device c.subject) .deviceRefresh c refreshToken

end SessionTokens.Device

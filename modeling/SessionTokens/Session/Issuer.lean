import SessionTokens.Session.Ledger

/-! Token sets. A set is a short-lived bearer token, which its holder shows, and a refresh
token, which buys the next set. -/

namespace SessionTokens

structure IssuedToken where
  text : String
  entry : Entry
  deriving DecidableEq, Repr

structure TokenSet where
  bearer : IssuedToken
  refresh : IssuedToken
  deriving DecidableEq, Repr

structure Issuer where
  codec : Codec
  bearerTtl : Span
  refreshTtl : Span

def Claims.entry {k : TokenKind} (c : Claims k) : Entry := ⟨c.jti, c.expiry⟩

namespace Issuer

/-- The second at which a token made at `now` expires. -/
def expiry (now : Instant) (ttl : Span) : Operation Int :=
  match now.plus? ttl with
  | some t => pure t.unix
  | none => throw (.internal (.ttlOutOfRange ttl))

def claims (k : TokenKind) (subject : Uuid) (roles : k.Roles) (now : Instant) (ttl : Span) :
    Operation (Claims k) := do
  let jti ← Operation.drawJti
  let expiresAt ← expiry now ttl
  return ⟨subject, roles, jti, now.unix, expiresAt⟩

def token (i : Issuer) {k : TokenKind} (c : Claims k) : IssuedToken :=
  ⟨i.codec.sign c, c.entry⟩

def mint (i : Issuer) (bearer refresh : TokenKind) (subject : Uuid) (roles : bearer.Roles)
    (refreshRoles : refresh.Roles) : Operation TokenSet := do
  let now ← Operation.now
  let b ← claims bearer subject roles now i.bearerTtl
  let r ← claims refresh subject refreshRoles now i.refreshTtl
  return ⟨i.token b, i.token r⟩

def recordSet (set : TokenSet) : Operation Unit := do
  Ledger.record set.bearer.entry
  Ledger.record set.refresh.entry

/-- Issues a set: it is handed out only when both of its tokens are recorded. -/
def issue (i : Issuer) (bearer refresh : TokenKind) (subject : Uuid) (roles : bearer.Roles)
    (refreshRoles : refresh.Roles) (note : TokenSet → Log.Event) : Operation TokenSet := do
  let set ← i.mint bearer refresh subject roles refreshRoles
  recordSet set
  .emit (note set)
  return set

def parse (i : Issuer) (k : TokenKind) (token : String) : Operation (Claims k) := do
  let now ← Operation.now
  .ofCodec (i.codec.parse k now.unix token)

def parseAllowExpired (i : Issuer) (k : TokenKind) (token : String) : Operation (Claims k) := do
  let now ← Operation.now
  .ofCodec (i.codec.parseAllowExpired k now.unix token)

def validate (i : Issuer) (k : TokenKind) (token : String) : Operation (Claims k) := do
  let c ← i.parse k token
  Ledger.ensureActive c.jti
  return c

def ensureUnused {k : TokenKind} (c : Claims k) (token : String) : Operation Unit := do
  match ← (Ledger.ensureRotatable c.jti).attempt with
  | .ok () => return ()
  | .error .reuseDetected =>
    .emit (.refreshReuse k c.subject c.jti token)
    throw .reuseDetected
  | .error e => throw e

/-- Takes back a set whose rotation lost to another one, and reports the token as used before. -/
def lose {α : Type} {k : TokenKind} (c : Claims k) (token : String) (set : TokenSet) :
    Operation α := do
  .emit (.refreshReuse k c.subject c.jti token)
  Ledger.revokeQuietly set.bearer.entry
  Ledger.revokeQuietly set.refresh.entry
  throw .reuseDetected

/-- Exchanges a refresh token for a new set. The old token is revoked last; whoever loses that
race takes the new set back. -/
def exchange {k : TokenKind} (old : Claims k) (token : String) (renew : Operation TokenSet)
    (finish : TokenSet → Operation Unit) : Operation TokenSet := do
  ensureUnused old token
  let set ← renew
  match ← Ledger.retire old.entry with
  | .raced => lose old token set
  | _ =>
    finish set
    return set

/-- The claims of the refresh token shown at logout; one that is not valid is ignored. -/
def shownRefresh (i : Issuer) (k : TokenKind) (holder : Log.Holder) :
    Option String → Operation (Option (String × Claims k))
  | none => return none
  | some token => do
    let now ← Operation.now
    match i.codec.parse k now.unix token with
    | .ok c => return some (token, c)
    | .error e =>
      .emit (.refreshIgnored holder e token)
      return none

/-- Ends the session of a bearer token, and of the refresh token shown with it. -/
def logout (i : Issuer) (holder : Log.Holder) {bearer : TokenKind} (k : TokenKind)
    (c : Claims bearer) (refreshToken : Option String) : Operation Unit := do
  match ← i.shownRefresh k holder refreshToken with
  | some (token, r) =>
    if r.subject ≠ c.subject then
      .emit (.subjectMismatch k c.subject r.subject token)
      throw .subjectMismatch
    Ledger.revokePair c.entry r.entry
    .emit (.sessionRevoked holder)
  | none =>
    let _ ← Ledger.revoke c.entry
    .emit (.bearerRevoked holder)

end Issuer

end SessionTokens

import SessionTokens.Session.Device
import SessionTokens.Session.User

/-! The two session services, and what can be asked of either. -/

namespace SessionTokens

inductive Side where
  | user
  | device
  deriving DecidableEq, Repr

namespace Side

abbrev bearer : Side → TokenKind
  | user => .userAccess
  | device => .deviceConnection

abbrev refresh : Side → TokenKind
  | user => .userRefresh
  | device => .deviceRefresh

/-- What is shown along with a refresh token: a device shows its connection token. -/
abbrev Companion : Side → Type
  | user => Unit
  | device => String

end Side

structure Services where
  users : Issuer
  devices : Issuer

namespace Services

def issuer (v : Services) : Side → Issuer
  | .user => v.users
  | .device => v.devices

/-- Services with a secret of one byte for each kind of token, an hour of the bearer and a day of
the refresh tokens. -/
def sample : Services :=
  let issuer : Issuer := ⟨⟨⟨[1], [2], [3], [4]⟩, 0⟩, .ofSeconds 3600, .ofSeconds 86400⟩
  ⟨issuer, issuer⟩

/-- What a refresh token of the sample says that is made at the beginning of 1970, under the first
identifier of a host. -/
def sampleRefresh : RefreshClaims := ⟨default, (), ⟨""⟩, 0, 86400⟩

inductive Request where
  | issue (s : Side) (subject : Uuid) (roles : s.bearer.Roles)
  | validate (s : Side) (token : String)
  | rotate (s : Side) (companion : s.Companion) (token : String)
  | revoke (s : Side) (bearer refresh : Entry)
  | logout (s : Side) (c : Claims s.bearer) (shown : Option String)
  | stats

inductive Reply where
  | issued (set : TokenSet)
  | validated (s : Side) (c : Claims s.bearer)
  | done
  | counted (n : JtiStats)

def operation (v : Services) : Request → Operation Reply
  | .issue .user user roles => .issued <$> User.issue v.users user roles
  | .issue .device device _ => .issued <$> Device.issue v.devices device
  | .validate .user token => .validated .user <$> User.validate v.users token
  | .validate .device token => .validated .device <$> Device.validate v.devices token
  | .rotate .user _ token => .issued <$> User.rotate v.users token
  | .rotate .device connection token => .issued <$> Device.rotate v.devices connection token
  | .revoke .user bearer refresh => (fun _ => .done) <$> User.revoke bearer refresh
  | .revoke .device bearer refresh => (fun _ => .done) <$> Device.revoke bearer refresh
  | .logout .user c shown => (fun _ => .done) <$> User.logout v.users c shown
  | .logout .device c shown => (fun _ => .done) <$> Device.logout v.devices c shown
  | .stats => .counted <$> Operation.call .stats

def serve (v : Services) (q : Request) : Program (Except SessionError Reply) := (v.operation q).run

end Services

end SessionTokens

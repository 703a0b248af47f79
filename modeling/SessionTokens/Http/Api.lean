import SessionTokens.Http.Route
import SessionTokens.Session.Device
import SessionTokens.Session.User
import SessionTokens.Time.Calendar

/-! The eight routes of the session service. A user's access token goes out in a header and
the refresh token in a cookie; a device gets and sends both in bodies. -/

namespace SessionTokens.Http

structure Api where
  users : Issuer
  devices : Issuer
  /-- Whoever may issue sessions knows this key. -/
  serviceKey : String
  /-- Milliseconds for one call of the registry. -/
  timeout : Nat
  secureCookies : Bool

namespace Api

def mount : List String := ["api", "v1"]

def bodyLimit : Nat := 16384

def refreshCookie : String := "meshpoint_refresh"

def success (data : Json.Value) : Response :=
  .json 200 (.obj [("success", .bool true), ("data", data), ("error", .null)])

def time (t : Instant) : Json.Value := .str (Calendar.rfc3339 t)

def cookie (api : Api) (value : String) (maxAge : Nat) : SetCookie :=
  ⟨refreshCookie, value, "/api/v1/session", maxAge, api.secureCookies⟩

def setCookie (r : Response) (c : SetCookie) : Response := r.withHeader "set-cookie" c.text

def withTokens (api : Api) (r : Response) (set : TokenSet) : Response :=
  setCookie (r.withHeader "authorization" ("Bearer " ++ set.bearer.text))
    (api.cookie set.refresh.text api.users.refreshTtl.seconds)

def expiries (bearer : String) (set : TokenSet) : List (String × Json.Value) :=
  [(bearer ++ "_expires_at", time set.bearer.entry.expiresAt),
    ("refresh_expires_at", time set.refresh.entry.expiresAt)]

def deviceSet (set : TokenSet) : Json.Value :=
  .obj ([("connection_token", .str set.bearer.text), ("refresh_token", .str set.refresh.text),
    ("connection_token_jti", .str set.bearer.entry.jti.text),
    ("refresh_token_jti", .str set.refresh.entry.jti.text)] ++ expiries "connection" set)

/-- Lets those through who know the service key. Digests are compared, not keys. -/
def trusted (api : Api) (q : Request) : Handling Unit := do
  let digest (s : String) := Sha256.digest (Utf8.encode s.toList)
  match ← Handling.header? q "x-service-key" with
  | some key => if digest key = digest api.serviceKey then return ()
  | none => pure ()
  Handling.emit .untrustedIssuer
  Handling.reject (.refused .untrustedCaller)

def bearerOf? (value : String) : Option String :=
  let lead := "Bearer ".toList
  let cs := value.toList
  if cs.take lead.length = lead ∧ cs.length ≠ lead.length then
    some (String.ofList (cs.drop lead.length))
  else none

def bearer (q : Request) : Handling String := do
  match (← Handling.header? q "authorization").bind bearerOf? with
  | some token => return token
  | none => Handling.reject (.refused .invalidToken)

def user (api : Api) (q : Request) : Handling AccessClaims := do
  .ofOperation (User.validate api.users (← bearer q))

def device (api : Api) (q : Request) : Handling ConnectionClaims := do
  .ofOperation (Device.validate api.devices (← bearer q))

/-- The refresh token in the cookies; an empty one counts as none. -/
def refreshToken? (q : Request) : Option String := (q.cookie? refreshCookie).filter (· != "")

structure IssueUser where
  user : Option Uuid := none
  roles : List String := []

def issueUser (n : Json.Node) : Json.Reading (Uuid × List String) := do
  let r ← n.record ["user_id", "roles"]
    (fun name n (r : IssueUser) =>
      match name with
      | "user_id" => do return { r with user := some (← n.uuid) }
      | _ => do return { r with roles := ← n.list (·.text) }) {}
  return (← Json.required r.user, r.roles)

def issueDevice (n : Json.Node) : Json.Reading Uuid := do
  Json.required (← n.record ["device_id"] (fun _ n _ => some <$> n.uuid) none)

def texts (names : List String) (n : Json.Node) : Json.Reading (List (String × String)) := do
  n.record names (fun name n found => do return (name, ← n.text) :: found) []

def rotateDevice (n : Json.Node) : Json.Reading (String × String) := do
  let found ← texts ["connection_token", "refresh_token"] n
  return (← Json.required (found.lookup "connection_token"),
    ← Json.required (found.lookup "refresh_token"))

def logoutDevice (n : Json.Node) : Json.Reading (Option String) :=
  n.record ["refresh_token"] (fun _ n _ => n.optional (·.text)) none

def limitedBody {α : Type} (q : Request) (value : Json.Node → Json.Reading α) : Handling α := do
  Handling.limitLength q bodyLimit
  Handling.body q value

def issueSession (api : Api) (q : Request) : Handling Response := do
  api.trusted q
  let (user, roles) ← limitedBody q issueUser
  let set ← Handling.ofOperation (User.issue api.users user roles)
  return api.withTokens
    (success (.obj (("user_id", .str user.text) :: expiries "access" set))) set

def currentSession (api : Api) (q : Request) : Handling Response := do
  let c ← api.user q
  return success (.obj [("subject", .str c.subject.text), ("roles", .arr (c.roles.map .str)),
    ("jti", .str c.jti.text), ("expires_at", time c.expiry)])

def refreshSession (api : Api) (q : Request) : Handling Response := do
  match refreshToken? q with
  | none => Handling.reject (.refused .invalidToken)
  | some token =>
    let set ← Handling.ofOperation (User.rotate api.users token)
    return api.withTokens (success (.obj (expiries "access" set))) set

def endSession (api : Api) (q : Request) : Handling Response := do
  let c ← api.user q
  Handling.ofOperation (User.logout api.users c (refreshToken? q))
  return setCookie (success .null) (api.cookie "" 0)

def issueDeviceSession (api : Api) (q : Request) : Handling Response := do
  api.trusted q
  let device ← limitedBody q issueDevice
  let set ← Handling.ofOperation (Device.issue api.devices device)
  return success (deviceSet set)

def currentDeviceSession (api : Api) (q : Request) : Handling Response := do
  let c ← api.device q
  return success (.obj [("subject", .str c.subject.text), ("jti", .str c.jti.text),
    ("expires_at", time c.expiry)])

def refreshDeviceSession (api : Api) (q : Request) : Handling Response := do
  let (connection, refresh) ← limitedBody q rotateDevice
  let set ← Handling.ofOperation (Device.rotate api.devices connection refresh)
  return success (deviceSet set)

def endDeviceSession (api : Api) (q : Request) : Handling Response := do
  let c ← api.device q
  let refresh ← limitedBody q logoutDevice
  Handling.ofOperation (Device.logout api.devices c refresh)
  return success .null

def routes (api : Api) : List Route := [
  ⟨"POST", ["session"], api.issueSession⟩,
  ⟨"GET", ["session"], api.currentSession⟩,
  ⟨"POST", ["session", "refresh"], api.refreshSession⟩,
  ⟨"POST", ["session", "logout"], api.endSession⟩,
  ⟨"POST", ["device", "session"], api.issueDeviceSession⟩,
  ⟨"GET", ["device", "session"], api.currentDeviceSession⟩,
  ⟨"POST", ["device", "refresh"], api.refreshDeviceSession⟩,
  ⟨"POST", ["device", "logout"], api.endDeviceSession⟩]

def respond (api : Api) (q : Request) : Program Response := Route.respond mount api.routes q

end Api

end SessionTokens.Http

import SessionTokens.Settings.Basic
import SessionTokens.Text.Quoted

/-! The settings as one line of text that shows no secret. -/

namespace SessionTokens.Settings

def redacted : String := "[redacted]"

def dumpRecord (name : String) (fields : List (String × String)) : String :=
  name ++ " \x7b " ++ String.intercalate ", " (fields.map fun f => f.1 ++ ": " ++ f.2) ++ " \x7d"

def dumpCount (n : Nat) : String := String.ofList (Decimal.ofNat n)

def Secrets.dump : String :=
  dumpRecord "Secrets" [("user_access", redacted), ("user_refresh", redacted),
    ("device_connection", redacted), ("device_refresh", redacted)]

def Auth.dump (a : Auth) : String :=
  dumpRecord "Auth" [("registry", Text.quoted a.registry), ("secrets", Secrets.dump),
    ("service_key", redacted), ("access_ttl_secs", dumpCount a.accessTtl),
    ("refresh_ttl_secs", dumpCount a.refreshTtl),
    ("device_connection_ttl_secs", dumpCount a.connectionTtl),
    ("device_refresh_ttl_secs", dumpCount a.deviceRefreshTtl),
    ("leeway_secs", dumpCount a.leeway), ("clock_skew_buffer_secs", dumpCount a.skew),
    ("jti_fallback_ttl_secs", dumpCount a.fallback),
    ("registry_timeout_ms", dumpCount a.registryTimeout),
    ("default_roles", Text.quotedList a.defaultRoles)]

def Listener.dump (l : Listener) : String :=
  dumpRecord "Http" [("cert_path", Text.quoted l.certPath), ("key_path", Text.quoted l.keyPath),
    ("address", Text.quoted l.address),
    ("secure_cookies", if l.secureCookies then "true" else "false")]

def KeyServer.dump (k : KeyServer) : String :=
  dumpRecord "Redis" [("dsn", redacted), ("prefix", Text.quoted k.root)]

def dump (s : Settings) : String :=
  dumpRecord "Settings" [("auth", s.auth.dump), ("http", s.http.dump),
    ("log", dumpRecord "Log" [("filter", Text.quoted s.logFilter)]), ("redis", s.redis.dump),
    ("stats", dumpRecord "Stats" [("interval_secs", dumpCount s.statsInterval)])]

end SessionTokens.Settings

namespace SessionTokens.Retention

/-- The two spans, which are whole seconds. -/
def dump (p : Retention) : String :=
  Settings.dumpRecord "JtiTtlPolicy"
    [("fallback", p.fallback.secondsText), ("clock_skew_buffer", p.skew.secondsText)]

end SessionTokens.Retention

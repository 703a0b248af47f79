/-! The settings files that come with the service. The one for releases takes its secrets, the
service key and the address of the key server from the environment. -/

namespace SessionTokens.Settings.Shipped

def developmentPath : String := "settings/dev.toml"

def releasePath : String := "settings/release.toml"

def lines (ls : List String) : String := String.intercalate "\n" ls ++ "\n"

def development : String := lines [
  "[auth]",
  "registry = \"memory\"",
  "service_key = \"dev-service-key\"",
  "access_ttl_secs = 900",
  "refresh_ttl_secs = 604800",
  "device_connection_ttl_secs = 3600",
  "device_refresh_ttl_secs = 2592000",
  "leeway_secs = 30",
  "clock_skew_buffer_secs = 300",
  "jti_fallback_ttl_secs = 60",
  "registry_timeout_ms = 500",
  "default_roles = [\"viewer\"]",
  "",
  "[auth.secrets]",
  "user_access = \"dev-user-access-secret\"",
  "user_refresh = \"dev-user-refresh-secret\"",
  "device_connection = \"dev-device-connection-secret\"",
  "device_refresh = \"dev-device-refresh-secret\"",
  "",
  "[http]",
  "cert_path = \"certs/dev-cert.pem\"",
  "key_path = \"certs/dev-key.pem\"",
  "address = \"127.0.0.1:8443\"",
  "secure_cookies = false",
  "",
  "[log]",
  "filter = \"debug,security=warn\"",
  "",
  "[redis]",
  "dsn = \"redis://:mysecret@127.0.0.1:6379\"",
  "prefix = \"meshpoint\"",
  "",
  "[stats]",
  "interval_secs = 60"]

def release : String := lines [
  "[auth]",
  "registry = \"redis\"",
  "access_ttl_secs = 900",
  "refresh_ttl_secs = 604800",
  "device_connection_ttl_secs = 3600",
  "device_refresh_ttl_secs = 2592000",
  "leeway_secs = 30",
  "clock_skew_buffer_secs = 300",
  "jti_fallback_ttl_secs = 60",
  "registry_timeout_ms = 500",
  "default_roles = [\"viewer\"]",
  "",
  "[http]",
  "cert_path = \"/etc/meshpoint/tls/cert.pem\"",
  "key_path = \"/etc/meshpoint/tls/key.pem\"",
  "address = \"0.0.0.0:8443\"",
  "secure_cookies = true",
  "",
  "[log]",
  "filter = \"info\"",
  "",
  "[redis]",
  "prefix = \"meshpoint\"",
  "",
  "[stats]",
  "interval_secs = 300"]

def files (path : String) : Option String :=
  if path = developmentPath then some development
  else if path = releasePath then some release
  else none

end SessionTokens.Settings.Shipped

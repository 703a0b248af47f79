import SessionTokens.Host.Basic
import SessionTokens.Http.Api
import SessionTokens.Settings.Basic

/-! Makes a server of its settings, with the registry and the roles that it works on. -/

namespace SessionTokens

inductive ServerError where
  | emptyServiceKey
  | unknownRegistry (name : String)
  /-- A key server that cannot be reached by its address. -/
  | unreachable
  | secrets (error : SecretsError)
  deriving DecidableEq, Repr

/-- The message, where it is not another system's. -/
def ServerError.message? : ServerError → Option String
  | emptyServiceKey => some "auth.service_key must not be empty"
  | unknownRegistry name => some ("Unknown registry backend: " ++ name)
  | unreachable => none
  | secrets error => some error.message

structure Server where
  api : Http.Api
  registryName : String
  /-- Milliseconds from one count of the registry to the next. -/
  interval : Nat
  /-- When the registry is counted next, on the timer; never before the start and after the
  end. -/
  nextCount : Option Nat := none
  /-- The registry that is counted, if it is another one than requests use. -/
  counted : Option Backend := none

namespace Settings

def Secrets.toSigning (s : Settings.Secrets) : SessionTokens.Secrets :=
  let bytes (text : String) := Utf8.encode text.toList
  ⟨bytes s.userAccess, bytes s.userRefresh, bytes s.deviceConnection, bytes s.deviceRefresh⟩

def registry (connect : String → Option Keyed.Server) (s : Settings) :
    Except ServerError Backend :=
  match s.auth.registry with
  | "memory" => .ok (.memory (.empty s.auth.retention))
  | "redis" => match connect s.redis.dsn with
    | some server => .ok (.keyed ⟨s.redis.root, s.auth.retention, server⟩)
    | none => .error .unreachable
  | name => .error (.unknownRegistry name)

def api (s : Settings) (codec : Codec) : Http.Api where
  users := ⟨codec, .ofSeconds s.auth.accessTtl, .ofSeconds s.auth.refreshTtl⟩
  devices := ⟨codec, .ofSeconds s.auth.connectionTtl, .ofSeconds s.auth.deviceRefreshTtl⟩
  serviceKey := s.auth.serviceKey
  timeout := s.auth.registryTimeout
  secureCookies := s.http.secureCookies

def server (connect : String → Option Keyed.Server) (s : Settings) :
    Except ServerError (Server × Backend × RoleDirectory) := do
  if s.auth.serviceKey = "" then throw .emptyServiceKey
  let registry ← s.registry connect
  let codec ← (Codec.make s.auth.secrets.toSigning s.auth.leeway).mapError .secrets
  let server : Server :=
    { api := s.api codec, registryName := s.auth.registry,
      interval := max s.statsInterval 1 * 1000 }
  return (server, registry, .ofDefaults s.auth.defaultRoles)

end Settings

end SessionTokens

import SessionTokens.Config.Value
import SessionTokens.Registry.Retention

/-! The settings of the service, and how each is read from a section of a settings file. -/

namespace SessionTokens

namespace Settings

open Config

structure Secrets where
  userAccess : String
  userRefresh : String
  deviceConnection : String
  deviceRefresh : String
  deriving DecidableEq

structure Auth where
  registry : String
  secrets : Secrets
  serviceKey : String
  /-- This and the six times after it are in seconds. -/
  accessTtl : Nat
  refreshTtl : Nat
  connectionTtl : Nat
  deviceRefreshTtl : Nat
  leeway : Nat
  skew : Nat
  fallback : Nat
  /-- Milliseconds for one call of the registry. -/
  registryTimeout : Nat
  defaultRoles : List String
  deriving DecidableEq

structure Listener where
  certPath : String
  keyPath : String
  address : String
  secureCookies : Bool
  deriving DecidableEq

structure KeyServer where
  dsn : String
  root : String
  deriving DecidableEq

def defaultSkew : Nat := 300

def defaultFallback : Nat := 60

/-- Reads a section of its own. The values that are there are read in order, and only then does
one count as missing. -/
def within {α : Type} (read : Section → Except Config.Error α) (key : String) (v : Value) :
    Except Config.Error α := do
  read (← Section.of key v)

def Secrets.read (s : Section) : Except Config.Error Secrets := do
  let userAccess ← s.read? "user_access" 0 Value.asText
  let userRefresh ← s.read? "user_refresh" 1 Value.asText
  let deviceConnection ← s.read? "device_connection" 2 Value.asText
  let deviceRefresh ← s.read? "device_refresh" 3 Value.asText
  return {
    userAccess := ← s.require "user_access" userAccess
    userRefresh := ← s.require "user_refresh" userRefresh
    deviceConnection := ← s.require "device_connection" deviceConnection
    deviceRefresh := ← s.require "device_refresh" deviceRefresh }

def Auth.read (s : Section) : Except Config.Error Auth := do
  let registry ← s.read? "registry" 0 Value.asText
  let secrets ← s.read? "secrets" 1 (within Secrets.read)
  let serviceKey ← s.read? "service_key" 2 Value.asText
  let accessTtl ← s.read? "access_ttl_secs" 3 Value.asCount
  let refreshTtl ← s.read? "refresh_ttl_secs" 4 Value.asCount
  let connectionTtl ← s.read? "device_connection_ttl_secs" 5 Value.asCount
  let deviceRefreshTtl ← s.read? "device_refresh_ttl_secs" 6 Value.asCount
  let leeway ← s.read? "leeway_secs" 7 Value.asCount
  let skew ← s.read? "clock_skew_buffer_secs" 8 Value.asCount
  let fallback ← s.read? "jti_fallback_ttl_secs" 9 Value.asCount
  let registryTimeout ← s.read? "registry_timeout_ms" 10 Value.asCount
  let defaultRoles ← s.read? "default_roles" 11 Value.asTexts
  return {
    registry := ← s.require "registry" registry
    secrets := ← s.require "secrets" secrets
    serviceKey := ← s.require "service_key" serviceKey
    accessTtl := ← s.require "access_ttl_secs" accessTtl
    refreshTtl := ← s.require "refresh_ttl_secs" refreshTtl
    connectionTtl := ← s.require "device_connection_ttl_secs" connectionTtl
    deviceRefreshTtl := ← s.require "device_refresh_ttl_secs" deviceRefreshTtl
    leeway := ← s.require "leeway_secs" leeway
    skew := skew.getD defaultSkew
    fallback := fallback.getD defaultFallback
    registryTimeout := ← s.require "registry_timeout_ms" registryTimeout
    defaultRoles := defaultRoles.getD [] }

def Listener.read (s : Section) : Except Config.Error Listener := do
  let certPath ← s.read? "cert_path" 0 Value.asText
  let keyPath ← s.read? "key_path" 1 Value.asText
  let address ← s.read? "address" 2 Value.asText
  let secureCookies ← s.read? "secure_cookies" 3 Value.asFlag
  return {
    certPath := ← s.require "cert_path" certPath
    keyPath := ← s.require "key_path" keyPath
    address := ← s.require "address" address
    secureCookies := secureCookies.getD true }

def KeyServer.read (s : Section) : Except Config.Error KeyServer := do
  let dsn ← s.read? "dsn" 0 Value.asText
  let root ← s.read? "prefix" 1 Value.asText
  return { dsn := ← s.require "dsn" dsn, root := ← s.require "prefix" root }

def single {α : Type} (name : String) (as : String → Value → Except Config.Error α)
    (s : Section) : Except Config.Error α := do
  s.require name (← s.read? name 0 as)

end Settings

structure Settings where
  auth : Settings.Auth
  http : Settings.Listener
  logFilter : String
  redis : Settings.KeyServer
  /-- Seconds from one count of the registry to the next. -/
  statsInterval : Nat
  deriving DecidableEq

namespace Settings

open Config

def read (s : Section) : Except Config.Error Settings := do
  let auth ← s.read? "auth" 0 (within Auth.read)
  let http ← s.read? "http" 1 (within Listener.read)
  let logFilter ← s.read? "log" 2 (within (single "filter" Value.asText))
  let redis ← s.read? "redis" 3 (within KeyServer.read)
  let statsInterval ← s.read? "stats" 4 (within (single "interval_secs" Value.asCount))
  return {
    auth := ← s.require "auth" auth
    http := ← s.require "http" http
    logFilter := ← s.require "log" logFilter
    redis := ← s.require "redis" redis
    statsInterval := ← s.require "stats" statsInterval }

def keys : List String := [
  "auth.registry", "auth.secrets.user_access", "auth.secrets.user_refresh",
  "auth.secrets.device_connection", "auth.secrets.device_refresh", "auth.service_key",
  "auth.access_ttl_secs", "auth.refresh_ttl_secs", "auth.device_connection_ttl_secs",
  "auth.device_refresh_ttl_secs", "auth.leeway_secs", "auth.clock_skew_buffer_secs",
  "auth.jti_fallback_ttl_secs", "auth.registry_timeout_ms", "auth.default_roles",
  "http.cert_path", "http.key_path", "http.address", "http.secure_cookies", "log.filter",
  "redis.dsn", "redis.prefix", "stats.interval_secs"]

def Auth.retention (a : Auth) : Retention := ⟨.ofSeconds a.fallback, .ofSeconds a.skew⟩

end Settings

end SessionTokens

import SessionTokens.Number.Word
import SessionTokens.Registry.Basic
import SessionTokens.Registry.Keyed.Server
import SessionTokens.Registry.Retention

/-! The registry on a key server. An identifier has an active key and a revoked key, both with
the identifier in braces, by which a cluster is to keep them in one slot. -/

namespace SessionTokens

structure KeyedRegistry where
  root : String
  retention : Retention
  server : Keyed.Server

namespace Keyed

inductive Error where
  /-- The server answered with an error or with something that was not asked for. -/
  | server
  | unknownStatus (script : Script) (status : Int)
  deriving DecidableEq, Repr

/-- What is known of an error here; the server's own words are not kept. -/
def Error.reason : Error → String
  | .server => "server error"
  | .unknownStatus script status =>
    "unknown " ++ script.name ++ " script status " ++ String.ofList (Decimal.ofInt status)

def activeKey (root : String) (j : Jti) : String := root ++ ":jti:active:\x7b" ++ j.text ++ "\x7d"

def revokedKey (root : String) (j : Jti) : String := root ++ ":jti:revoked:\x7b" ++ j.text ++ "\x7d"

def activePattern (root : String) : String := root ++ ":jti:active:*"

def revokedPattern (root : String) : String := root ++ ":jti:revoked:*"

/-- The slot of a key in a cluster is chosen by what stands between its first opening brace and
the first closing brace after it, or by the whole key if there is no such part or nothing in it. -/
def hashTag (key : List Char) : List Char :=
  match key.dropWhile (· ≠ '\x7b') with
  | [] => key
  | _ :: r =>
    let tag := r.takeWhile (· ≠ '\x7d')
    if tag = [] ∨ tag.length = r.length then key else tag

/-- Milliseconds after which a key vanishes: at least one, and taken modulo 2⁶⁴. -/
def ttlMillis (p : Retention) (expiresAt now : Instant) : Nat :=
  max ((p.ttl expiresAt now).millis % Word.bound) 1

def decodeState : Int → Except Error JtiState
  | 0 => .ok .unknown
  | 1 => .ok .active
  | 2 => .ok .revoked
  | status => .error (.unknownStatus .state status)

def decodeRevoke : Int → Except Error RevokeOutcome
  | 0 => .ok .revokedUntracked
  | 1 => .ok .revoked
  | 2 => .ok .alreadyRevoked
  | status => .error (.unknownStatus .revoke status)

end Keyed

namespace KeyedRegistry

def runScript (r : KeyedRegistry) (now : Instant) (script : Keyed.Script) (j : Jti)
    (ttl : Option Nat) : Except Keyed.Error Int × KeyedRegistry :=
  let (reply, server) := r.server.execute now
    (.run script (Keyed.activeKey r.root j) (Keyed.revokedKey r.root j) ttl)
  let r := { r with server }
  match reply.integer? with
  | some status => (.ok status, r)
  | none => (.error .server, r)

def record (r : KeyedRegistry) (now : Instant) (j : Jti) (expiresAt : Instant) :
    Except Keyed.Error Bool × KeyedRegistry :=
  let (status, r) := r.runScript now .record j (some (Keyed.ttlMillis r.retention expiresAt now))
  (status.map (· != 0), r)

def revoke (r : KeyedRegistry) (now : Instant) (j : Jti) (expiresAt : Instant) :
    Except Keyed.Error RevokeOutcome × KeyedRegistry :=
  let (status, r) := r.runScript now .revoke j (some (Keyed.ttlMillis r.retention expiresAt now))
  (status.bind Keyed.decodeRevoke, r)

def state (r : KeyedRegistry) (now : Instant) (j : Jti) :
    Except Keyed.Error JtiState × KeyedRegistry :=
  let (status, r) := r.runScript now .state j none
  (status.bind Keyed.decodeState, r)

/-- Adds up the batches of a scan until its cursor is back at zero. -/
def count (r : KeyedRegistry) (now : Instant) (pattern : String) :
    Nat → Nat → Nat → Except Keyed.Error Nat × KeyedRegistry
  | 0, _, _ => (.error .server, r)
  | fuel + 1, cursor, sum =>
    let (reply, server) := r.server.execute now (.scan cursor pattern)
    let r := { r with server }
    match reply with
    | .batch 0 keys => (.ok (sum + keys.length), r)
    | .batch next keys => r.count now pattern fuel next (sum + keys.length)
    | _ => (.error .server, r)

/-- Counts the live keys of either mark. A scan needs no more steps than there are keys and
replies that are given instead of the server's own. -/
def stats (r : KeyedRegistry) (now : Instant) : Except Keyed.Error JtiStats × KeyedRegistry :=
  let fuel := r.server.canned.length + r.server.store.entries.length + 1
  match r.count now (Keyed.activePattern r.root) fuel 0 0 with
  | (.error e, r) => (.error e, r)
  | (.ok active, r) =>
    match r.count now (Keyed.revokedPattern r.root) fuel 0 0 with
    | (.error e, r) => (.error e, r)
    | (.ok revoked, r) => (.ok ⟨active, revoked⟩, r)

end KeyedRegistry

end SessionTokens

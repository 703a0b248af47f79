import SessionTokens.Log.Event
import SessionTokens.Registry.Keyed.Registry
import SessionTokens.Registry.Memory

/-! The registries that a service can be set up with, behind one way to call them. -/

namespace SessionTokens

inductive Backend where
  | memory (m : MemoryRegistry)
  | keyed (r : KeyedRegistry)

structure Backend.Result (c : RegistryCall) where
  answer : Except RegistryError c.Answer
  events : List Log.Event
  registry : Backend

def Keyed.Error.toRegistry (e : Keyed.Error) : RegistryError := .unavailable e.reason

def MemoryRegistry.call (m : MemoryRegistry) (now : Instant) :
    (c : RegistryCall) → c.Answer × MemoryRegistry
  | .record j e => ((), m.record now j e)
  | .revoke j e => m.revoke now j e
  | .state j => (m.state now j, m)
  | .stats => m.stats now

/-- A call that may not come back: then there is no answer, and nothing has changed. -/
def MemoryRegistry.attempt (m : MemoryRegistry) (now : Instant) (c : RegistryCall) :
    Option c.Answer × MemoryRegistry :=
  if m.retention.admits now c then
    let (answer, m) := m.call now c
    (some answer, m)
  else (none, m)

namespace KeyedRegistry

/-- A registry that refuses to record an identifier answers as if it had, and says so in the
log. -/
def call (r : KeyedRegistry) (now : Instant) : (c : RegistryCall) → Backend.Result c
  | .record j e =>
    let (taken, r) := r.record now j e
    ⟨match taken with
      | .ok _ => .ok ()
      | .error e => .error e.toRegistry,
      match taken with
      | .ok false => [.recordRefused j]
      | _ => [],
      .keyed r⟩
  | .revoke j e =>
    let (outcome, r) := r.revoke now j e
    ⟨outcome.mapError Keyed.Error.toRegistry, [], .keyed r⟩
  | .state j =>
    let (state, r) := r.state now j
    ⟨state.mapError Keyed.Error.toRegistry, [], .keyed r⟩
  | .stats =>
    let (stats, r) := r.stats now
    ⟨stats.mapError Keyed.Error.toRegistry, [], .keyed r⟩

end KeyedRegistry

namespace Backend

def retention : Backend → Retention
  | memory m => m.retention
  | keyed r => r.retention

def call (b : Backend) (now : Instant) (c : RegistryCall) : Backend.Result c :=
  match b with
  | .memory m =>
    let (answer, m) := m.call now c
    ⟨.ok answer, [], .memory m⟩
  | .keyed r => r.call now c

end Backend

end SessionTokens

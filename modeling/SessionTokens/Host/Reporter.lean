import SessionTokens.Host.Basic

/-! Counts the registry at regular times and logs the counts, until it is cancelled. -/

namespace SessionTokens

structure Reporter where
  /-- Milliseconds from one count to the next, and at most for one count. -/
  interval : Nat
  instanceId : Option String
  /-- It is cancelled before it begins. -/
  cancelled : Bool := false
  /-- When it is cancelled otherwise; no earlier than it begins. -/
  cancelAt : Nat

namespace Reporter

def eventOf (r : Reporter) : Except RegistryError JtiStats → Log.Event
  | .ok stats => .registryCounted r.instanceId stats
  | .error e => .reporterFailed e

/-- What bounds a count. -/
def scope (r : Reporter) : Scope := { timeout := r.interval, cancelAt := some r.cancelAt }

def tick (r : Reporter) (h : Host) : Bool × Host :=
  let (stats, scope, h) := r.scope.call h .stats
  (scope.cancelled, h.log [r.eventOf stats])

def stop (h : Host) : Host := h.log [.reporterStopping]

/-- Goes on after a count, to where the next one is due. A cancellation at that moment comes
first. -/
def loop (r : Reporter) : Nat → Nat → Bool × Host → Host
  | _, _, (true, h) => stop h
  | 0, _, (false, h) => h
  | fuel + 1, due, (false, h) =>
    if r.cancelAt ≤ h.timer ∨ r.cancelAt ≤ due then
      stop { h with timer := max h.timer r.cancelAt }
    else r.loop fuel (due + r.interval) (r.tick { h with timer := max h.timer due })

/-- From the first count, which comes before any cancellation while it runs, to the last. There
is no more than one count a millisecond. -/
def run (r : Reporter) (h : Host) : Host :=
  if r.cancelled then stop h
  else r.loop (r.cancelAt - h.timer + 1) (h.timer + r.interval) (r.tick h)

end Reporter

end SessionTokens

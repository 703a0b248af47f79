import SessionTokens.Host.Fault
import SessionTokens.Registry.Backend
import SessionTokens.Session.Program

/-! The surroundings in which programs run, and how one program runs in them alone. -/

namespace SessionTokens

structure Host where
  clock : Instant
  /-- Milliseconds of the timer behind timeouts and waits. It does not move the clock. -/
  timer : Nat := 0
  /-- Where identifiers come from, by how many were drawn before. -/
  source : Nat → Jti
  drawn : Nat := 0
  registry : Backend
  roles : RoleDirectory
  /-- What befalls the next calls of the registry; later ones go undisturbed. -/
  faults : List Fault := []
  roleFaults : List (Option RoleError) := []
  calls : List RegistryCall := []
  /-- Whether some call did not come back. Whoever made it has stopped there, and what is said
  here of what came after did not happen. -/
  stopped : Bool := false
  journal : List Log.Event := []

namespace Host

def log (h : Host) (events : List Log.Event) : Host := { h with journal := h.journal ++ events }

def draw (h : Host) : Jti × Host := (h.source h.drawn, { h with drawn := h.drawn + 1 })

def lookUpRoles (h : Host) (user : Uuid) : Except RoleError (List String) × Host :=
  let answer := match h.roleFaults with
    | some e :: _ => .error e
    | _ => .ok (h.roles.rolesOf user)
  (answer, { h with roleFaults := h.roleFaults.drop 1 })

def callRegistry (h : Host) (c : RegistryCall) : Except RegistryError c.Answer × Host :=
  let r := h.registry.call h.clock c
  let stopped := h.stopped || !h.registry.retention.admits h.clock c
  (r.answer, { h with registry := r.registry, stopped }.log r.events)

/-- Revokes an identifier ahead of the call that is about to record or revoke it. -/
def race (h : Host) : RegistryCall → Host
  | .record j e => (h.callRegistry (.revoke j e)).2
  | .revoke j e => (h.callRegistry (.revoke j e)).2
  | _ => h

def answer (h : Host) (f : Fault) (c : RegistryCall) : Except RegistryError c.Answer × Host :=
  match f.answer? c with
  | some a => (a, h)
  | none => if f = .raceRevoke then (h.race c).callRegistry c else h.callRegistry c

def begin (h : Host) (c : RegistryCall) : Fault × Host :=
  (h.faults.headD .none, { h with faults := h.faults.drop 1, calls := h.calls ++ [c] })

def finish (h : Host) (f : Fault) (ending : Ending) (c : RegistryCall) :
    Except RegistryError c.Answer × Host :=
  match ending with
  | .answered => h.answer f c
  | .timedOut => (.error .timedOut, h)
  | .cancelled => (.error .cancelled, h)

end Host

/-- A call that has begun: what befalls it, how it goes, and the scope of its caller after it. -/
structure Started where
  fault : Fault
  course : Course
  scope : Scope
  host : Host

namespace Scope

def during (s : Scope) (now : Nat) : Fault → Scope
  | .cancelScope => { s with cancelAt := some now }
  | _ => s

def after (s : Scope) : Fault → Scope
  | .cancelScope => { s with cancelled := true }
  | _ => s

/-- Begins a call; under a cancelled scope it comes to nothing. -/
def start (s : Scope) (h : Host) (c : RegistryCall) : Started :=
  if s.isOver h.timer then ⟨.none, ⟨.cancelled, h.timer, false⟩, s, h⟩
  else
    let (f, h) := h.begin c
    ⟨f, (s.during h.timer f).await h.timer f.toWait, s.after f, h⟩

def call (s : Scope) (h : Host) (c : RegistryCall) :
    Except RegistryError c.Answer × Scope × Host :=
  let begun := s.start h c
  let (r, h) := { begun.host with timer := begun.course.endsAt }.finish
    begun.fault begun.course.ending c
  (r, begun.scope, h)

end Scope

/-- Runs a program alone. -/
def Program.run {α : Type} : Program α → Scope → Host → α × Scope × Host
  | .done a, s, h => (a, s, h)
  | .readClock next, s, h => (next h.clock).run s h
  | .drawJti next, s, h => (next h.draw.1).run s h.draw.2
  | .emit event next, s, h => next.run s (h.log [event])
  | .lookUpRoles user next, s, h => (next (h.lookUpRoles user).1).run s (h.lookUpRoles user).2
  | .call c next, s, h =>
    let r := s.call h c
    (next r.1).run r.2.1 r.2.2

end SessionTokens

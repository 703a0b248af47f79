import SessionTokens.Proofs.Host.Alone
import SessionTokens.Proofs.Host.System

/-! What is logged for those who watch for attacks: only programs log it, registries do not. So it
can be read off what the programs met with, whether one runs alone or many at once. -/

namespace SessionTokens

/-- The lines among these events that are for those who watch for attacks. -/
def Log.alarms (es : List Log.Event) : List Log.Line :=
  (es.map (·.line)).filter fun l => l.channel = .security

@[simp] theorem Log.alarms_append (es fs : List Log.Event) :
    alarms (es ++ fs) = alarms es ++ alarms fs := by
  simp [alarms]

def Occurrence.event? : Occurrence → Option Log.Event
  | emitted e => some e
  | _ => none

def alarms (os : List Occurrence) : List Log.Line := Log.alarms (os.filterMap (·.event?))

section Alarms

variable {os us : List Occurrence}

@[simp] theorem alarms_nil : alarms [] = [] := rfl

@[simp] theorem alarms_append : alarms (os ++ us) = alarms os ++ alarms us := by
  simp [alarms]

@[simp] theorem alarms_clock {t : Instant} : alarms (.clock t :: os) = alarms os := rfl

@[simp] theorem alarms_drawn {j : Jti} : alarms (.drawn j :: os) = alarms os := rfl

@[simp] theorem alarms_emitted {e : Log.Event} :
    alarms (.emitted e :: os) = Log.alarms [e] ++ alarms os :=
  Log.alarms_append [e] _

@[simp] theorem alarms_roles {user : Uuid} {a : Except RoleError (List String)} :
    alarms (.roles user a :: os) = alarms os := rfl

@[simp] theorem alarms_called {c : RegistryCall} {a : Except RegistryError c.Answer} :
    alarms (.called c a :: os) = alarms os := rfl

end Alarms

theorem Backend.alarms_call (b : Backend) (now : Instant) (c : RegistryCall) :
    Log.alarms (b.call now c).events = [] := by
  cases b with
  | memory m => rfl
  | keyed r =>
    cases c with
    | record j e =>
      simp only [call, KeyedRegistry.call]
      split <;> rfl
    | _ => rfl

namespace Host

variable (h : Host) (c : RegistryCall)

theorem alarms_callRegistry :
    Log.alarms (h.callRegistry c).2.journal = Log.alarms h.journal := by
  rw [callRegistry, log, Log.alarms_append, Backend.alarms_call, List.append_nil]

theorem alarms_race : Log.alarms (h.race c).journal = Log.alarms h.journal := by
  cases c with
  | record j e | revoke j e => exact h.alarms_callRegistry _
  | _ => rfl

theorem alarms_finish (f : Fault) (ending : Ending) :
    Log.alarms (h.finish f ending c).2.journal = Log.alarms h.journal := by
  cases ending with
  | answered =>
    simp only [finish, answer]
    split
    · rfl
    · split
      · exact ((h.race c).alarms_callRegistry c).trans (h.alarms_race c)
      · exact h.alarms_callRegistry c
  | timedOut | cancelled => rfl

end Host

theorem Scope.alarms_call (s : Scope) (h : Host) (c : RegistryCall) :
    Log.alarms (s.call h c).2.2.journal = Log.alarms h.journal := by
  have hstart : (s.start h c).host.journal = h.journal := by
    unfold start
    split <;> rfl
  exact (Host.alarms_finish ..).trans (congrArg Log.alarms hstart)

/-- A program that runs alone logs what it meets with. -/
theorem Program.alarms_run {α : Type} (p : Program α) (s : Scope) (h : Host) :
    Log.alarms (p.run s h).2.2.journal = Log.alarms h.journal ++ alarms (p.course s h) := by
  induction p generalizing s h with
  | done a => simp [run, course]
  | readClock next ih => exact ih h.clock s h
  | drawJti next ih => exact ih h.draw.1 s h.draw.2
  | emit e next ih =>
    rw [run, ih, course, alarms_emitted, Host.log, Log.alarms_append, List.append_assoc]
  | lookUpRoles user next ih => exact ih (h.lookUpRoles user).1 s (h.lookUpRoles user).2
  | call c next ih =>
    rw [run, ih, s.alarms_call]
    rfl

/-- What the strands of a run met with, in the order in which they did. -/
def turnsIn {Q : Type} (ls : List (Happening Q)) : List Occurrence :=
  ls.filterMap fun l => match l with
    | .moved _ o => some o
    | _ => none

theorem Host.Reacts.alarms_eq {h h' : Host} {o : Occurrence} (hr : h.Reacts o h') :
    Log.alarms h'.journal = Log.alarms h.journal ++ alarms [o] := by
  cases hr with
  | emitted e => simp [log]
  | answered c => simp [Host.alarms_callRegistry]
  | clock | drawn | roles | failed => simp [draw, lookUpRoles]

/-- The journal of a run holds what its strands logged, and nothing more of this kind. -/
theorem System.Run.alarms_eq {Q A : Type} {serve : Q → Program A}
    {allowed : System Q A → Happening Q → Prop} {s u : System Q A} {ls : List (Happening Q)}
    (h : Run serve allowed s ls u) :
    Log.alarms u.host.journal = Log.alarms s.host.journal ++ alarms (turnsIn ls) := by
  induction h with
  | refl => simp [turnsIn]
  | @next ls l t u _ _ hs ih =>
    have hturns : turnsIn (ls ++ [l]) = turnsIn ls ++ turnsIn [l] := List.filterMap_append
    rw [hturns, alarms_append, ← List.append_assoc, ← ih]
    cases hs with
    | moved _ _ hg => exact hg.alarms_eq
    | begun | clockSet => simp [turnsIn]

end SessionTokens

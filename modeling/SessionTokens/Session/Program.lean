import SessionTokens.Log.Event

/-! Programs over a session service's surroundings: the wall clock, the source of identifiers,
the log, the role directory and the registry. A program is the tree of what it does next for
each answer, so that whoever runs it chooses the answers, and the order in which the calls of
several programs take place. -/

namespace SessionTokens

inductive Program (α : Type) : Type where
  | done (a : α)
  | readClock (next : Instant → Program α)
  | drawJti (next : Jti → Program α)
  | emit (event : Log.Event) (next : Program α)
  | lookUpRoles (user : Uuid) (next : Except RoleError (List String) → Program α)
  | call (c : RegistryCall) (next : Except RegistryError c.Answer → Program α)

namespace Program

def bind {α β : Type} : Program α → (α → Program β) → Program β
  | done a, f => f a
  | readClock next, f => readClock fun t => (next t).bind f
  | drawJti next, f => drawJti fun j => (next j).bind f
  | emit event next, f => emit event (next.bind f)
  | lookUpRoles user next, f => lookUpRoles user fun r => (next r).bind f
  | call c next, f => call c fun r => (next r).bind f

instance : Monad Program where
  pure := done
  bind := bind

theorem bind_done {α : Type} (p : Program α) : p.bind done = p := by
  induction p with
  | done a => rfl
  | readClock next ih => simp only [bind]; exact congrArg _ (funext ih)
  | drawJti next ih => simp only [bind]; exact congrArg _ (funext ih)
  | emit event next ih => simp only [bind, ih]
  | lookUpRoles user next ih => simp only [bind]; exact congrArg _ (funext ih)
  | call c next ih => simp only [bind]; exact congrArg _ (funext ih)

protected theorem bind_assoc {α β γ : Type} (p : Program α) (f : α → Program β)
    (g : β → Program γ) : (p.bind f).bind g = p.bind fun a => (f a).bind g := by
  induction p with
  | done a => rfl
  | readClock next ih => simp only [bind]; exact congrArg _ (funext ih)
  | drawJti next ih => simp only [bind]; exact congrArg _ (funext ih)
  | emit event next ih => simp only [bind, ih]
  | lookUpRoles user next ih => simp only [bind]; exact congrArg _ (funext ih)
  | call c next ih => simp only [bind]; exact congrArg _ (funext ih)

instance : LawfulMonad Program :=
  LawfulMonad.mk' Program bind_done (fun _ _ => rfl) Program.bind_assoc

end Program

abbrev Operation := ExceptT SessionError Program

namespace Operation

def now : Operation Instant := (Program.readClock .done : Program Instant)

def drawJti : Operation Jti := (Program.drawJti .done : Program Jti)

def emit (event : Log.Event) : Operation Unit := (Program.emit event (.done ()) : Program Unit)

def rolesOf (user : Uuid) : Operation (List String) :=
  ExceptT.mk (Program.lookUpRoles user fun r => .done (r.mapError .ofRoles))

def call (c : RegistryCall) : Operation c.Answer :=
  ExceptT.mk (Program.call c fun r => .done (r.mapError .ofRegistry))

def ofCodec {α : Type} (r : Except CodecError α) : Operation α :=
  ExceptT.mk (.done (r.mapError .ofCodec))

/-- Goes on with the error as a value. -/
def attempt {α : Type} (op : Operation α) : Operation (Except SessionError α) :=
  (op.run : Program (Except SessionError α))

end Operation

end SessionTokens

import SessionTokens.Proofs.Host.Execution
import SessionTokens.Proofs.Registry.Backend
import SessionTokens.Proofs.Session.FailClosed

/-! What programs come to alone on a host on which nothing goes wrong and no time passes. All that
they can change there is how many identifiers were drawn and what the registry says. -/

namespace SessionTokens

def Scope.Free (s : Scope) : Prop := s.cancelled = false ∧ s.cancelAt = none

/-- What may change of such a host. -/
structure View where
  drawn : Nat
  state : Jti → JtiState

namespace View

def draw (v : View) : View := { v with drawn := v.drawn + 1 }

def mark (v : View) (j : Jti) (x : JtiState) : View :=
  { v with state := fun k => if k = j then x else v.state k }

@[simp] theorem drawn_draw (v : View) : v.draw.drawn = v.drawn + 1 := rfl

@[simp] theorem state_draw (v : View) : v.draw.state = v.state := rfl

@[simp] theorem drawn_mark (v : View) (j : Jti) (x : JtiState) : (v.mark j x).drawn = v.drawn := rfl

theorem state_mark (v : View) (j k : Jti) (x : JtiState) :
    (v.mark j x).state k = if k = j then x else v.state k := rfl

end View

/-- `h` is `g` at a time when no fault lies ahead, and `v` is what may have changed. -/
structure Host.Shows (g : Host) (v : View) (h : Host) : Prop where
  clock : h.clock = g.clock
  timer : h.timer = g.timer
  source : h.source = g.source
  roles : h.roles = g.roles
  faults : h.faults = []
  roleFaults : h.roleFaults = []
  sound : h.registry.Sound
  drawn : h.drawn = v.drawn
  state (j : Jti) : h.registry.state g.clock j = v.state j

variable {α β ε : Type} {g h : Host} {v v' v'' : View} {s : Scope}

/-- Nothing keeps the registry from answering, and no time passes. -/
theorem Scope.call_of_free (hs : s.Free) (hh : h.faults = []) (c : RegistryCall) :
    s.call h c = ((h.registry.call h.clock c).answer, s, { h with
      registry := (h.registry.call h.clock c).registry
      calls := h.calls ++ [c]
      stopped := h.stopped || !h.registry.retention.admits h.clock c
      journal := h.journal ++ (h.registry.call h.clock c).events }) := by
  simp [Scope.call, Scope.start, Scope.isOver, hs.1, hs.2, Host.begin, hh, Scope.during,
    Scope.after, Scope.await, Scope.undisturbed, Fault.toWait, Host.finish, Host.answer,
    Fault.answer?, Host.callRegistry, Host.log]

theorem Host.Shows.call (hh : g.Shows v h) (hs : s.Free) {c : RegistryCall} {x : c.Answer}
    {said : Jti → JtiState} (hmeets : h.registry.Meets g.clock c x said) :
    ∃ h', s.call h c = (.ok x, s, h') ∧ g.Shows { v with state := said } h' := by
  have hcall := Scope.call_of_free hs hh.faults c
  rw [hh.clock, hmeets.answer] at hcall
  exact ⟨_, hcall, rfl, hh.timer, hh.source, hh.roles, hh.faults, hh.roleFaults, hmeets.sound,
    hh.drawn, hmeets.state⟩

/-- Alone on a host that shows `v`, the program comes to `a` and leaves one that shows `v'`. -/
def Program.Turns (g : Host) (v : View) (p : Program α) (a : α) (v' : View) : Prop :=
  ∀ s h, s.Free → g.Shows v h → ∃ h', p.run s h = (a, s, h') ∧ g.Shows v' h'

namespace Program

theorem turns_done (a : α) : Turns g v (done a) a v := fun _ h _ hh => ⟨h, rfl, hh⟩

theorem Turns.emit {p : Program α} {a : α} (event : Log.Event) (hp : p.Turns g v a v') :
    (emit event p).Turns g v a v' :=
  fun s h hs hh => hp s (h.log [event]) hs ⟨hh.clock, hh.timer, hh.source, hh.roles, hh.faults,
    hh.roleFaults, hh.sound, hh.drawn, hh.state⟩

theorem Turns.bind {p : Program α} {f : α → Program β} {a : α} {b : β} (hp : p.Turns g v a v')
    (hf : (f a).Turns g v' b v'') : (p.bind f).Turns g v b v'' := by
  intro s h hs hh
  obtain ⟨h', hrun, hh'⟩ := hp s h hs hh
  obtain ⟨h'', hrest, hh''⟩ := hf s h' hs hh'
  exact ⟨h'', by rw [run_bind, hrun, hrest], hh''⟩

theorem turns_ok_bind {x : ExceptT ε Program α} {f : α → ExceptT ε Program β} {a : α}
    {r : Except ε β} (hx : x.run.Turns g v (.ok a) v') (hf : (f a).run.Turns g v' r v'') :
    (x >>= f).run.Turns g v r v'' :=
  Turns.bind (f := ExceptT.bindCont f) hx hf

theorem turns_error_bind {x : ExceptT ε Program α} {f : α → ExceptT ε Program β} {e : ε}
    (hx : x.run.Turns g v (.error e) v') : (x >>= f).run.Turns g v (.error e) v' :=
  Turns.bind (f := ExceptT.bindCont f) hx (turns_done _)

theorem turns_lift {p : Program α} {a : α} (hp : p.Turns g v a v') :
    (ExceptT.lift p : ExceptT ε Program α).run.Turns g v (.ok a) v' :=
  Turns.bind hp (turns_done _)

/-- Whatever the program comes to, it changes nothing. -/
def Still (g : Host) (v : View) (p : Program α) : Prop := ∃ a, p.Turns g v a v

theorem still_bind {x : ExceptT ε Program α} {f : α → ExceptT ε Program β}
    (hx : x.run.Still g v) (hf : ∀ a, (f a).run.Still g v) : (x >>= f).run.Still g v := by
  obtain ⟨e | a, hx⟩ := hx
  · exact ⟨_, turns_error_bind hx⟩
  · obtain ⟨b, hb⟩ := hf a
    exact ⟨b, turns_ok_bind hx hb⟩

end Program

/-- What a request comes to that is served alone it comes to in some run. -/
theorem System.exists_answered {Q A : Type} {serve : Q → Program A} {q : Q} {a : A} (hs : s.Free)
    (hh : g.Shows v h) (hq : (serve q).Turns g v a v') (ss : List (Strand Q A)) :
    ∃ (os : List Occurrence) (h' : Host), System.Run serve (fun _ _ => True) ⟨h.bare, ss⟩
      (.begun q :: os.map (.moved ss.length)) ⟨h'.bare, ss ++ [⟨q, .done a⟩]⟩ ∧ g.Shows v' h' := by
  have hhonest : h.Honest := by
    rw [Host.Honest, hh.faults]
    nofun
  let whatever : System Q A → Happening Q → Prop := fun _ _ => True
  have hwhatever : ∀ w i o, True → whatever w (.moved i o) := fun _ _ _ _ => trivial
  obtain ⟨os, hr, -⟩ := System.exists_served serve hwhatever steady_honest s hhonest ss trivial
  obtain ⟨h', hrun, hh'⟩ := hq s h hs hh
  rw [hrun] at hr
  exact ⟨os, h', hr, hh'⟩

namespace Operation

open Program

variable {c : RegistryCall} {x : c.Answer} {j : Jti} {e : Entry}

theorem turns_now : now.run.Turns g v (.ok g.clock) v :=
  fun _ h _ hh => ⟨h, by rw [← hh.clock]; rfl, hh⟩

theorem turns_drawJti : drawJti.run.Turns g v (.ok (g.source v.drawn)) v.draw :=
  fun _ h _ hh => ⟨h.draw.2, by rw [← hh.source, ← hh.drawn]; rfl, hh.clock, hh.timer, hh.source,
    hh.roles, hh.faults, hh.roleFaults, hh.sound, congrArg (· + 1) hh.drawn, hh.state⟩

theorem turns_emit (event : Log.Event) : (emit event).run.Turns g v (.ok ()) v :=
  (turns_done _).emit event

theorem turns_rolesOf (user : Uuid) :
    (rolesOf user).run.Turns g v (.ok (g.roles.rolesOf user)) v := by
  intro s h hs hh
  have hlook : (h.lookUpRoles user).1 = .ok (g.roles.rolesOf user) := by
    simp only [Host.lookUpRoles, hh.roleFaults, hh.roles]
  refine ⟨(h.lookUpRoles user).2, ?_, hh.clock, hh.timer, hh.source, hh.roles, hh.faults,
    congrArg (List.drop 1) hh.roleFaults, hh.sound, hh.drawn, hh.state⟩
  change (((h.lookUpRoles user).1.mapError SessionError.ofRoles), s, (h.lookUpRoles user).2) = _
  rw [hlook]
  rfl

theorem turns_call {said : Jti → JtiState}
    (hmeets : ∀ b : Backend, b.Sound → (∀ k, b.state g.clock k = v.state k) →
      b.Meets g.clock c x said) :
    (call c).run.Turns g v (.ok x) { v with state := said } := by
  intro s h hs hh
  obtain ⟨h', hcall, hh'⟩ := hh.call hs (hmeets h.registry hh.sound hh.state)
  refine ⟨h', ?_, hh'⟩
  change ((s.call h c).1.mapError SessionError.ofRegistry, (s.call h c).2) = _
  rw [hcall]
  rfl

end Operation

/-- The token has not expired at `now`, and both are instants of the calendar. -/
structure Entry.Ahead (e : Entry) (now : Instant) : Prop where
  now_inRange : now.inRange = true
  expiry_inRange : e.expiresAt.inRange = true
  lt : now.nanos < e.expiresAt.nanos

namespace Ledger

open Operation Program

variable {j : Jti} {e : Entry}

theorem turns_state (j : Jti) : (state j).run.Turns g v (.ok (v.state j)) v := by
  refine turns_call fun b hb hstate => ?_
  rw [← hstate j, ← funext hstate]
  exact Backend.meets_state hb g.clock j

theorem turns_record (he : e.Ahead g.clock) (hj : v.state e.jti ≠ .revoked) :
    (record e).run.Turns g v (.ok ()) (v.mark e.jti .active) := by
  refine turns_call fun b hb hstate => ?_
  have hmeets := Backend.meets_record hb he.now_inRange he.expiry_inRange he.lt (j := e.jti)
    (by rwa [hstate])
  simpa only [hstate] using hmeets

theorem turns_revoke (he : e.Ahead g.clock) (hj : v.state e.jti = .active) :
    (revoke e).run.Turns g v (.ok .revoked) (v.mark e.jti .revoked) := by
  refine turns_call fun b hb hstate => ?_
  have hmeets := Backend.meets_revoke hb he.now_inRange he.expiry_inRange he.lt (j := e.jti)
    (by rwa [hstate])
  simpa only [hstate] using hmeets

end Ledger

end SessionTokens

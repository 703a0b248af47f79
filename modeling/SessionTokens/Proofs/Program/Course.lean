import Mathlib.Data.List.Pairwise
import SessionTokens.Session.Program

/-! The courses that a program may take: what it meets with, one thing after the other, under
answers that nobody has constrained yet. Who answers, and in which order several programs have
their steps, is a matter of `System`. -/

namespace SessionTokens

inductive Occurrence where
  | clock (t : Instant)
  | drawn (j : Jti)
  | emitted (e : Log.Event)
  | roles (user : Uuid) (answer : Except RoleError (List String))
  | called (c : RegistryCall) (answer : Except RegistryError c.Answer)

namespace Occurrence

def draw? : Occurrence → Option Jti
  | drawn j => some j
  | _ => none

theorem draw?_eq_some {o : Occurrence} {j : Jti} : o.draw? = some j ↔ o = drawn j := by
  cases o <;> simp [draw?]

def isRecord : Occurrence → Bool
  | called (.record _ _) _ => true
  | _ => false

def isFailure : Occurrence → Bool
  | called _ (.error _) => true
  | roles _ (.error _) => true
  | _ => false

def isRevoke : Occurrence → Bool
  | called (.revoke _ _) _ => true
  | _ => false

end Occurrence

/-- Nothing is recorded any more once something was revoked. -/
def RecordsFirst (os : List Occurrence) : Prop :=
  os.Pairwise fun o o' => (o.isRevoke && o'.isRecord) = false

theorem recordsFirst_append {as bs : List Occurrence} (ha : ∀ o ∈ as, o.isRevoke = false)
    (hb : ∀ o ∈ bs, o.isRecord = false) : RecordsFirst (as ++ bs) := by
  refine List.pairwise_append.mpr ⟨?_, ?_, ?_⟩
  · exact List.pairwise_of_forall_mem_list fun o ho _ _ => by rw [ha o ho]; rfl
  · exact List.pairwise_of_forall_mem_list fun _ _ o ho => by rw [hb o ho, Bool.and_false]
  · exact fun o ho _ _ => by rw [ha o ho]; rfl

theorem recordsFirst_of_not_revoked {os : List Occurrence} (h : ∀ o ∈ os, o.isRevoke = false) :
    RecordsFirst os := by
  simpa using @recordsFirst_append os [] h nofun

theorem recordsFirst_of_not_recorded {os : List Occurrence} (h : ∀ o ∈ os, o.isRecord = false) :
    RecordsFirst os := by
  simpa using @recordsFirst_append [] os nofun h

/-- Whatever is recorded in a course was drawn in it before, or is among the given. -/
def RecordsDrawn (given : List Jti) : List Occurrence → Prop
  | [] => True
  | .drawn j :: os => RecordsDrawn (j :: given) os
  | .called (.record j _) _ :: os => j ∈ given ∧ RecordsDrawn given os
  | _ :: os => RecordsDrawn given os

theorem drawn_of_recorded {given : List Jti} {os as bs : List Occurrence} {j : Jti} {e : Instant}
    {x : Except RegistryError Unit} (h : RecordsDrawn given os)
    (hos : os = as ++ .called (.record j e) x :: bs) : j ∈ given ∨ .drawn j ∈ as := by
  subst hos
  induction as generalizing given with
  | nil => exact .inl h.1
  | cons o as ih =>
    unfold RecordsDrawn at h
    split at h
    · contradiction
    · rename_i k us he
      obtain ⟨rfl, rfl⟩ := List.cons.inj he
      rcases ih h with hj | hj
      · rcases List.mem_cons.mp hj with rfl | hj
        · exact .inr (List.mem_cons_self ..)
        · exact .inl hj
      · exact .inr (List.mem_cons_of_mem _ hj)
    · rename_i he
      obtain ⟨rfl, rfl⟩ := List.cons.inj he
      exact (ih h.2).imp_right (List.mem_cons_of_mem _)
    · rename_i he
      obtain ⟨rfl, rfl⟩ := List.cons.inj he
      exact (ih h).imp_right (List.mem_cons_of_mem _)

theorem drawn_mem_of_recorded {os : List Occurrence} {j : Jti} {e : Instant}
    {x : Except RegistryError Unit} (h : RecordsDrawn [] os)
    (hm : .called (.record j e) x ∈ os) : .drawn j ∈ os := by
  obtain ⟨as, bs, rfl⟩ := List.append_of_mem hm
  exact List.mem_append_left _ ((drawn_of_recorded h rfl).resolve_left List.not_mem_nil)

theorem recordsDrawn_of_not_recorded {given : List Jti} {os : List Occurrence}
    (h : ∀ j e x, .called (.record j e) x ∉ os) : RecordsDrawn given os := by
  induction os generalizing given with
  | nil => trivial
  | cons o os ih =>
    have hos : ∀ given, RecordsDrawn given os :=
      fun given => ih fun j e x hx => h j e x (List.mem_cons_of_mem _ hx)
    unfold RecordsDrawn
    split
    · contradiction
    · rename_i he
      obtain ⟨rfl, rfl⟩ := List.cons.inj he
      exact hos _
    · rename_i he
      obtain ⟨rfl, rfl⟩ := List.cons.inj he
      exact absurd (List.mem_cons_self ..) (h _ _ _)
    · rename_i he
      obtain ⟨rfl, rfl⟩ := List.cons.inj he
      exact hos _

namespace Program

inductive Step {α : Type} : Program α → Occurrence → Program α → Prop
  | readClock (next : Instant → Program α) (t : Instant) :
    Step (readClock next) (.clock t) (next t)
  | drawJti (next : Jti → Program α) (j : Jti) : Step (drawJti next) (.drawn j) (next j)
  | emit (e : Log.Event) (next : Program α) : Step (emit e next) (.emitted e) next
  | lookUpRoles (user : Uuid) (next : Except RoleError (List String) → Program α)
    (a : Except RoleError (List String)) :
    Step (lookUpRoles user next) (.roles user a) (next a)
  | call (c : RegistryCall) (next : Except RegistryError c.Answer → Program α)
    (a : Except RegistryError c.Answer) : Step (call c next) (.called c a) (next a)

/-- `p` meets with `os` and has `q` left to do. -/
inductive Leads {α : Type} : Program α → List Occurrence → Program α → Prop
  | refl (p : Program α) : Leads p [] p
  | head {p q r : Program α} {o : Occurrence} {os : List Occurrence} :
    Step p o q → Leads q os r → Leads p (o :: os) r

def Yields {α : Type} (p : Program α) (os : List Occurrence) (a : α) : Prop :=
  Leads p os (done a)

variable {α β ε : Type}

theorem Leads.trans {p q r : Program α} {os us : List Occurrence} (h : Leads p os q)
    (h' : Leads q us r) : Leads p (os ++ us) r := by
  induction h with
  | refl p => exact h'
  | head hs _ ih => exact .head hs (ih h')

theorem Step.unique {p q q' : Program α} {o : Occurrence} (h : Step p o q) (h' : Step p o q') :
    q = q' := by
  cases h <;> cases h' <;> rfl

/-- What a program has left to do is settled by what it has met with. -/
theorem Leads.rest {p q r : Program α} {os us : List Occurrence} (h : Leads p os q)
    (h' : Leads p (os ++ us) r) : Leads q us r := by
  induction h with
  | refl p => exact h'
  | head hs _ ih =>
    cases h' with
    | head hs' ht =>
      obtain rfl := hs.unique hs'
      exact ih ht

theorem not_step_done {a : α} {o : Occurrence} {q : Program α} : ¬ Step (done a) o q := nofun

theorem Leads.of_done {a : α} {os : List Occurrence} {q : Program α} (h : Leads (done a) os q) :
    os = [] ∧ q = done a := by
  cases h with
  | refl => exact ⟨rfl, rfl⟩
  | head hs _ => exact (not_step_done hs).elim

@[simp] theorem yields_done {a b : α} {os : List Occurrence} :
    Yields (done a) os b ↔ os = [] ∧ b = a := by
  constructor
  · intro h
    obtain ⟨h, hb⟩ := h.of_done
    exact ⟨h, Program.done.inj hb⟩
  · rintro ⟨rfl, rfl⟩
    exact .refl _

section Yields

variable {os : List Occurrence} {a : α}

theorem yields_readClock {next : Instant → Program α} :
    Yields (readClock next) os a ↔ ∃ t us, os = .clock t :: us ∧ Yields (next t) us a := by
  constructor
  · rintro (_ | ⟨_ | _, h⟩)
    exact ⟨_, _, rfl, h⟩
  · rintro ⟨t, us, rfl, h⟩
    exact .head (.readClock next t) h

theorem yields_drawJti {next : Jti → Program α} :
    Yields (drawJti next) os a ↔ ∃ j us, os = .drawn j :: us ∧ Yields (next j) us a := by
  constructor
  · rintro (_ | ⟨_ | _, h⟩)
    exact ⟨_, _, rfl, h⟩
  · rintro ⟨j, us, rfl, h⟩
    exact .head (.drawJti next j) h

theorem yields_emit {e : Log.Event} {next : Program α} :
    Yields (emit e next) os a ↔ ∃ us, os = .emitted e :: us ∧ Yields next us a := by
  constructor
  · rintro (_ | ⟨_ | _, h⟩)
    exact ⟨_, rfl, h⟩
  · rintro ⟨us, rfl, h⟩
    exact .head (.emit e next) h

theorem yields_lookUpRoles {user : Uuid} {next : Except RoleError (List String) → Program α} :
    Yields (lookUpRoles user next) os a ↔
      ∃ x us, os = .roles user x :: us ∧ Yields (next x) us a := by
  constructor
  · rintro (_ | ⟨_ | _, h⟩)
    exact ⟨_, _, rfl, h⟩
  · rintro ⟨x, us, rfl, h⟩
    exact .head (.lookUpRoles user next x) h

theorem yields_call {c : RegistryCall} {next : Except RegistryError c.Answer → Program α} :
    Yields (call c next) os a ↔ ∃ x us, os = .called c x :: us ∧ Yields (next x) us a := by
  constructor
  · rintro (_ | ⟨_ | _, h⟩)
    exact ⟨_, _, rfl, h⟩
  · rintro ⟨x, us, rfl, h⟩
    exact .head (.call c next x) h

end Yields

theorem exists_yields (p : Program α) : ∃ os a, Yields p os a := by
  induction p with
  | done a => exact ⟨[], a, .refl _⟩
  | readClock next ih =>
    obtain ⟨os, a, h⟩ := ih default
    exact ⟨_, a, .head (.readClock next default) h⟩
  | drawJti next ih =>
    obtain ⟨os, a, h⟩ := ih default
    exact ⟨_, a, .head (.drawJti next default) h⟩
  | emit e next ih =>
    obtain ⟨os, a, h⟩ := ih
    exact ⟨_, a, .head (.emit e next) h⟩
  | lookUpRoles user next ih =>
    obtain ⟨os, a, h⟩ := ih (.ok [])
    exact ⟨_, a, .head (.lookUpRoles user next _) h⟩
  | call c next ih =>
    obtain ⟨os, a, h⟩ := ih (.error .timedOut)
    exact ⟨_, a, .head (.call c next _) h⟩

theorem Step.bind {p q : Program α} {o : Occurrence} (h : Step p o q) (f : α → Program β) :
    Step (p.bind f) o (q.bind f) := by
  cases h <;> constructor

theorem Leads.bind {p q : Program α} {os : List Occurrence} (h : Leads p os q)
    (f : α → Program β) : Leads (p.bind f) os (q.bind f) := by
  induction h with
  | refl p => exact .refl _
  | head hs _ ih => exact .head (hs.bind f) ih

theorem Step.of_bind {p : Program α} {f : α → Program β} {o : Occurrence} {r : Program β}
    (h : Step (p.bind f) o r) :
    (∃ a, p = done a ∧ Step (f a) o r) ∨ ∃ q, Step p o q ∧ r = q.bind f := by
  cases p with
  | done a => exact .inl ⟨a, rfl, h⟩
  | readClock next => cases h; exact .inr ⟨_, .readClock next _, rfl⟩
  | drawJti next => cases h; exact .inr ⟨_, .drawJti next _, rfl⟩
  | emit e next => cases h; exact .inr ⟨_, .emit e next, rfl⟩
  | lookUpRoles user next => cases h; exact .inr ⟨_, .lookUpRoles user next _, rfl⟩
  | call c next => cases h; exact .inr ⟨_, .call c next _, rfl⟩

theorem yields_bind {p : Program α} {f : α → Program β} {os : List Occurrence} {b : β} :
    Yields (p.bind f) os b ↔
      ∃ us vs a, os = us ++ vs ∧ Yields p us a ∧ Yields (f a) vs b := by
  constructor
  · intro h
    induction os generalizing p with
    | nil =>
      cases p with
      | done a => exact ⟨[], [], a, rfl, .refl _, h⟩
      | _ => nomatch h
    | cons o os ih =>
      cases h with
      | head hs ht =>
        rcases hs.of_bind with ⟨a, rfl, hf⟩ | ⟨q, hq, rfl⟩
        · exact ⟨[], o :: os, a, rfl, .refl _, .head hf ht⟩
        · obtain ⟨us, vs, a, rfl, hu, hv⟩ := ih ht
          exact ⟨o :: us, vs, a, rfl, .head hq hu, hv⟩
  · rintro ⟨us, vs, a, rfl, hu, hv⟩
    exact (hu.bind f).trans hv

/-- A program that may fail meets with `os` and comes to `r`. -/
def Gives (x : ExceptT ε Program α) (os : List Occurrence) (r : Except ε α) : Prop :=
  Yields x.run os r

section Gives

variable {x : ExceptT ε Program α} {os : List Occurrence}

@[simp] theorem gives_pure {a : α} {r : Except ε α} :
    Gives (pure a : ExceptT ε Program α) os r ↔ os = [] ∧ r = .ok a := yields_done

@[simp] theorem gives_throw {e : ε} {r : Except ε α} :
    Gives (throw e : ExceptT ε Program α) os r ↔ os = [] ∧ r = .error e := yields_done

/-- The bind lemma by which every operation is taken apart. -/
theorem gives_bind {f : α → ExceptT ε Program β} {r : Except ε β} :
    Gives (x >>= f) os r ↔
      (∃ e, Gives x os (.error e) ∧ r = .error e) ∨
      ∃ us vs a, os = us ++ vs ∧ Gives x us (.ok a) ∧ Gives (f a) vs r := by
  have hb : Gives (x >>= f) os r ↔ ∃ us vs y, os = us ++ vs ∧ Gives x us y ∧
      Yields (ExceptT.bindCont f y) vs r := yields_bind
  rw [hb]
  constructor
  · rintro ⟨us, vs, y, rfl, hx, hf⟩
    cases y with
    | error e =>
      obtain ⟨rfl, rfl⟩ := yields_done.mp hf
      exact .inl ⟨e, by simpa using hx, rfl⟩
    | ok a => exact .inr ⟨us, vs, a, rfl, hx, hf⟩
  · rintro (⟨e, hx, rfl⟩ | ⟨us, vs, a, rfl, hx, hf⟩)
    · exact ⟨os, [], .error e, by simp, hx, yields_done.mpr ⟨rfl, rfl⟩⟩
    · exact ⟨us, vs, .ok a, rfl, hx, hf⟩

theorem gives_map {f : α → β} {r : Except ε β} :
    Gives (f <$> x) os r ↔ ∃ y, Gives x os y ∧ r = y.map f := by
  have h : f <$> x = x >>= fun a => pure (f a) := (bind_pure_comp f x).symm
  rw [h, gives_bind]
  constructor
  · rintro (⟨e, hx, rfl⟩ | ⟨us, vs, a, rfl, hx, hf⟩)
    · exact ⟨_, hx, rfl⟩
    · obtain ⟨rfl, rfl⟩ := gives_pure.mp hf
      exact ⟨_, by simpa using hx, rfl⟩
  · rintro ⟨y, hx, rfl⟩
    cases y with
    | error e => exact .inl ⟨e, hx, rfl⟩
    | ok a => exact .inr ⟨os, [], a, by simp, hx, gives_pure.mpr ⟨rfl, rfl⟩⟩

theorem gives_map_error {f : α → β} {e : ε} :
    Gives (f <$> x) os (.error e) ↔ Gives x os (.error e) := by
  rw [gives_map]
  constructor
  · rintro ⟨e' | a, hx, he⟩
    · exact Except.error.inj he ▸ hx
    · exact nomatch he
  · exact fun hx => ⟨_, hx, rfl⟩

theorem gives_map_ok {f : α → β} {b : β} :
    Gives (f <$> x) os (.ok b) ↔ ∃ a, Gives x os (.ok a) ∧ b = f a := by
  rw [gives_map]
  constructor
  · rintro ⟨e | a, hx, hb⟩
    · exact nomatch hb
    · exact ⟨a, hx, Except.ok.inj hb⟩
  · rintro ⟨a, hx, rfl⟩
    exact ⟨_, hx, rfl⟩

theorem gives_lift {p : Program α} {r : Except ε α} :
    Gives (ExceptT.lift p : ExceptT ε Program α) os r ↔ ∃ a, Yields p os a ∧ r = .ok a := by
  have h : Gives (ExceptT.lift p : ExceptT ε Program α) os r ↔ ∃ us vs a, os = us ++ vs ∧
      Yields p us a ∧ Yields (done (Except.ok a : Except ε α)) vs r := yields_bind
  rw [h]
  constructor
  · rintro ⟨us, vs, a, rfl, hp, hd⟩
    obtain ⟨rfl, rfl⟩ := yields_done.mp hd
    exact ⟨a, by simpa using hp, rfl⟩
  · rintro ⟨a, hp, rfl⟩
    exact ⟨os, [], a, by simp, hp, yields_done.mpr ⟨rfl, rfl⟩⟩

theorem gives_lift_bind {p : Program α} {f : α → ExceptT ε Program β} {r : Except ε β} :
    Gives ((ExceptT.lift p : ExceptT ε Program α) >>= f) os r ↔
      ∃ us vs a, os = us ++ vs ∧ Yields p us a ∧ Gives (f a) vs r := by
  rw [gives_bind]
  constructor
  · rintro (⟨e, h, -⟩ | ⟨us, vs, a, rfl, h, hf⟩)
    · obtain ⟨_, -, h⟩ := gives_lift.mp h
      exact nomatch h
    · obtain ⟨_, hy, h⟩ := gives_lift.mp h
      obtain rfl := Except.ok.inj h
      exact ⟨us, vs, a, rfl, hy, hf⟩
  · rintro ⟨us, vs, a, rfl, h, hf⟩
    exact .inr ⟨us, vs, a, rfl, gives_lift.mpr ⟨a, h, rfl⟩, hf⟩

end Gives

end Program

namespace Operation

open Program

variable {α β : Type} {os : List Occurrence}

theorem gives_emit {e : Log.Event} {r : Except SessionError Unit} :
    Gives (emit e) os r ↔ os = [.emitted e] ∧ r = .ok () := by
  refine yields_emit.trans ⟨?_, ?_⟩
  · rintro ⟨us, rfl, h⟩
    obtain ⟨rfl, rfl⟩ := yields_done.mp h
    exact ⟨rfl, rfl⟩
  · rintro ⟨rfl, rfl⟩
    exact ⟨[], rfl, yields_done.mpr ⟨rfl, rfl⟩⟩

theorem gives_call {c : RegistryCall} {r : Except SessionError c.Answer} :
    Gives (call c) os r ↔ ∃ x, os = [.called c x] ∧ r = x.mapError .ofRegistry := by
  refine yields_call.trans ⟨?_, ?_⟩
  · rintro ⟨x, us, rfl, h⟩
    obtain ⟨rfl, rfl⟩ := yields_done.mp h
    exact ⟨x, rfl, rfl⟩
  · rintro ⟨x, rfl, rfl⟩
    exact ⟨x, [], rfl, yields_done.mpr ⟨rfl, rfl⟩⟩

section Bind

variable {r : Except SessionError β}

theorem gives_now_bind {f : Instant → Operation β} :
    Gives (now >>= f) os r ↔ ∃ t us, os = .clock t :: us ∧ Gives (f t) us r := yields_readClock

theorem gives_drawJti_bind {f : Jti → Operation β} :
    Gives (drawJti >>= f) os r ↔ ∃ j us, os = .drawn j :: us ∧ Gives (f j) us r := yields_drawJti

theorem gives_emit_bind {e : Log.Event} {f : Unit → Operation β} :
    Gives (emit e >>= f) os r ↔ ∃ us, os = .emitted e :: us ∧ Gives (f ()) us r := yields_emit

theorem gives_rolesOf_bind {user : Uuid} {f : List String → Operation β} :
    Gives (rolesOf user >>= f) os r ↔
      (∃ e, os = [.roles user (.error e)] ∧ r = .error (.ofRoles e)) ∨
      ∃ rs us, os = .roles user (.ok rs) :: us ∧ Gives (f rs) us r := by
  refine yields_lookUpRoles.trans ?_
  constructor
  · rintro ⟨e | rs, us, rfl, h⟩
    · obtain ⟨rfl, rfl⟩ := yields_done.mp h
      exact .inl ⟨e, rfl, rfl⟩
    · exact .inr ⟨rs, us, rfl, h⟩
  · rintro (⟨e, rfl, rfl⟩ | ⟨rs, us, rfl, h⟩)
    · exact ⟨_, _, rfl, yields_done.mpr ⟨rfl, rfl⟩⟩
    · exact ⟨_, _, rfl, h⟩

theorem gives_call_bind {c : RegistryCall} {f : c.Answer → Operation β} :
    Gives (call c >>= f) os r ↔
      (∃ e, os = [.called c (.error e)] ∧ r = .error (.ofRegistry e)) ∨
      ∃ x us, os = .called c (.ok x) :: us ∧ Gives (f x) us r := by
  refine yields_call.trans ?_
  constructor
  · rintro ⟨e | x, us, rfl, h⟩
    · obtain ⟨rfl, rfl⟩ := yields_done.mp h
      exact .inl ⟨e, rfl, rfl⟩
    · exact .inr ⟨x, us, rfl, h⟩
  · rintro (⟨e, rfl, rfl⟩ | ⟨x, us, rfl, h⟩)
    · exact ⟨_, _, rfl, yields_done.mpr ⟨rfl, rfl⟩⟩
    · exact ⟨_, _, rfl, h⟩

theorem gives_attempt_call_bind {c : RegistryCall}
    {f : Except SessionError c.Answer → Operation β} :
    Gives ((call c).attempt >>= f) os r ↔
      ∃ x us, os = .called c x :: us ∧ Gives (f (x.mapError .ofRegistry)) us r := yields_call

theorem gives_attempt_bind {op : Operation α} {f : Except SessionError α → Operation β} :
    Gives (op.attempt >>= f) os r ↔
      ∃ us vs x, os = us ++ vs ∧ Gives op us x ∧ Gives (f x) vs r := gives_lift_bind

theorem gives_ofCodec_bind {x : Except CodecError α} {f : α → Operation β} :
    Gives (ofCodec x >>= f) os r ↔
      (∃ e, x = .error e ∧ os = [] ∧ r = .error (.ofCodec e)) ∨
      ∃ a, x = .ok a ∧ Gives (f a) os r := by
  cases x with
  | error e =>
    simp only [Except.error.injEq, reduceCtorEq, false_and, exists_false, or_false,
      exists_eq_left']
    exact yields_done
  | ok a =>
    simp only [reduceCtorEq, false_and, exists_false, false_or, Except.ok.injEq, exists_eq_left']
    rfl

end Bind

end Operation

end SessionTokens

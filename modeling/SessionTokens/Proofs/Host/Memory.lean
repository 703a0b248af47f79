import SessionTokens.Proofs.Host.System
import SessionTokens.Proofs.Registry.Memory

/-! Systems over the registry of a single process. Its calls answer in the order in which they
happen, so that what it said at one point of a run bounds what it can say later. -/

namespace SessionTokens

theorem Host.callRegistry_memory {h : Host} {m : MemoryRegistry} (hm : h.registry = .memory m)
    (c : RegistryCall) :
    h.callRegistry c = (.ok (m.call h.clock c).1, { h with
      registry := .memory (m.call h.clock c).2
      stopped := h.stopped || !m.retention.admits h.clock c }) := by
  simp [callRegistry, log, hm, Backend.call, Backend.retention]

theorem Host.Reacts.memory {h h' : Host} {o : Occurrence} {m : MemoryRegistry}
    (hr : h.Reacts o h') (hm : h.registry = .memory m) :
    (h'.registry = .memory m ∧ ∀ c x, o ≠ .called c (.ok x)) ∨
      ∃ c, o = .called c (.ok (m.call h.clock c).1) ∧
        h'.registry = .memory (m.call h.clock c).2 := by
  cases hr with
  | answered c =>
    refine .inr ⟨c, ?_, ?_⟩ <;> rw [Host.callRegistry_memory hm]
  | failed c e => exact .inl ⟨hm, fun c' x h => by cases h⟩
  | _ => exact .inl ⟨hm, nofun⟩

namespace System

variable {Q A : Type} {serve : Q → Program A} {allowed : System Q A → Happening Q → Prop}
  {s t u : System Q A} {ls as bs : List (Happening Q)}

/-- The registry is that of a single process, and so are it and the clock. -/
def Holds (s : System Q A) (P : Instant → MemoryRegistry → Prop) : Prop :=
  ∃ m, s.host.registry = .memory m ∧ P s.host.clock m

theorem Step.memory {l : Happening Q} {m : MemoryRegistry} (h : Step serve s l t)
    (hm : s.host.registry = .memory m) :
    (t.host.registry = .memory m ∧ ∀ i c x, l ≠ .moved i (.called c (.ok x))) ∨
      ∃ i c, l = .moved i (.called c (.ok (m.call s.host.clock c).1)) ∧
        t.host.registry = .memory (m.call s.host.clock c).2 ∧ t.host.clock = s.host.clock := by
  cases h with
  | begun q => exact .inl ⟨hm, nofun⟩
  | @moved i q p p' o g _ _ hg =>
    rcases hg.memory hm with ⟨hg', ho⟩ | ⟨c, rfl, hg'⟩
    · exact .inl ⟨hg', fun k c x h => ho c x (Happening.moved.inj h).2⟩
    · exact .inr ⟨i, c, rfl, hg', hg.clock_eq⟩
  | clockSet t => exact .inl ⟨hm, nofun⟩

theorem Step.answered {i : Nat} {c : RegistryCall} {x : c.Answer} {m : MemoryRegistry}
    (h : Step serve s (.moved i (.called c (.ok x))) t) (hm : s.host.registry = .memory m) :
    x = (m.call s.host.clock c).1 ∧ t.host.registry = .memory (m.call s.host.clock c).2 ∧
      t.host.clock = s.host.clock := by
  rcases h.memory hm with ⟨-, hl⟩ | ⟨k, d, hl, ht, hc⟩
  · exact absurd rfl (hl i c x)
  · obtain ⟨rfl, ho⟩ := Happening.moved.inj hl
    obtain ⟨rfl, hx⟩ := Occurrence.called.inj ho
    exact ⟨Except.ok.inj (eq_of_heq hx), ht, hc⟩

namespace Run

variable {P : Instant → MemoryRegistry → Prop}

/-- What every answer and every setting of the clock preserves holds to the end of a run. -/
theorem preserves (h : Run serve allowed s ls u) (hs : s.Holds P)
    (hcall : ∀ i c x, .moved i (.called c (.ok x)) ∈ ls →
      ∀ now m, P now m → P now (m.call now c).2)
    (hclock : ∀ v t, allowed v (.clockSet t) → .clockSet t ∈ ls →
      ∀ m, P v.host.clock m → P t m) : u.Holds P := by
  induction h with
  | refl => exact hs
  | @next ls l t u _ ha hstep ih =>
    obtain ⟨m, hm, hP⟩ := ih (fun i c x hx => hcall i c x (by simp [hx]))
      fun v t ha ht => hclock v t ha (by simp [ht])
    rcases hstep.memory hm with ⟨hu, -⟩ | ⟨i, c, rfl, hu, hc⟩
    · by_cases hl : ∃ t, l = .clockSet t
      · obtain ⟨t', rfl⟩ := hl
        cases hstep with
        | clockSet => exact ⟨m, hu, hclock t t' ha (by simp) m hP⟩
      · refine ⟨m, hu, ?_⟩
        rwa [hstep.clock_eq fun t ht => hl ⟨t, ht⟩]
    · refine ⟨_, hu, ?_⟩
      rw [hc]
      exact hcall i c _ List.mem_concat_self _ m hP

theorem holds (h : Run serve allowed s ls u) (hs : s.Holds P)
    (hcall : ∀ i c x, .moved i (.called c (.ok x)) ∈ ls →
      ∀ now m, P now m → P now (m.call now c).2)
    (hclock : ∀ t, .clockSet t ∈ ls → ∀ now m, P now m → P t m) : u.Holds P :=
  h.preserves hs hcall fun _ t _ ht => hclock t ht _

theorem answered {i : Nat} {c : RegistryCall} {x : c.Answer}
    (h : Run serve allowed s (as ++ .moved i (.called c (.ok x)) :: bs) u)
    (hs : s.Holds fun _ _ => True) :
    ∃ v w m, Run serve allowed s as v ∧ v.host.registry = .memory m ∧
      x = (m.call v.host.clock c).1 ∧ w.host.registry = .memory (m.call v.host.clock c).2 ∧
      w.host.clock = v.host.clock ∧ Run serve allowed w bs u := by
  obtain ⟨v, w, hv, -, hstep, hu⟩ := h.split_cons
  obtain ⟨m, hm, -⟩ := hv.holds hs (fun _ _ _ _ _ _ _ => trivial) fun _ _ _ _ _ => trivial
  obtain ⟨hx, hw', hc⟩ := hstep.answered hm
  exact ⟨v, w, m, hv, hm, hx, hw', hc, hu⟩

theorem memory (h : Run serve allowed s ls u) {m : MemoryRegistry}
    (hm : s.host.registry = .memory m) : ∃ m', u.host.registry = .memory m' := by
  obtain ⟨m', hm', -⟩ := h.holds (P := fun _ _ => True) ⟨m, hm, trivial⟩
    (fun _ _ _ _ _ _ _ => trivial) fun _ _ _ _ _ => trivial
  exact ⟨m', hm'⟩

section Spent

variable {j : Jti}

theorem spent (h : Run serve allowed s ls u) (hs : s.Holds fun _ m => m.Spent j)
    (hr : ∀ i e x, .moved i (.called (.record j e) (.ok x)) ∉ ls) :
    u.Holds fun _ m => m.Spent j := by
  refine h.holds hs (fun i c x hx now m hm => hm.call ?_) fun _ _ _ _ hm => hm
  rintro e rfl
  exact hr i e x hx

theorem not_active_of_spent (h : Run serve allowed s ls u)
    (hs : s.Holds fun _ m => m.Spent j)
    (hr : ∀ i e x, .moved i (.called (.record j e) (.ok x)) ∉ ls) (i : Nat) :
    .moved i (.called (.state j) (.ok .active)) ∉ ls := by
  intro hi
  obtain ⟨as, bs, rfl⟩ := List.append_of_mem hi
  obtain ⟨v, w, m, hv, hm, hx, -⟩ := h.answered (hs.imp fun _ hm => ⟨hm.1, trivial⟩)
  have hr' : ∀ i e x, .moved i (.called (.record j e) (.ok x)) ∉ as :=
    fun i e x hx => hr i e x (List.mem_append_left _ hx)
  obtain ⟨m', hm', hspent⟩ := hv.spent hs hr'
  obtain rfl := Backend.memory.inj (hm.symm.trans hm')
  exact hspent.state_ne_active _ hx.symm

theorem spent_of_revoked (hserve : Orderly serve) {g : Host} {m : MemoryRegistry}
    (hm : g.registry = .memory m) (hinj : Function.Injective g.source)
    (h : Run serve allowed (start g) ls u) {k : Nat} {e : Instant} {o : RevokeOutcome}
    (hd : .moved k (.drawn j) ∈ ls) (hk : .moved k (.called (.revoke j e) (.ok o)) ∈ ls) :
    u.Holds fun _ m => m.Spent j := by
  obtain ⟨as, bs, rfl⟩ := List.append_of_mem hk
  obtain ⟨v, w, m', -, -, -, hw, -, hbs⟩ := h.answered ⟨m, hm, trivial⟩
  exact hbs.spent ⟨_, hw, MemoryRegistry.spent_revoke m' _ j e⟩
    fun i f x => h.not_recorded_of_revoked hserve hinj hd i f (.ok x)

end Spent

/-! While the clock stands still. -/

section Still

variable {j : Jti} (hc : ∀ t, .clockSet t ∉ ls)
include hc

theorem revoked_still (h : Run serve allowed s ls u)
    (hs : s.Holds fun now m => m.state now j = .revoked) :
    u.Holds fun now m => m.state now j = .revoked :=
  h.holds hs (fun _ _ _ _ _ _ hm => MemoryRegistry.state_call_of_revoked (Int.le_refl _) hm _)
    fun t ht => absurd ht (hc t)

theorem active_still (h : Run serve allowed s ls u)
    (hs : s.Holds fun now m => m.retention.Positive ∧ m.state now j = .active)
    (hr : ∀ i e x, .moved i (.called (.revoke j e) (.ok x)) ∉ ls) :
    u.Holds fun now m => m.retention.Positive ∧ m.state now j = .active := by
  refine h.holds hs (fun i c x hx now m hm => ?_) fun t ht => absurd ht (hc t)
  rw [MemoryRegistry.retention_call]
  refine ⟨hm.1, MemoryRegistry.state_call_of_active hm.1 hm.2 ?_⟩
  rintro e rfl
  exact hr i e x hx

theorem outcome_of_revoked (h : Run serve allowed s ls u)
    (hs : s.Holds fun now m => m.state now j = .revoked) {i : Nat} {e : Instant}
    {o : RevokeOutcome} (hi : .moved i (.called (.revoke j e) (.ok o)) ∈ ls) :
    o = .alreadyRevoked := by
  obtain ⟨as, bs, rfl⟩ := List.append_of_mem hi
  obtain ⟨v, w, m, hv, hm, rfl, -⟩ := h.answered (hs.imp fun _ hm => ⟨hm.1, trivial⟩)
  obtain ⟨m', hm', hr⟩ := hv.revoked_still (fun t ht => hc t (List.mem_append_left _ ht)) hs
  obtain rfl := Backend.memory.inj (hm.symm.trans hm')
  simp only [MemoryRegistry.call, MemoryRegistry.outcome_revoke, hr]

theorem active_of_recorded (h : Run serve allowed s ls u)
    (hs : s.Holds fun now m => (m.retention.Positive ∧ now.nanos < Instant.last.nanos) ∧
      m.BearsOnly .active j)
    {i : Nat} {e : Instant} {x : Unit} (hi : .moved i (.called (.record j e) (.ok x)) ∈ ls)
    (hr : ∀ i e x, .moved i (.called (.revoke j e) (.ok x)) ∉ ls) :
    u.Holds fun now m => m.retention.Positive ∧ m.state now j = .active := by
  obtain ⟨as, bs, rfl⟩ := List.append_of_mem hi
  obtain ⟨v, w, m, hv, hm, -, hw, hclock, hbs⟩ := h.answered (hs.imp fun _ hm => ⟨hm.1, trivial⟩)
  have hbefore : v.Holds fun now m => (m.retention.Positive ∧ now.nanos < Instant.last.nanos) ∧
      m.BearsOnly .active j := by
    refine hv.holds hs (fun k c x hx now m hm => ?_)
      fun t ht => absurd (List.mem_append_left _ ht) (hc t)
    rw [MemoryRegistry.retention_call]
    refine ⟨hm.1, hm.2.call fun mark hmark => ?_⟩
    cases c with
    | record k e => exact (Prod.mk.inj (Option.some.inj hmark)).2.symm
    | revoke k' e =>
      obtain ⟨rfl, -⟩ := Prod.mk.inj (Option.some.inj hmark)
      exact absurd (List.mem_append_left _ hx) (hr k e x)
    | state k => exact nomatch hmark
    | stats => exact nomatch hmark
  obtain ⟨m', hm', ⟨hp, hlast⟩, hbears⟩ := hbefore
  obtain rfl := Backend.memory.inj (hm.symm.trans hm')
  have hne : m.state v.host.clock j ≠ .revoked := by
    rcases hbears.state_eq_unknown_or v.host.clock with h | h <;> simp [h]
  refine hbs.active_still
    (fun t ht => hc t (List.mem_append_right _ (List.mem_cons_of_mem _ ht)))
    ⟨_, hw, by rwa [MemoryRegistry.retention_call], ?_⟩
    fun i e x hx => hr i e x (List.mem_append_right _ (List.mem_cons_of_mem _ hx))
  rw [hclock]
  exact MemoryRegistry.state_record hp hlast e hne

end Still

theorem positive (h : Run serve allowed s ls u)
    (hs : s.Holds fun _ m => m.retention.Positive) :
    u.Holds fun _ m => m.retention.Positive := by
  refine h.holds hs (fun _ _ _ _ _ m hm => ?_) fun _ _ _ _ hm => hm
  rwa [MemoryRegistry.retention_call]

/-- What a strand has found active and then revokes is revoked, if the clock is set only when
nothing is under way: the calendar cannot end in between. -/
theorem revoked_of_checked {i : Nat} {j : Jti} {e : Instant} {o : RevokeOutcome}
    (h : Run serve allowed s (as ++ .moved i (.called (.state j) (.ok .active)) ::
      (bs ++ [.moved i (.called (.revoke j e) (.ok o))])) u)
    (hs : s.Holds fun _ m => m.retention.Positive)
    (hq : ∀ v t, allowed v (.clockSet t) → v.Quiet) :
    u.Holds fun now m => m.state now j = .revoked ∧ m.Spent j := by
  obtain ⟨v, w, m, hv, hm, hactive, hw, hclock, hrest⟩ :=
    h.answered (hs.imp fun _ hm => ⟨hm.1, trivial⟩)
  obtain ⟨x, y, m', hx, hm', -, hy, hclock', hu⟩ := hrest.answered ⟨_, hw, trivial⟩
  obtain ⟨n, hn, hp⟩ := hv.positive hs
  obtain rfl := Backend.memory.inj (hm.symm.trans hn)
  obtain ⟨n, hn, hp⟩ := hx.positive ⟨_, hw, hp⟩
  obtain rfl := Backend.memory.inj (hm'.symm.trans hn)
  have hlast : x.host.clock.nanos < Instant.last.nanos := by
    rw [hx.clock_eq (h.still_between hq), hclock]
    exact MemoryRegistry.lt_last_of_active hactive.symm
  obtain rfl := hu.of_nil
  refine ⟨_, hy, ?_, MemoryRegistry.spent_revoke m' _ j e⟩
  rw [hclock']
  exact MemoryRegistry.state_revoke hp hlast e

end Run

end System

end SessionTokens

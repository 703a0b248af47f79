import SessionTokens.Proofs.Host.Calm
import SessionTokens.Proofs.Host.Memory
import SessionTokens.Proofs.Program.Dealings
import SessionTokens.Proofs.Registry.Withdrawal

/-! What a program meets with that runs alone, and what this makes of the host: the clock stands
still, identifiers are drawn one after the other, and a registry of one process is changed by the
calls that it answers. -/

namespace SessionTokens

theorem Host.log_nil (h : Host) : h.log [] = h := by
  simp [log]

section Call

variable {h : Host} {c : RegistryCall}

theorem Host.clock_race (h : Host) (c : RegistryCall) : (h.race c).clock = h.clock := by
  cases c <;> rfl

theorem Host.clock_finish (h : Host) (f : Fault) (ending : Ending) (c : RegistryCall) :
    (h.finish f ending c).2.clock = h.clock := by
  cases ending with
  | answered =>
    simp only [finish, answer]
    split
    · rfl
    · split
      · exact h.clock_race c
      · rfl
  | timedOut | cancelled => rfl

theorem Scope.clock_call (s : Scope) (h : Host) (c : RegistryCall) :
    (s.call h c).2.2.clock = h.clock :=
  (Host.clock_finish ..).trans (s.start_host h c).1

/-- Under honest faults a call that succeeds is answered by the registry. -/
theorem Scope.registry_of_ok {s : Scope} {h : Host} {c : RegistryCall} {x : c.Answer}
    {m : MemoryRegistry} (hh : h.Honest) (hm : h.registry = .memory m)
    (hok : (s.call h c).1 = .ok x) :
    (s.call h c).2.2.registry = .memory (m.call h.clock c).2 ∧ (s.call h c).2.2.Honest := by
  obtain ⟨-, hhonest, hreacts⟩ := steady_honest.called (s := s) c hh
  refine ⟨?_, hhonest⟩
  rcases hreacts.memory hm with ⟨-, hno⟩ | ⟨c', ho, hregistry⟩
  · exact absurd (by rw [hok]) (hno c x)
  · obtain ⟨rfl, -⟩ := Occurrence.called.inj ho
    exact hregistry

end Call

namespace Program

variable {α : Type}

/-- What a program meets with that runs alone. -/
def course : Program α → Scope → Host → List Occurrence
  | done _, _, _ => []
  | readClock next, s, h => .clock h.clock :: (next h.clock).course s h
  | drawJti next, s, h => .drawn h.draw.1 :: (next h.draw.1).course s h.draw.2
  | emit e next, s, h => .emitted e :: next.course s (h.log [e])
  | lookUpRoles user next, s, h =>
    .roles user (h.lookUpRoles user).1 ::
      (next (h.lookUpRoles user).1).course s (h.lookUpRoles user).2
  | call c next, s, h =>
    .called c (s.call h c).1 :: (next (s.call h c).1).course (s.call h c).2.1 (s.call h c).2.2

theorem yields_course (p : Program α) (s : Scope) (h : Host) :
    p.Yields (p.course s h) (p.run s h).1 := by
  induction p generalizing s h with
  | done a => exact .refl _
  | readClock next ih => exact .head (.readClock next _) (ih ..)
  | drawJti next ih => exact .head (.drawJti next _) (ih ..)
  | emit e next ih => exact .head (.emit e next) (ih ..)
  | lookUpRoles user next ih => exact .head (.lookUpRoles user next _) (ih ..)
  | call c next ih => exact .head (.call c next _) (ih ..)

theorem clock_of_course {p : Program α} {s : Scope} {h : Host} {t : Instant}
    (ht : .clock t ∈ p.course s h) : t = h.clock := by
  induction p generalizing s h with
  | done a => exact nomatch ht
  | readClock next ih =>
    rcases List.mem_cons.mp ht with ht | ht
    · exact Occurrence.clock.inj ht
    · exact ih _ ht
  | drawJti next ih =>
    rcases List.mem_cons.mp ht with ht | ht
    · exact nomatch ht
    · exact ih _ (h := h.draw.2) ht
  | emit e next ih =>
    rcases List.mem_cons.mp ht with ht | ht
    · exact nomatch ht
    · exact ih (h := h.log [e]) ht
  | lookUpRoles user next ih =>
    rcases List.mem_cons.mp ht with ht | ht
    · exact nomatch ht
    · exact ih _ (h := (h.lookUpRoles user).2) ht
  | call c next ih =>
    rcases List.mem_cons.mp ht with ht | ht
    · exact nomatch ht
    · exact (ih _ ht).trans (s.clock_call h c)

/-- A call that only readings of the clock come before is the first call that the host sees. -/
theorem call_of_course {p : Program α} {s : Scope} {h : Host} {us vs : List Occurrence}
    {c : RegistryCall} {a : Except RegistryError c.Answer}
    (hp : p.course s h = us ++ .called c a :: vs) (hus : ∀ o ∈ us, ∃ t, o = .clock t) :
    a = (s.call h c).1 := by
  induction us generalizing p with
  | nil =>
    cases p with
    | call d next =>
      obtain ⟨rfl, ha⟩ := Occurrence.called.inj (List.cons.inj hp).1
      exact (eq_of_heq ha).symm
    | _ => nomatch hp
  | cons o us ih =>
    obtain ⟨t, rfl⟩ := hus o List.mem_cons_self
    cases p with
    | readClock next => exact ih (List.cons.inj hp).2 fun o ho => hus o (List.mem_cons_of_mem _ ho)
    | _ => nomatch hp

end Program

namespace MemoryRegistry

variable {m m' n : MemoryRegistry} {now : Instant} {j : Jti} {os us : List Occurrence}

/-- What calls at one time leave of a registry: those that are answered have their effect, one
after the other, and those that fail have none. -/
def Serves (now : Instant) : MemoryRegistry → List Occurrence → MemoryRegistry → Prop
  | m, [], m' => m' = m
  | m, .called c (.ok x) :: os, m' => x = (m.call now c).1 ∧ Serves now (m.call now c).2 os m'
  | m, _ :: os, m' => Serves now m os m'

@[simp] theorem serves_nil : m.Serves now [] m' ↔ m' = m := Iff.rfl

@[simp] theorem serves_answered {c : RegistryCall} {x : c.Answer} :
    m.Serves now (.called c (.ok x) :: os) m' ↔
      x = (m.call now c).1 ∧ (m.call now c).2.Serves now os m' := Iff.rfl

@[simp] theorem serves_failed {c : RegistryCall} {e : RegistryError} :
    m.Serves now (.called c (.error e) :: os) m' ↔ m.Serves now os m' := Iff.rfl

@[simp] theorem serves_state {x : JtiState} :
    m.Serves now (.called (.state j) (.ok x) :: os) m' ↔
      x = m.state now j ∧ m.Serves now os m' := Iff.rfl

@[simp] theorem serves_drawn : m.Serves now (.drawn j :: os) m' ↔ m.Serves now os m' := Iff.rfl

theorem serves_cons_of_not_answered {o : Occurrence} (ho : ∀ c x, o ≠ .called c (.ok x)) :
    m.Serves now (o :: os) m' ↔ m.Serves now os m' := by
  cases o with
  | called c a =>
    cases a with
    | ok x => exact absurd rfl (ho c x)
    | error e => rfl
  | _ => rfl

@[simp] theorem serves_append :
    m.Serves now (os ++ us) m' ↔ ∃ n, m.Serves now os n ∧ n.Serves now us m' := by
  induction os generalizing m with
  | nil => simp
  | cons o os ih =>
    by_cases ho : ∃ c x, o = .called c (.ok x)
    · obtain ⟨c, x, rfl⟩ := ho
      simp only [List.cons_append, serves_answered, ih, and_assoc, exists_and_left]
    · have hno : ∀ c x, o ≠ .called c (.ok x) := fun c x h => ho ⟨c, x, h⟩
      simp only [List.cons_append, serves_cons_of_not_answered hno, ih]

theorem serves_dealings : m.Serves now (dealings os) m' ↔ m.Serves now os m' := by
  induction os generalizing m with
  | nil => rfl
  | cons o os ih =>
    cases o with
    | called c a =>
      cases a with
      | ok x => simp only [dealings_called, serves_answered, ih]
      | error e => simp only [dealings_called, serves_failed, ih]
    | drawn j => simp only [dealings_drawn, serves_drawn, ih]
    | clock t => exact ih
    | emitted e => exact ih
    | roles user a => exact ih

namespace Serves

/-- What no answered call changes is as it was in the end. -/
theorem preserves {P : MemoryRegistry → Prop} (h : m.Serves now os m')
    (hos : ∀ c x, .called c (.ok x) ∈ os → ∀ n, P n → P (n.call now c).2) (hm : P m) : P m' := by
  induction os generalizing m with
  | nil => rwa [serves_nil.mp h]
  | cons o os ih =>
    have hrest := fun c x hc => hos c x (List.mem_cons_of_mem _ hc)
    -- only a call that is answered changes the registry
    by_cases ho : ∃ c x, o = .called c (.ok x)
    · obtain ⟨c, x, rfl⟩ := ho
      exact ih (serves_answered.mp h).2 hrest (hos c x List.mem_cons_self m hm)
    · exact ih ((serves_cons_of_not_answered fun c x hc => ho ⟨c, x, hc⟩).mp h) hrest hm

theorem retention_eq (h : m.Serves now os m') : m'.retention = m.retention :=
  h.preserves (P := fun n => n.retention = m.retention)
    (fun c _ _ n hn => (n.retention_call now c).trans hn) rfl

/-- A record is left as it is by calls that do not mark its identifier and do not count. -/
theorem get?_eq (h : m.Serves now os m')
    (hos : ∀ c x, .called c (.ok x) ∈ os → c ≠ .stats ∧ ∀ mark, c.marking? ≠ some (j, mark)) :
    m'.get? j = m.get? j := by
  refine h.preserves (P := fun n => n.get? j = m.get? j) (fun c x hc n hn => ?_) rfl
  obtain ⟨hstats, hmark⟩ := hos c x hc
  rw [get?_call_of_spared hstats hmark, hn]

theorem state_of_revoked (h : m.Serves now os m') (hj : m.state now j = .revoked) :
    m'.state now j = .revoked :=
  h.preserves (P := fun n => n.state now j = .revoked)
    (fun c _ _ _ hn => state_call_of_revoked (Int.le_refl _) hn c) hj

theorem withdrawn (h : m.Serves now os m') (hj : m.Withdrawn j)
    (hos : ∀ c x, .called c (.ok x) ∈ os → c ≠ .stats ∧ ∀ e, c ≠ .record j e) :
    m'.Withdrawn j :=
  h.preserves (P := fun n => n.Withdrawn j)
    (fun c x hc _ hn => hn.call (hos c x hc).1 (hos c x hc).2) hj

/-- An identifier is withdrawn once a revocation of it is answered. -/
theorem withdrawn_of_revoked {vs : List Occurrence} {e : Instant} {x : RevokeOutcome}
    (h : m.Serves now (us ++ .called (.revoke j e) (.ok x) :: vs) m')
    (hvs : ∀ c y, .called c (.ok y) ∈ vs → c ≠ .stats ∧ ∀ e, c ≠ .record j e) :
    m'.Withdrawn j := by
  obtain ⟨n, -, hn⟩ := serves_append.mp h
  exact withdrawn (serves_answered.mp hn).2 (withdrawn_revoke n now j e) hvs

end Serves

end MemoryRegistry

inductive Host.Follows : Host → List Occurrence → Host → Prop
  | nil (h : Host) : Follows h [] h
  | cons {h g h' : Host} {o : Occurrence} {os : List Occurrence} :
    h.Reacts o g → Follows g os h' → Follows h (o :: os) h'

namespace Host.Follows

variable {h h' : Host} {os : List Occurrence}

theorem serves {m : MemoryRegistry} (hf : h.Follows os h') (hm : h.registry = .memory m) :
    ∃ m', h'.registry = .memory m' ∧ m.Serves h.clock os m' := by
  induction hf generalizing m with
  | nil => exact ⟨m, hm, rfl⟩
  | cons hr _ ih =>
    rcases hr.memory hm with ⟨hg, ho⟩ | ⟨c, rfl, hg⟩
    · obtain ⟨m', hm', hs⟩ := ih hg
      rw [hr.clock_eq] at hs
      exact ⟨m', hm', (MemoryRegistry.serves_cons_of_not_answered ho).mpr hs⟩
    · obtain ⟨m', hm', hs⟩ := ih hg
      rw [hr.clock_eq] at hs
      exact ⟨m', hm', rfl, hs⟩

/-- Identifiers are drawn in the order of their source. -/
theorem draws (hf : h.Follows os h') : ∃ k, h'.drawn = h.drawn + k ∧
    os.filterMap (·.draw?) = (List.range' h.drawn k).map h.source := by
  induction hf with
  | nil => exact ⟨0, rfl, rfl⟩
  | @cons h g h' o os hr _ ih =>
    obtain ⟨k, hk, hdraws⟩ := ih
    cases hr with
    | drawn =>
      refine ⟨k + 1, by simp only [hk, draw]; omega, ?_⟩
      change h.draw.1 :: os.filterMap (·.draw?) = _
      rw [hdraws, List.range'_succ]
      rfl
    | clock | emitted | roles | failed | answered => exact ⟨k, hk, hdraws⟩

theorem drawn_of_mem {j : Jti} (hf : h.Follows os h') (hj : .drawn j ∈ os) :
    ∃ n, h.drawn ≤ n ∧ n < h'.drawn ∧ h.source n = j := by
  obtain ⟨k, hk, hdraws⟩ := hf.draws
  have hmem : j ∈ os.filterMap (·.draw?) := List.mem_filterMap.mpr ⟨_, hj, rfl⟩
  rw [hdraws] at hmem
  obtain ⟨n, hn, rfl⟩ := List.mem_map.mp hmem
  have hbounds := List.mem_range'_1.mp hn
  exact ⟨n, by omega, by omega, rfl⟩

theorem nodup_draws (hf : h.Follows os h') (hinj : Function.Injective h.source) :
    (os.filterMap (·.draw?)).Nodup := by
  obtain ⟨k, -, hdraws⟩ := hf.draws
  rw [hdraws]
  exact List.Nodup.map hinj List.nodup_range'

theorem drawn_eq_of_no_draws (hf : h.Follows os h') (hno : ∀ j, .drawn j ∉ os) :
    h'.drawn = h.drawn := by
  obtain ⟨k, hk, hdraws⟩ := hf.draws
  cases k with
  | zero => exact hk
  | succ k =>
    have hmem : h.source h.drawn ∈ os.filterMap (·.draw?) := by
      rw [hdraws, List.range'_succ]
      exact List.mem_cons_self
    obtain ⟨o, ho, hj⟩ := List.mem_filterMap.mp hmem
    exact absurd (Occurrence.draw?_eq_some.mp hj ▸ ho) (hno _)

end Host.Follows

namespace Program

variable {α : Type} {P : Occurrence → Prop} {K : Scope → Host → Prop}

theorem follows_course (hK : Steady P K) (p : Program α) {s : Scope} {h : Host} (hk : K s h) :
    h.bare.Follows (p.course s h) (p.run s h).2.2.bare ∧ (∀ o ∈ p.course s h, P o) ∧
      K (p.run s h).2.1 (p.run s h).2.2 := by
  induction p generalizing s h with
  | done a => exact ⟨.nil _, nofun, hk⟩
  | readClock next ih =>
    obtain ⟨hf, ho, hk'⟩ := ih h.clock hk
    exact ⟨.cons .clock hf, List.forall_mem_cons.mpr ⟨hK.clock hk, ho⟩, hk'⟩
  | drawJti next ih =>
    obtain ⟨hd, hk⟩ := hK.drawn hk
    obtain ⟨hf, ho, hk'⟩ := ih h.draw.1 hk
    exact ⟨.cons .drawn hf, List.forall_mem_cons.mpr ⟨hd, ho⟩, hk'⟩
  | emit e next ih =>
    obtain ⟨he, hk⟩ := hK.emitted e hk
    obtain ⟨hf, ho, hk'⟩ := ih hk
    exact ⟨.cons (.emitted e) hf, List.forall_mem_cons.mpr ⟨he, ho⟩, hk'⟩
  | lookUpRoles user next ih =>
    obtain ⟨hr, hk⟩ := hK.roles user hk
    obtain ⟨hf, ho, hk'⟩ := ih (h.lookUpRoles user).1 hk
    exact ⟨.cons (.roles user) hf, List.forall_mem_cons.mpr ⟨hr, ho⟩, hk'⟩
  | call c next ih =>
    obtain ⟨hc, hk, hreacts⟩ := hK.called c hk
    obtain ⟨hf, ho, hk'⟩ := ih (s.call h c).1 hk
    exact ⟨.cons hreacts hf, List.forall_mem_cons.mpr ⟨hc, ho⟩, hk'⟩

end Program

/-- The registry is that of a single process, and nothing keeps it from answering at once. -/
structure Undisturbed (timer : Nat) (s : Scope) (h : Host) : Prop where
  free : s.Free
  faults : h.faults = []
  registry : ∃ m, h.registry = .memory m
  timer : h.timer = timer

theorem steady_undisturbed (timer : Nat) :
    Steady (fun o => ∀ c e, o ≠ .called c (.error e)) (Undisturbed timer) where
  clock _ := nofun
  drawn hk := ⟨nofun, hk.free, hk.faults, hk.registry, hk.timer⟩
  emitted _ hk := ⟨nofun, hk.free, hk.faults, hk.registry, hk.timer⟩
  roles _ hk := ⟨nofun, hk.free, hk.faults, hk.registry, hk.timer⟩
  called {s h} c hk := by
    obtain ⟨m, hm⟩ := hk.registry
    have hcall : s.call h c = (.ok (m.call h.clock c).1, s, { h with
        registry := .memory (m.call h.clock c).2
        calls := h.calls ++ [c]
        stopped := h.stopped || !m.retention.admits h.clock c }) := by
      rw [Scope.call_of_free hk.free hk.faults, hm]
      simp [Backend.call, Backend.retention]
    have hreacts := Host.Reacts.answered (h := h.bare) c
    rw [Host.callRegistry_memory (h := h.bare) hm] at hreacts
    rw [hcall]
    refine ⟨fun d e he => ?_, ⟨hk.free, hk.faults, ⟨_, rfl⟩, hk.timer⟩, hreacts⟩
    obtain ⟨rfl, ha⟩ := Occurrence.called.inj he
    cases eq_of_heq ha

/-- What a program that runs alone has answered by a registry that always answers. -/
theorem Program.serves_undisturbed {α : Type} (p : Program α) {timer : Nat} {s : Scope} {h : Host}
    {m : MemoryRegistry} (hk : Undisturbed timer s h) (hm : h.registry = .memory m) :
    (∀ c e, .called c (.error e) ∉ p.course s h) ∧ (p.run s h).2.2.timer = timer ∧
      ∃ m', (p.run s h).2.2.registry = .memory m' ∧ m.Serves h.clock (p.course s h) m' := by
  obtain ⟨hfollows, hanswered, hk'⟩ := follows_course (steady_undisturbed timer) p hk
  exact ⟨fun c e hc => hanswered _ hc c e rfl, hk'.timer, hfollows.serves (m := m) hm⟩

def Occurrence.call? : Occurrence → Option RegistryCall
  | called c _ => some c
  | _ => none

theorem calls_dealings {os : List Occurrence} :
    (dealings os).filterMap (·.call?) = os.filterMap (·.call?) := by
  rw [dealings, List.filterMap_filter]
  refine List.filterMap_congr fun o _ => ?_
  cases o <;> rfl

theorem Host.faults_race (h : Host) (c : RegistryCall) : (h.race c).faults = h.faults := by
  cases c <;> rfl

theorem Host.faults_finish (h : Host) (f : Fault) (ending : Ending) (c : RegistryCall) :
    (h.finish f ending c).2.faults = h.faults := by
  cases ending with
  | answered =>
    simp only [finish, answer]
    split
    · rfl
    · split
      · exact h.faults_race c
      · rfl
  | timedOut | cancelled => rfl

theorem Host.nextFault_ne_cancelScope {h : Host} (hh : .cancelScope ∉ h.faults) :
    h.nextFault ≠ .cancelScope := by
  cases hfaults : h.faults with
  | nil => simp [nextFault, hfaults]
  | cons f fs =>
    simp only [nextFault, hfaults, List.headD_cons]
    rintro rfl
    exact hh (by simp [hfaults])

/-- Nothing has cancelled the scope, and nothing will. -/
def Scope.Uncancelled (s : Scope) (h : Host) : Prop := s.Free ∧ .cancelScope ∉ h.faults

theorem Scope.isOver_eq_false (s : Scope) (hs : s.Free) (now : Nat) : s.isOver now = false := by
  simp [isOver, hs.1, hs.2]

theorem Scope.Uncancelled.call {s : Scope} {h : Host} (hs : s.Uncancelled h) (c : RegistryCall) :
    (s.call h c).2.1.Uncancelled (s.call h c).2.2 := by
  have hopen := s.isOver_eq_false hs.1 h.timer
  have hfault : (s.start h c).fault ≠ .cancelScope := by
    rw [s.start_fault hopen]
    exact Host.nextFault_ne_cancelScope hs.2
  have hscope : (s.start h c).scope = s.after (s.start h c).fault := by
    simp [start, hopen]
  have hrest : (s.start h c).host.faults = h.faults.drop 1 := by
    simp [start, hopen, Host.begin]
  refine ⟨?_, ?_⟩
  · change (s.start h c).scope.Free
    rw [hscope]
    cases hf : (s.start h c).fault with
    | cancelScope => exact absurd hf hfault
    | _ => exact hs.1
  · rw [Scope.call, Host.faults_finish, hrest]
    exact fun hm => hs.2 (List.mem_of_mem_drop hm)

/-- The registry sees the calls of a program, but for those that its scope does not let begin. -/
theorem Program.calls_run {α : Type} (p : Program α) (s : Scope) (h : Host) :
    ∃ cs : List RegistryCall, (p.run s h).2.2.calls = h.calls ++ cs ∧
      cs.Sublist ((p.course s h).filterMap (·.call?)) ∧
      (s.Uncancelled h → cs = (p.course s h).filterMap (·.call?)) := by
  induction p generalizing s h with
  | done a => exact ⟨[], by simp [run], List.nil_sublist _, fun _ => rfl⟩
  | readClock next ih => exact ih h.clock s h
  | drawJti next ih => exact ih h.draw.1 s h.draw.2
  | emit e next ih => exact ih s (h.log [e])
  | lookUpRoles user next ih => exact ih (h.lookUpRoles user).1 s (h.lookUpRoles user).2
  | call c next ih =>
    obtain ⟨cs, hcalls, hsub, hall⟩ := ih (s.call h c).1 (s.call h c).2.1 (s.call h c).2.2
    refine ⟨(if s.isOver h.timer then [] else [c]) ++ cs, ?_, ?_, ?_⟩
    · rw [run, hcalls, s.calls_call, List.append_assoc]
    · change List.Sublist _ (c :: _)
      by_cases hover : s.isOver h.timer = true
      · rw [if_pos hover]
        exact hsub.cons c
      · rw [if_neg hover]
        exact hsub.cons_cons c
    · intro hs
      rw [s.isOver_eq_false hs.1, hall (hs.call c)]
      rfl

end SessionTokens

import SessionTokens.Proofs.Host.Execution
import SessionTokens.Proofs.Host.Memory

/-! Nothing gets stuck: a host without faults answers whatever is asked of it, so that a request
can be served to its end while everything else stands still. -/

namespace SessionTokens

/-- The registry is that of a single process, and no fault or cancellation lies ahead. -/
structure Smooth (s : Scope) (h : Host) : Prop where
  registry : ∃ m, h.registry = .memory m
  faults : h.faults = []
  roleFaults : h.roleFaults = []
  cancelled : s.cancelled = false
  cancelAt : s.cancelAt = none

theorem Smooth.call {s : Scope} {h : Host} {m : MemoryRegistry} (hs : Smooth s h)
    (hm : h.registry = .memory m) (c : RegistryCall) :
    s.call h c = (.ok (m.call h.clock c).1, s, { h with
      registry := .memory (m.call h.clock c).2
      calls := h.calls ++ [c]
      stopped := h.stopped || !m.retention.admits h.clock c }) := by
  simp [Scope.call, Scope.start, Scope.isOver, hs.cancelled, hs.cancelAt, Host.begin, hs.faults,
    Scope.during, Scope.after, Scope.await, Scope.undisturbed, Fault.toWait, Host.finish,
    Host.answer, Fault.answer?, Host.callRegistry, Host.log, hm, Backend.call,
    Backend.retention]

theorem steady_smooth : Steady (·.isFailure = false) Smooth where
  clock _ := rfl
  drawn hs := ⟨rfl, hs.registry, hs.faults, hs.roleFaults, hs.cancelled, hs.cancelAt⟩
  emitted _ hs := ⟨rfl, hs.registry, hs.faults, hs.roleFaults, hs.cancelled, hs.cancelAt⟩
  roles user hs := by
    refine ⟨?_, hs.registry, hs.faults, ?_, hs.cancelled, hs.cancelAt⟩
    · simp [Host.lookUpRoles, hs.roleFaults, Occurrence.isFailure]
    · simp [Host.lookUpRoles, hs.roleFaults]
  called {s h} c hs := by
    obtain ⟨m, hm⟩ := hs.registry
    rw [hs.call hm]
    refine ⟨rfl, ⟨⟨_, rfl⟩, hs.faults, hs.roleFaults, hs.cancelled, hs.cancelAt⟩, ?_⟩
    have hreacts := Host.Reacts.answered (h := h.bare) c
    rwa [Host.callRegistry_memory (h := h.bare) hm] at hreacts

namespace Host

/-- A host that has just been set up. Identifiers are texts of growing length. -/
def fresh (now : Instant) (p : Retention) : Host where
  clock := now
  source n := ⟨String.ofList (List.replicate n 'x')⟩
  registry := .memory (.empty p)
  roles := .ofDefaults []

theorem injective_source_fresh (now : Instant) (p : Retention) :
    Function.Injective (fresh now p).source := by
  intro m n h
  have hlist := String.ofList_injective (Jti.mk.inj h)
  simpa using congrArg List.length hlist

def recording (now : Instant) (p : Retention) (expiresAt : Instant) : Host :=
  let (j, h) := (fresh now p).draw
  (h.callRegistry (.record j expiresAt)).2

theorem registry_recording (now : Instant) (p : Retention) (expiresAt : Instant) :
    (recording now p expiresAt).registry = .memory
      ((MemoryRegistry.empty p).call now (.record ((fresh now p).source 0) expiresAt)).2 := rfl

/-- What is drawn later is not on record. -/
theorem get?_recording {now : Instant} {p : Retention} {expiresAt : Instant} {n : Nat}
    (hn : (recording now p expiresAt).drawn ≤ n) :
    ((MemoryRegistry.empty p).call now (.record ((fresh now p).source 0) expiresAt)).2.get?
      ((fresh now p).source n) = none := by
  refine Option.eq_none_iff_forall_ne_some.mpr fun r hr => ?_
  rcases MemoryRegistry.get?_call hr with h | h
  · exact nomatch h
  · have hzero : 0 = n := injective_source_fresh now p (Prod.mk.inj (Option.some.inj h)).1
    have hone : 1 ≤ n := hn
    omega

end Host

def Scope.patient : Scope := { timeout := 0 }

theorem smooth_fresh (now : Instant) (p : Retention) : Smooth .patient (.fresh now p) :=
  ⟨⟨_, rfl⟩, rfl, rfl, rfl, rfl⟩

theorem smooth_recording (now : Instant) (p : Retention) (expiresAt : Instant) :
    Smooth .patient (.recording now p expiresAt) := ⟨⟨_, rfl⟩, rfl, rfl, rfl, rfl⟩

end SessionTokens

import SessionTokens.Proofs.Registry.Lifetime

/-! What revocations leave behind in a registry of one process. An identifier that was revoked is
never active again, unless it is recorded anew, and revoking the same identifiers again at the same
time changes nothing. -/

namespace SessionTokens.MemoryRegistry

variable {m n : MemoryRegistry} {now : Instant} {j : Jti} {e : Instant}
  {calls : List (Instant × RegistryCall)}

theorem state_eq_of_get? (h : n.get? j = m.get? j) : n.state now j = m.state now j :=
  state_congr (by rw [live?, live?, h])

theorem state_eq_unknown_of_get? (h : m.get? j = none) : m.state now j = .unknown :=
  state_eq_unknown.mpr (by rw [live?, h]; rfl)

section Withdrawn

theorem Spent.after (h : m.Spent j) (hcalls : ∀ c ∈ calls, ∀ e, c.2 ≠ .record j e) :
    (m.after calls).Spent j := by
  induction calls generalizing m with
  | nil => exact h
  | cons c calls ih =>
    exact ih (h.call (hcalls c List.mem_cons_self)) fun d hd => hcalls d (List.mem_cons_of_mem _ hd)

/-- A revoked mark is on record, live or dead. -/
def Withdrawn (m : MemoryRegistry) (j : Jti) : Prop := ∃ r, m.get? j = some r ∧ r.mark = .revoked

theorem Withdrawn.spent (h : m.Withdrawn j) : m.Spent j := by
  obtain ⟨r, hr, hmark⟩ := h
  intro r' hr'
  rwa [← Option.some.inj (hr.symm.trans hr')]

theorem Withdrawn.congr (h : m.Withdrawn j) (hget : n.get? j = m.get? j) : n.Withdrawn j := by
  rwa [Withdrawn, hget]

theorem get?_call_of_spared {c : RegistryCall} (hstats : c ≠ .stats)
    (hmark : ∀ mark, c.marking? ≠ some (j, mark)) : (m.call now c).2.get? j = m.get? j := by
  cases c with
  | record k e =>
    have hk : j ≠ k := fun hk => hmark .active (by rw [hk]; rfl)
    simp only [call, record]
    split
    · rfl
    · rw [get?_put, if_neg hk]
  | revoke k e =>
    have hk : j ≠ k := fun hk => hmark .revoked (by rw [hk]; rfl)
    simp only [call, revoke]
    split
    · rfl
    all_goals rw [get?_put, if_neg hk]
  | state k => rfl
  | stats => exact absurd rfl hstats

theorem get?_call_mark (m : MemoryRegistry) (now : Instant) (mark : Mark) (j k : Jti)
    (e : Instant) : (m.call now (mark.call k e)).2.get? j =
      if k = j ∧ m.state now j ≠ .revoked then some (m.retention.record mark e now)
      else m.get? j := by
  by_cases hk : k = j
  · subst k
    by_cases hs : m.state now j = .revoked
    · rw [call_of_revoked hs, if_neg fun h => h.2 hs]
    · rw [call_of_not_revoked hs, get?_put, if_pos rfl, if_pos ⟨rfl, hs⟩]
  · have hspared : ∀ mark', (mark.call k e).marking? ≠ some (j, mark') := by
      cases mark <;> exact fun _ h => hk (Prod.mk.inj (Option.some.inj h)).1
    have hstats : mark.call k e ≠ .stats := by cases mark <;> nofun
    rw [get?_call_of_spared hstats hspared, if_neg fun h => hk h.1]

theorem get?_call_revoke (m : MemoryRegistry) (now : Instant) (j k : Jti) (e : Instant) :
    (m.call now (.revoke k e)).2.get? j =
      if k = j ∧ m.state now j ≠ .revoked then some (m.retention.record .revoked e now)
      else m.get? j := m.get?_call_mark now .revoked j k e

theorem get?_call_record (m : MemoryRegistry) (now : Instant) (j k : Jti) (e : Instant) :
    (m.call now (.record k e)).2.get? j =
      if k = j ∧ m.state now j ≠ .revoked then some (m.retention.record .active e now)
      else m.get? j := m.get?_call_mark now .active j k e

theorem withdrawn_revoke (m : MemoryRegistry) (now : Instant) (j : Jti) (e : Instant) :
    (m.call now (.revoke j e)).2.Withdrawn j := by
  by_cases hs : m.state now j = .revoked
  · obtain ⟨r, hr, hmark⟩ := state_eq_revoked.mp hs
    refine ⟨r, ?_, hmark⟩
    rw [get?_call_revoke, if_neg fun h => h.2 hs, get?_of_live? hr]
  · exact ⟨_, by rw [get?_call_revoke, if_pos ⟨rfl, hs⟩], rfl⟩

theorem Withdrawn.call (h : m.Withdrawn j) {c : RegistryCall} (hstats : c ≠ .stats)
    (hrecord : ∀ e, c ≠ .record j e) : (m.call now c).2.Withdrawn j := by
  by_cases hc : ∀ mark, c.marking? ≠ some (j, mark)
  · exact h.congr (get?_call_of_spared hstats hc)
  · obtain ⟨mark, hc⟩ := not_forall_not.mp hc
    obtain ⟨e, rfl⟩ := RegistryCall.marking?_eq_some.mp hc
    cases mark with
    | active => exact absurd rfl (hrecord e)
    | revoked => exact withdrawn_revoke m now j e

end Withdrawn

/-! Revocations that are all made at one time, and once more at that time. -/

section Again

variable {es : List (Jti × Instant)}

def revocations (now : Instant) (es : List (Jti × Instant)) : List (Instant × RegistryCall) :=
  es.map fun e => (now, .revoke e.1 e.2)

@[simp] theorem after_revocations_cons {e : Jti × Instant} :
    m.after (revocations now (e :: es)) =
      (m.call now (.revoke e.1 e.2)).2.after (revocations now es) := rfl

theorem get?_revocations_of_revoked (h : m.state now j = .revoked) :
    (m.after (revocations now es)).get? j = m.get? j := by
  obtain ⟨r, hr, hmark⟩ := state_eq_revoked.mp h
  obtain ⟨hget, hlive⟩ := Option.filter_eq_some_iff.mp hr
  rw [hget]
  refine get?_after_of_revoked hget hmark fun c hc => ?_
  obtain ⟨e, -, rfl⟩ := List.mem_map.mp hc
  exact hlive

theorem get?_revocations_of_not_mem (h : ∀ e ∈ es, e.1 ≠ j) :
    (m.after (revocations now es)).get? j = m.get? j := by
  induction es generalizing m with
  | nil => rfl
  | cons e es ih =>
    rw [after_revocations_cons, ih fun d hd => h d (List.mem_cons_of_mem _ hd), get?_call_revoke,
      if_neg fun hj => h e List.mem_cons_self hj.1]

/-- What revocations leave on record depends on nothing but what they find on record. -/
theorem get?_revocations_congr (hp : n.retention = m.retention) (h : n.get? j = m.get? j) :
    (n.after (revocations now es)).get? j = (m.after (revocations now es)).get? j := by
  induction es generalizing m n with
  | nil => exact h
  | cons e es ih =>
    rw [after_revocations_cons, after_revocations_cons]
    refine ih (by rw [retention_call, retention_call, hp]) ?_
    rw [get?_call_revoke, get?_call_revoke, state_eq_of_get? h, hp, h]

theorem get?_revocations_of_not_revoked (hp : n.retention = m.retention)
    (hn : n.state now j ≠ .revoked) (hm : m.state now j ≠ .revoked) (hj : ∃ e ∈ es, e.1 = j) :
    (n.after (revocations now es)).get? j = (m.after (revocations now es)).get? j := by
  induction es generalizing m n with
  | nil => exact absurd hj (by simp)
  | cons e es ih =>
    have hp' : (n.call now (.revoke e.1 e.2)).2.retention =
        (m.call now (.revoke e.1 e.2)).2.retention := by
      rw [retention_call, retention_call, hp]
    rw [after_revocations_cons, after_revocations_cons]
    by_cases he : e.1 = j
    · refine get?_revocations_congr hp' ?_
      rw [get?_call_revoke, get?_call_revoke, if_pos ⟨he, hn⟩, if_pos ⟨he, hm⟩, hp]
    · have hstate : ∀ x : MemoryRegistry,
          (x.call now (.revoke e.1 e.2)).2.state now j = x.state now j := by
        intro x
        exact state_eq_of_get? (by rw [get?_call_revoke, if_neg fun hj => he hj.1])
      refine ih hp' (by rwa [hstate]) (by rwa [hstate]) ?_
      simpa [he] using hj

/-- Whoever makes the same revocations again at the same time changes nothing. -/
theorem get?_revocations_again (m : MemoryRegistry) (now : Instant) (es : List (Jti × Instant))
    (j : Jti) : ((m.after (revocations now es)).after (revocations now es)).get? j =
      (m.after (revocations now es)).get? j := by
  -- a mark may be dead as soon as it is made; then the second time overwrites it with its like
  by_cases hs : (m.after (revocations now es)).state now j = .revoked
  · exact get?_revocations_of_revoked hs
  by_cases hj : ∃ e ∈ es, e.1 = j
  · have hm : m.state now j ≠ .revoked := by
      exact fun hm => hs ((state_eq_of_get? (get?_revocations_of_revoked hm)).trans hm)
    exact get?_revocations_of_not_revoked (retention_after ..) hs hm hj
  · exact get?_revocations_of_not_mem fun e he hej => hj ⟨e, he, hej⟩

end Again

end SessionTokens.MemoryRegistry

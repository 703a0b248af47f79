import Mathlib.Logic.Basic
import SessionTokens.Registry.Keyed.Registry

/-! What a key server holds of an identifier. The names of keys tell identifiers and marks apart,
and a script reads and writes the marks of the one identifier that it is given. -/

namespace SessionTokens.Keyed

section Names

variable {root : String} {i j : Jti}

theorem key_inj {lead : String} (h : lead ++ i.text ++ "\x7d" = lead ++ j.text ++ "\x7d") :
    i = j := by
  have hl := congrArg String.toList h
  simp only [String.toList_append] at hl
  have ht : i.text.toList = j.text.toList :=
    List.append_cancel_left (List.append_cancel_right hl)
  cases i
  cases j
  exact congrArg Jti.mk (String.toList_inj.mp ht)

theorem activeKey_inj : activeKey root i = activeKey root j ↔ i = j :=
  ⟨key_inj, fun h => h ▸ rfl⟩

theorem revokedKey_inj : revokedKey root i = revokedKey root j ↔ i = j :=
  ⟨key_inj, fun h => h ▸ rfl⟩

theorem activeKey_ne_revokedKey (root : String) (i j : Jti) :
    activeKey root i ≠ revokedKey root j := by
  intro h
  have hl := congrArg String.toList h
  simp only [activeKey, revokedKey, String.toList_append, List.append_assoc] at hl
  have ht := List.append_cancel_left hl
  simp at ht

end Names

namespace Store

variable {s : Store} {n t : Int} {key k : String}

theorem has_eq_true : s.has n k = true ↔ ∃ d, (k, d) ∈ s.entries ∧ n < d := by
  simp only [has, live, List.any_eq_true, List.mem_filter, beq_iff_eq, decide_eq_true_eq]
  constructor
  · rintro ⟨⟨k', d⟩, ⟨hm, hd⟩, rfl⟩
    exact ⟨d, hm, hd⟩
  · rintro ⟨d, hm, hd⟩
    exact ⟨(k, d), ⟨hm, hd⟩, rfl⟩

theorem has_of_le (h : s.has n k = true) (ht : t ≤ n) : s.has t k = true := by
  obtain ⟨d, hm, hd⟩ := has_eq_true.mp h
  exact has_eq_true.mpr ⟨d, hm, by omega⟩

theorem has_delete (s : Store) (n : Int) (key k : String) :
    (s.delete key).has n k = (k != key && s.has n k) := by
  rw [Bool.eq_iff_iff, Bool.and_eq_true, has_eq_true, has_eq_true]
  simp only [delete, List.mem_filter, bne_iff_ne, ne_eq]
  constructor
  · rintro ⟨d, ⟨hm, hk⟩, hd⟩
    exact ⟨hk, d, hm, hd⟩
  · rintro ⟨hk, d, hm, hd⟩
    exact ⟨d, ⟨hm, hk⟩, hd⟩

theorem has_set (s : Store) (n d : Int) (key k : String) :
    (s.set key d).has n k = if k = key then decide (n < d) else s.has n k := by
  have hmem : ∀ d', (k, d') ∈ (s.set key d).entries ↔
      (k, d') ∈ (s.delete key).entries ∨ k = key ∧ d' = d := by
    intro d'
    simp [set]
  rw [Bool.eq_iff_iff, has_eq_true]
  simp only [hmem]
  by_cases hk : k = key
  · subst k
    have hno : ∀ d', (key, d') ∉ (s.delete key).entries := by
      intro d'
      simp [delete]
    simp [hno]
  · have hdel := has_delete s n key k
    rw [if_neg hk]
    simp only [hk, false_and, or_false]
    rw [← has_eq_true, hdel]
    simp [hk]

theorem has_purge (s : Store) (t n : Int) (k : String) :
    (s.purge t).has n k = s.has (max t n) k := by
  rw [Bool.eq_iff_iff, has_eq_true, has_eq_true]
  simp only [purge, live, List.mem_filter, decide_eq_true_eq]
  constructor
  · rintro ⟨d, ⟨hm, ht⟩, hn⟩
    exact ⟨d, hm, by omega⟩
  · rintro ⟨d, hm, hd⟩
    exact ⟨d, ⟨hm, by omega⟩, by omega⟩

/-- What is gone when the dead keys are dropped stays away. -/
theorem has_purge_of_not_has (h : (s.purge t).has t k = false) (n : Int) :
    (s.purge t).has n k = false := by
  rw [has_purge, Int.max_self] at h
  rw [has_purge]
  by_cases hn : s.has (max t n) k = true
  · have ht := has_of_le hn (Int.le_max_left t n)
    simp [ht] at h
  · simpa using hn

/-- What the keys of an identifier say of it. -/
def state (s : Store) (root : String) (n : Int) (j : Jti) : JtiState :=
  if s.has n (revokedKey root j) then .revoked
  else if s.has n (activeKey root j) then .active
  else .unknown

/-- Both keys of an identifier at once. -/
def HasBoth (s : Store) (root : String) (n : Int) (j : Jti) : Prop :=
  s.has n (activeKey root j) = true ∧ s.has n (revokedKey root j) = true

section Marks

variable {root : String} {i j : Jti} {d : Int}

theorem state_purge (s : Store) (root : String) {t n : Int} (h : t ≤ n) (j : Jti) :
    (s.purge t).state root n j = s.state root n j := by
  have hmax : max t n = n := Int.max_eq_right h
  simp only [state, has_purge, hmax]

/-! Each script comes to what the keys of its identifier say before it. -/

section Run

variable (s : Store) (root : String) (takes : Int → Bool) (n : Int) (j : Jti) (ttl : Nat)

theorem run_state : s.run takes n .state (activeKey root j) (revokedKey root j) ttl =
    (match s.state root n j with
      | .revoked => some 2
      | .active => some 1
      | .unknown => some 0, s) := by
  by_cases hr : s.has n (revokedKey root j) = true <;>
    by_cases ha : s.has n (activeKey root j) = true <;> simp [run, state, hr, ha]

theorem run_record : s.run takes n .record (activeKey root j) (revokedKey root j) ttl =
    match s.state root n j with
      | .revoked => (some 0, s)
      | _ =>
        if takes (n + ttl) then (some 1, s.set (activeKey root j) (n + ttl)) else (none, s) := by
  by_cases hr : s.has n (revokedKey root j) = true <;>
    by_cases ha : s.has n (activeKey root j) = true <;> simp [run, state, hr, ha]

theorem run_revoke : s.run takes n .revoke (activeKey root j) (revokedKey root j) ttl =
    let freed := s.delete (activeKey root j)
    let marked := freed.set (revokedKey root j) (n + ttl)
    match s.state root n j with
      | .revoked => (some 2, s)
      | .active => if takes (n + ttl) then (some 1, marked) else (none, freed)
      | .unknown => if takes (n + ttl) then (some 0, marked) else (none, freed) := by
  by_cases hr : s.has n (revokedKey root j) = true <;>
    by_cases ha : s.has n (activeKey root j) = true <;> simp [run, state, hr, ha]

end Run

theorem state_set_active (h : s.has n (revokedKey root j) = false) :
    (s.set (activeKey root j) d).state root n i =
      if i = j then (if n < d then .active else .unknown) else s.state root n i := by
  have hne : ∀ i, revokedKey root i ≠ activeKey root j :=
    fun i hi => activeKey_ne_revokedKey root j i hi.symm
  simp only [state, has_set, if_neg (hne i), activeKey_inj]
  by_cases hi : i = j
  · subst i
    simp [h]
  · simp [hi]

theorem state_set_revoked :
    ((s.delete (activeKey root j)).set (revokedKey root j) d).state root n i =
      if i = j then (if n < d then .revoked else .unknown) else s.state root n i := by
  have hne : ∀ i, revokedKey root i ≠ activeKey root j :=
    fun i hi => activeKey_ne_revokedKey root j i hi.symm
  have hne' := activeKey_ne_revokedKey root i j
  by_cases hi : i = j
  · subst i
    simp [state, has_set, has_delete, hne']
  · have ha : activeKey root i ≠ activeKey root j := fun h => hi (activeKey_inj.mp h)
    have hr : revokedKey root i ≠ revokedKey root j := fun h => hi (revokedKey_inj.mp h)
    simp [state, has_set, has_delete, hi, ha, hr, hne i, hne']

theorem state_delete_active (h : s.has n (revokedKey root j) = false) :
    (s.delete (activeKey root j)).state root n j = .unknown := by
  simp [state, has_delete, h]

theorem not_hasBoth_set_active (h : ∀ i, ¬ s.HasBoth root n i)
    (hj : s.has n (revokedKey root j) = false) :
    ¬ (s.set (activeKey root j) d).HasBoth root n i := by
  have hne : revokedKey root i ≠ activeKey root j :=
    fun hi => activeKey_ne_revokedKey root j i hi.symm
  rintro ⟨ha, hr⟩
  rw [has_set, if_neg hne] at hr
  by_cases hi : i = j
  · subst i
    simp [hj] at hr
  · rw [has_set, if_neg fun h => hi (activeKey_inj.mp h)] at ha
    exact h i ⟨ha, hr⟩

theorem not_hasBoth_set_revoked (h : ∀ i, ¬ s.HasBoth root n i) :
    ¬ ((s.delete (activeKey root j)).set (revokedKey root j) d).HasBoth root n i := by
  rintro ⟨ha, hr⟩
  rw [has_set, if_neg (activeKey_ne_revokedKey root i j), has_delete] at ha
  by_cases hi : i = j
  · subst i
    simp at ha
  · have hne : revokedKey root i ≠ activeKey root j :=
      fun hi => activeKey_ne_revokedKey root j i hi.symm
    rw [has_set, if_neg fun h => hi (revokedKey_inj.mp h), has_delete] at hr
    simp only [Bool.and_eq_true] at ha hr
    exact h i ⟨ha.2, hr.2⟩

end Marks

end Store
end SessionTokens.Keyed

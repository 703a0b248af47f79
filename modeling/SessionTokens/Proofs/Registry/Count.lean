import Mathlib.Data.Set.Card
import SessionTokens.Proofs.Registry.Lifetime

/-! What a registry of one process counts, against what it says of each identifier by itself. Dead
records are dropped before the count, and an identifier has one entry, so that each count is the
size of the set of identifiers that are said to be in that state at that instant. -/

namespace SessionTokens

namespace MemoryRegistry

variable {m n : MemoryRegistry} {j : Jti} {now : Instant} {mark : Mark}

theorem state_eq_iff_live? :
    m.state now j = mark.state ↔ ∃ r, m.live? now j = some r ∧ r.mark = mark := by
  cases mark with
  | active => exact state_eq_active
  | revoked => exact state_eq_revoked

/-- The identifiers whose live records bear the mark, in the order of their entries. -/
def bearers (m : MemoryRegistry) (now : Instant) (mark : Mark) : List Jti :=
  ((m.purge now).entries.filter fun e => e.2.mark = mark).map (·.1)

theorem nodup_bearers (m : MemoryRegistry) (now : Instant) (mark : Mark) :
    (m.bearers now mark).Nodup :=
  (m.purge now).nodup.sublist (List.filter_sublist.map _)

theorem mem_bearers : j ∈ m.bearers now mark ↔ m.state now j = mark.state := by
  simp only [bearers, List.mem_map, List.mem_filter, decide_eq_true_eq, state_eq_iff_live?]
  constructor
  · rintro ⟨⟨k, r⟩, ⟨hmem, hmark⟩, rfl⟩
    exact ⟨r, get?_purge m now k ▸ get?_of_mem hmem, hmark⟩
  · rintro ⟨r, hr, hmark⟩
    exact ⟨(j, r), ⟨mem_of_get? ((get?_purge m now j).trans hr), hmark⟩, rfl⟩

theorem stats_eq (m : MemoryRegistry) (now : Instant) :
    (m.stats now).1 = ⟨(m.bearers now .active).length, (m.bearers now .revoked).length⟩ := by
  simp only [stats, bearers, List.length_map]

theorem encard_bearers (m : MemoryRegistry) (now : Instant) (mark : Mark) :
    {j | m.state now j = mark.state}.encard = (m.bearers now mark).length := by
  have hset : {j | m.state now j = mark.state} = ((m.bearers now mark).toFinset : Set Jti) := by
    ext j
    simp [mem_bearers]
  rw [hset, Set.encard_coe_eq_coe_finsetCard,
    List.toFinset_card_of_nodup (m.nodup_bearers now mark)]

/-- The counts are those of what is said of the identifiers, whatever the entries are. -/
theorem stats_congr (h : ∀ j, m.state now j = n.state now j) :
    (m.stats now).1 = (n.stats now).1 := by
  have hlength : ∀ mark, (m.bearers now mark).length = (n.bearers now mark).length := by
    intro mark
    have hsame := m.encard_bearers now mark
    simp only [h, n.encard_bearers] at hsame
    exact_mod_cast hsame.symm
  rw [stats_eq, stats_eq, hlength, hlength]

theorem stats_counts_states (m : MemoryRegistry) (calls : List (Instant × RegistryCall))
    (now : Instant) :
    let counts := ((m.after calls).stats now).1
    (counts.active : ℕ∞) = {j | (m.after calls).state now j = .active}.encard ∧
      (counts.revoked : ℕ∞) = {j | (m.after calls).state now j = .revoked}.encard ∧
      counts.total = counts.active + counts.revoked ∧
      (counts.total : ℕ∞) = {j | (m.after calls).state now j ≠ .unknown}.encard := by
  generalize m.after calls = m
  intro counts
  have hactive : (counts.active : ℕ∞) = {j | m.state now j = .active}.encard := by
    rw [show counts = _ from m.stats_eq now]
    exact (m.encard_bearers now .active).symm
  have hrevoked : (counts.revoked : ℕ∞) = {j | m.state now j = .revoked}.encard := by
    rw [show counts = _ from m.stats_eq now]
    exact (m.encard_bearers now .revoked).symm
  refine ⟨hactive, hrevoked, rfl, ?_⟩
  have hknown : {j | m.state now j ≠ .unknown} =
      {j | m.state now j = .active} ∪ {j | m.state now j = .revoked} := by
    ext j
    cases h : m.state now j <;> simp [h]
  have hdisjoint : Disjoint {j | m.state now j = .active} {j | m.state now j = .revoked} :=
    Set.disjoint_left.mpr fun j ha hr => nomatch (show m.state now j = _ from ha).symm.trans hr
  rw [hknown, Set.encard_union_eq hdisjoint, ← hactive, ← hrevoked]
  exact Nat.cast_add counts.active counts.revoked

/-- A record is counted until the last instant before its deadline, as it is found. -/
example :
    let m := (empty ⟨.ofSeconds 1, .ofSeconds 1⟩).after
      [(.ofUnix 0 0, .record ⟨"a"⟩ (.ofUnix 5 0)), (.ofUnix 0 0, .revoke ⟨"b"⟩ (.ofUnix 9 0))]
    (m.stats (.ofUnix 5 999999999)).1 = ⟨1, 1⟩ ∧ (m.stats (.ofUnix 6 0)).1 = ⟨0, 1⟩ := by
  decide

end MemoryRegistry

end SessionTokens

import Mathlib.Algebra.GroupWithZero.Nat
import SessionTokens.Identity.Uuid

/-! The text of a UUID is read back. -/

namespace SessionTokens.Uuid

theorem splitGroups_joinGroups {ns : List Nat} {cs : List Char} (h : ns.sum ≤ cs.length) :
    splitGroups ns (joinGroups ns cs) = some cs := by
  induction ns generalizing cs with
  | nil => rfl
  | cons n ns ih =>
    cases ns with
    | nil => rfl
    | cons m ns =>
      have hn : (cs.take n).length = n := by
        simp only [List.sum_cons] at h
        rw [List.length_take]
        omega
      have hdrop : (m :: ns).sum ≤ (cs.drop n).length := by
        simp only [List.sum_cons, List.length_drop] at h ⊢
        omega
      have hrest := ih hdrop
      rw [joinGroups, splitGroups, List.drop_left' hn, List.take_left' hn]
      · change (splitGroups _ (joinGroups _ _)).map _ = _
        rw [hrest, Option.map_some, List.take_append_drop]
      all_goals simp

theorem ofDigits?_map (u : Uuid) : ofDigits? (u.digits.map Hex.digit) = some u := by
  have hm : (u.digits.map Hex.digit).mapM Hex.digit? = some u.digits := by
    rw [List.mapM_map]
    induction u.digits with
    | nil => rfl
    | cons d ds ih => simp [List.mapM_cons, ih]
  simp [ofDigits?, hm, u.size]

theorem ofText?_text (u : Uuid) : ofText? u.text = some u := by
  have hsize : (u.digits.map Hex.digit).length = 32 := by simp [u.size]
  have hlength : (joinGroups groups (u.digits.map Hex.digit)).length = 36 := by
    simp [joinGroups, groups, u.size]
  have hhyphenated : ofHyphenated? (joinGroups groups (u.digits.map Hex.digit)) = some u := by
    rw [ofHyphenated?, splitGroups_joinGroups (by rw [hsize]; decide)]
    exact ofDigits?_map u
  obtain ⟨d, ds, hd⟩ : ∃ d ds, u.digits = d :: ds := by
    cases hds : u.digits with
    | nil => simp [hds] at hsize
    | cons d ds => exact ⟨d, ds, rfl⟩
  obtain ⟨cs, hcs⟩ : ∃ cs, joinGroups groups (u.digits.map Hex.digit) = Hex.digit d :: cs := by
    rw [hd, groups, joinGroups, List.map_cons, List.take_succ_cons, List.cons_append]
    · exact ⟨_, rfl⟩
    · exact List.cons_ne_nil _ _
  have hbrace : unbraced? (joinGroups groups (u.digits.map Hex.digit)) = none := by
    have hne : ∀ d : Fin 16, Hex.digit d ≠ '\x7b' := by decide
    rw [hcs]
    unfold unbraced?
    split
    · rename_i h
      exact absurd (List.cons.inj h).1 (hne d)
    · rfl
  have hurn : afterNamespace? (joinGroups groups (u.digits.map Hex.digit)) = none := by
    have hne : ∀ d : Fin 16, (Hex.digit d).toLower ≠ 'u' := by decide
    rw [hcs]
    simp [afterNamespace?, hne d]
  simp only [ofText?, text, String.toList_ofList, hbrace, hurn, hlength]
  simpa using hhyphenated

end SessionTokens.Uuid

import SessionTokens.Text.Decimal
import SessionTokens.Text.Hex

/-! Decimal and hexadecimal numerals are read back as what they were written for. -/

namespace SessionTokens

namespace Decimal

theorem digit?_digit (n : Nat) : digit? (digit n) = some (n % 10) := by
  have h : ∀ m < 10, digit? (Char.ofNat ('0'.toNat + m)) = some m := by decide
  exact h _ (Nat.mod_lt _ (by decide))

theorem isSome_digit?_of_mem {n : Nat} {c : Char} (h : c ∈ ofNat n) : (digit? c).isSome := by
  induction n using ofNat.induct with
  | case1 n hn =>
    rw [ofNat, if_pos hn] at h
    obtain rfl := List.mem_singleton.mp h
    simp [digit?_digit]
  | case2 n hn ih =>
    rw [ofNat, if_neg hn] at h
    rcases List.mem_append.mp h with h | h
    · exact ih h
    · obtain rfl := List.mem_singleton.mp h
      simp [digit?_digit]

theorem value_append (n : Nat) (cs ds : List Char) :
    value n (cs ++ ds) = value (value n cs) ds := by
  induction cs generalizing n with
  | nil => rfl
  | cons c cs ih => exact ih _

theorem value_ofNat (n : Nat) : value 0 (ofNat n) = n := by
  induction n using ofNat.induct with
  | case1 n hn =>
    rw [ofNat, if_pos hn]
    simp [value, digit?_digit, Nat.mod_eq_of_lt hn]
  | case2 n hn ih =>
    rw [ofNat, if_neg hn, value_append, ih]
    simp only [value, digit?_digit, Option.getD_some]
    omega

theorem ofNat_ne_nil (n : Nat) : ofNat n ≠ [] := by
  rw [ofNat]
  split <;> simp

theorem head?_ofNat {n : Nat} (h : 0 < n) : (ofNat n).head? ≠ some '0' := by
  induction n using ofNat.induct with
  | case1 n hn =>
    have hd : ∀ m < 10, 0 < m → digit m ≠ '0' := by decide
    rw [ofNat, if_pos hn]
    simpa using hd n hn h
  | case2 n hn ih =>
    rw [ofNat, if_neg hn]
    obtain ⟨c, cs, hc⟩ := List.exists_cons_of_ne_nil (ofNat_ne_nil (n / 10))
    have := ih (by omega)
    rw [hc] at this ⊢
    exact this

theorem ofNat_zero : ofNat 0 = ['0'] := by decide +kernel

end Decimal

namespace Hex

theorem ofNat_four (n : Nat) : ofNat 4 n =
    [digit (Fin.ofNat 16 (n / 16 / 16 / 16)), digit (Fin.ofNat 16 (n / 16 / 16)),
      digit (Fin.ofNat 16 (n / 16)), digit (Fin.ofNat 16 n)] := rfl

end Hex

end SessionTokens

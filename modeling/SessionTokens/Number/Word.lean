/-! Whole numbers that fit a word of 64 bits, without a sign or with one. What does not fit wraps
around. -/

namespace SessionTokens.Word

/-- Two to the 64th. -/
def bound : Nat := 18446744073709551616

/-- Two to the 63rd. -/
def signedBound : Nat := 9223372036854775808

def isSigned (i : Int) : Bool := decide (-(signedBound : Int) ≤ i) && decide (i < signedBound)

/-- The word without a sign read as one with a sign. -/
def signed (n : Nat) : Int := (n : Int).bmod bound

/-- The difference of two words without a sign. -/
def sub (a b : Int) : Int := if a < b then a - b + bound else a - b

/-- The sum of two signed words. It can leave them only at the end that `b` leads to, and then
comes in again at the other. -/
def add (a b : Int) : Int :=
  if 0 < b ∧ signedBound ≤ a + b then a + b - bound
  else if b < 0 ∧ a + b < -signedBound then a + b + bound
  else a + b

variable {a b : Int} {n : Nat}

theorem signed_of_lt (h : n < signedBound) : signed n = n := by
  have hbound : bound = 18446744073709551616 := rfl
  have hsigned : signedBound = 9223372036854775808 := rfl
  exact Int.bmod_eq_of_le (by omega) (by omega)

theorem signed_lt (n : Nat) : signed n < signedBound :=
  Int.bmod_lt (by decide)

theorem signed_le (n : Nat) : signed n ≤ n := by
  by_cases h : n < signedBound
  · exact Int.le_of_eq (signed_of_lt h)
  · have hlt := signed_lt n
    omega

/-- A word with a negative reading is a whole turn above it. -/
theorem signed_add_bound_le (h : signed n < 0) : signed n + bound ≤ n := by
  obtain ⟨k, hk⟩ := Int.dvd_self_sub_bmod (x := n) (m := bound)
  simp only [signed, bound] at hk h ⊢
  omega

theorem sub_of_le (h : b ≤ a) : sub a b = a - b := if_neg (by omega)

theorem le_sub (a b : Int) : a - b ≤ sub a b := by
  simp only [sub, bound]
  split <;> omega

theorem add_of_isSigned (h : isSigned (a + b) = true) : add a b = a + b := by
  simp only [isSigned, Bool.and_eq_true, decide_eq_true_eq] at h
  rw [add, if_neg (by omega), if_neg (by omega)]

/-- A reading that wraps, or a sum that does, never comes out below the exact difference. -/
theorem sub_le_add_neg_signed (a : Int) (n : Nat) : a - n ≤ add a (-signed n) := by
  have hle := signed_le n
  have hturn := @signed_add_bound_le n
  simp only [add]
  split
  · omega
  · split <;> omega

/-- Of the numbers that differ from the sum by whole turns it is the one that fits. -/
theorem add_eq_bmod (ha : isSigned a = true) (hstart : -(signedBound : Int) ≤ b)
    (hend : b ≤ signedBound) : add a b = (a + b).bmod bound := by
  simp only [isSigned, Bool.and_eq_true, decide_eq_true_eq] at ha
  have hbound : bound = 18446744073709551616 := rfl
  have hsigned : signedBound = 9223372036854775808 := rfl
  have hfits : ∀ c : Int, -(signedBound : Int) ≤ c → c < signedBound →
      (bound : Int) ∣ c - (a + b) → c = (a + b).bmod bound :=
    fun c hle hlt hturns => ((Int.bmod_eq_iff (by decide)).mpr ⟨hle, hlt, hturns⟩).symm
  by_cases hover : 0 < b ∧ signedBound ≤ a + b
  · rw [add, if_pos hover]
    exact hfits _ (by omega) (by omega) ⟨-1, by omega⟩
  · by_cases hunder : b < 0 ∧ a + b < -signedBound
    · rw [add, if_neg hover, if_pos hunder]
      exact hfits _ (by omega) (by omega) ⟨1, by omega⟩
    · rw [add, if_neg hover, if_neg hunder]
      exact hfits _ (by omega) (by omega) ⟨0, by omega⟩

end SessionTokens.Word

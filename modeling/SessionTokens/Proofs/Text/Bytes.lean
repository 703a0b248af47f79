import SessionTokens.Text.Base64Url
import SessionTokens.Text.Utf8

/-! What is written as base-64 or UTF-8 is read back. -/

namespace SessionTokens

namespace Base64Url

theorem decode_encode (bs : List UInt8) : decode (encode bs) = some bs := by
  have hbyte : ∀ {n : Nat} {b : UInt8}, n = b.toNat → UInt8.ofNat n = b := by
    rintro _ b rfl
    exact UInt8.ofNat_toNat
  induction bs using encode.induct with
  | case1 => rfl
  | case2 a =>
    have ha := a.toNat_lt
    simp only [encode, decode, digit?_digit (show a.toNat / 4 < 64 by omega),
      digit?_digit (show a.toNat % 4 * 16 < 64 by omega), Option.bind_eq_bind, Option.bind_some,
      Nat.mul_mod_left, if_true, pure]
    rw [hbyte (b := a) (by omega)]
  | case3 a b =>
    have ha := a.toNat_lt
    have hb := b.toNat_lt
    simp only [encode, decode, digit?_digit (show a.toNat / 4 < 64 by omega),
      digit?_digit (show a.toNat % 4 * 16 + b.toNat / 16 < 64 by omega),
      digit?_digit (show b.toNat % 16 * 4 < 64 by omega), Option.bind_eq_bind, Option.bind_some,
      Nat.mul_mod_left, if_true, pure]
    rw [hbyte (b := a) (by omega), hbyte (b := b) (by omega)]
  | case4 a b c r ih =>
    have ha := a.toNat_lt
    have hb := b.toNat_lt
    have hc := c.toNat_lt
    simp only [encode, decode, digit?_digit (show a.toNat / 4 < 64 by omega),
      digit?_digit (show a.toNat % 4 * 16 + b.toNat / 16 < 64 by omega),
      digit?_digit (show b.toNat % 16 * 4 + c.toNat / 64 < 64 by omega),
      digit?_digit (show c.toNat % 64 < 64 by omega), Option.bind_eq_bind, Option.bind_some, ih,
      pure]
    rw [hbyte (b := a) (by omega), hbyte (b := b) (by omega), hbyte (b := c) (by omega)]

theorem exists_digit_of_mem_encode {bs : List UInt8} {x : Char} (h : x ∈ encode bs) :
    ∃ n < 64, x = digit n := by
  induction bs using encode.induct with
  | case1 => simp [encode] at h
  | case2 a =>
    have ha := a.toNat_lt
    simp only [encode, List.mem_cons, List.not_mem_nil, or_false] at h
    rcases h with rfl | rfl <;> exact ⟨_, by omega, rfl⟩
  | case3 a b =>
    have ha := a.toNat_lt
    have hb := b.toNat_lt
    simp only [encode, List.mem_cons, List.not_mem_nil, or_false] at h
    rcases h with rfl | rfl | rfl <;> exact ⟨_, by omega, rfl⟩
  | case4 a b c r ih =>
    have ha := a.toNat_lt
    have hb := b.toNat_lt
    have hc := c.toNat_lt
    simp only [encode, List.mem_cons] at h
    rcases h with rfl | rfl | rfl | rfl | h
    iterate 4 exact ⟨_, by omega, rfl⟩
    exact ih h

/-- No dot is ever written, so that dots can part what is. -/
theorem dot_not_mem_encode (bs : List UInt8) : '.' ∉ encode bs := by
  intro h
  obtain ⟨n, hn, hdot⟩ := exists_digit_of_mem_encode h
  have hne : ∀ n < 64, '.' ≠ digit n := by decide
  exact hne n hn hdot

end Base64Url

namespace Utf8

theorem char?_toNat {c : Char} {width : Nat} (h : c.utf8Size = width) :
    char? c.toNat width = some c := by
  have hv : c.toNat.isValidChar := c.valid
  have hc : Char.ofNatAux c.toNat hv = c :=
    Char.ext (UInt32.toNat_inj.mp (UInt32.toNat_ofNatLT ..))
  rw [char?, dif_pos hv, hc, if_pos h]

theorem tail?_ofNat (n : Nat) : tail? (UInt8.ofNat (n % 64 + 128)) = some (n % 64) := by
  have hn : (UInt8.ofNat (n % 64 + 128)).toNat = n % 64 + 128 := by
    rw [UInt8.toNat_ofNat']
    omega
  rw [tail?, hn, if_pos (by omega)]
  congr 1
  omega

theorem front?_encode (c : Char) (r : List UInt8) :
    front? (String.utf8EncodeChar c ++ r) = some (c, r) := by
  have hlt : c.toNat < 0x110000 := by
    have hv : c.toNat < 0xd800 ∨ 0xdfff < c.toNat ∧ c.toNat < 0x110000 := c.valid
    omega
  have hbyte : ∀ {n : Nat}, n < 256 → (UInt8.ofNat n).toNat = n := fun h => by
    rw [UInt8.toNat_ofNat']
    omega
  have hval : ∀ n : UInt32, c.val ≤ n ↔ c.toNat ≤ n.toNat := fun _ => UInt32.le_iff_toNat_le
  have hval' : ∀ n : UInt32, n < c.val ↔ n.toNat < c.toNat := fun _ => UInt32.lt_iff_toNat_lt
  unfold String.utf8EncodeChar
  rw [show c.val.toNat = c.toNat from rfl]
  dsimp only
  split
  · rename_i h1
    have hs : c.utf8Size = 1 := Char.utf8Size_eq_one_iff.mpr ((hval _).mpr h1)
    simp only [List.cons_append, List.nil_append, front?, hbyte (show c.toNat < 256 by omega)]
    rw [if_pos (by omega), char?_toNat hs]
    rfl
  split
  · rename_i h1 h2
    have hs : c.utf8Size = 2 :=
      Char.utf8Size_eq_two_iff.mpr ⟨(hval' _).mpr (Nat.lt_of_not_le h1), (hval _).mpr h2⟩
    simp only [List.cons_append, List.nil_append, front?, tail?_ofNat,
      hbyte (show c.toNat / 64 % 32 + 192 < 256 by omega)]
    rw [if_neg (by omega), if_pos (by omega)]
    have hv : (c.toNat / 64 % 32 + 192) % 32 * 64 + c.toNat % 64 = c.toNat := by omega
    simp only [bind, Option.bind_some, hv, char?_toNat hs, pure]
  split
  · rename_i h1 h2 h3
    have hs : c.utf8Size = 3 :=
      Char.utf8Size_eq_three_iff.mpr ⟨(hval' _).mpr (Nat.lt_of_not_le h2), (hval _).mpr h3⟩
    simp only [List.cons_append, List.nil_append, front?, tail?_ofNat,
      hbyte (show c.toNat / 4096 % 16 + 224 < 256 by omega)]
    rw [if_neg (by omega), if_neg (by omega), if_pos (by omega)]
    have hv : ((c.toNat / 4096 % 16 + 224) % 16 * 64 + c.toNat / 64 % 64) * 64 + c.toNat % 64 =
        c.toNat := by omega
    simp only [bind, Option.bind_some, hv, char?_toNat hs, pure]
  · rename_i h1 h2 h3
    have hs : c.utf8Size = 4 :=
      Char.utf8Size_eq_four_iff.mpr ((hval' _).mpr (Nat.lt_of_not_le h3))
    simp only [List.cons_append, List.nil_append, front?, tail?_ofNat,
      hbyte (show c.toNat / 262144 % 8 + 240 < 256 by omega)]
    rw [if_neg (by omega), if_neg (by omega), if_neg (by omega), if_pos (by omega)]
    have hv : (((c.toNat / 262144 % 8 + 240) % 8 * 64 + c.toNat / 4096 % 64) * 64 +
        c.toNat / 64 % 64) * 64 + c.toNat % 64 = c.toNat := by omega
    simp only [bind, Option.bind_some, hv, char?_toNat hs, pure]

theorem decode_encode (cs : List Char) : decode (encode cs) = cs.map some := by
  induction cs with
  | nil => rw [encode, List.flatMap_nil, decode]; rfl
  | cons c cs ih =>
    have hfront := front?_encode c (encode cs)
    have hcons : encode (c :: cs) = String.utf8EncodeChar c ++ encode cs := List.flatMap_cons
    rw [hcons]
    generalize String.utf8EncodeChar c ++ encode cs = bs at hfront
    cases bs with
    | nil => cases hfront
    | cons b r =>
      rw [decode]
      split
      · rename_i d rest h
        obtain ⟨rfl, rfl⟩ := Prod.mk.inj (Option.some.inj (h.symm.trans hfront))
        rw [ih, List.map_cons]
      · rename_i h
        cases h.symm.trans hfront

end Utf8

end SessionTokens

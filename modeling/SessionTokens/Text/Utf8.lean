/-! UTF-8. Reading never fails: a byte that belongs to no character becomes `none`
and reading goes on with the byte after it. -/

namespace SessionTokens.Utf8

def encode (cs : List Char) : List UInt8 :=
  cs.flatMap String.utf8EncodeChar

/-- The payload of a continuation byte `10xxxxxx`. -/
def tail? (b : UInt8) : Option Nat :=
  if b.toNat / 64 = 2 then some (b.toNat % 64) else none

/-- The character with this code point, if the code point is one that needs `width` bytes. -/
def char? (code width : Nat) : Option Char :=
  if h : code.isValidChar then
    let c := Char.ofNatAux code h
    if c.utf8Size = width then some c else none
  else none

def front? : List UInt8 → Option (Char × List UInt8)
  | a :: r =>
    if a.toNat < 128 then (char? a.toNat 1).map (·, r)
    else match r with
      | b :: r =>
        if a.toNat / 32 = 6 then do
          let c ← char? (a.toNat % 32 * 64 + (← tail? b)) 2
          return (c, r)
        else match r with
          | c :: r =>
            if a.toNat / 16 = 14 then do
              let c ← char? ((a.toNat % 16 * 64 + (← tail? b)) * 64 + (← tail? c)) 3
              return (c, r)
            else match r with
              | d :: r =>
                if a.toNat / 8 = 30 then do
                  let c ← char? (((a.toNat % 8 * 64 + (← tail? b)) * 64 + (← tail? c)) * 64
                    + (← tail? d)) 4
                  return (c, r)
                else none
              | [] => none
          | [] => none
      | [] => none
  | [] => none

theorem front?_length {bs rest : List UInt8} {c : Char} (h : front? bs = some (c, rest)) :
    rest.length < bs.length := by
  unfold front? at h
  split at h
  · split at h
    · simp only [Option.map_eq_some_iff, Prod.mk.injEq] at h
      obtain ⟨_, _, _, rfl⟩ := h
      simp
    · split at h
      · split at h
        · simp only [bind, Option.bind_eq_some_iff, pure, Option.some.injEq, Prod.mk.injEq] at h
          obtain ⟨_, _, _, _, _, rfl⟩ := h
          simp only [List.length_cons]; omega
        · split at h
          · split at h
            · simp only [bind, Option.bind_eq_some_iff, pure, Option.some.injEq,
                Prod.mk.injEq] at h
              obtain ⟨_, _, _, _, _, _, _, rfl⟩ := h
              simp only [List.length_cons]; omega
            · split at h
              · split at h
                · simp only [bind, Option.bind_eq_some_iff, pure, Option.some.injEq,
                    Prod.mk.injEq] at h
                  obtain ⟨_, _, _, _, _, _, _, _, _, rfl⟩ := h
                  simp only [List.length_cons]; omega
                · simp at h
              · simp at h
          · simp at h
      · simp at h
  · simp at h

def decode : List UInt8 → List (Option Char)
  | [] => []
  | b :: r =>
    match h : front? (b :: r) with
    | some (c, rest) =>
      have := front?_length h
      some c :: decode rest
    | none => none :: decode r
termination_by bs => bs.length
decreasing_by
  · assumption
  · exact Nat.lt_add_one _

def text? (bs : List UInt8) : Option String :=
  ((decode bs).mapM id).map String.ofList

end SessionTokens.Utf8

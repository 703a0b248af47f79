/-! Hexadecimal digits. Written in lower case, read in either case. -/

namespace SessionTokens.Hex

def digit (n : Fin 16) : Char :=
  if n.val < 10 then Char.ofNat ('0'.toNat + n.val) else Char.ofNat ('a'.toNat + (n.val - 10))

def digit? (c : Char) : Option (Fin 16) :=
  if '0' ≤ c ∧ c ≤ '9' then some (Fin.ofNat 16 (c.toNat - '0'.toNat))
  else if 'a' ≤ c ∧ c ≤ 'f' then some (Fin.ofNat 16 (c.toNat - 'a'.toNat + 10))
  else if 'A' ≤ c ∧ c ≤ 'F' then some (Fin.ofNat 16 (c.toNat - 'A'.toNat + 10))
  else none

@[simp] theorem digit?_digit (n : Fin 16) : digit? (digit n) = some n := by
  revert n; decide

/-- The last `width` hex digits of a number. -/
def ofNat (width n : Nat) : List Char :=
  match width with
  | 0 => []
  | width + 1 => ofNat width (n / 16) ++ [digit (Fin.ofNat 16 n)]

def toNat? (cs : List Char) : Option Nat :=
  cs.foldlM (fun n c => (digit? c).map fun d => n * 16 + d.val) 0

def ofBytes (bs : List UInt8) : List Char :=
  bs.flatMap fun b => ofNat 2 b.toNat

def toBytes? : List Char → Option (List UInt8)
  | [] => some []
  | [_] => none
  | a :: b :: r => do
    let high ← digit? a
    let low ← digit? b
    return UInt8.ofNat (high.val * 16 + low.val) :: (← toBytes? r)

end SessionTokens.Hex

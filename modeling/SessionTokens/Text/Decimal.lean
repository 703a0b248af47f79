/-! Decimal numerals: whole numbers, numerals of a fixed least width, and the places after
the point. -/

namespace SessionTokens.Decimal

def digit (n : Nat) : Char := Char.ofNat ('0'.toNat + n % 10)

def digit? (c : Char) : Option Nat :=
  if '0' ≤ c ∧ c ≤ '9' then some (c.toNat - '0'.toNat) else none

/-- The digits of a number, none too many; zero has one. -/
def ofNat (n : Nat) : List Char :=
  if n < 10 then [digit n] else ofNat (n / 10) ++ [digit n]

def ofInt (i : Int) : List Char :=
  if i < 0 then '-' :: ofNat i.natAbs else ofNat i.natAbs

/-- At least `width` digits, filled up with zeros in front. -/
def padded (width n : Nat) : List Char :=
  let ds := ofNat n
  List.replicate (width - ds.length) '0' ++ ds

/-- The number that a run of digits stands for, counted on from `n`. -/
def value (n : Nat) : List Char → Nat
  | [] => n
  | c :: r => value (n * 10 + (digit? c).getD 0) r

def toNat? (cs : List Char) : Option Nat :=
  if cs ≠ [] ∧ cs.all (fun c => (digit? c).isSome) then some (value 0 cs) else none

def toInt? : List Char → Option Int
  | '-' :: r => (toNat? r).map fun n => -(n : Int)
  | '+' :: r => (toNat? r).map fun n => (n : Int)
  | cs => (toNat? cs).map fun n => (n : Int)

def toCount? : List Char → Option Nat
  | '+' :: r => toNat? r
  | cs => toNat? cs

end SessionTokens.Decimal

import SessionTokens.Number.Word
import SessionTokens.Text.Decimal

/-! Numbers of binary double precision: the one nearest to a decimal, and the shortest decimal
that a number is nearest to. All arithmetic is on naturals and exact. -/

namespace SessionTokens

/-- A fraction of naturals; the denominator is not zero. -/
structure Ratio where
  num : Nat
  den : Nat
  deriving Repr

namespace Ratio

def ofNat (n : Nat) : Ratio := ⟨n, 1⟩

def scale (r : Ratio) (base : Nat) (e : Int) : Ratio :=
  if 0 ≤ e then ⟨r.num * Nat.pow base e.toNat, r.den⟩ else ⟨r.num, r.den * Nat.pow base (-e).toNat⟩

def floor (r : Ratio) : Nat := r.num / r.den

/-- The nearest natural, the even one of two. -/
def roundEven (r : Ratio) : Nat :=
  let q := r.num / r.den
  let rest := 2 * (r.num % r.den)
  if rest < r.den ∨ (rest = r.den ∧ q % 2 = 0) then q else q + 1

def roundUp (r : Ratio) : Nat := (2 * r.num + r.den) / (2 * r.den)

def lt (a b : Ratio) : Bool := a.num * b.den < b.num * a.den

def magnitude (r : Ratio) : Int :=
  if r.den ≤ r.num then (Decimal.ofNat r.floor).length - 1
  else
    let places := (Decimal.ofNat (r.den / r.num)).length
    if r.num * Nat.pow 10 (places - 1) = r.den then 1 - (places : Int) else -(places : Int)

end Ratio

/-- A finite number is `mantissa * 2 ^ exponent`, with the sign beside it. -/
inductive Double where
  | finite (negative : Bool) (mantissa : Nat) (exponent : Int)
  | infinite (negative : Bool)
  | nan
  deriving DecidableEq, Repr

namespace Double

def leastExponent : Int := -1074

def nearest (negative : Bool) (r : Ratio) : Double :=
  let guess : Int := (r.num.log2 : Int) - r.den.log2 - 53
  let e := max leastExponent
    (if Nat.pow 2 53 ≤ (r.scale 2 (-guess)).floor then guess + 1 else guess)
  let m := (r.scale 2 (-e)).roundEven
  let (m, e) := if m = Nat.pow 2 53 then (Nat.pow 2 52, e + 1) else (m, e)
  if 971 < e then .infinite negative else .finite negative m e

def ofDecimal (negative : Bool) (digits : Nat) (scale : Int) : Double :=
  let size := (Decimal.ofNat digits).length + scale
  if digits = 0 ∨ size < -400 then .finite negative 0 leastExponent
  else if 400 < size then .infinite negative
  else nearest negative ((Ratio.ofNat digits).scale 10 scale)

structure Shortest where
  digits : Nat
  scale : Int

def Shortest.ratio (s : Shortest) : Ratio := (Ratio.ofNat s.digits).scale 10 s.scale

/-- Whether `mantissa * 2 ^ exponent` is the number nearest to a decimal. The gap below a power
of two is half as wide as the one above it; an end of the interval belongs to it if the
mantissa is even. -/
def readsBack (mantissa : Nat) (exponent : Int) (s : Shortest) : Bool :=
  let below := if mantissa = Nat.pow 2 52 ∧ exponent ≠ leastExponent then 1 else 2
  let low := (Ratio.ofNat (4 * mantissa - below)).scale 2 (exponent - 2)
  let high := (Ratio.ofNat (4 * mantissa + 2)).scale 2 (exponent - 2)
  if mantissa % 2 = 0 then !(s.ratio.lt low) && !(high.lt s.ratio)
  else low.lt s.ratio && s.ratio.lt high

/-- The nearer of the two neighbours of a number among decimals of so many digits, if the
number is the nearest one to it. -/
def candidate? (mantissa : Nat) (exponent : Int) (count : Nat) : Option Shortest :=
  let r := (Ratio.ofNat mantissa).scale 2 exponent
  let scale := r.magnitude - count + 1
  let grid := r.scale 10 (-scale)
  let near := grid.roundEven
  let far := if near = grid.floor then near + 1 else grid.floor
  [Shortest.mk near scale, Shortest.mk far scale].find? (readsBack mantissa exponent)

/-- Seventeen digits are always enough. -/
def shortest (mantissa : Nat) (exponent : Int) : Shortest :=
  ((List.range 17).findSome? fun n => candidate? mantissa exponent (n + 1)).getD ⟨0, 0⟩

def Shortest.chars (s : Shortest) : List Char :=
  let ds := Decimal.ofNat s.digits
  if 0 ≤ s.scale then ds ++ List.replicate s.scale.toNat '0'
  else
    let places := (-s.scale).toNat
    if places < ds.length then
      ds.take (ds.length - places) ++ '.' :: ds.drop (ds.length - places)
    else '0' :: '.' :: List.replicate (places - ds.length) '0' ++ ds

def sign (negative : Bool) : List Char := if negative then ['-'] else []

def text : Double → String
  | .finite negative 0 _ => String.ofList (sign negative ++ ['0'])
  | .finite negative m e => String.ofList (sign negative ++ (shortest m e).chars)
  | .infinite negative => String.ofList (sign negative ++ ['i', 'n', 'f'])
  | .nan => "NaN"

/-- The nearest natural below 2⁶⁴, a half away from zero; what is out of range becomes the
nearest end of it, and what is no number zero. -/
def toWord : Double → Nat
  | .finite true _ _ => 0
  | .finite false m e => min ((Ratio.ofNat m).scale 2 e).roundUp (Word.bound - 1)
  | .infinite true => 0
  | .infinite false => Word.bound - 1
  | .nan => 0

def isZero : Double → Bool
  | .finite _ 0 _ => true
  | _ => false

end Double

end SessionTokens

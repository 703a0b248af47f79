import SessionTokens.Config.Value
import SessionTokens.Number.Word
import SessionTokens.Text.Hex

/-! Numbers, truth values and times of TOML, each one word. A time is a text here. -/

namespace SessionTokens.Config.Toml

/-- Digits, the first of them after another digit or not, with single underscores between
them. -/
def digitsAfter? (isDigit : Char → Bool) : Bool → List Char → Option (List Char)
  | afterDigit, [] => if afterDigit then some [] else none
  | afterDigit, c :: r =>
    if isDigit c then (digitsAfter? isDigit true r).map (c :: ·)
    else if c = '_' ∧ afterDigit then digitsAfter? isDigit false r
    else none

def digits? (isDigit : Char → Bool) (cs : List Char) : Option (List Char) :=
  digitsAfter? isDigit false cs

/-- A numeral without a zero in front. -/
def whole? (cs : List Char) : Option (List Char) := do
  let ds ← digits? Char.isDigit cs
  if ds.head? = some '0' ∧ ds.length > 1 then none else some ds

def baseValue (base : Nat) (ds : List Char) : Nat :=
  ds.foldl (fun n c => n * base + ((Hex.digit? c).map (·.val)).getD 0) 0

def based? (base : Nat) (cs : List Char) : Option Int := do
  let ds ← digits? (fun c => ((Hex.digit? c).map (·.val)).any (· < base)) cs
  return baseValue base ds

def fitting? (i : Int) : Option Value :=
  if Word.isSigned i then some (.int i) else none

def signed (cs : List Char) : Bool × List Char :=
  match cs with
  | '-' :: r => (true, r)
  | '+' :: r => (false, r)
  | r => (false, r)

def isExponentMark (c : Char) : Bool := c == 'e' || c == 'E'

def exponent? (cs : List Char) : Option Int := do
  let (negative, r) := signed cs
  let n : Int := Decimal.value 0 (← digits? Char.isDigit r)
  return if negative then -n else n

def places? (cs : List Char) : Option (List Char) :=
  match cs with
  | '.' :: r => digits? Char.isDigit r
  | _ => some []

def float? (cs : List Char) : Option Value := do
  let (negative, magnitude) := signed cs
  let mantissa := magnitude.takeWhile fun c => !isExponentMark c
  let tail := magnitude.dropWhile fun c => !isExponentMark c
  let exponent ← if tail = [] then some 0 else exponent? (tail.drop 1)
  let ds ← whole? (mantissa.takeWhile (· != '.'))
  let places ← places? (mantissa.dropWhile (· != '.'))
  return .float (.ofDecimal negative (Decimal.value (Decimal.value 0 ds) places)
    (exponent - places.length))

def number? (cs : List Char) : Option Value :=
  let (negative, magnitude) := signed cs
  match cs with
  | '0' :: 'x' :: r => (based? 16 r).bind fitting?
  | '0' :: 'o' :: r => (based? 8 r).bind fitting?
  | '0' :: 'b' :: r => (based? 2 r).bind fitting?
  | cs =>
    if magnitude = ['i', 'n', 'f'] then some (.float (.infinite negative))
    else if magnitude = ['n', 'a', 'n'] then some (.float .nan)
    else match whole? magnitude with
      | some ds =>
        let n : Int := Decimal.value 0 ds
        fitting? (if negative then -n else n)
      | none => float? cs

def fixed? (width : Nat) (cs : List Char) : Option (Nat × List Char) := do
  let ds := cs.take width
  if ds.length < width then none
  return (← Decimal.toNat? ds, cs.drop width)

def daysIn (year month : Nat) : Nat :=
  if month = 2 then
    if year % 4 = 0 ∧ (year % 100 ≠ 0 ∨ year % 400 = 0) then 29 else 28
  else if month ∈ [4, 6, 9, 11] then 30
  else 31

def date? (cs : List Char) : Option (List Char × List Char) := do
  let (year, r) ← fixed? 4 cs
  let '-' :: r := r | none
  let (month, r) ← fixed? 2 r
  let '-' :: r := r | none
  let (day, r) ← fixed? 2 r
  if 1 ≤ month ∧ month ≤ 12 ∧ 1 ≤ day ∧ day ≤ daysIn year month then
    return (cs.take 10, r)
  else none

def fraction? (cs : List Char) : Option (List Char × List Char) :=
  match cs with
  | '.' :: r =>
    let ds := r.takeWhile Char.isDigit
    let kept := ((ds.take 9).reverse.dropWhile (· == '0')).reverse
    if ds = [] then none
    else some (if kept = [] then [] else '.' :: kept, r.dropWhile Char.isDigit)
  | r => some ([], r)

def clock? (cs : List Char) : Option (List Char × List Char) := do
  let (hour, r) ← fixed? 2 cs
  let ':' :: r := r | none
  let (minute, r) ← fixed? 2 r
  let ':' :: r := r | none
  let (second, r) ← fixed? 2 r
  let (part, r) ← fraction? r
  if hour ≤ 23 ∧ minute ≤ 59 ∧ second ≤ 60 then return (cs.take 8 ++ part, r) else none

def offset? (cs : List Char) : Option (List Char) :=
  match cs with
  | [] => some []
  | ['Z'] => some ['Z']
  | ['z'] => some ['Z']
  | sign :: r => do
    if sign ≠ '+' ∧ sign ≠ '-' then none
    let (hour, r) ← fixed? 2 r
    let ':' :: r := r | none
    let (minute, rest) ← fixed? 2 r
    if rest = [] ∧ hour ≤ 23 ∧ minute ≤ 59 then
      return (if hour = 0 ∧ minute = 0 then '+' else sign) :: cs.drop 1
    else none

/-- A date, a time of day, or both. -/
def time? (cs : List Char) : Option (List Char) :=
  match date? cs with
  | some (date, []) => some date
  | some (date, mark :: r) => do
    if mark ≠ 'T' ∧ mark ≠ 't' ∧ mark ≠ ' ' then none
    let (clock, r) ← clock? r
    return date ++ 'T' :: clock ++ (← offset? r)
  | none => do
    let (clock, rest) ← clock? cs
    if rest = [] then some clock else none

def scalar? (cs : List Char) : Option Value :=
  if cs = ['t', 'r', 'u', 'e'] then some (.bool true)
  else if cs = ['f', 'a', 'l', 's', 'e'] then some (.bool false)
  else match number? cs with
    | some v => some v
    | none => (time? cs).map fun t => .text (String.ofList t)

def isWordChar (c : Char) : Bool :=
  c.isAlphanum || c == '+' || c == '-' || c == '.' || c == '_' || c == ':'

/-- The word in front. A date and a time may have a blank between them. -/
def takeWord (cs : List Char) : List Char × List Char :=
  let word := cs.takeWhile isWordChar
  match cs.dropWhile isWordChar with
  | ' ' :: c :: r =>
    if (date? word).any (·.2 == []) && c.isDigit then
      (word ++ ' ' :: (c :: r).takeWhile isWordChar, (c :: r).dropWhile isWordChar)
    else (word, ' ' :: c :: r)
  | rest => (word, rest)

end SessionTokens.Config.Toml

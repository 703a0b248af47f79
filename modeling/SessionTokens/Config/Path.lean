import SessionTokens.Config.Value

/-! Places inside a table, and putting values there. Tables are merged; anything else takes the
place of what was there. -/

namespace SessionTokens.Config

inductive Step where
  | key (name : String)
  /-- An item of a list; a negative place counts from its end. -/
  | item (i : Int)
  deriving DecidableEq, Repr

namespace Step

def isNameChar (c : Char) : Bool := c.isAlphanum || c == '_' || c == '-'

def readItem (cs : List Char) : Option (Int × List Char) := do
  let skip (cs : List Char) := cs.dropWhile fun c => c == ' ' || c == '\t'
  let (negative, cs) := match skip cs with
    | '-' :: r => (true, r)
    | r => (false, r)
  let n ← Decimal.toNat? (cs.takeWhile Char.isDigit)
  match skip (cs.dropWhile Char.isDigit) with
  | ']' :: r => return (if negative then -(n : Int) else n, r)
  | _ => none

/-- The steps behind the first name. There are no more of them than characters. -/
def readMore : Nat → List Char → Option (List Step)
  | _, [] => some []
  | 0, _ => none
  | fuel + 1, '.' :: r =>
    let name := r.takeWhile isNameChar
    if name = [] then none
    else do return .key (String.ofList name) :: (← readMore fuel (r.dropWhile isNameChar))
  | fuel + 1, '[' :: r => do
    let (i, r) ← readItem r
    return .item i :: (← readMore fuel r)
  | _, _ => none

/-- A name, then names after dots and places in brackets. A key of another form is one name. -/
def ofKey (key : String) : List Step :=
  let cs := key.toList
  let name := cs.takeWhile isNameChar
  let whole := [Step.key key]
  if name = [] then whole
  else match readMore cs.length (cs.dropWhile isNameChar) with
    | some more => .key (String.ofList name) :: more
    | none => whole

end Step

namespace Value

def entries : Value → Table
  | .table t => t
  | _ => []

def items : Value → List Value
  | .list vs => vs
  | _ => []

def alterEntry (t : Table) (name : String) (f : Value → Value) : Table :=
  match t with
  | [] => [(name, f .null)]
  | e :: es => if e.1 = name then (name, f e.2) :: es else e :: alterEntry es name f

/-- Changes an item of a list that is made as long as it takes. -/
def alterItem (vs : List Value) (i : Int) (f : Value → Value) : List Value :=
  if 0 ≤ i then
    let long := vs ++ List.replicate (i.toNat + 1 - vs.length) .null
    long.modify i.toNat f
  else
    let back := (-i).toNat
    if back ≤ vs.length then vs.modify (vs.length - back) f
    else f .null :: List.replicate (back - vs.length - 1) .null ++ vs

/-- Changes the value at a place. What is on the way and no table or list becomes one. -/
def alter : List Step → (Value → Value) → Value → Value
  | [], f, v => f v
  | .key name :: steps, f, v => .table (alterEntry v.entries name (alter steps f))
  | .item i :: steps, f, v => .list (alterItem v.items i (alter steps f))

mutual

def onto : Value → Value → Value
  | .table entries, old => .table (entriesOnto entries old.entries)
  | v, _ => v

def entriesOnto : Table → Table → Table
  | [], old => old
  | (name, v) :: es, old => entriesOnto es (alterEntry old name v.onto)

end

/-- Lays the entries of a source over a table. Their keys may be paths. -/
def merge (t : Value) (source : Table) : Value :=
  source.foldl (fun t e => t.alter (Step.ofKey e.1) e.2.onto) t

end Value

end SessionTokens.Config

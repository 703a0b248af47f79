import SessionTokens.Number.Word

/-! What reading a JSON text gives. Reading never fails: where the text stops being JSON, the
tree read so far ends in that fault, so that whoever walks the tree in order meets a wrong
value before a fault that stands behind it, and the other way round. -/

namespace SessionTokens.Json

/-- A character, or `none` for a byte that encodes no character. -/
abbrev Symbol := Option Char

inductive Fault where
  | misplaced
  | unfinished
  deriving DecidableEq, Repr

inductive Mistake where
  | badText (fault : Fault)
  /-- Well-formed so far, but not what was asked for. -/
  | mismatch
  deriving DecidableEq, Repr

abbrev Reading := Except Mistake

inductive Content where
  | chars (cs : List Char)
  /-- An escape gives half of a surrogate pair. -/
  | halfPair
  | badBytes
  deriving DecidableEq, Repr

/-- A string in the text; a fault says that its closing mark was not reached. -/
structure Quoted where
  content : Content
  fault : Option Fault
  deriving DecidableEq, Repr

/-- A number: `digits`, times a power of ten if it was written with a point or an exponent. -/
structure Numeral where
  negative : Bool
  digits : Nat
  scale : Option Int
  deriving DecidableEq, Repr

inductive Node where
  | missing
  | garbled (fault : Fault)
  | null
  | bool (b : Bool)
  | number (n : Numeral)
  | string (q : Quoted)
  | array (items : List Node) (close : Option Fault)
  | object (members : List (Node × Node)) (close : Option Fault)
  deriving Inhabited

structure Document where
  root : Node
  trailing : Bool

/-- The fault at which reading stopped inside this value. Escapes and bytes that give no
character are none: only a reader of the string minds them. -/
def Node.fault : Node → Option Fault
  | .missing => some .unfinished
  | .garbled f => some f
  | .string q => q.fault
  | .array _ close => close
  | .object _ close => close
  | _ => none

/-- The integer, if it was written as one. A negative zero is none. -/
def Numeral.integer? (n : Numeral) : Option Int :=
  match n.scale with
  | some _ => none
  | none =>
    if n.negative then (if n.digits = 0 then none else some (-(n.digits : Int)))
    else some n.digits

/-- Larger than every double-precision number, so that the text is refused. -/
def Numeral.tooLarge (n : Numeral) : Bool :=
  let scale := n.scale.getD 0
  if n.digits = 0 then false
  else
    let places := (n.digits.log2 : Int) * 3 / 10 + scale
    if places > 330 then true
    else if places < 250 then false
    else
      let limit := Nat.pow 2 1024 - Nat.pow 2 970
      if scale ≥ 0 then limit ≤ n.digits * Nat.pow 10 scale.toNat
      else limit * Nat.pow 10 (-scale).toNat ≤ n.digits

/-- The text of a string, met in order: half a pair is noticed where it stands, a fault where
reading stopped, a wrong byte only at the closing mark. -/
def Quoted.text (q : Quoted) : Reading String :=
  match q.content, q.fault with
  | .halfPair, _ => .error (.badText .misplaced)
  | _, some f => .error (.badText f)
  | .badBytes, none => .error (.badText .misplaced)
  | .chars cs, none => .ok (String.ofList cs)

def Node.complaint : Node → Mistake
  | .missing => .badText .unfinished
  | .garbled f => .badText f
  | .number n => if n.tooLarge then .badText .misplaced else .mismatch
  | .string q => match q.text with
    | .ok _ => .mismatch
    | .error e => e
  | _ => .mismatch

def Node.skip (n : Node) : Reading Unit :=
  match n.fault with
  | none => .ok ()
  | some f => .error (.badText f)

def closed (close : Option Fault) : Reading Unit :=
  match close with
  | none => .ok ()
  | some f => .error (.badText f)

def Node.text : Node → Reading String
  | .string q => q.text
  | n => .error n.complaint

def Node.int64 : Node → Reading Int
  | .number n =>
    if n.tooLarge then .error (.badText .misplaced)
    else match n.integer? with
      | some i => if Word.isSigned i then .ok i else .error .mismatch
      | none => .error .mismatch
  | n => .error n.complaint

def Node.list {α : Type} (item : Node → Reading α) : Node → Reading (List α)
  | .array items close => do
    let xs ← items.mapM item
    closed close
    return xs
  | n => .error n.complaint

def Node.optional {α : Type} (value : Node → Reading α) : Node → Reading (Option α)
  | .null => .ok none
  | n => some <$> value n

/-- One of several names: the name itself, or an object whose only member has that name and
the value null. -/
def Node.choice {α : Type} (find : String → Option α) : Node → Reading α
  | .missing => .error (.badText .unfinished)
  | .string q => do
    match find (← q.text) with
    | some a => return a
    | none => throw .mismatch
  | .object [] close => .error (.badText (close.getD .misplaced))
  | .object ((k, v) :: more) close => do
    let name ← match k with
      | .string q => q.text
      | k => throw k.complaint
    let some a := find name | throw .mismatch
    match v with
    | .null =>
      if more.isEmpty then closed close else throw (.badText .misplaced)
      return a
    | v => throw v.complaint
  | _ => .error (.badText .misplaced)

def Node.addMember {σ : Type} (names : List String) (fill : String → Node → σ → Reading σ)
    (s : List String × σ) (m : Node × Node) : Reading (List String × σ) := do
  let name ← match m.1 with
    | .string q => q.text
    | .missing => throw (.badText .unfinished)
    | .garbled f => throw (.badText f)
    | _ => throw (.badText .misplaced)
  if name ∈ names then
    if name ∈ s.1 then throw .mismatch
    return (name :: s.1, ← fill name m.2 s.2)
  else
    m.2.skip
    return s

def Node.addItems {σ : Type} (fill : String → Node → σ → Reading σ) (close : Option Fault) :
    List String → List Node → σ → Reading σ
  | _, [], s => do
    closed close
    return s
  | [], _ :: _, _ => .error (.badText .misplaced)
  | name :: names, item :: items, s => do
    Node.addItems fill close names items (← fill name item s)

/-- Reads a record: an object with these members in any order, none of them twice and others
ignored, or an array of their values in the order of the names. -/
def Node.record {σ : Type} (names : List String) (fill : String → Node → σ → Reading σ)
    (empty : σ) : Node → Reading σ
  | .object members close => do
    let (_, s) ← members.foldlM (Node.addMember names fill) ([], empty)
    closed close
    return s
  | .array items close => Node.addItems fill close names items empty
  | n => .error n.complaint

def required {α : Type} : Option α → Reading α
  | some a => .ok a
  | none => .error .mismatch

def Document.read {α : Type} (d : Document) (value : Node → Reading α) : Reading α := do
  let a ← value d.root
  if d.trailing then throw (.badText .misplaced)
  return a

end SessionTokens.Json

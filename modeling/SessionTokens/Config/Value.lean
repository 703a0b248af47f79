import SessionTokens.Number.Double
import SessionTokens.Number.Word

/-! Values of settings files, and what they are taken for where a text, a count or a truth value
is asked for. -/

namespace SessionTokens.Config

inductive Value where
  | null
  | bool (b : Bool)
  | int (i : Int)
  | float (d : Double)
  | text (s : String)
  | list (items : List Value)
  | table (entries : List (String × Value))
  deriving Inhabited

/-- No key has two entries. -/
abbrev Table := List (String × Value)

/-- Why settings are not loaded. Keys are written with dots between their parts. -/
inductive Error where
  | missing (key : String)
  | wrongType (key : String)
  | wrongShape (key : String)
  | unreadable
  | noFile
  deriving DecidableEq, Repr

def Error.message : Error → String
  | missing key => "missing " ++ key
  | wrongType key => key ++ " has the wrong type"
  | wrongShape key => key ++ " has the wrong shape"
  | unreadable => "the settings file cannot be read"
  | noFile => "there is no settings file"

namespace Value

def asText (key : String) : Value → Except Error String
  | .bool b => .ok (if b then "true" else "false")
  | .int i => .ok (String.ofList (Decimal.ofInt i))
  | .float d => .ok d.text
  | .text s => .ok s
  | _ => .error (.wrongType key)

def word? (s : String) : Option Bool :=
  let w := String.ofList (s.toList.map Char.toLower)
  if w ∈ ["true", "on", "yes"] then some true
  else if w ∈ ["false", "off", "no"] then some false
  else none

/-- A natural below 2⁶⁴. -/
def asCount (key : String) (v : Value) : Except Error Nat :=
  let fitting (n : Option Nat) := match n with
    | some n => if n < Word.bound then .ok n else .error (.wrongType key)
    | none => .error (.wrongType key)
  match v with
  | .bool b => .ok b.toNat
  | .int i => if 0 ≤ i then fitting (some i.toNat) else .error (.wrongType key)
  | .float d => .ok d.toWord
  | .text s => match word? s with
    | some b => .ok b.toNat
    | none => fitting (Decimal.toCount? s.toList)
  | _ => .error (.wrongType key)

def asFlag (key : String) : Value → Except Error Bool
  | .bool b => .ok b
  | .int i => .ok (i != 0)
  | .float d => .ok (!d.isZero)
  | .text "1" => .ok true
  | .text "0" => .ok false
  | .text s => match word? s with
    | some b => .ok b
    | none => .error (.wrongType key)
  | _ => .error (.wrongType key)

def itemKey (key : String) (i : Nat) : String :=
  key ++ "[" ++ String.ofList (Decimal.ofNat i) ++ "]"

def asTexts (key : String) : Value → Except Error (List String)
  | .list items => (items.mapIdx fun i v => v.asText (itemKey key i)).mapM id
  | _ => .error (.wrongShape key)

end Value

/-- Named values under one key: the entries of a table, or the items of a list in the order of
the names. -/
structure Section where
  key : String
  value : Value

namespace Section

def find? (s : Section) (name : String) (index : Nat) : Option (String × Value) :=
  match s.value with
  | .table entries => (entries.lookup name).map fun v =>
    (if s.key = "" then name else s.key ++ "." ++ name, v)
  | .list items => items[index]?.map fun v => (Value.itemKey s.key index, v)
  | _ => none

/-- What is wrong with a section that has no value of a name. -/
def lack (s : Section) (name : String) : Error :=
  match s.value with
  | .table _ => .missing (if s.key = "" then name else s.key ++ "." ++ name)
  | _ => .wrongShape s.key

def require {α : Type} (s : Section) (name : String) : Option α → Except Error α
  | some a => .ok a
  | none => .error (s.lack name)

def read? {α : Type} (s : Section) (name : String) (index : Nat)
    (as : String → Value → Except Error α) : Except Error (Option α) :=
  match s.find? name index with
  | some (key, v) => some <$> as key v
  | none => .ok none

def of (key : String) (v : Value) : Except Error Section :=
  match v with
  | .table _ => .ok ⟨key, v⟩
  | .list _ => .ok ⟨key, v⟩
  | _ => .error (.wrongShape key)

end Section

end SessionTokens.Config

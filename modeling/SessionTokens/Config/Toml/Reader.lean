import SessionTokens.Config.Toml.Scalar
import SessionTokens.Config.Toml.Text
import SessionTokens.Config.Toml.Tree

/-! Reads TOML texts: lines that open a table or set a value in the open one. -/

namespace SessionTokens.Config.Toml

mutual

def readValue : Nat → Reader Value
  | 0, _ => none
  | fuel + 1, cs =>
    match cs with
    | '"' :: _ => (readString? cs).map fun x => (.text (String.ofList x.1), x.2)
    | '\x27' :: _ => (readString? cs).map fun x => (.text (String.ofList x.1), x.2)
    | '[' :: r => (readItems fuel (skipLines r.length r)).map fun x => (.list x.1, x.2)
    | '\x7b' :: r =>
      match skipBlanks r with
      | '\x7d' :: r => some (.table [], r)
      | r => (readPairs fuel [] r).map fun x => (.table (toTable x.1), x.2)
    | cs =>
      let (word, rest) := takeWord cs
      (scalar? word).map fun v => (v, rest)

/-- The items of a list; a comma may follow the last one. -/
def readItems : Nat → Reader (List Value)
  | 0, _ => none
  | _ + 1, ']' :: r => some ([], r)
  | fuel + 1, cs => do
    let (v, r) ← readValue fuel cs
    match skipLines r.length r with
    | ',' :: r => do
      let (vs, rest) ← readItems fuel (skipLines r.length r)
      return (v :: vs, rest)
    | ']' :: r => return ([v], r)
    | _ => none

def readPairs : Nat → Entries → Reader Entries
  | 0, _, _ => none
  | fuel + 1, es, cs => do
    let (key, r) ← readKey cs.length cs
    let '=' :: r := r | none
    let (v, r) ← readValue fuel (skipBlanks r)
    let es ← insert? key v es
    match skipBlanks r with
    | ',' :: r => readPairs fuel es r
    | '\x7d' :: r => return (es, r)
    | _ => none

end

inductive Statement where
  | table (key : List String)
  | item (key : List String)
  | entry (key : List String) (v : Value)

def readStatement (cs : List Char) : Option (Statement × List Char) := do
  match cs with
  | '[' :: '[' :: r =>
    let (key, r) ← readKey r.length r
    let ']' :: ']' :: r := r | none
    return (.item key, r)
  | '[' :: r =>
    let (key, r) ← readKey r.length r
    let ']' :: r := r | none
    return (.table key, r)
  | cs =>
    let (key, r) ← readKey cs.length cs
    let '=' :: r := r | none
    let (v, r) ← readValue (2 * r.length + 2) (skipBlanks r)
    return (.entry key v, r)

def readStatements : Nat → List Char → Option (List Statement)
  | 0, _ => none
  | fuel + 1, cs =>
    match skipLines cs.length cs with
    | [] => some []
    | cs => do
      let (s, r) ← readStatement cs
      match skipComment r with
      | [] => return [s]
      | r => return s :: (← readStatements fuel (← afterNewline? r))

structure State where
  path : List String := []
  root : Entries := []

def State.run (st : State) : Statement → Option State
  | .table key => (open? false key st.root).map fun root => ⟨key, root⟩
  | .item key => (open? true key st.root).map fun root => ⟨key, root⟩
  | .entry key v => (within? st.path (insert? key v) st.root).map fun root => { st with root }

end SessionTokens.Config.Toml

namespace SessionTokens.Config

def readToml (text : String) : Except Error Table :=
  let cs := text.toList
  let st := do (← Toml.readStatements (cs.length + 1) cs).foldlM Toml.State.run {}
  match st with
  | some st => .ok (Toml.toTable st.root)
  | none => .error .unreadable

end SessionTokens.Config

import SessionTokens.Config.Value

/-! The tables that a TOML text builds up. A table is defined once, whether by its header or by
keys with dots; headers of tables inside it may come before and after. -/

namespace SessionTokens.Config.Toml

inductive Origin where
  /-- Only named on the way to another table. -/
  | implied
  | header
  | dotted
  deriving DecidableEq, Repr

inductive Node where
  | value (v : Value)
  | table (origin : Origin) (entries : List (String × Node))
  /-- A list of tables, the last of which is still open. -/
  | tables (items : List (List (String × Node)))

abbrev Entries := List (String × Node)

/-- Puts an entry in the place of the one of that name, or at the end. -/
def putEntry (name : String) (n : Node) : Entries → Entries
  | [] => [(name, n)]
  | e :: es => if e.1 = name then (name, n) :: es else e :: putEntry name n es

def insert? : List String → Value → Entries → Option Entries
  | [], _, _ => none
  | [name], v, es =>
    match es.lookup name with
    | none => some (putEntry name (.value v) es)
    | some _ => none
  | name :: names, v, es =>
    match es.lookup name with
    | none => (insert? names v []).map fun t => putEntry name (.table .dotted t) es
    | some (.table .dotted t) =>
      (insert? names v t).map fun t => putEntry name (.table .dotted t) es
    | some _ => none

/-- Opens a table, or the next table of a list. -/
def open? (item : Bool) : List String → Entries → Option Entries
  | [], _ => none
  | [name], es =>
    if item then
      match es.lookup name with
      | none => some (putEntry name (.tables [[]]) es)
      | some (.tables ts) => some (putEntry name (.tables (ts ++ [[]])) es)
      | some _ => none
    else
      match es.lookup name with
      | none => some (putEntry name (.table .header []) es)
      | some (.table .implied t) => some (putEntry name (.table .header t) es)
      | some _ => none
  | name :: names, es =>
    match es.lookup name with
    | none => (open? item names []).map fun t => putEntry name (.table .implied t) es
    | some (.table o t) => (open? item names t).map fun t => putEntry name (.table o t) es
    | some (.tables ts) => do
      let t ← open? item names (← ts.getLast?)
      return putEntry name (.tables (ts.dropLast ++ [t])) es
    | some (.value _) => none

def within? : List String → (Entries → Option Entries) → Entries → Option Entries
  | [], f, es => f es
  | name :: names, f, es =>
    match es.lookup name with
    | some (.table o t) => (within? names f t).map fun t => putEntry name (.table o t) es
    | some (.tables ts) => do
      let t ← within? names f (← ts.getLast?)
      return putEntry name (.tables (ts.dropLast ++ [t])) es
    | _ => none

mutual

def Node.toValue : Node → Value
  | .value v => v
  | .table _ es => .table (toTable es)
  | .tables ts => .list (toTables ts)

def toTable : Entries → Table
  | [] => []
  | (name, n) :: es => (name, n.toValue) :: toTable es

def toTables : List Entries → List Value
  | [] => []
  | t :: ts => .table (toTable t) :: toTables ts

end

end SessionTokens.Config.Toml

import SessionTokens.Log.Level
import SessionTokens.Text.Alphanumeric
import SessionTokens.Text.Blank
import SessionTokens.Text.Decimal
import SessionTokens.Text.Quoted

/-! Filters of the log. A filter is a list of directives between commas, each a level, a target,
or a target with a level; the directive with the longest target that an event's target begins
with decides up to which level it passes. -/

namespace SessionTokens.Log

/-- The least level that passes; `none` passes nothing. -/
abbrev Verbosity := Option Level

namespace Verbosity

def passes (v : Verbosity) (l : Level) : Bool := v.any fun least => l.rank ≤ least.rank

def names : List (String × Verbosity) :=
  [("off", none), ("error", some .error), ("warn", some .warn), ("info", some .info),
    ("debug", some .debug), ("trace", some .trace)]

/-- A name in any case of letters, or a number from 0 to 5. -/
def ofText? (cs : List Char) : Option Verbosity :=
  match Decimal.toCount? cs with
  | some n => (names[n]?).map (·.2)
  | none => names.lookup (String.ofList (cs.map Char.toLower))

end Verbosity

/-- A field that an event has to have, perhaps with a value. -/
structure FieldPattern where
  name : String
  hasValue : Bool
  deriving DecidableEq, Repr

structure Directive where
  target : String := ""
  span : Option String := none
  fields : List FieldPattern := []
  verbosity : Verbosity := some .trace
  deriving DecidableEq, Repr

namespace Directive

def isTargetStart (c : Char) : Bool :=
  c == '-' || c == ':' || c == '_' || Text.isAlphanumeric c

def seek (form : List Char) (i : Nat) (marks : List Char) : Nat :=
  i + ((form.drop i).takeWhile fun c => !marks.contains c).length

def fieldOf (cs : List Char) : FieldPattern :=
  ⟨String.ofList (cs.takeWhile (· != '=')), cs.contains '='⟩

section Reading

-- A directive's form is that of the text without the blanks around it; its parts are cut at
-- the same places out of the text with them.
variable (whole form : List Char)

def cut (i j : Nat) : List Char := (whole.drop i).take (j - i)

def readLevel (d : Directive) (i : Nat) : Option Directive :=
  match whole.drop i with
  | [] => some d
  | cs => (Verbosity.ofText? cs).map fun v => { d with verbosity := v }

def readEnd (d : Directive) (i : Nat) : Option Directive :=
  match form.drop i with
  | [] => some d
  | '=' :: _ => readLevel whole d (i + 1)
  | _ => none

def readSpan (d : Directive) (i : Nat) : Option Directive :=
  let j := seek form i [']', '\x7b']
  let span := String.ofList (cut whole i j)
  match form.drop j with
  | ']' :: _ => readEnd whole form { d with span := some span } (j + 1)
  | '\x7b' :: _ =>
    let k := seek form (j + 1) ['\x7d']
    match form.drop k with
    | '\x7d' :: ']' :: _ =>
      if k = j + 1 then none
      else
        readEnd whole form
          { d with span := if j = i then none else some span,
                   fields := [fieldOf (cut whole (j + 1) k)] } (k + 2)
    | _ => none
  | _ => none

/-- Reads a target and what follows it. A directive that is all one word may be a level. -/
def readTarget : Option Directive :=
  let i := seek form 0 ['=', '[']
  let d : Directive := { target := String.ofList (cut whole 0 i) }
  match form.drop i with
  | '=' :: _ => readLevel whole d (i + 1)
  | '[' :: _ => readSpan whole form d (i + 1)
  | _ => match Verbosity.ofText? whole with
    | some v => some { verbosity := v }
    | none => some { target := String.ofList whole }

end Reading

def ofText? (whole : List Char) : Option Directive :=
  let form := Text.trim whole
  match form with
  | [] => none
  | '[' :: _ => readSpan whole form {} 1
  | c :: _ => if isTargetStart c then readTarget whole form else none

/-- Whether the directive speaks of events whatever span they are in. -/
def isUnconditional (d : Directive) : Bool := d.span.isNone && d.fields.all (!·.hasValue)

def covers (d : Directive) (target : String) (fields : List String) : Bool :=
  d.isUnconditional && d.target.toList.isPrefixOf target.toList &&
    d.fields.all fun f => fields.contains f.name

/-- The longer target decides, and of the same target the one with more fields. -/
def isAtLeast (d e : Directive) : Bool :=
  if d.target.utf8ByteSize = e.target.utf8ByteSize then e.fields.length ≤ d.fields.length
  else e.target.utf8ByteSize < d.target.utf8ByteSize

end Directive

/-- Directives in their order; a later one replaces an equal earlier one. -/
structure Filter where
  directives : List Directive
  deriving DecidableEq, Repr

namespace Filter

def pieces (cs : List Char) : List (List Char) := cs.splitOn ','

def ofText? (text : String) : Option Filter := do
  let nonempty := (pieces text.toList).filter (· ≠ [])
  return ⟨← nonempty.mapM Directive.ofText?⟩

def refusal (text : String) : String := "invalid log filter " ++ Text.quoted text

def decisive? (f : Filter) (target : String) (fields : List String) : Option Directive :=
  (f.directives.filter (·.covers target fields)).foldl
    (fun best d => match best with
      | some b => if d.isAtLeast b then some d else some b
      | none => some d) none

def passes (f : Filter) (level : Level) (target : String) (fields : List String) : Bool :=
  (f.decisive? target fields).any fun d => d.verbosity.passes level

end Filter

end SessionTokens.Log

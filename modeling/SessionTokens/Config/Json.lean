import SessionTokens.Config.Value
import SessionTokens.Json.Kept
import SessionTokens.Json.Reader
import SessionTokens.Number.Word

/-! Settings as a JSON text. -/

namespace SessionTokens.Config

/-- A whole number of 64 bits, or else the nearest double. -/
def Value.ofNumeral (n : SessionTokens.Json.Numeral) : Value :=
  match n.integer? with
  | some i =>
    if Word.isSigned i then .int i else .float (.ofDecimal (i < 0) i.natAbs 0)
  | none => .float (.ofDecimal n.negative n.digits (n.scale.getD 0))

def nameOf : SessionTokens.Json.Node → String
  | .string q => match q.text with
    | .ok s => s
    | .error _ => ""
  | _ => ""

mutual

def Value.ofJson : SessionTokens.Json.Node → Value
  | .bool b => .bool b
  | .number n => .ofNumeral n
  | .string q => .text (nameOf (.string q))
  | .array items _ => .list (Value.ofItems items)
  | .object members _ => .table (Value.ofMembers members)
  | _ => .null

def Value.ofItems : List SessionTokens.Json.Node → List Value
  | [] => []
  | n :: ns => Value.ofJson n :: Value.ofItems ns

/-- Of two members of a name the later one counts. -/
def Value.ofMembers : List (SessionTokens.Json.Node × SessionTokens.Json.Node) → Table
  | [] => []
  | (k, v) :: ms =>
    let rest := Value.ofMembers ms
    let name := nameOf k
    if rest.any (·.1 == name) then rest else (name, Value.ofJson v) :: rest

end

def readJson (text : String) : Except Error Table :=
  let d := SessionTokens.Json.readText text
  match d.read (·.kept SessionTokens.Json.depthLimit) with
  | .error _ => .error .unreadable
  | .ok () => match Value.ofJson d.root with
    | .table t => .ok t
    | _ => .error .unreadable

end SessionTokens.Config

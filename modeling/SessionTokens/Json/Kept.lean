import SessionTokens.Json.Node

/-! Values that are kept before it is known what they should be. -/

namespace SessionTokens.Json

mutual

/-- Checks a value that is kept before it is known what it should be: every string in it must
be text, and containers may be nested less than `depth` deep. -/
def Node.kept (depth : Nat) : Node → Reading Unit
  | .missing => .error (.badText .unfinished)
  | .garbled f => .error (.badText f)
  | .null => .ok ()
  | .bool _ => .ok ()
  | .number n => if n.tooLarge then .error (.badText .misplaced) else .ok ()
  | .string q => do
    let _ ← q.text
    return ()
  | .array items close => do
    if depth ≤ 1 then throw (.badText .misplaced)
    keptItems (depth - 1) items
    closed close
  | .object members close => do
    if depth ≤ 1 then throw (.badText .misplaced)
    keptMembers (depth - 1) members
    closed close

def keptItems (depth : Nat) : List Node → Reading Unit
  | [] => .ok ()
  | n :: ns => do
    n.kept depth
    keptItems depth ns

def keptMembers (depth : Nat) : List (Node × Node) → Reading Unit
  | [] => .ok ()
  | (k, v) :: ms => do
    k.kept depth
    v.kept depth
    keptMembers depth ms

end

/-- Containers that may be nested in each other, the outermost included. -/
def depthLimit : Nat := 127

end SessionTokens.Json

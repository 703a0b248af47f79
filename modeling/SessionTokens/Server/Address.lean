import SessionTokens.Text.Decimal
import SessionTokens.Text.Hex

/-! Addresses to listen at: a host of version 4 or 6, and a port. -/

namespace SessionTokens

inductive SocketAddress where
  | v4 (octets : List Nat) (port : Nat)
  | v6 (groups : List Nat) (scope port : Nat)
  deriving DecidableEq, Repr

namespace SocketAddress

/-- A reader takes what is in front and returns the rest. -/
abbrev Reader (α : Type) := List Char → Option (α × List Char)

def readNat (bound : Nat) : Reader Nat := fun cs => do
  let n ← Decimal.toNat? (cs.takeWhile Char.isDigit)
  if n < bound then return (n, cs.dropWhile Char.isDigit) else none

def readPort : Reader Nat
  | ':' :: cs => readNat 65536 cs
  | _ => none

def readOctet : Reader Nat := fun cs =>
  let digits := cs.takeWhile Char.isDigit
  if 3 < digits.length ∨ (digits.length ≠ 1 ∧ digits.head? = some '0') then none
  else readNat 256 cs

def readV4 : Reader (List Nat) := fun cs => do
  let dot : Reader Unit := fun
    | '.' :: r => some ((), r)
    | _ => none
  let (a, cs) ← readOctet cs
  let (_, cs) ← dot cs
  let (b, cs) ← readOctet cs
  let (_, cs) ← dot cs
  let (c, cs) ← readOctet cs
  let (_, cs) ← dot cs
  let (d, cs) ← readOctet cs
  return ([a, b, c, d], cs)

def isHexDigit (c : Char) : Bool := (Hex.digit? c).isSome

def readGroup : Reader Nat := fun cs =>
  let digits := cs.takeWhile isHexDigit
  if digits = [] ∨ 4 < digits.length then none
  else (Hex.toNat? digits).map fun n => (n, cs.dropWhile isHexDigit)

/-- What follows the colon before a group; the first group has none. -/
def afterColon? (isFirst : Bool) (cs : List Char) : Option (List Char) :=
  if isFirst then some cs
  else match cs with
    | ':' :: r => some r
    | _ => none

structure Groups where
  groups : List Nat
  /-- The last two groups were written as an address of version 4. -/
  endsInV4 : Bool
  rest : List Char

def readGroups : Nat → Bool → List Char → Groups
  | 0, _, cs => ⟨[], false, cs⟩
  | limit + 1, isFirst, cs =>
    match afterColon? isFirst cs with
    | none => ⟨[], false, cs⟩
    | some r =>
      match if 1 ≤ limit then readV4 r else none with
      | some (octets, rest) => ⟨octets, true, rest⟩
      | none => match readGroup r with
        | some (g, rest) =>
          let more := readGroups limit false rest
          { more with groups := g :: more.groups }
        | none => ⟨[], false, cs⟩

def Groups.count (g : Groups) : Nat := if g.endsInV4 then g.groups.length - 2 else g.groups.length

def Groups.words (g : Groups) : List Nat :=
  if g.endsInV4 then
    let front := g.groups.take (g.groups.length - 4)
    match g.groups.drop (g.groups.length - 4) with
    | [a, b, c, d] => front ++ [a * 256 + b, c * 256 + d]
    | _ => front
  else g.groups

/-- Eight groups, or fewer with two colons for those that are zero. -/
def readV6 : Reader (List Nat) := fun cs =>
  let head := readGroups 8 true cs
  if head.count = 8 then some (head.words, head.rest)
  else if head.endsInV4 then none
  else match head.rest with
    | ':' :: ':' :: r =>
      let tail := readGroups (7 - head.count) true r
      let zeros := List.replicate (8 - head.count - tail.count) 0
      some (head.words ++ zeros ++ tail.words, tail.rest)
    | _ => none

def readScope : Reader Nat
  | '%' :: cs => readNat 4294967296 cs
  | cs => some (0, cs)

def parseV4? (cs : List Char) : Option SocketAddress := do
  let (octets, cs) ← readV4 cs
  let (port, cs) ← readPort cs
  if cs = [] then return .v4 octets port else none

def parseV6? : List Char → Option SocketAddress
  | '[' :: cs => do
    let (groups, cs) ← readV6 cs
    let (scope, cs) ← readScope cs
    match cs with
    | ']' :: cs =>
      let (port, cs) ← readPort cs
      if cs = [] then return .v6 groups scope port else none
    | _ => none
  | _ => none

def parse? (text : String) : Option SocketAddress :=
  parseV4? text.toList <|> parseV6? text.toList

end SocketAddress

end SessionTokens

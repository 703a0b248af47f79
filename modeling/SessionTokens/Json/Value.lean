import SessionTokens.Text.Decimal
import SessionTokens.Text.Hex

/-! JSON values and their one compact written form: no blanks, members in the given order,
characters beyond ASCII as they are. -/

namespace SessionTokens.Json

inductive Value where
  | null
  | bool (b : Bool)
  | int (i : Int)
  | str (s : String)
  | arr (items : List Value)
  | obj (members : List (String × Value))
  deriving Inhabited

/-- The letter of a two-character escape. -/
def escapeLetter? (c : Char) : Option Char :=
  match c with
  | '"' => some '"'
  | '\\' => some '\\'
  | '\x08' => some 'b'
  | '\x0c' => some 'f'
  | '\n' => some 'n'
  | '\r' => some 'r'
  | '\t' => some 't'
  | _ => none

def escapeChar (c : Char) : List Char :=
  match escapeLetter? c with
  | some letter => ['\\', letter]
  | none => if c.toNat < 32 then '\\' :: 'u' :: Hex.ofNat 4 c.toNat else [c]

def quote (s : String) : List Char :=
  '"' :: s.toList.flatMap escapeChar ++ ['"']

mutual

def Value.chars : Value → List Char
  | .null => ['n', 'u', 'l', 'l']
  | .bool true => ['t', 'r', 'u', 'e']
  | .bool false => ['f', 'a', 'l', 's', 'e']
  | .int i => Decimal.ofInt i
  | .str s => quote s
  | .arr [] => ['[', ']']
  | .arr (v :: vs) => '[' :: v.chars ++ Value.moreItems vs ++ [']']
  | .obj [] => ['\x7b', '\x7d']
  | .obj ((k, v) :: ms) => '\x7b' :: quote k ++ ':' :: v.chars ++ Value.moreMembers ms ++ ['\x7d']

def Value.moreItems : List Value → List Char
  | [] => []
  | v :: vs => ',' :: v.chars ++ Value.moreItems vs

def Value.moreMembers : List (String × Value) → List Char
  | [] => []
  | (k, v) :: ms => ',' :: quote k ++ ':' :: v.chars ++ Value.moreMembers ms

end

def Value.text (v : Value) : String := String.ofList v.chars

end SessionTokens.Json

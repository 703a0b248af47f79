import SessionTokens.Text.Decimal
import SessionTokens.Text.Hex
import SessionTokens.Text.Unshown

/-! Texts between double quotes, for dumps and messages: whatever does not show is escaped. -/

namespace SessionTokens.Text

def isShown (c : Char) : Bool :=
  if c.toNat < 128 then ' ' ≤ c && c ≤ '~'
  else !unshownRanges.any fun r => r.1 ≤ c.toNat && c.toNat ≤ r.2

/-- The hex digits of a code point, without leading zeros. -/
def hexDigits (n : Nat) : List Char := (Hex.ofNat 8 n).dropWhile (· == '0')

def escape (c : Char) : List Char :=
  match c with
  | '"' => ['\\', '"']
  | '\\' => ['\\', '\\']
  | '\t' => ['\\', 't']
  | '\n' => ['\\', 'n']
  | '\r' => ['\\', 'r']
  | c =>
    if c.toNat = 0 then ['\\', '0']
    else if isShown c then [c]
    else ['\\', 'u', '\x7b'] ++ hexDigits c.toNat ++ ['\x7d']

def quoted (s : String) : String :=
  String.ofList ('"' :: s.toList.flatMap escape ++ ['"'])

def quotedList (ss : List String) : String := "[" ++ String.intercalate ", " (ss.map quoted) ++ "]"

end SessionTokens.Text

import SessionTokens.Text.Hex

/-! Identifiers of 128 bits, kept as their 32 hex digits. -/

namespace SessionTokens

structure Uuid where
  digits : List (Fin 16)
  size : digits.length = 32
  deriving DecidableEq

namespace Uuid

instance : Inhabited Uuid := ⟨⟨List.replicate 32 ⟨0, by decide⟩, rfl⟩⟩

def groups : List Nat := [8, 4, 4, 4, 12]

/-- Cuts a list into groups and joins them with hyphens. -/
def joinGroups : List Nat → List Char → List Char
  | [], cs => cs
  | [_], cs => cs
  | n :: ns, cs => cs.take n ++ '-' :: joinGroups ns (cs.drop n)

/-- Takes out a hyphen after each group but the last. -/
def splitGroups : List Nat → List Char → Option (List Char)
  | [], cs => some cs
  | [_], cs => some cs
  | n :: ns, cs =>
    match cs.drop n with
    | '-' :: r => (splitGroups ns r).map (cs.take n ++ ·)
    | _ => none

def text (u : Uuid) : String :=
  String.ofList (joinGroups groups (u.digits.map Hex.digit))

def ofDigits? (cs : List Char) : Option Uuid := do
  let ds ← cs.mapM Hex.digit?
  if h : ds.length = 32 then return ⟨ds, h⟩ else none

def ofHyphenated? (cs : List Char) : Option Uuid := do
  ofDigits? (← splitGroups groups cs)

def unbraced? : List Char → Option (List Char)
  | '\x7b' :: r => if r.getLast? = some '\x7d' then some r.dropLast else none
  | _ => none

def afterNamespace? (cs : List Char) : Option (List Char) :=
  let lead := ['u', 'r', 'n', ':', 'u', 'u', 'i', 'd', ':']
  if (cs.take 9).map Char.toLower = lead then some (cs.drop 9) else none

/-- Reads the hyphenated form, bare, in braces or as a URN, or the digits alone. -/
def ofText? (s : String) : Option Uuid :=
  let cs := s.toList
  match unbraced? cs with
  | some inner => ofHyphenated? inner
  | none =>
    match afterNamespace? cs with
    | some rest => ofHyphenated? rest
    | none => if cs.length = 32 then ofDigits? cs else ofHyphenated? cs

end Uuid

end SessionTokens

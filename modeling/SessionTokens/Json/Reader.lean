import SessionTokens.Json.Node
import SessionTokens.Text.Decimal
import SessionTokens.Text.Hex
import SessionTokens.Text.Utf8

/-! Reads JSON texts. -/

namespace SessionTokens.Json

def isBlank (s : Symbol) : Bool :=
  s == some ' ' || s == some '\n' || s == some '\t' || s == some '\r'

def skipBlanks (s : List Symbol) : List Symbol := s.dropWhile isBlank

def hexDigit? (s : Symbol) : Option Nat := do return (← Hex.digit? (← s)).val

def codeUnit? (a b c d : Symbol) : Option Nat := do
  return (((← hexDigit? a) * 16 + (← hexDigit? b)) * 16 + (← hexDigit? c)) * 16 + (← hexDigit? d)

def isHighHalf (n : Nat) : Bool := 0xd800 ≤ n && n < 0xdc00

def isLowHalf (n : Nat) : Bool := 0xdc00 ≤ n && n < 0xe000

def Quoted.cons (c : Char) (q : Quoted) : Quoted :=
  match q.content with
  | .chars cs => { q with content := .chars (c :: cs) }
  | _ => q

def Quoted.withBadByte (q : Quoted) : Quoted :=
  match q.content with
  | .halfPair => q
  | _ => { q with content := .badBytes }

def Quoted.withHalfPair (q : Quoted) : Quoted := { q with content := .halfPair }

def Quoted.stopped (f : Fault) : Quoted := ⟨.chars [], some f⟩

def escaped? (c : Char) : Option Char :=
  match c with
  | '"' => some '"'
  | '\\' => some '\\'
  | '/' => some '/'
  | 'b' => some '\x08'
  | 'f' => some '\x0c'
  | 'n' => some '\n'
  | 'r' => some '\r'
  | 't' => some '\t'
  | _ => none

/-- The rest of a string after its opening mark, and what follows it. -/
def readQuoted : List Symbol → Quoted × List Symbol
  | [] => (.stopped .unfinished, [])
  | some '"' :: r => (⟨.chars [], none⟩, r)
  | some '\\' :: some 'u' :: a :: b :: c :: d :: r =>
    match codeUnit? a b c d with
    | none => (.stopped .misplaced, r)
    | some n =>
      if isHighHalf n then
        match r with
        | some '\\' :: some 'u' :: a :: b :: c :: d :: r2 =>
          match codeUnit? a b c d with
          | some m =>
            if isLowHalf m then
              let (q, rest) := readQuoted r2
              (q.cons (Char.ofNat (0x10000 + (n - 0xd800) * 0x400 + (m - 0xdc00))), rest)
            else
              let (q, rest) := readQuoted (some '\\' :: some 'u' :: a :: b :: c :: d :: r2)
              (q.withHalfPair, rest)
          | none => (.stopped .misplaced, r2)
        | [] => (.stopped .unfinished, [])
        | [some '\\'] => (.stopped .unfinished, [])
        | some '\\' :: some 'u' :: _ => (.stopped .unfinished, [])
        | s :: r2 =>
          let (q, rest) := readQuoted (s :: r2)
          (q.withHalfPair, rest)
      else if isLowHalf n then
        let (q, rest) := readQuoted r
        (q.withHalfPair, rest)
      else
        let (q, rest) := readQuoted r
        (q.cons (Char.ofNat n), rest)
  | some '\\' :: some 'u' :: _ => (.stopped .unfinished, [])
  | [some '\\'] => (.stopped .unfinished, [])
  | some '\\' :: s :: r =>
    match s.bind escaped? with
    | some c =>
      let (q, rest) := readQuoted r
      (q.cons c, rest)
    | none => (.stopped .misplaced, r)
  | some c :: r =>
    if c.toNat < 32 then (.stopped .misplaced, r)
    else
      let (q, rest) := readQuoted r
      (q.cons c, rest)
  | none :: r =>
    let (q, rest) := readQuoted r
    (q.withBadByte, rest)
termination_by s => s.length
decreasing_by all_goals simp only [List.length_cons]; omega

def digitOf? (s : Symbol) : Option Nat := s.bind Decimal.digit?

def takeDigits (s : List Symbol) : List Char × List Symbol :=
  ((s.takeWhile fun x => (digitOf? x).isSome).filterMap id,
    s.dropWhile fun x => (digitOf? x).isSome)

/-- What is wrong where a digit should stand. -/
def faultAt (s : List Symbol) : Fault := if s.isEmpty then .unfinished else .misplaced

def readExponent (s : List Symbol) : Except Fault (Option Int) × List Symbol :=
  match s with
  | some e :: r =>
    if e = 'e' ∨ e = 'E' then
      let (negative, r) := match r with
        | some '-' :: r => (true, r)
        | some '+' :: r => (false, r)
        | r => (false, r)
      let (ds, rest) := takeDigits r
      if ds.isEmpty then (.error (faultAt rest), rest)
      else
        let n : Int := Decimal.value 0 ds
        (.ok (some (if negative then -n else n)), rest)
    else (.ok none, s)
  | _ => (.ok none, s)

def readPlaces (s : List Symbol) : Except Fault (Option (List Char)) × List Symbol :=
  match s with
  | some '.' :: r =>
    let (ds, rest) := takeDigits r
    if ds.isEmpty then (.error (faultAt rest), rest) else (.ok (some ds), rest)
  | _ => (.ok none, s)

def readMagnitude (negative : Bool) (s : List Symbol) : Node × List Symbol :=
  let (whole, rest) := takeDigits s
  if whole.isEmpty then (.garbled (faultAt rest), rest)
  else if whole.head? = some '0' ∧ whole.length > 1 then (.garbled .misplaced, rest)
  else
    match readPlaces rest with
    | (.error f, rest) => (.garbled f, rest)
    | (.ok places, rest) =>
      match readExponent rest with
      | (.error f, rest) => (.garbled f, rest)
      | (.ok exponent, rest) =>
        let digits := Decimal.value (Decimal.value 0 whole) (places.getD [])
        let scale := match places, exponent with
          | none, none => none
          | _, _ => some (exponent.getD 0 - ((places.getD []).length : Int))
        (.number ⟨negative, digits, scale⟩, rest)

def readWord (value : Node) : List Char → List Symbol → Node × List Symbol
  | [], s => (value, s)
  | _ :: _, [] => (.garbled .unfinished, [])
  | c :: cs, x :: s => if x = some c then readWord value cs s else (.garbled .misplaced, s)

mutual

def readValue : Nat → List Symbol → Node × List Symbol
  | 0, s => (.garbled .misplaced, s)
  | fuel + 1, s =>
    match skipBlanks s with
    | [] => (.missing, [])
    | some '"' :: r => let (q, rest) := readQuoted r; (.string q, rest)
    | some '[' :: r =>
      match skipBlanks r with
      | [] => (.array [] (some .unfinished), [])
      | some ']' :: r => (.array [] none, r)
      | r => let (items, close, rest) := readItems fuel r; (.array items close, rest)
    | some '\x7b' :: r =>
      match skipBlanks r with
      | [] => (.object [] (some .unfinished), [])
      | some '\x7d' :: r => (.object [] none, r)
      | some '"' :: r =>
        let (members, close, rest) := readMembers fuel r
        (.object members close, rest)
      | r =>
        let (k, rest) := readValue fuel r
        (.object [(k, .garbled .misplaced)] (some .misplaced), rest)
    | some 't' :: r => readWord (.bool true) ['r', 'u', 'e'] r
    | some 'f' :: r => readWord (.bool false) ['a', 'l', 's', 'e'] r
    | some 'n' :: r => readWord .null ['u', 'l', 'l'] r
    | some '-' :: r => readMagnitude true r
    | x :: r =>
      if (digitOf? x).isSome then readMagnitude false (x :: r) else (.garbled .misplaced, r)

def readItems : Nat → List Symbol → List Node × Option Fault × List Symbol
  | 0, s => ([], some .misplaced, s)
  | fuel + 1, s =>
    let (v, rest) := readValue fuel s
    match v.fault with
    | some f => ([v], some f, rest)
    | none =>
      match skipBlanks rest with
      | [] => ([v], some .unfinished, [])
      | some ']' :: rest => ([v], none, rest)
      | some ',' :: rest =>
        let (vs, close, rest) := readItems fuel rest
        (v :: vs, close, rest)
      | rest => ([v], some .misplaced, rest)

/-- The members of an object from behind the opening mark of a name up to its end. -/
def readMembers : Nat → List Symbol → List (Node × Node) × Option Fault × List Symbol
  | 0, s => ([], some .misplaced, s)
  | fuel + 1, s =>
    let (k, rest) := readQuoted s
    match k.fault with
    | some f => ([(.string k, .garbled f)], some f, rest)
    | none =>
      match skipBlanks rest with
      | [] => ([(.string k, .missing)], some .unfinished, [])
      | some ':' :: rest =>
        let (v, rest) := readValue fuel rest
        match v.fault with
        | some f => ([(.string k, v)], some f, rest)
        | none =>
          match skipBlanks rest with
          | [] => ([(.string k, v)], some .unfinished, [])
          | some '\x7d' :: rest => ([(.string k, v)], none, rest)
          | some ',' :: rest =>
            match skipBlanks rest with
            | [] => ([(.string k, v), (.missing, .missing)], some .unfinished, [])
            | some '"' :: rest =>
              let (ms, close, rest) := readMembers fuel rest
              ((.string k, v) :: ms, close, rest)
            | rest =>
              ([(.string k, v), (.garbled .misplaced, .garbled .misplaced)], some .misplaced, rest)
          | rest => ([(.string k, v)], some .misplaced, rest)
      | rest => ([(.string k, .garbled .misplaced)], some .misplaced, rest)

end

def read (s : List Symbol) : Document :=
  let (root, rest) := readValue (2 * s.length + 2) s
  ⟨root, !(skipBlanks rest).isEmpty⟩

def readText (s : String) : Document := read (s.toList.map some)

def readBytes (bs : List UInt8) : Document := read (Utf8.decode bs)

end SessionTokens.Json

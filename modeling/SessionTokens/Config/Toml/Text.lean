import SessionTokens.Text.Hex

/-! Blanks, comments, strings and keys of TOML. A reader takes what is in front and returns the
rest with it. -/

namespace SessionTokens.Config.Toml

abbrev Reader (α : Type) := List Char → Option (α × List Char)

def isBlank (c : Char) : Bool := c == ' ' || c == '\t'

def skipBlanks (cs : List Char) : List Char := cs.dropWhile isBlank

def isControl (c : Char) : Bool := (c.toNat < 32 && c != '\t') || c.toNat == 127

def afterNewline? : List Char → Option (List Char)
  | '\n' :: r => some r
  | '\r' :: '\n' :: r => some r
  | _ => none

def skipComment (cs : List Char) : List Char :=
  match skipBlanks cs with
  | '#' :: r => r.dropWhile fun c => !isControl c
  | r => r

/-- Passes over blanks, comments and ends of lines, as many as `fuel`. -/
def skipLines : Nat → List Char → List Char
  | 0, cs => cs
  | fuel + 1, cs =>
    let r := skipComment cs
    match afterNewline? r with
    | some r => skipLines fuel r
    | none => r

def codePoint? (width : Nat) : Reader Char := fun cs => do
  let digits := cs.take width
  if digits.length < width then none
  let code ← Hex.toNat? digits
  if h : code.isValidChar then return (Char.ofNatAux code h, cs.drop width) else none

def escape? : Reader Char
  | 'b' :: r => some ('\x08', r)
  | 't' :: r => some ('\t', r)
  | 'n' :: r => some ('\n', r)
  | 'f' :: r => some ('\x0c', r)
  | 'r' :: r => some ('\r', r)
  | '"' :: r => some ('"', r)
  | '\\' :: r => some ('\\', r)
  | 'u' :: r => codePoint? 4 r
  | 'U' :: r => codePoint? 8 r
  | _ => none

def readBasic : Nat → Reader (List Char)
  | 0, _ => none
  | _ + 1, [] => none
  | _ + 1, '"' :: r => some ([], r)
  | fuel + 1, '\\' :: r => do
    let (c, r) ← escape? r
    let (cs, rest) ← readBasic fuel r
    return (c :: cs, rest)
  | fuel + 1, c :: r => do
    if isControl c then none
    let (cs, rest) ← readBasic fuel r
    return (c :: cs, rest)

def isSpace (c : Char) : Bool := isBlank c || c == '\n' || c == '\r'

/-- What follows a backslash at the end of a line. -/
def afterContinuation? (cs : List Char) : Option (List Char) :=
  (afterNewline? (skipBlanks cs)).map fun r => r.dropWhile isSpace

/-- The rest of a string in several lines. One or two marks may stand before the closing ones. -/
def readLongBasic : Nat → Reader (List Char)
  | 0, _ => none
  | _ + 1, [] => none
  | _ + 1, '"' :: '"' :: '"' :: '"' :: '"' :: r => some (['"', '"'], r)
  | _ + 1, '"' :: '"' :: '"' :: '"' :: r => some (['"'], r)
  | _ + 1, '"' :: '"' :: '"' :: r => some ([], r)
  | fuel + 1, '\\' :: r =>
    match afterContinuation? r with
    | some r => readLongBasic fuel r
    | none => do
      let (c, r) ← escape? r
      let (cs, rest) ← readLongBasic fuel r
      return (c :: cs, rest)
  | fuel + 1, '\r' :: '\n' :: r => do
    let (cs, rest) ← readLongBasic fuel r
    return ('\n' :: cs, rest)
  | fuel + 1, c :: r => do
    if isControl c && c != '\n' then none
    let (cs, rest) ← readLongBasic fuel r
    return (c :: cs, rest)

def readLiteral : Reader (List Char) := fun cs =>
  let text := cs.takeWhile fun c => c != '\x27' && !isControl c
  match cs.dropWhile fun c => c != '\x27' && !isControl c with
  | '\x27' :: r => some (text, r)
  | _ => none

def readLongLiteral : Reader (List Char)
  | [] => none
  | '\x27' :: '\x27' :: '\x27' :: '\x27' :: '\x27' :: r => some (['\x27', '\x27'], r)
  | '\x27' :: '\x27' :: '\x27' :: '\x27' :: r => some (['\x27'], r)
  | '\x27' :: '\x27' :: '\x27' :: r => some ([], r)
  | '\r' :: '\n' :: r => do
    let (cs, rest) ← readLongLiteral r
    return ('\n' :: cs, rest)
  | c :: r => do
    if isControl c && c != '\n' then none
    let (cs, rest) ← readLongLiteral r
    return (c :: cs, rest)

/-- A string of any kind. An end of line right after the marks of a long one is not in it. -/
def readString? : Reader (List Char)
  | '"' :: '"' :: '"' :: r => readLongBasic (r.length + 1) ((afterNewline? r).getD r)
  | '"' :: r => readBasic (r.length + 1) r
  | '\x27' :: '\x27' :: '\x27' :: r => readLongLiteral ((afterNewline? r).getD r)
  | '\x27' :: r => readLiteral r
  | _ => none

def isNameChar (c : Char) : Bool := c.isAlphanum || c == '_' || c == '-'

def readName : Reader String
  | '"' :: '"' :: '"' :: _ => none
  | '\x27' :: '\x27' :: '\x27' :: _ => none
  | '"' :: r => (readBasic (r.length + 1) r).map fun x => (String.ofList x.1, x.2)
  | '\x27' :: r => (readLiteral r).map fun x => (String.ofList x.1, x.2)
  | cs =>
    let name := cs.takeWhile isNameChar
    if name = [] then none else some (String.ofList name, cs.dropWhile isNameChar)

def readKey : Nat → Reader (List String)
  | 0, _ => none
  | fuel + 1, cs => do
    let (name, r) ← readName (skipBlanks cs)
    match skipBlanks r with
    | '.' :: r => do
      let (names, rest) ← readKey fuel r
      return (name :: names, rest)
    | r => return ([name], r)

end SessionTokens.Config.Toml

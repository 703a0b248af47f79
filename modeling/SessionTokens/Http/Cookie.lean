import SessionTokens.Http.Message
import SessionTokens.Text.Decimal

/-! Cookies: those that a request brings, and the one that a response sets. -/

namespace SessionTokens.Http.Cookie

def isBlank (c : Char) : Bool := c == ' ' || c == '\t'

def trim (cs : List Char) : List Char :=
  ((cs.dropWhile isBlank).reverse.dropWhile isBlank).reverse

/-- Cuts at semicolons outside quotation marks. -/
def pieces (quoted : Bool) : List Char → List (List Char)
  | [] => [[]]
  | c :: r =>
    if c = ';' ∧ quoted = false then [] :: pieces false r
    else
      match pieces (if c = '"' then !quoted else quoted) r with
      | p :: ps => (c :: p) :: ps
      | [] => [[c]]

def pair? (piece : List Char) : Option (String × String) :=
  match piece.dropWhile (· != '=') with
  | _ :: value =>
    some (String.ofList (trim (piece.takeWhile (· != '='))), String.ofList (trim value))
  | [] => none

def parse (value : String) : List (String × String) := (pieces false value.toList).filterMap pair?

/-- Several cookie headers count as one. -/
def joined? (q : Request) : Option String := do
  let values ← (q.all "cookie").mapM (·.plain?)
  return String.intercalate "; " values

end SessionTokens.Http.Cookie

namespace SessionTokens.Http

def Request.cookie? (q : Request) (name : String) : Option String := do
  let value ← Cookie.joined? q
  let c ← (Cookie.parse value).find? (·.1 == name)
  return c.2

/-- A cookie for requests below a path; no script can read it. -/
structure SetCookie where
  name : String
  value : String
  path : String
  maxAge : Nat
  secure : Bool
  deriving DecidableEq, Repr

def SetCookie.pairText (c : SetCookie) : String := c.name ++ "=" ++ c.value

def SetCookie.text (c : SetCookie) : String :=
  c.pairText ++ "; HttpOnly; SameSite=Lax; Path=" ++ c.path ++ "; Max-Age=" ++
    String.ofList (Decimal.ofNat c.maxAge) ++ if c.secure then "; Secure" else ""

end SessionTokens.Http

import SessionTokens.Json.Value
import SessionTokens.Text.Utf8

/-! Requests and responses. -/

namespace SessionTokens.Http

/-- The characters of tokens: methods, names of headers, parts of media types. -/
def isTokenChar (c : Char) : Bool :=
  c.isAlphanum || "!#$%&\x27*+-.^_\x60|~".toList.contains c

def isFieldChar (c : Char) : Bool := c == '\t' || (32 ≤ c.toNat && c.toNat != 127)

/-- A header's name has no capital letters. -/
structure Header where
  name : String
  value : String
  deriving DecidableEq, Repr

def Header.plain? (h : Header) : Option String :=
  if h.value.toList.all fun c => isFieldChar c && c.toNat < 128 then some h.value else none

structure Request where
  method : String
  path : String
  headers : List Header
  body : List UInt8
  deriving DecidableEq, Repr

structure Response where
  status : Nat
  headers : List Header
  body : Json.Value

namespace Request

def all (q : Request) (name : String) : List Header := q.headers.filter (·.name == name)

def first? (q : Request) (name : String) : Option Header := q.headers.find? (·.name == name)

end Request

namespace Response

def json (status : Nat) (body : Json.Value) : Response :=
  ⟨status, [⟨"content-type", "application/json"⟩], body⟩

def withHeader (r : Response) (name value : String) : Response :=
  { r with headers := r.headers ++ [⟨name, value⟩] }

end Response

end SessionTokens.Http

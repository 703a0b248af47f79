import SessionTokens.Json.Kept

/-! The first part of a signed token: which algorithm signed it, and members about keys that
only have to be well-formed. -/

namespace SessionTokens

inductive Algorithm where
  | hs256 | hs384 | hs512
  | es256 | es384
  | rs256 | rs384 | rs512
  | ps256 | ps384 | ps512
  | edDSA
  deriving DecidableEq, Repr

namespace Algorithm

def names : List (String × Algorithm) := [
  ("HS256", hs256), ("HS384", hs384), ("HS512", hs512), ("ES256", es256), ("ES384", es384),
  ("RS256", rs256), ("RS384", rs384), ("RS512", rs512), ("PS256", ps256), ("PS384", ps384),
  ("PS512", ps512), ("EdDSA", edDSA)]

def ofName? (s : String) : Option Algorithm := (names.find? (·.1 == s)).map (·.2)

end Algorithm

namespace Header

/-- Only texts with these names, each of them the given one. -/
def named (names : List String) (n : Json.Node) : Json.Reading Unit :=
  n.choice fun s => if s ∈ names then some () else none

def optionalText (n : Json.Node) : Json.Reading Unit := do
  let _ ← n.optional (·.text)
  return ()

def optionalTexts (n : Json.Node) : Json.Reading Unit := do
  let _ ← n.optional fun n => n.list (·.text)
  return ()

def keyMember (name : String) (n : Json.Node) (_ : Unit) : Json.Reading Unit :=
  if name = "key_ops" ∨ name = "x5c" then optionalTexts n else optionalText n

/-- A record of these members and no choice about them. -/
def keyShape (members : List (String × (Json.Node → Json.Reading Unit))) (n : Json.Node) :
    Json.Reading Unit := do
  let names := members.map (·.1)
  let found ← n.record names
    (fun name n found => do
      match members.find? (·.1 == name) with
      | some (_, value) => value n
      | none => return found
      return name :: found) []
  if names.all (· ∈ found) then return () else throw .mismatch

def text (n : Json.Node) : Json.Reading Unit := do
  let _ ← n.text
  return ()

def curve : Json.Node → Json.Reading Unit := named ["P-256", "P-384", "P-521", "Ed25519"]

def keyShapes : List (List (String × (Json.Node → Json.Reading Unit))) := [
  [("kty", named ["EC"]), ("crv", curve), ("x", text), ("y", text)],
  [("kty", named ["RSA"]), ("n", text), ("e", text)],
  [("kty", named ["oct"]), ("k", text)],
  [("kty", named ["OKP"]), ("crv", curve), ("x", text)]]

/-- A key inside a header. It is read for its form and not used. -/
def key (n : Json.Node) : Json.Reading Unit :=
  match n with
  | .object _ _ => do
    n.kept Json.depthLimit
    n.record ["use", "key_ops", "alg", "kid", "x5u", "x5c", "x5t", "x5t#S256"] keyMember ()
    if keyShapes.any (fun shape => (keyShape shape n).isOk) then return () else throw .mismatch
  | n => throw n.complaint

def memberNames : List String :=
  ["typ", "alg", "cty", "jku", "jwk", "kid", "x5u", "x5c", "x5t", "x5t#S256"]

def fill (name : String) (n : Json.Node) (found : Option Algorithm) :
    Json.Reading (Option Algorithm) :=
  match name with
  | "alg" => some <$> n.choice Algorithm.ofName?
  | "jwk" => do
    let _ ← n.optional key
    return found
  | "x5c" => do
    optionalTexts n
    return found
  | _ => do
    optionalText n
    return found

def algorithm (n : Json.Node) : Json.Reading Algorithm :=
  match n with
  | .array _ _ => throw .mismatch
  | n => do Json.required (← n.record memberNames fill none)

def written : String := "\x7b\"typ\":\"JWT\",\"alg\":\"HS256\"\x7d"

end Header

end SessionTokens

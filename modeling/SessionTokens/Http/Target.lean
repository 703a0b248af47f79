import SessionTokens.Http.Message

/-! The target of a request: a path with a query, a whole URI, an authority or a star. Only its
path is looked at. -/

namespace SessionTokens.Http.Target

/-- Characters of a path that need no escape, and three that are let through without one. -/
def isPathChar (c : Char) : Bool :=
  let n := c.toNat
  n == 0x21 || n == 0x22 || (0x24 ≤ n && n ≤ 0x3b) || n == 0x3d || (0x40 ≤ n && n ≤ 0x5f) ||
    (0x61 ≤ n && n ≤ 0x7e)

def isQueryChar (c : Char) : Bool :=
  let n := c.toNat
  n == 0x21 || (0x24 ≤ n && n ≤ 0x3b) || n == 0x3d || (0x3f ≤ n && n ≤ 0x7e)

/-- The path at the front, if what follows it is a query, a fragment or nothing. -/
def path? (cs : List Char) : Option (List Char) :=
  let isEnd (c : Char) := c == '?' || c == '#'
  let path := cs.takeWhile fun c => !isEnd c
  if path.all isPathChar then
    match cs.dropWhile fun c => !isEnd c with
    | '?' :: r => if (r.takeWhile (· != '#')).all isQueryChar then some path else none
    | _ => some path
  else none

def isSchemeChar (c : Char) : Bool := c.isAlphanum || c == '+' || c == '-' || c == '.'

def afterScheme? (cs : List Char) : Option (List Char) :=
  match cs.dropWhile isSchemeChar with
  | ':' :: '/' :: '/' :: r => if cs.length - r.length - 3 ≤ 64 then some r else none
  | _ => none

def isAuthorityChar (c : Char) : Bool := c.isAlphanum || "!$&\x27()*+,-.:;=@[]_~%".toList.contains c

/-- A host with a port at most, or an address in brackets with one. -/
def isHost (cs : List Char) : Bool :=
  match cs with
  | '[' :: r =>
    let port := r.dropWhile (· != ']')
    (r.count ':' ≤ 9) && !(r.takeWhile (· != ']')).contains '[' && port != [] &&
      !(port.drop 1).any (fun c => c == '[' || c == ']' || c == '%') && port.count ':' ≤ 1
  | cs => !cs.any (fun c => c == '[' || c == ']' || c == '%') && cs.count ':' ≤ 1

/-- Whether this names a host, after whoever asks there. -/
def isAuthority (cs : List Char) : Bool :=
  let host := (cs.reverse.takeWhile (· != '@')).reverse
  cs.all isAuthorityChar && host != [] && isHost host

/-- The path of a target; that of an authority is empty. -/
def parse? (target : String) : Option String :=
  let cs := target.toList
  if target.utf8ByteSize > 65534 then none
  else match cs with
    | [] => none
    | ['*'] => some "*"
    | '/' :: _ => (path? cs).map String.ofList
    | cs => match afterScheme? cs with
      | none => if isAuthority cs then some "" else none
      | some r =>
        let isEnd (c : Char) := c == '/' || c == '?' || c == '#'
        if isAuthority (r.takeWhile fun c => !isEnd c) then
          (path? (r.dropWhile fun c => !isEnd c)).map fun p =>
            if p = [] then "/" else String.ofList p
        else none

end SessionTokens.Http.Target

namespace SessionTokens.Http

namespace Request

def lowerCase (s : String) : String := String.ofList (s.toList.map Char.toLower)

def make? (method target : String) (headers : List (String × String)) (body : List UInt8) :
    Option Request := do
  let isToken (s : String) := s != "" && s.toList.all isTokenChar
  if !isToken method then none
  let path ← Target.parse? target
  if headers.all fun h => isToken h.1 && h.2.toList.all isFieldChar then
    return ⟨method, path, headers.map fun h => ⟨lowerCase h.1, h.2⟩, body⟩
  else none

end Request

end SessionTokens.Http

import SessionTokens.Http.Message

/-! Media types: a type, a subtype and parameters, whose values may be quoted. -/

namespace SessionTokens.Http.MediaType

inductive Place where
  /-- Where a parameter may begin. -/
  | start
  | name
  | valueStart
  | value
  /-- Just after an opening mark; another mark here belongs to the value. -/
  | quotedStart
  | quoted
  | escaped
  | afterQuote
  deriving DecidableEq, Repr

def isQuotable (c : Char) : Bool := 31 < c.toNat && c.toNat != 127

def step (p : Place) (c : Char) : Option Place :=
  match p with
  | .start => if c = ' ' then some .start else if isTokenChar c then some .name else none
  | .name => if isTokenChar c then some .name else if c = '=' then some .valueStart else none
  | .valueStart =>
    if c = '"' then some .quotedStart else if isTokenChar c then some .value else none
  | .value => if isTokenChar c then some .value else if c = ';' then some .start else none
  | .quotedStart =>
    if c = '\\' then some .escaped else if isQuotable c then some .quoted else none
  | .quoted =>
    if c = '"' then some .afterQuote
    else if c = '\\' then some .escaped
    else if isQuotable c then some .quoted
    else none
  | .escaped => if isQuotable c then some .quoted else none
  | .afterQuote => if c = ';' then some .start else if c = ' ' then some .afterQuote else none

def Place.mayEnd : Place → Bool
  | .start => true
  | .valueStart => true
  | .value => true
  | .afterQuote => true
  | _ => false

def areParameters (cs : List Char) : Bool := ((cs.foldlM step .start).map Place.mayEnd).getD false

/-- What stands before the last plus sign, if there is one that is not the first character. -/
def withoutSuffix (subtype : List Char) : List Char :=
  match (subtype.drop 1).reverse.dropWhile (· != '+') with
  | _ :: r => subtype.take 1 ++ r.reverse
  | [] => subtype

def parse? (s : String) : Option (String × String) :=
  let cs := s.toList
  let kind := cs.takeWhile isTokenChar
  match cs.dropWhile isTokenChar with
  | '/' :: r =>
    let subtype := r.takeWhile isTokenChar
    let name (cs : List Char) := String.ofList (cs.map Char.toLower)
    let result := (name kind, name (withoutSuffix subtype))
    if kind = [] then none
    else match r.dropWhile isTokenChar with
      | [] => some result
      | ';' :: parameters => if subtype ≠ [] ∧ areParameters parameters then some result else none
      | _ => none
  | _ => none

def isJson (s : String) : Bool := parse? s == some ("application", "json")

end SessionTokens.Http.MediaType

import SessionTokens.Config.Value

/-! Settings from environment variables: a root, and then the parts of a key, with two
underscores between them, in any case of letters. All values are texts. -/

namespace SessionTokens.Config.Environment

def separator : List Char := ['_', '_']

def dotted : List Char → List Char
  | '_' :: '_' :: r => '.' :: dotted r
  | c :: r => c :: dotted r
  | [] => []

def lower (cs : List Char) : List Char := cs.map Char.toLower

def key? (root name : String) : Option String :=
  let lead := lower root.toList ++ separator
  let cs := lower name.toList
  if cs.take lead.length = lead then some (String.ofList (dotted (cs.drop lead.length))) else none

def table (root : String) (environment : List (String × String)) : Table :=
  environment.filterMap fun v => (key? root v.1).map fun key => (key, .text v.2)

/-- The usual name of the variable that sets a key. -/
def nameOf (root key : String) : String :=
  let parts := (key.toList.map Char.toUpper).flatMap fun c => if c = '.' then separator else [c]
  root ++ String.ofList (separator ++ parts)

end SessionTokens.Config.Environment

import SessionTokens.Json.Node
import SessionTokens.Json.Value

/-! The four kinds of token. Each has a signing secret of its own. -/

namespace SessionTokens

inductive TokenKind where
  | userAccess
  | userRefresh
  | deviceConnection
  | deviceRefresh
  deriving DecidableEq, Repr, Inhabited

namespace TokenKind

def all : List TokenKind := [userAccess, userRefresh, deviceConnection, deviceRefresh]

theorem mem_all (k : TokenKind) : k ∈ all := by cases k <;> decide

def name : TokenKind → String
  | userAccess => "user_access"
  | userRefresh => "user_refresh"
  | deviceConnection => "device_connection"
  | deviceRefresh => "device_refresh"

def ofName? (s : String) : Option TokenKind := all.find? (·.name == s)

def index (k : TokenKind) : Nat := all.findIdx (· == k)

def json (k : TokenKind) : Json.Value := .str k.name

def ofJson (n : Json.Node) : Json.Reading TokenKind := n.choice ofName?

end TokenKind

end SessionTokens

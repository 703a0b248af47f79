import SessionTokens.CommandLine
import SessionTokens.Log.Filter
import SessionTokens.Server.Address
import SessionTokens.Server.Build
import SessionTokens.Settings.Load
import SessionTokens.Settings.Shipped

/-! A run of the service, from its arguments to its exit code. Everything is checked before the
server listens, and the first thing that is wrong ends the run. -/

namespace SessionTokens

inductive PathKind where
  | missing
  | regular
  /-- A directory or something else. -/
  | irregular
  deriving DecidableEq, Repr

structure Surroundings where
  files : Settings.Files
  environment : List (String × String)
  kindOf : String → PathKind
  connect : String → Option Keyed.Server

inductive StartupError where
  | settings (error : Config.Error)
  | logFilter (text : String)
  | address
  | missingFile
  /-- The certificate or the key is something else than a file. -/
  | irregularFile (what path : String)
  | server (error : ServerError)
  deriving DecidableEq, Repr

/-- The message, where it is not another system's. -/
def StartupError.message? : StartupError → Option String
  | settings error => some error.message
  | logFilter text => some (Log.Filter.refusal text)
  | address => some "invalid socket address syntax"
  | missingFile => some "No such file or directory (os error 2)"
  | irregularFile what path =>
    some ("TLS " ++ what ++ " is not a regular file: " ++ Text.quoted path)
  | server error => error.message?

structure Stage where
  target : String
  message : String
  fields : List String
  deriving DecidableEq, Repr

namespace Stage

def started : Stage :=
  ⟨"meshpoint::server::server", "server started", ["message", "instance_id", "registry"]⟩

def listening : Stage := ⟨"meshpoint", "listening", ["message", "bound"]⟩

def stopping : Stage := ⟨"meshpoint::server::server", "server shutting down...", ["message"]⟩

def stopped : Stage := ⟨"meshpoint", "server shutdown successfully", ["message"]⟩

def all : List Stage := [started, listening, stopping, stopped]

def isShown (f : Log.Filter) (s : Stage) : Bool := f.passes .info s.target s.fields

end Stage

inductive RunResult where
  | halted (halt : CommandLine.Halt)
  | failed (error : StartupError)
  | served (shown : List Stage)

namespace RunResult

def exitCode : RunResult → Nat
  | halted halt => halt.exitCode
  | failed _ => 1
  | served _ => 0

def stages : RunResult → List Stage
  | served shown => shown
  | _ => []

end RunResult

namespace Surroundings

def checkFile (w : Surroundings) (what path : String) : Except StartupError Unit :=
  match w.kindOf path with
  | .missing => .error .missingFile
  | .irregular => .error (.irregularFile what path)
  | .regular => .ok ()

/-- The filter of the log under which the server comes to listen. -/
def startUp (w : Surroundings) (path : String) : Except StartupError Log.Filter := do
  let s ← (Settings.load w.files w.environment path).mapError .settings
  match Log.Filter.ofText? s.logFilter with
  | none => .error (.logFilter s.logFilter)
  | some filter =>
    if (SocketAddress.parse? s.http.address).isNone then throw .address
    w.checkFile "cert" s.http.certPath
    w.checkFile "key" s.http.keyPath
    let _ ← (s.server w.connect).mapError .server
    return filter

def run (w : Surroundings) (args : List String) : RunResult :=
  match CommandLine.read args with
  | .error halt => .halted halt
  | .ok line => match w.startUp (line.settings.getD Settings.Shipped.developmentPath) with
    | .error e => .failed e
    | .ok filter => .served (Stage.all.filter (·.isShown filter))

end Surroundings

end SessionTokens

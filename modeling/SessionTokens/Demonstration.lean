import SessionTokens.CommandLine
import SessionTokens.Log.Filter
import SessionTokens.Settings.Dump
import SessionTokens.Settings.Load
import SessionTokens.Settings.Shipped

/-! Two small programs: one shows how a filter of the log is exchanged, the other how settings
are loaded. -/

namespace SessionTokens

structure Printed where
  lines : List String
  exitCode : Nat
  deriving DecidableEq, Repr

namespace Demonstration

structure LogLine where
  level : Log.Level
  target : String
  message : String

def LogLine.text (l : LogLine) : String := l.level.name ++ " " ++ l.target ++ ": " ++ l.message

/-- The lines that a filter lets through; a text that is no filter lets none through. -/
def shown (filter : String) (lines : List LogLine) : List String :=
  match Log.Filter.ofText? filter with
  | some f => (lines.filter fun l => f.passes l.level l.target ["message"]).map (·.text)
  | none => []

def bootstrapFilter : String := "info"

def logger : Printed :=
  let own := "logger_demo"
  let before := shown bootstrapFilter [
    ⟨.debug, own, "bootstrap debug log"⟩,
    ⟨.info, own, "bootstrap info log"⟩,
    ⟨.warn, "security", "bootstrap security log"⟩]
  let after := shown "debug,security=warn" [
    ⟨.trace, own, "application trace log"⟩,
    ⟨.debug, own, "application debug log"⟩,
    ⟨.warn, "security", "application security log"⟩]
  ⟨before ++ after, 0⟩

def loadedLine (s : Settings) : String := "Loaded settings: " ++ s.dump

/-- Loads the usual settings, then none from an empty path, then those that the arguments ask
for. -/
def settings (files : Settings.Files) (environment : List (String × String)) (args : List String) :
    Printed :=
  let load := Settings.load files environment
  let usual := Settings.Shipped.developmentPath
  match load usual with
  | .error _ => ⟨[], 1⟩
  | .ok first =>
    let before := [loadedLine first,
      "Error on invalid path: " ++ if (load "").isOk then "false" else "true"]
    match CommandLine.read args with
    | .error .help => ⟨before ++ CommandLine.help "settings_demo", CommandLine.Halt.help.exitCode⟩
    | .error halt => ⟨before, halt.exitCode⟩
    | .ok line => match load (line.settings.getD usual) with
      | .error _ => ⟨before, 1⟩
      | .ok s =>
        ⟨before ++ [loadedLine s, "JTI TTL policy: " ++ s.auth.retention.dump], 0⟩

end Demonstration

end SessionTokens

import SessionTokens.Server.Startup

/-! The service as a program: gathers its surroundings, runs, and prints what the run came to. -/

namespace SessionTokens.Main

def readFile (path : String) : IO (String × Option String) := do
  try
    return (path, some (← IO.FS.readFile path))
  catch _ =>
    return (path, none)

def kindOf (path : String) : IO (String × PathKind) := do
  try
    let info ← (← IO.FS.realPath path).metadata
    return (path, match info.type with
      | .file => .regular
      | _ => .irregular)
  catch _ =>
    return (path, .missing)

def environment : IO (List (String × String)) :=
  Settings.keys.filterMapM fun key => do
    let name := Config.Environment.nameOf Settings.variableRoot key
    return (← IO.getEnv name).map (name, ·)

/-- What a run that may load this path can ask for. -/
def surroundings (path : String) : IO Surroundings := do
  let texts ← (Settings.candidates path).mapM readFile
  let files (p : String) := (texts.lookup p).join
  let environment ← environment
  let paths := match Settings.load files environment path with
    | .ok s => [s.http.certPath, s.http.keyPath]
    | .error _ => []
  let kinds ← paths.mapM kindOf
  return { files, environment, kindOf := fun p => (kinds.lookup p).getD .missing,
           connect := fun _ => none }

def pathOf (args : List String) : String :=
  match CommandLine.read args with
  | .ok { settings := some path } => path
  | _ => Settings.Shipped.developmentPath

def report : RunResult → IO Unit
  | .halted .help => (CommandLine.help "session-tokens").forM IO.println
  | .halted _ => IO.eprintln "usage: session-tokens [--settings <SETTINGS>]"
  | .failed e => IO.eprintln ("Error: " ++ e.message?.getD "the key server cannot be reached")
  | .served stages => stages.forM fun s => IO.println ("INFO " ++ s.target ++ ": " ++ s.message)

end SessionTokens.Main

def main (args : List String) : IO UInt32 := do
  let result := (← SessionTokens.Main.surroundings (SessionTokens.Main.pathOf args)).run args
  SessionTokens.Main.report result
  return result.exitCode.toUInt32

/-! The command line: one option, for the path of a settings file, and a request for help. -/

namespace SessionTokens

structure CommandLine where
  settings : Option String := none
  deriving DecidableEq, Repr

namespace CommandLine

/-- Why the arguments are not carried out. -/
inductive Halt where
  | help
  | missingValue
  | repeated
  | unknown
  | needlessValue
  deriving DecidableEq, Repr

def Halt.exitCode : Halt → Nat
  | .help => 0
  | _ => 2

structure Progress where
  line : CommandLine := {}
  /-- The option is given but not settled yet; its value may have come. -/
  pending : Option (Option String) := none
  deriving DecidableEq, Repr

namespace Progress

def take (p : Progress) (value : String) : Except Halt Progress :=
  if p.line.settings.isSome then .error .repeated else .ok ⟨⟨some value⟩, none⟩

def settle (p : Progress) : Except Halt Progress :=
  match p.pending with
  | none => .ok p
  | some none => .error .missingValue
  | some (some value) => p.take value

/-- An argument after two dashes. -/
def long (p : Progress) (name : String) (value : Option String) : Except Halt Progress :=
  match name, value with
  | "settings", some value => do (← p.settle).take value
  | "settings", none => do return { (← p.settle) with pending := some none }
  | "help", some _ => .error .needlessValue
  | "help", none => do
    let _ ← p.settle
    .error .help
  | _, _ => .error .unknown

def plain (p : Progress) (arg : String) : Except Halt Progress :=
  match p.pending with
  | some none => .ok { p with pending := some (some arg) }
  | _ => .error .unknown

def arg (p : Progress) (a : String) : Except Halt Progress :=
  match a.toList with
  | '-' :: '-' :: r =>
    let value := match r.dropWhile (· != '=') with
      | _ :: v => some (String.ofList v)
      | [] => none
    p.long (String.ofList (r.takeWhile (· != '='))) value
  | '-' :: 'h' :: _ => do
    let _ ← p.settle
    .error .help
  | '-' :: _ :: _ => .error .unknown
  | _ => p.plain a

/-- Reads arguments; no argument is known after two dashes on their own. -/
def read (p : Progress) : List String → Except Halt Progress
  | [] => p.settle
  | ["--"] => p.settle
  | "--" :: _ => .error .unknown
  | a :: rest => do (← p.arg a).read rest

end Progress

def read (args : List String) : Except Halt CommandLine := do
  return (← Progress.read {} args).line

def help (program : String) : List String := [
  "IoT platform session and token service",
  "",
  "Usage: " ++ program ++ " [OPTIONS]",
  "",
  "Options:",
  "      --settings <SETTINGS>  Path to a settings file (TOML)",
  "  -h, --help                 Print help"]

end CommandLine

end SessionTokens

import SessionTokens.Config.Environment
import SessionTokens.Config.Json
import SessionTokens.Config.Path
import SessionTokens.Config.Toml.Reader
import SessionTokens.Settings.Basic

/-! Loads settings: a file, and over it the environment. -/

namespace SessionTokens.Settings

open Config

inductive Format where
  | toml
  | json
  deriving DecidableEq, Repr

namespace Format

def all : List Format := [toml, json]

def extension : Format → String
  | toml => "toml"
  | json => "json"

def read : Format → String → Except Config.Error Table
  | toml => Config.readToml
  | json => Config.readJson

def fileName (path : String) : List Char := (path.toList.reverse.takeWhile (· != '/')).reverse

/-- What follows the last dot of a file's name, unless the name begins with that dot. -/
def extensionOf (path : String) : String :=
  let back := (fileName path).reverse
  match back.dropWhile (· != '.') with
  | _ :: _ :: _ => String.ofList (back.takeWhile (· != '.')).reverse
  | _ => ""

def ofPath? (path : String) : Option Format := all.find? fun f => f.extension == extensionOf path

end Format

abbrev Files := String → Option String

def extended (path : String) (f : Format) : String :=
  String.ofList (path.toList.reverse.dropWhile (· == '/')).reverse ++ "." ++ f.extension

def candidates (path : String) : List String := path :: Format.all.map (extended path)

/-- The file of a path, or else the first whose path has one more extension. -/
def find? (files : Files) (path : String) : Option (Format × String) :=
  match files path with
  | some text => (Format.ofPath? path).map (·, text)
  | none => Format.all.findSome? fun f => (files (extended path f)).map (f, ·)

def variableRoot : String := "MESHPOINT"

def ofText (format : Format) (text : String) (environment : List (String × String)) :
    Except Config.Error Settings := do
  let file := (Value.table []).merge (← format.read text)
  Settings.read ⟨"", file.merge (Environment.table variableRoot environment)⟩

def load (files : Files) (environment : List (String × String)) (path : String) :
    Except Config.Error Settings :=
  match find? files path with
  | some (format, text) => ofText format text environment
  | none => .error .noFile

end SessionTokens.Settings

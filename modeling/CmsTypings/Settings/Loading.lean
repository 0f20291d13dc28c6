import CmsTypings.Disk.Basic
import CmsTypings.Json.Reader
import CmsTypings.Settings.Form
import CmsTypings.Settings.Format.Ini
import CmsTypings.Settings.Format.Ron
import CmsTypings.Settings.Format.Yaml
import CmsTypings.Settings.Number

/-!
Where settings come from.

Files in the working directory come first, then the file of the user, then a file that is asked
for, then variables of the environment; each is laid over those before it.
-/

namespace CmsTypings.Settings

open Disk

/-! ### Files -/

inductive FileFormat where
  | toml | json | yaml | ini | ron | json5
deriving DecidableEq, Repr

namespace FileFormat

def all : List FileFormat := [.toml, .json, .yaml, .ini, .ron, .json5]

def extensions : FileFormat → List String
  | .toml => ["toml"]
  | .json => ["json"]
  | .yaml => ["yaml", "yml"]
  | .ini => ["ini"]
  | .ron => ["ron"]
  | .json5 => ["json5"]

def ofExtension? (extension : String) : Option FileFormat :=
  all.find? fun f => f.extensions.contains extension

/-- The setting that the text of a file writes; none if it does not follow the format. -/
def setting? (f : FileFormat) (text : String) : Option Setting :=
  match f with
  | .toml => (Toml.read? text).map fun entries => .table (Setting.ofTomlEntries entries)
  | .json => (Json.parse text).toOption.map Setting.ofJson
  | .yaml => Yaml.read? text
  | .ini => Ini.read? text
  | .ron => Ron.read? text
  | .json5 => Json5.read? text

/-- The entries that the text of a file states; a file writes a table. -/
def read? (f : FileFormat) (text : String) : Option (List (String × Setting)) :=
  match f.setting? text with
  | some (.table entries) => some entries
  | _ => none

end FileFormat

/-- The files that a path may name without its extension. -/
def completions (path : Path) : List (Path × FileFormat) :=
  FileFormat.all.flatMap fun f => f.extensions.map fun e => (path.withExtension e, f)

/-- The file that a path names, with its extension or without it. -/
def file? (view : View) (path : Path) : Option (Path × FileFormat) :=
  if view.isFile path then (FileFormat.ofExtension? path.extension).map (path, ·)
  else (completions path).find? fun c => view.isFile c.1

/-- What a file states, if it can be read. -/
def source? (view : View) (path : Path) :
    Except SettingsFault (Option (List (String × Setting))) :=
  match file? view path with
  | none => .ok none
  | some (path, format) =>
    match view path with
    | .error _ => .ok none
    | .ok text =>
      match format.read? text with
      | some entries => .ok (some entries)
      | none => .error .badFile

/-- A file that may be missing. -/
def optional (view : View) (path : Path) (below : Setting) : Except SettingsFault Setting := do
  match ← source? view path with
  | some entries => return below.layer entries
  | none => return below

/-- A file that was asked for. -/
def required (view : View) (path : Path) (below : Setting) : Except SettingsFault Setting := do
  match ← source? view path with
  | some entries => return below.layer entries
  | none => throw .missingFile

def fileName : String := "schemas-to-ts.toml"

/-- The files of a project, from the weakest on. -/
def projectFiles : List Path :=
  [⟨fileName⟩, ⟨"." ++ fileName⟩, ⟨"config/" ++ fileName⟩]

/-! ### The environment -/

/-- Variables and their values, the last one of a name being the one that counts. -/
abbrev Environment := List (String × String)

def valueIn? (env : Environment) (name : String) : Option String :=
  (env.reverse.find? fun v => v.1 = name).map Prod.snd

/-- The directory for the configuration of a user's programs. -/
def userDirectory? (env : Environment) : Option Path :=
  match (valueIn? env "XDG_CONFIG_HOME").filter fun d => Path.isAbsolute ⟨d⟩ with
  | some d => some ⟨d⟩
  | none =>
    match valueIn? env "HOME" with
    | some home => if home.isEmpty then none else some (Path.join ⟨home⟩ ".config")
    | none => none

def userFile? (env : Environment) : Option Path :=
  (userDirectory? env).map fun d => (d.join "schemas-to-ts").join fileName

/-- What the names of variables with settings begin with. -/
def variableStart : List Char := "schemas_to_ts__".toList

/-- The key that a name spells: two underscores lead into a table. -/
def keyOf : List Char → List Char
  | '_' :: '_' :: rest => '.' :: keyOf rest
  | c :: rest => c :: keyOf rest
  | [] => []

/-- The value of a variable: a truth value, a number, or else a text. -/
def valueOf (text : String) : Setting :=
  if text.toLower = "true" then .boolean true
  else if text.toLower = "false" then .boolean false
  else
    match Setting.integer? text.toList with
    | some n => .integer n
    | none =>
      match Setting.float? text.toList with
      | some x => .float x
      | none => .text text

/-- The settings in the environment. -/
def ofEnvironment (env : Environment) : List (String × Setting) :=
  env.filterMap fun v =>
    let name := v.1.toLower.toList
    if variableStart.isPrefixOf name then
      some (String.ofList (keyOf (name.drop variableStart.length)), valueOf v.2)
    else none

/-! ### All sources -/

/-- The table of all settings that are stated anywhere. -/
def collect (view : View) (env : Environment) (path? : Option Path) :
    Except SettingsFault Setting := do
  let s ← projectFiles.foldlM (fun s path => optional view path s) (.table [])
  let s ← match (userFile? env).filter view.has with
    | some path => optional view path s
    | none => pure s
  let s ← match path? with
    | some path => required view path s
    | none => pure s
  return s.layer (ofEnvironment env)

/-- The files that loading may look at. -/
def consulted (env : Environment) (path? : Option Path) : List Path :=
  (projectFiles ++ (userFile? env).toList ++ path?.toList).flatMap fun path =>
    path :: (completions path).map Prod.fst

def load (view : View) (env : Environment) (path? : Option Path) :
    Except SettingsFault Settings := do
  ofTable (← collect view env path?)

end CmsTypings.Settings

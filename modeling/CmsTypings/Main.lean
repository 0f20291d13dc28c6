import CmsTypings.Command.Run

/-!
The program on a real disk.

What a run may look at is read first; the run itself is the pure one. No program is started, so a
project's formatter counts as missing.
-/

namespace CmsTypings.Command

open Disk

def faultOf : IO.Error → IoFault
  | .noFileOrDirectory .. => .notFound
  | .alreadyExists .. => .exists
  | .inappropriateType _ code _ => if code = 20 then .notADirectory else .isADirectory
  | e => .other (toString e)

def readFile (path : Path) : IO (Except IoFault String) := do
  try
    let octets ← IO.FS.readBinFile path.text
    match Text.Utf8.decode octets.toList with
    | .ok text => return .ok text
    | .error _ => return .error .notUtf8
  catch e => return .error (faultOf e)

/-- What reading each of the paths answers. -/
def viewOf (paths : List Path) : IO View := do
  let answers ← paths.mapM fun path => do return (path, ← readFile path)
  return fun path => ((answers.find? fun a => a.1 = path).map Prod.snd).getD (.error .notFound)

def ensureDirectory (path : Path) : IO Unit := do
  try IO.FS.createDir path.text
  catch e =>
    match ← readFile path with
    | .error .isADirectory => return
    | _ => throw e

/-- Makes a directory and those missing on the way to it; each path stands before the ones that
it goes through. -/
def ensureDirectories : List Path → IO Unit
  | [] => return
  | path :: outer => do
    try ensureDirectory path
    catch
      | .noFileOrDirectory .. => do
        ensureDirectories outer
        ensureDirectory path
      | e => throw e

def writeFile (root : Path) (text : String) : IO (Except IoFault Unit) := do
  try
    ensureDirectories (ModuleFile.directory root).outward
    IO.FS.writeFile (ModuleFile.path root).text text
    return .ok ()
  catch e => return .error (faultOf e)

/-- The variables that a run may look at. -/
def variableNames : List String :=
  ["HOME", "XDG_CONFIG_HOME", "NODE_ENV", "RUST_LOG"] ++
    Settings.fieldNames.map fun name => "SCHEMAS_TO_TS__" ++ name.toUpper

def readEnvironment : IO Settings.Environment :=
  variableNames.filterMapM fun name => do return (← IO.getEnv name).map fun v => (name, v)

def emit (o : Outcome) : IO UInt32 := do
  for note in o.shownNotes do
    IO.eprintln (note.level.name ++ " " ++ Log.Filter.fullTopic note.topic ++ ": " ++ note.message)
  IO.print o.output
  for remark in o.remarks do
    IO.eprintln remark
  return UInt32.ofNat o.status

def convertFiles (env : Settings.Environment) (i : Invocation) : IO Outcome := do
  let view ← viewOf (consulted env i)
  match prepare view (fun _ _ => .error .notFound) env i with
  | .error outcome => return outcome
  | .ok product =>
    let path := ModuleFile.path i.root
    match i.goal with
    | .print => return product.printed
    | .check => return product.checked path (ModuleFile.drift? view path product.text)
    | .write => return product.written path (← writeFile i.root product.text)

end CmsTypings.Command

open CmsTypings.Command in
def main (args : List String) : IO UInt32 := do
  let env ← readEnvironment
  match parse (modeIn? env) args with
  | .error stop => emit (stopped env stop)
  | .ok invocation => emit (← convertFiles env invocation)

import CmsTypings.Command.Arguments
import CmsTypings.Conversion
import CmsTypings.Formatter
import CmsTypings.Log.Filter
import CmsTypings.ModuleFile
import CmsTypings.Schema.Reader
import CmsTypings.Settings.Loading

/-!
A run of the program.

Settings are loaded, the mode is judged, the dump is read and converted, and the module is
formatted. What then becomes of the module is the run's goal. Only a run with the goal to write
changes the disk, and only then.
-/

namespace CmsTypings.Command

open Disk

/-- What a run leaves besides the disk: its status, its output, remarks for its operator, the
notes with the filter that they pass, and the arguments of the formatter if it was started. -/
structure Outcome where
  status : Nat
  output : String := ""
  remarks : List String := []
  notes : List Log.Note := []
  filter : Log.Filter := .ofDepth (.downTo .info)
  formatting? : Option (List String) := none

def Outcome.shownNotes (o : Outcome) : List Log.Note := o.notes.filter o.filter.shows

/-- A failure and the cause below it. -/
def causes (f : Failure) : List String :=
  match f with
  | .io fault => [f.message, fault.message]
  | .json e => [f.message, e.message]
  | _ => [f.message]

def failureRemark (context : List String) (f : Failure) : String :=
  "❌ Error: " ++ ": ".intercalate (context ++ causes f)

def settingsRemark (f : SettingsFault) : String := "❌ Error: Config error: " ++ f.message

/-- Notes are shown as the environment asks, or else as detailed as the settings say. -/
def filterOf (env : Settings.Environment) (settings : Settings) : Log.Filter :=
  ((Settings.valueIn? env "RUST_LOG").bind Log.Filter.ofText?).getD
    (.ofDepth (.downTo (if settings.verboseLogging then .debug else .info)))

def refusal (settings : Settings) (mode : String) : Log.Note :=
  ⟨.info, [], "Runtime mode '" ++ mode ++ "' is not one of the accepted modes " ++
    Text.Quoted.encodeAll settings.acceptedRuntimeModes ++
    ". Skipping conversion of schemas to TypeScript."⟩

def readDump (view : View) (path : Path) : Except Failure Dump :=
  match view path with
  | .ok text => Dump.ofText text
  | .error fault => .error (.io fault)

/-- A module ready for its goal. -/
structure Product where
  text : String
  conversion : Conversion
  /-- How the run stands when the module is ready. -/
  standing : Outcome

/-- The work of a run up to its goal. A run may be over before that. -/
def prepare (view : View) (launch : Launcher) (env : Settings.Environment) (i : Invocation) :
    Except Outcome Product :=
  match Settings.load view env i.settings? with
  | .error fault => .error { status := 1, remarks := [settingsRemark fault] }
  | .ok settings =>
    let filter := filterOf env settings
    if !settings.accepts i.mode then
      .error { status := 0, notes := [refusal settings i.mode], filter := filter }
    else
      match readDump view i.input with
      | .error failure =>
        let remark := failureRemark ["reading schemas from " ++ i.input.text] failure
        .error { status := 1, remarks := [remark], filter := filter }
      | .ok dump =>
        let conversion := Conversion.ofDump dump settings
        let formatter? :=
          if settings.useExternalFormatter && i.format then Formatter.ofProject? view i.root
          else none
        let (text, warnings) :=
          Formatter.formatted (formatter?.map fun f => f.format launch) conversion.code
        .ok
          { text := text
            conversion := conversion
            standing :=
              { status := 0
                notes := conversion.notes ++ warnings
                filter := filter
                formatting? := formatter?.map (·.arguments) } }

namespace Product

def printed (p : Product) : Outcome := { p.standing with output := p.text }

def checked (p : Product) (path : Path) (drift? : Except IoFault (Option String)) : Outcome :=
  match drift? with
  | .error fault =>
    { p.standing with status := 1, remarks := [failureRemark [] (.io fault)] }
  | .ok none => { p.standing with remarks := ["✅ " ++ path.text ++ " is up to date"] }
  | .ok (some report) =>
    { p.standing with
        status := 1
        output := report
        remarks := ["⚠️  " ++ path.text ++ " is out of date"] }

def summary (p : Product) (path : Path) : String :=
  "📦 " ++ toString (p.conversion.count .contentType) ++ " content types, " ++
    toString (p.conversion.count .component) ++ " components -> " ++ path.text ++ "\n"

def written (p : Product) (path : Path) (result : Except IoFault Unit) : Outcome :=
  match result with
  | .error fault =>
    let remark := failureRemark ["writing " ++ path.text] (.io fault)
    { p.standing with status := 1, remarks := [remark] }
  | .ok () =>
    { p.standing with
        output := p.summary path
        notes := p.standing.notes ++ [ModuleFile.writtenNote path] }

end Product

/-- A conversion on a disk. -/
def convert (disk : Disk) (launch : Launcher) (env : Settings.Environment) (i : Invocation) :
    Disk × Outcome :=
  match prepare disk.read launch env i with
  | .error outcome => (disk, outcome)
  | .ok product =>
    let path := ModuleFile.path i.root
    match i.goal with
    | .print => (disk, product.printed)
    | .check => (disk, product.checked path (ModuleFile.drift? disk.read path product.text))
    | .write =>
      let (disk, result) := ModuleFile.write disk i.root product.text
      (disk, product.written path result)

/-- The files that a conversion may look at. -/
def consulted (env : Settings.Environment) (i : Invocation) : List Path :=
  Settings.consulted env i.settings? ++ Formatter.configurationNames.map i.root.join ++
    [i.input, ModuleFile.path i.root]

/-- The mode that counts if the command line names none. -/
def modeIn? (env : Settings.Environment) : Option String := Settings.valueIn? env "NODE_ENV"

/-- The outcome of arguments that ask for no conversion. -/
def stopped (env : Settings.Environment) : Stop → Outcome
  | .help => { status := 0, output := helpText (modeIn? env) }
  | .version => { status := 0, output := versionText }
  | .misuse reason => { status := 2, remarks := ["error: " ++ reason.message] }

/-- A run with the given arguments on a disk. -/
def run (disk : Disk) (launch : Launcher) (env : Settings.Environment) (args : List String) :
    Disk × Outcome :=
  match parse (modeIn? env) args with
  | .error stop => (disk, stopped env stop)
  | .ok invocation => convert disk launch env invocation

end CmsTypings.Command

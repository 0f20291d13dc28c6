import CmsTypings.Disk.Path

/-!
The command line: what its arguments ask for.

Arguments are taken one after the other, and the first that is wrong or that asks for the help or
the version decides. Whether they fit together is judged at the end.
-/

namespace CmsTypings.Command

open Disk

/-- What becomes of the module. -/
inductive Goal where
  | write | check | print
deriving DecidableEq, Repr

/-- A conversion that is asked for. -/
structure Invocation where
  input : Path
  root : Path
  settings? : Option Path
  mode : String
  format : Bool
  goal : Goal
deriving DecidableEq, Repr

/-- Why arguments are refused. -/
inductive Misuse where
  | unexpected (argument : String)
  | missingValue (option : String)
  | emptyValue (option : String)
  | needlessValue (option : String)
  | repeated (option : String)
  | missingInput
  | checkAndPrint
deriving DecidableEq, Repr

def Misuse.message : Misuse → String
  | .unexpected argument => "unexpected argument '" ++ argument ++ "' found"
  | .missingValue option => "a value is required for '" ++ option ++ "' but none was supplied"
  | .emptyValue option => "a value is required for '" ++ option ++ "' but none was supplied"
  | .needlessValue option => "unexpected value for '" ++ option ++ "' found; no more were expected"
  | .repeated option => "the argument '" ++ option ++ "' cannot be used multiple times"
  | .missingInput => "the following required arguments were not provided: --input <INPUT>"
  | .checkAndPrint => "the argument '--stdout' cannot be used with '--check'"

/-- Arguments that ask for no conversion. -/
inductive Stop where
  | help | version
  | misuse (reason : Misuse)
deriving DecidableEq, Repr

/-- Options with a value. -/
inductive Valued where
  | input | root | config | mode
deriving DecidableEq, Repr

/-- Options without one. -/
inductive Switch where
  | noFormat | check | stdout
deriving DecidableEq, Repr

namespace Valued

def all : List Valued := [.input, .root, .config, .mode]

def name : Valued → String
  | .input => "input"
  | .root => "root"
  | .config => "config"
  | .mode => "mode"

def letter (o : Valued) : Char := o.name.toList.headD ' '

/-- Whether an empty value is none: it names no file. -/
def isPath : Valued → Bool
  | .input | .root => true
  | .config | .mode => false

end Valued

def Switch.all : List Switch := [.noFormat, .check, .stdout]

def Switch.name : Switch → String
  | .noFormat => "no-format"
  | .check => "check"
  | .stdout => "stdout"

/-! ### One argument -/

/-- What an argument is by its spelling. -/
inductive Word where
  | value (text : String)
  | separator
  | valued (option : Valued) (value : Option String)
  | switch (option : Switch)
  | stop (stop : Stop)

def longWord (text : List Char) : Word :=
  let name := String.ofList (text.takeWhile (· ≠ '='))
  let value? :=
    if text.contains '=' then some (String.ofList ((text.dropWhile (· ≠ '=')).drop 1)) else none
  match Valued.all.find? (·.name = name) with
  | some option => .valued option value?
  | none =>
    match Switch.all.find? (·.name = name) with
    | some option =>
      if value?.isSome then .stop (.misuse (.needlessValue ("--" ++ name))) else .switch option
    | none =>
      if name = "help" ∨ name = "version" then
        if value?.isSome then .stop (.misuse (.needlessValue ("--" ++ name)))
        else .stop (if name = "help" then .help else .version)
      else .stop (.misuse (.unexpected ("--" ++ name)))

def shortWord (letter : Char) (rest : List Char) : Word :=
  match Valued.all.find? (·.letter = letter) with
  | some option =>
    match rest with
    | [] => .valued option none
    | '=' :: value => .valued option (some (String.ofList value))
    | value => .valued option (some (String.ofList value))
  | none =>
    if letter = 'h' then .stop .help
    else if letter = 'V' then .stop .version
    else .stop (.misuse (.unexpected (String.ofList ['-', letter])))

def Word.ofText (text : String) : Word :=
  match text.toList with
  | ['-', '-'] => .separator
  | '-' :: '-' :: rest => longWord rest
  | '-' :: letter :: rest => shortWord letter rest
  | _ => .value text

/-! ### All arguments -/

/-- What the arguments so far say. -/
structure Draft where
  values : List (Valued × String) := []
  switches : List Switch := []

def Draft.value? (d : Draft) (option : Valued) : Option String :=
  (d.values.find? fun v => v.1 = option).map Prod.snd

def Draft.set (d : Draft) (option : Valued) (value : String) : Except Stop Draft :=
  if (d.value? option).isSome then .error (.misuse (.repeated ("--" ++ option.name)))
  else if option.isPath && value.isEmpty then .error (.misuse (.emptyValue ("--" ++ option.name)))
  else .ok { d with values := d.values ++ [(option, value)] }

def Draft.switch (d : Draft) (option : Switch) : Except Stop Draft :=
  if d.switches.contains option then .error (.misuse (.repeated ("--" ++ option.name)))
  else .ok { d with switches := d.switches ++ [option] }

/-- Takes arguments. An option's value may be the next one, unless that looks like an option. -/
def take (d : Draft) : List String → Except Stop Draft
  | [] => .ok d
  | arg :: rest =>
    match Word.ofText arg with
    | .stop s => .error s
    | .value text => .error (.misuse (.unexpected text))
    | .separator =>
      match rest with
      | [] => .ok d
      | text :: _ => .error (.misuse (.unexpected text))
    | .switch option =>
      match d.switch option with
      | .ok d => take d rest
      | .error s => .error s
    | .valued option (some value) =>
      match d.set option value with
      | .ok d => take d rest
      | .error s => .error s
    | .valued option none =>
      match rest with
      | [] => .error (.misuse (.missingValue ("--" ++ option.name)))
      | next :: rest =>
        match Word.ofText next with
        | .value text =>
          match d.set option text with
          | .ok d => take d rest
          | .error s => .error s
        | _ => .error (.misuse (.missingValue ("--" ++ option.name)))

/-- The conversion that arguments ask for. `mode?` is the mode if they name none. -/
def parse (mode? : Option String) (args : List String) : Except Stop Invocation := do
  let d ← take {} args
  let some input := d.value? .input | throw (.misuse .missingInput)
  if d.switches.contains .check && d.switches.contains .stdout then
    throw (.misuse .checkAndPrint)
  return {
    input := ⟨input⟩
    root := ⟨(d.value? .root).getD "."⟩
    settings? := (d.value? .config).map Disk.Path.mk
    mode := ((d.value? .mode).or mode?).getD ""
    format := !d.switches.contains .noFormat
    goal :=
      if d.switches.contains .stdout then .print
      else if d.switches.contains .check then .check
      else .write }

/-! ### Texts -/

def versionText : String := "schemas-to-ts 0.1.0\n"

/-- The help; it shows the mode that counts if none is named. -/
def helpText (mode? : Option String) : String :=
  "\n".intercalate
    ["Generate TypeScript declarations from CMS schemas",
     "",
     "Usage: schemas-to-ts [OPTIONS] --input <INPUT>",
     "",
     "Options:",
     "  -i, --input <INPUT>    JSON dump with `contentTypes` and `components` registries",
     "  -r, --root <ROOT>      " ++
       "Project root; the module is written to <root>/types/contentTypes.d.ts [default: .]",
     "  -c, --config <CONFIG>  Config file layered over the default locations",
     "  -m, --mode <MODE>      Runtime mode checked against `accepted_runtime_modes` " ++
       "[env: NODE_ENV=" ++ mode?.getD "" ++ "]",
     "      --no-format        Never run the external formatter",
     "      --check            " ++
       "Compare with the existing file instead of writing; exit 1 on drift",
     "      --stdout           Print the module instead of writing it",
     "  -h, --help             Print help",
     "  -V, --version          Print version",
     ""]

end CmsTypings.Command

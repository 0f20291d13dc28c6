import CmsTypings.Disk.Basic
import CmsTypings.Log
import CmsTypings.Text.Blank

/-!
The external formatter of a project.

A project that holds a configuration of the formatter wants its module formatted. Formatting is
cosmetic: when it fails, the text stays as it is.
-/

namespace CmsTypings

/-- What a program printed, and the status with which it ended. -/
structure Printed where
  output : List UInt8
  complaint : String
  status : Int

/-- Starts the program that runs formatters: its arguments, its input, and what came of it. -/
abbrev Launcher := List String → String → Except IoFault Printed

structure Formatter where
  configuration : Disk.Path
deriving DecidableEq, Repr

namespace Formatter

/-- The files that configure the formatter; of several, the first one counts. -/
def configurationNames : List String :=
  [".prettierrc",
   ".prettierrc.json",
   ".prettierrc.yaml",
   ".prettierrc.yml",
   ".prettierrc.json5",
   ".prettierrc.toml",
   ".prettierrc.js",
   ".prettierrc.cjs",
   ".prettierrc.mjs",
   "prettier.config.js",
   "prettier.config.cjs",
   "prettier.config.mjs"]

/-- The formatter that a project asks for. -/
def ofProject? (view : View) (root : Disk.Path) : Option Formatter :=
  ((configurationNames.map root.join).find? view.isFile).map fun path => ⟨path⟩

def arguments (f : Formatter) : List String :=
  ["--no-install", "prettier", "--config", f.configuration.text, "--stdin-filepath",
   "contentTypes.d.ts"]

/-- What a finished formatter made of the text. -/
def outcome (p : Printed) : Except Failure String :=
  if p.status ≠ 0 then .error (.formatter (Text.trim p.complaint))
  else
    match Text.Utf8.decode p.output with
    | .ok text => .ok text
    | .error fault => .error (.formatter ("non UTF-8 output: " ++ fault.message))

def format (f : Formatter) (launch : Launcher) (text : String) : Except Failure String :=
  match launch f.arguments text with
  | .ok printed => outcome printed
  | .error fault => .error (.io fault)

/-- A text after formatting, where there is something to format it, and a note if that failed. -/
def formatted (format? : Option (String → Except Failure String)) (text : String) :
    String × List Log.Note :=
  match format? with
  | none => (text, [])
  | some format =>
    match format text with
    | .ok better => (better, [])
    | .error failure =>
      (text, [⟨.warn, ["output"],
        "Formatter failed, writing unformatted output: " ++ failure.message⟩])

end Formatter

end CmsTypings

import CmsTypings.Settings
import CmsTypings.Settings.Setting
import CmsTypings.Toml.Writer

/-!
Settings as a table: how each one is read from it, and the table that is saved.

A setting takes values of other kinds where they have an evident meaning: a number says whether it
is zero, a few words say yes or no, and numbers and truth values have texts.
-/

namespace CmsTypings

/-- Why settings cannot be loaded. -/
inductive SettingsFault where
  /-- A file that was asked for is missing, cannot be read or has an unknown extension. -/
  | missingFile
  /-- A file does not follow its format. -/
  | badFile
  /-- A value has no meaning as the truth value or the text that is expected. -/
  | wrongKind
  /-- Something else stands where a list or a rule is expected. -/
  | wrongShape
deriving DecidableEq, Repr

def SettingsFault.message : SettingsFault → String
  | .missingFile => "configuration file not found"
  | .badFile => "configuration file cannot be read"
  | .wrongKind => "invalid type of a value"
  | .wrongShape => "invalid shape of a value"

namespace Setting

def yesWords : List String := ["1", "true", "on", "yes"]

def noWords : List String := ["0", "false", "off", "no"]

def bool : Setting → Except SettingsFault Bool
  | .boolean b => .ok b
  | .integer n => .ok (n ≠ 0)
  | .float x => .ok (x != 0)
  | .text s =>
    if yesWords.contains s.toLower then .ok true
    else if noWords.contains s.toLower then .ok false
    else .error .wrongKind
  | _ => .error .wrongKind

def string : Setting → Except SettingsFault String
  | .text s => .ok s
  | .boolean b => .ok (toString b)
  | .integer n => .ok (toString n)
  | .float x => .ok (Decimal.plain x)
  | _ => .error .wrongKind

def listOf (item : Setting → Except SettingsFault α) : Setting → Except SettingsFault (List α)
  | .list xs => xs.mapM item
  | _ => .error .wrongShape

/-- A rule is a text, or a table with a pattern among its entries. -/
def rule : Setting → Except SettingsFault IgnoreRule
  | .text s => .ok (.exact s)
  | .table es =>
    match (Setting.table es).get? "pattern" with
    | some (.text p) => .ok (.pattern p)
    | _ => .error .wrongShape
  | _ => .error .wrongShape

end Setting

namespace Settings

open Setting (bool string listOf rule)

/-- What is under a key, or what counts without it. -/
def field (table : Setting) (key : String) (item : Setting → Except SettingsFault α)
    (fallback : α) : Except SettingsFault α :=
  match table.get? key with
  | some s => item s
  | none => .ok fallback

/-- The settings that a table states; the others have their defaults. -/
def ofTable (table : Setting) : Except SettingsFault Settings := do
  let blank : Settings := {}
  return {
    acceptedRuntimeModes :=
      ← field table "accepted_runtime_modes" (listOf string) blank.acceptedRuntimeModes
    verboseLogging := ← field table "verbose_logging" bool blank.verboseLogging
    alwaysSuffixEnumNames :=
      ← field table "always_suffix_enum_names" bool blank.alwaysSuffixEnumNames
    idsToIgnore := ← field table "ids_to_ignore" (listOf rule) blank.idsToIgnore
    alwaysSuffixComponentNames :=
      ← field table "always_suffix_component_names" bool blank.alwaysSuffixComponentNames
    useExternalFormatter :=
      ← field table "use_external_formatter_if_available" bool blank.useExternalFormatter }

def ruleToml : IgnoreRule → Toml
  | .exact s => .string s
  | .pattern p => .table [("pattern", .string p)]

/-- All settings as a table, in their order. -/
def toToml (s : Settings) : List (String × Toml) :=
  [("accepted_runtime_modes", .array (s.acceptedRuntimeModes.map .string)),
   ("verbose_logging", .boolean s.verboseLogging),
   ("always_suffix_enum_names", .boolean s.alwaysSuffixEnumNames),
   ("ids_to_ignore", .array (s.idsToIgnore.map ruleToml)),
   ("always_suffix_component_names", .boolean s.alwaysSuffixComponentNames),
   ("use_external_formatter_if_available", .boolean s.useExternalFormatter)]

/-- The text of a file that states all settings. -/
def save (s : Settings) : String := Toml.write s.toToml

end Settings

end CmsTypings

import CmsTypings.Ignore
import CmsTypings.Json.Reader

/-!
The settings of a run, their defaults, and their form in JSON.
-/

namespace CmsTypings

structure Settings where
  /-- Runtime modes in which a run converts at all. -/
  acceptedRuntimeModes : List String := ["development"]
  /-- Whether every skipped and converted schema is noted. -/
  verboseLogging : Bool := false
  /-- Read and written, without an effect on the module. -/
  alwaysSuffixEnumNames : Bool := false
  idsToIgnore : List IgnoreRule :=
    [.exact "plugin::upload.folder",
     .exact "plugin::i18n.locale",
     .pattern "plugin::content-releases\\..*",
     .exact "plugin::users-permissions.permission",
     .pattern "plugin::review-workflows\\..*"]
  /-- Whether every component's name is suffixed. -/
  alwaysSuffixComponentNames : Bool := false
  useExternalFormatter : Bool := true
deriving DecidableEq, Repr

instance : Inhabited Settings := ⟨{}⟩

namespace Settings

/-- Whether a run may convert in the given mode. -/
def accepts (s : Settings) (mode : String) : Bool := s.acceptedRuntimeModes.contains mode

/-- The names under which settings are written, in their order. -/
def fieldNames : List String :=
  ["accepted_runtime_modes", "verbose_logging", "always_suffix_enum_names", "ids_to_ignore",
   "always_suffix_component_names", "use_external_formatter_if_available"]

open Json Json.Reader

/-- A rule is a string, or a map with a pattern among its members. -/
def ruleReader : Reader IgnoreRule := fun src d => do
  match ← value src d with
  | .string s => return .exact s
  | .object members =>
    match (members.find? fun m => m.1 == "pattern").map Prod.snd with
    | some (.string p) => return .pattern p
    | _ => throw (.noVariant "IgnoreRule")
  | _ => throw (.noVariant "IgnoreRule")

def rulesReader : Reader (List IgnoreRule) := list ruleReader

def reader : Reader Settings :=
  record "PluginConfig" {}
    [field "accepted_runtime_modes" (list string) fun v s => { s with acceptedRuntimeModes := v },
     field "verbose_logging" bool fun v s => { s with verboseLogging := v },
     field "always_suffix_enum_names" bool fun v s => { s with alwaysSuffixEnumNames := v },
     field "ids_to_ignore" rulesReader fun v s => { s with idsToIgnore := v },
     field "always_suffix_component_names" bool
       fun v s => { s with alwaysSuffixComponentNames := v },
     field "use_external_formatter_if_available" bool
       fun v s => { s with useExternalFormatter := v }]

end Settings

end CmsTypings

import CmsTypings.Log
import CmsTypings.Pattern.Reading
import CmsTypings.Text.Quoted

/-!
Which schemas stay out of the module.

A rule names a uid or gives a pattern. A rule that names a uid is also tried as a pattern, and a
pattern that cannot be read never matches. Uids of the administration namespace are left out
whatever the rules say.
-/

namespace CmsTypings

inductive IgnoreRule where
  | exact (uid : String)
  | pattern (source : String)
deriving DecidableEq, Repr

namespace IgnoreRule

/-- The text of the rule, which is read as a pattern for both kinds. -/
def source : IgnoreRule → String
  | .exact s => s
  | .pattern s => s

/-- Whether the rule names the uid. -/
def names (uid : String) : IgnoreRule → Bool
  | .exact s => s == uid
  | .pattern _ => false

end IgnoreRule

/-- Whether `part` stands somewhere in a text. -/
def containsText (part : List Char) : List Char → Bool
  | [] => part.isEmpty
  | c :: rest => part.isPrefixOf (c :: rest) || containsText part rest

/-- Uids that hold this text belong to the administration of the system. -/
def adminNamespace : String := "admin::"

/-- The rules of a run, each with its pattern if that can be read. -/
structure IgnoreFilter where
  rules : List (IgnoreRule × Except Pattern.Fault Pattern)

namespace IgnoreFilter

def ofRules (rules : List IgnoreRule) : IgnoreFilter :=
  ⟨rules.map fun r => (r, Pattern.ofText r.source)⟩

def matchesRule (uid : String) (rule : IgnoreRule × Except Pattern.Fault Pattern) : Bool :=
  rule.1.names uid ||
    match rule.2 with
    | .ok p => p.occursIn uid
    | .error _ => false

/-- Whether a uid is left out. -/
def skips (f : IgnoreFilter) (uid : String) : Bool :=
  containsText adminNamespace.toList uid.toList || f.rules.any (matchesRule uid)

/-- A note on every pattern that cannot be read. -/
def notes (f : IgnoreFilter) : List Log.Note :=
  f.rules.filterMap fun r =>
    match r.2 with
    | .ok _ => none
    | .error fault =>
      some ⟨.debug, ["codegen", "collect"],
        "Ignoring invalid pattern " ++ Text.Quoted.encode r.1.source ++ ": " ++ fault.headline⟩

end IgnoreFilter

end CmsTypings

import CmsTypings.DeclarationModule
import CmsTypings.Settings

/-!
From a dump to a module.

The roster is complete before the first interface is made, so it does not matter to a reference
whether its target comes before or after it.
-/

namespace CmsTypings

structure Conversion where
  filter : IgnoreFilter
  roster : Roster

namespace Conversion

def ofDump (dump : Dump) (settings : Settings) : Conversion :=
  let filter := IgnoreFilter.ofRules settings.idsToIgnore
  ⟨filter, .ofDump filter settings.alwaysSuffixComponentNames dump⟩

def context (c : Conversion) : Context := ⟨c.roster.entries, c.filter⟩

/-- One answer per entry of the roster. -/
def assembled (c : Conversion) : List (Option Interface) :=
  c.roster.entries.map (Interface.ofEntry c.context)

def interfaces (c : Conversion) : List Interface := c.assembled.filterMap id

def code (c : Conversion) : String := DeclarationModule.render (c.interfaces.map Interface.block)

def count (c : Conversion) (origin : Origin) : Nat :=
  (c.interfaces.filter fun i => i.origin = origin).length

/-- The uids that the roster left out, then those whose entry is empty. -/
def skipped (c : Conversion) : List String :=
  c.roster.skipped ++ (c.roster.entries.filter fun e => e.schema.isNone).map (·.uid)

/-- What a conversion notes, in the order of its steps. -/
def notes (c : Conversion) : List Log.Note :=
  c.filter.notes ++ c.roster.notes ++
    c.roster.entries.flatMap (Interface.notesOfEntry c.context) ++
    c.interfaces.flatMap Interface.dependencyNotes ++
    [⟨.info, ["codegen"],
      "Generated " ++ toString (c.count .contentType) ++ " content types and " ++
        toString (c.count .component) ++ " components (" ++ toString c.skipped.length ++
        " skipped)"⟩]

end Conversion

end CmsTypings

import CmsTypings.Ignore
import CmsTypings.Naming.Pool
import CmsTypings.Schema.Dump

/-!
The roster: the schemas that will be declared, each under its final name.

The entries of both registries are judged one after the other, content types first. An entry is
ignored, or it is left without a name, or it is enrolled; the roster is complete before any
reference is resolved.
-/

namespace CmsTypings

/-- The singular name of the upload plugin's content type, and the name it is converted under. -/
def uploadName : String := "file"

def mediaName : String := "media"

/-- The part of a uid that names the schema: `category` in `api::category.category`. -/
def uidTail (uid : String) : String :=
  match (uid.toList.dropWhile (· ≠ '.')) with
  | [] => uid
  | _ :: rest => String.ofList (rest.takeWhile (· ≠ '.'))

/-- An enrolled schema. The schema is absent when its entry in the registry is empty. -/
structure Entry where
  uid : String
  sourceName : String
  name : String
  origin : Origin
  suffixed : Bool
  schema : Option Schema

instance : Inhabited Entry := ⟨"", "", "", .contentType, false, none⟩

/-- An entry of a registry before it is judged. -/
structure Candidate where
  origin : Origin
  uid : String
  schema : Option Schema

namespace Candidate

/-- The name that a content type or a component states for itself. -/
def statedName (c : Candidate) : Option String :=
  match c.origin, c.schema with
  | _, none => none
  | .contentType, some s => s.singularName <|> s.displayName
  | .component, some s => s.displayName

/-- The name that the declaration's name is made of. -/
def sourceName (c : Candidate) : String :=
  let name := c.statedName.getD (uidTail c.uid)
  if c.origin = .contentType ∧ name = uploadName then mediaName else name

def request (c : Candidate) : Naming.Request := ⟨c.sourceName, c.origin⟩

def enrolled (c : Candidate) (claim : Naming.Claim) : Entry :=
  ⟨c.uid, c.sourceName, claim.name, c.origin, claim.suffixed, c.schema⟩

end Candidate

/-- The registry of one origin. -/
def Dump.registry (d : Dump) : Origin → Registry
  | .contentType => d.contentTypes
  | .component => d.components

/-- The candidates of a dump: content types, then components, each in the order of its registry. -/
def Dump.candidates (d : Dump) : List Candidate :=
  d.contentTypes.entries.map (fun e => ⟨.contentType, e.1, e.2⟩) ++
    d.components.entries.map (fun e => ⟨.component, e.1, e.2⟩)

/-- What becomes of a candidate. -/
inductive Verdict where
  | ignored
  | nameless
  | enrolled (entry : Entry)

/-- Judges candidates in their order. -/
def judge (ignored : String → Bool) (pool : Naming.Pool) :
    List Candidate → List (Candidate × Verdict)
  | [] => []
  | c :: rest =>
    if ignored c.uid then (c, .ignored) :: judge ignored pool rest
    else
      match pool.claim? c.request with
      | none => (c, .nameless) :: judge ignored pool rest
      | some claim =>
        (c, .enrolled (c.enrolled claim)) :: judge ignored (pool.take claim.name) rest

structure Roster where
  judged : List (Candidate × Verdict)

namespace Roster

def ofDump (filter : IgnoreFilter) (alwaysSuffix : Bool) (dump : Dump) : Roster :=
  ⟨judge filter.skips (.fresh alwaysSuffix) dump.candidates⟩

def entries (r : Roster) : List Entry :=
  r.judged.filterMap fun j =>
    match j.2 with
    | .enrolled entry => some entry
    | _ => none

/-- The uids that were not enrolled. -/
def skipped (r : Roster) : List String :=
  r.judged.filterMap fun j =>
    match j.2 with
    | .enrolled _ => none
    | _ => some j.1.uid

def label : Origin → String
  | .contentType => "contentType"
  | .component => "component"

def note (candidate : Candidate) (verdict : Verdict) : Log.Note :=
  let what := label candidate.origin ++ " " ++ candidate.uid
  match verdict with
  | .ignored => ⟨.debug, ["codegen", "collect"], "Skipping " ++ what⟩
  | .nameless =>
    ⟨.warn, ["codegen", "collect"], "Skipping " ++ what ++
      ": no unique declaration name left for '" ++ candidate.sourceName ++ "'"⟩
  | .enrolled entry =>
    ⟨.debug, ["codegen", "collect"], "Converting " ++ what ++ " as " ++ entry.name⟩

def notes (r : Roster) : List Log.Note := r.judged.map fun j => note j.1 j.2

end Roster

end CmsTypings

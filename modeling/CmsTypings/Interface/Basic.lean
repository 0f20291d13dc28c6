import CmsTypings.Interface.Member

/-!
Interfaces: one per enrolled schema.

The properties are those every content type has, those of the attributes in their order, and those
that localization adds. Enumerations and dependencies are listed once each, in the order in which
they first come up.
-/

namespace CmsTypings

structure Interface where
  uid : String
  name : String
  origin : Origin
  properties : List Property
  enums : List EnumBlock
  dependencies : List String
deriving DecidableEq, Repr

namespace Interface

def identityProperties : Origin → List Property
  | .contentType => [⟨"id", true, "number"⟩, ⟨"documentId", true, "string"⟩]
  | .component => []

def localeProperties (name : String) (localized : Bool) : List Property :=
  if localized then [⟨"locale", false, "string"⟩, ⟨"localizations", true, name ++ "[]"⟩] else []

/-- The members that the attributes of a schema become. -/
def members (ctx : Context) (entry : Entry) (schema : Schema) : List Member :=
  schema.attributes.entries.filterMap fun a => (Member.ofAttribute ctx entry a.1 a.2).toOption

def ofSchema (ctx : Context) (entry : Entry) (schema : Schema) : Interface :=
  let ms := members ctx entry schema
  { uid := entry.uid
    name := entry.name
    origin := entry.origin
    properties := identityProperties entry.origin ++ ms.map (·.property) ++
      localeProperties entry.name schema.localized
    enums := (ms.filterMap (·.enum)).eraseDups
    dependencies := (ms.filterMap (·.dependency)).eraseDups }

/-- The interface of an entry; an empty entry has none. -/
def ofEntry (ctx : Context) (entry : Entry) : Option Interface :=
  entry.schema.map (ofSchema ctx entry)

def header (name : String) : String :=
  "export interface " ++ name ++ "<P extends boolean = true> \x7b\n"

/-- The text of the interface. -/
def body (i : Interface) : String :=
  header i.name ++ String.join (i.properties.map Property.line) ++ "\x7d\n"

def notesOfEntry (ctx : Context) (entry : Entry) : List Log.Note :=
  match entry.schema with
  | none =>
    [⟨.debug, ["codegen", "interface"],
      "Schema " ++ entry.sourceName ++ " is empty. Skipping conversion."⟩]
  | some schema => schema.attributes.entries.flatMap fun a => Member.notes ctx entry a.1 a.2

def dependencyNotes (i : Interface) : List Log.Note :=
  if i.dependencies.isEmpty then []
  else [⟨.debug, ["codegen"], i.name ++ " depends on " ++ ", ".intercalate i.dependencies⟩]

end Interface

end CmsTypings

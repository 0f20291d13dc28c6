import CmsTypings.Roster

/-!
References between schemas, resolved to declaration names.

A uid means the latest entry that bears it. An entry without a schema is not declared, so nothing
resolves to it. A component may also be referred to by its bare name, which is the name it would
have without its suffix.
-/

namespace CmsTypings.Naming

/-- The latest entry with a uid. -/
def latest? (entries : List Entry) (uid : String) : Option Entry :=
  (entries.filter fun e => e.uid == uid).getLast?

/-- The declared entry that a uid means. -/
def declared? (entries : List Entry) (uid : String) : Option Entry :=
  (latest? entries uid).filter fun e => e.schema.isSome

/-- The name that a relation to a uid refers to. -/
def relationName? (entries : List Entry) (uid : String) : Option String :=
  (declared? entries uid).map (·.name)

/-- Whether an entry is a component of the given bare name. -/
def bearsName (name : String) (e : Entry) : Bool :=
  e.origin = .component && e.name == if e.suffixed then name ++ componentSuffix else name

/-- The first component of a bare name. -/
def componentNamed? (entries : List Entry) (name : String) : Option Entry :=
  entries.find? (bearsName name)

/-- Whether a reference to a component is a uid. -/
def isUid (reference : String) : Bool := reference.toList.contains '.'

/-- The entry that a reference to a component means. -/
def component? (entries : List Entry) (reference : String) : Option Entry :=
  if isUid reference then
    (declared? entries reference).filter fun e => e.origin = .component
  else
    (componentNamed? entries (Text.pascalCase reference)).filter fun e => e.schema.isSome

def componentName? (entries : List Entry) (reference : String) : Option String :=
  (component? entries reference).map (·.name)

/-- Whether an entry is a declared content type under the name of media. -/
def isMedia (e : Entry) : Bool :=
  e.origin = .contentType && e.sourceName == mediaName && e.schema.isSome

/-- The name that media attributes refer to. -/
def mediaTypeName? (entries : List Entry) : Option String :=
  (entries.find? isMedia).map (·.name)

end CmsTypings.Naming

import CmsTypings.Schema.Attribute

/-!
Schemas and the two registries that hold them.

A registry maps the uid of an entry to its schema. An entry may be empty: it is then reported and
skipped, and does not spoil the rest.
-/

namespace CmsTypings

/-- A content type or a component. -/
structure Schema where
  uid : Option String := none
  singularName : Option String := none
  displayName : Option String := none
  attributes : OrderedMap Attribute := .empty
  localized : Bool := false

instance : Inhabited Schema := ⟨⟨none, none, none, .empty, false⟩⟩

abbrev Registry := OrderedMap (Option Schema)

/-- Both registries of a content management system. -/
structure Dump where
  contentTypes : Registry := .empty
  components : Registry := .empty

instance : Inhabited Dump := ⟨⟨.empty, .empty⟩⟩

end CmsTypings

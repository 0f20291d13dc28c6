import CmsTypings.Failure
import CmsTypings.Json.Reader
import CmsTypings.Schema.Dump
import CmsTypings.Text.Blank

/-!
Schemas out of JSON.

Each type is described once; the description serves the text of a dump and a dump that is already
a value. Members that are not described are passed over.
-/

namespace CmsTypings

open Json Json.Reader

namespace Schema

def attributeReader : Reader Attribute :=
  (record "RawAttribute" ({} : AttributeFields)
    [field "type" string fun v f => { f with type := v },
     field "relation" (option string) fun v f => { f with relation := v },
     field "target" (option string) fun v f => { f with target := v },
     field "component" (option string) fun v f => { f with component := v },
     field "components" (list string) fun v f => { f with components := v },
     field "repeatable" bool fun v f => { f with repeatable := v },
     field "multiple" bool fun v f => { f with multiple := v },
     field "required" bool fun v f => { f with required := v },
     field "default" value fun v f => { f with default := some v },
     field "enum" (list string) fun v f => { f with values := v }]).map
    AttributeFields.toAttribute

/-- The names of a schema: singular name and display name. -/
def infoReader : Reader (Option String × Option String) :=
  record "SchemaInfo" (none, none)
    [field "singularName" (option string) fun v i => (v, i.2),
     field "displayName" (option string) fun v i => (i.1, v)]

def localizedReader : Reader Bool :=
  record "I18nOptions" false [field "localized" bool fun v _ => v]

/-- Whether the options of the plugins make a schema localized. -/
def optionsReader : Reader Bool :=
  record "PluginOptions" false
    [field "i18n" (option localizedReader) fun v _ => v.getD false]

def reader : Reader Schema :=
  record "SchemaDescriptor" {}
    [field "uid" (option string) fun v s => { s with uid := v },
     field "info" infoReader fun v s => { s with singularName := v.1, displayName := v.2 },
     field "attributes" (orderedMap attributeReader) fun v s => { s with attributes := v },
     field "pluginOptions" optionsReader fun v s => { s with localized := v }]

end Schema

namespace Dump

def registryReader : Reader Registry := orderedMap (option Schema.reader)

def reader : Reader Dump :=
  record "SchemaInput" {}
    [field "contentTypes" registryReader fun v d => { d with contentTypes := v },
     field "components" registryReader fun v d => { d with components := v }]

/-- Reads the text of a dump. What does not begin like an object, after white space of any kind,
is no dump at all. -/
def ofText (text : String) : Except Failure Dump :=
  if (Text.trimStart text.toList).head? = some '{' then
    (readText reader text).mapError .json
  else .error .notADump

/-- Reads a dump that is already a value. -/
def ofValue (json : Json) : Except Failure Dump :=
  if json.isObject then (readValue reader json).mapError .json else .error .notADump

end Dump

end CmsTypings

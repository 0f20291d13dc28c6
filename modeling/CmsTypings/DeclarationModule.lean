import CmsTypings.Interface.Basic

/-!
The declaration module: the blocks of its schemas and the declarations that tie them together.

The module holds every enumeration, then every interface, then the helper types. Three of the
helpers list the schemas: one member per content type, one per component, and the uid of each
content type under its name.
-/

namespace CmsTypings

/-- The text of one schema: its interface and its enumerations. -/
structure Block where
  uid : String
  name : String
  origin : Origin
  body : String
  enums : List String
deriving DecidableEq, Repr

def Interface.block (i : Interface) : Block :=
  ⟨i.uid, i.name, i.origin, i.body, i.enums.map EnumBlock.render⟩

namespace DeclarationModule

def opening : String :=
  "// Generated from the CMS schemas - DO NOT EDIT\n" ++
  "//\n" ++
  "// Regenerate with `schemas-to-ts` after changing a content type or component.\n"

def mediaFormat : String :=
  "export interface MediaFormat \x7b\n" ++
  "  name: string;\n" ++
  "  hash: string;\n" ++
  "  ext: string;\n" ++
  "  mime: string;\n" ++
  "  width: number;\n" ++
  "  height: number;\n" ++
  "  size: number;\n" ++
  "  path: string;\n" ++
  "  url: string;\n" ++
  "\x7d\n"

def contentTypeAlias : String :=
  "export type ContentType<T extends keyof ContentTypes, P extends boolean = true> = " ++
  "ContentTypes<P>[T];\n"

/-- A sort key of the request helper: a field in one direction. -/
def sortKey (direction : String) : String :=
  "`$\x7bstring & keyof ContentType<T, false>\x7d:" ++ direction ++ "`"

def requestHelpers : String :=
  "export interface APIResponseMany<T extends keyof ContentTypes> \x7b\n" ++
  "  data: ContentType<T>[];\n" ++
  "  meta: \x7b\n" ++
  "    pagination: \x7b\n" ++
  "      page: number;\n" ++
  "      pageSize: number;\n" ++
  "      pageCount: number;\n" ++
  "      total: number;\n" ++
  "    \x7d;\n" ++
  "  \x7d;\n" ++
  "\x7d\n" ++
  "\n" ++
  "export interface APIResponseSingle<T extends keyof ContentTypes> \x7b\n" ++
  "  data: ContentType<T>;\n" ++
  "\x7d\n" ++
  "\n" ++
  "export interface APIRequestParams<T extends keyof ContentTypes> \x7b\n" ++
  "  populate?: any;\n" ++
  "  fields?: (keyof ContentType<T, false>)[];\n" ++
  "  locale?: string | string[];\n" ++
  "  filters?: any;\n" ++
  "  sort?:\n" ++
  "    | " ++ sortKey "asc" ++ "\n" ++
  "    | " ++ sortKey "desc" ++ "\n" ++
  "    | (" ++ sortKey "asc" ++ " | " ++ sortKey "desc" ++ ")[];\n" ++
  "  pagination?: \x7b\n" ++
  "    page?: number;\n" ++
  "    pageSize?: number;\n" ++
  "  \x7d;\n" ++
  "\x7d\n"

/-- The names of the blocks of one origin. -/
def memberNames (blocks : List Block) (origin : Origin) : List String :=
  (blocks.filter fun b => b.origin = origin).map (·.name)

def memberLine (name : String) : String := "  " ++ name ++ ": " ++ name ++ "<P>;\n"

/-- The interface that maps names to interfaces. -/
def unionText (name : String) (members : List String) : String :=
  Interface.header name ++ String.join (members.map memberLine) ++ "\x7d\n"

/-- The name and the uid of every content type. -/
def uidEntries (blocks : List Block) : List (String × String) :=
  (blocks.filter fun b => b.origin = .contentType).map fun b => (b.name, b.uid)

def uidLine (entry : String × String) : String :=
  "  " ++ entry.1 ++ " = '" ++ Text.Literal.escape entry.2 ++ "',\n"

def uidText (entries : List (String × String)) : String :=
  EnumBlock.header "ContentTypesUID" ++ String.join (entries.map uidLine) ++ "\x7d\n"

/-- The parts of a module, in their order. -/
def sections (blocks : List Block) : List String :=
  [opening] ++ blocks.flatMap (·.enums) ++ blocks.map (·.body) ++
    [mediaFormat,
     unionText "ContentTypes" (memberNames blocks .contentType),
     unionText "Components" (memberNames blocks .component),
     uidText (uidEntries blocks),
     contentTypeAlias,
     requestHelpers]

/-- The text of the module: an empty line stands between two parts. -/
def render (blocks : List Block) : String := "\n".intercalate (sections blocks)

end DeclarationModule

end CmsTypings

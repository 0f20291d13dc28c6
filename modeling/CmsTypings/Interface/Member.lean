import CmsTypings.EnumBlock
import CmsTypings.Naming.Resolver

/-!
Attributes as members of an interface.

An attribute becomes one property, perhaps with the enumeration that its type names or the
declaration that it depends on; or it is omitted, for a stated cause. A reference is switched by
the type parameter `P` of its interface: to the target when it is populated, else to its ids.
-/

namespace CmsTypings

structure Property where
  name : String
  optional : Bool
  type : String
deriving DecidableEq, Repr

/-- The line of a property. -/
def Property.line (p : Property) : String :=
  "  " ++ p.name ++ (if p.optional then "?" else "") ++ ": " ++ p.type ++ ";\n"

structure Member where
  property : Property
  enum : Option EnumBlock := none
  dependency : Option String := none
deriving DecidableEq, Repr

/-- Why an attribute becomes no property. -/
inductive Omission where
  | password
  | noTarget
  | ignored (target : String)
  | undeclared (target : String)
  | noMediaType
deriving DecidableEq, Repr

/-- What attributes are resolved against: the roster's entries and the ignore rules. -/
structure Context where
  entries : List Entry
  filter : IgnoreFilter

namespace Member

def anyType : String := "any"

/-- The type of a reference to `target`. -/
def populated (target : String) (array : Bool) : String :=
  if array then "P extends true ? " ++ target ++ "<P>[] : number[]"
  else "P extends true ? " ++ target ++ "<P> | null : number | null"

/-- A type that is nullable unless a default is declared. -/
def nullable (type : String) (a : Attribute) : String :=
  if a.hasDefault then type else type ++ " | null"

/-- The one property that the media type has by a rule of its own. -/
def mediaFormats : Property :=
  ⟨"formats", false,
    "\x7b thumbnail: MediaFormat; small: MediaFormat; medium: MediaFormat; large: MediaFormat \x7d"⟩

def isMediaFormats (entry : Entry) (name : String) : Bool :=
  entry.origin = .contentType && entry.sourceName == mediaName && name == "formats"

/-- A component with this target stands for the user type. -/
def userUid : String := "plugin::users-permissions.user"

/-- The declaration that a reference names, unless its target is ignored or not declared. -/
def target (ctx : Context) (uid : String) (name? : Option String) : Except Omission String :=
  if ctx.filter.skips uid then .error (.ignored uid)
  else
    match name? with
    | some name => .ok name
    | none => .error (.undeclared uid)

/-- The declaration that a component attribute names. -/
def componentTarget (ctx : Context) (reference : String) (user : Option String) :
    Except Omission String :=
  if user = some userUid then target ctx userUid (Naming.relationName? ctx.entries userUid)
  else target ctx reference (Naming.componentName? ctx.entries reference)

/-- The member that an attribute of `entry` becomes. -/
def ofAttribute (ctx : Context) (entry : Entry) (name : String) (a : Attribute) :
    Except Omission Member :=
  let plain (type : String) : Except Omission Member :=
    .ok { property := ⟨name, a.isOptional, type⟩ }
  if isMediaFormats entry name then .ok { property := mediaFormats }
  else
    match a.content with
    | .relation _ none => .error .noTarget
    | .relation arity (some uid) => do
      let type ← target ctx uid (Naming.relationName? ctx.entries uid)
      return { property := ⟨name, a.isOptional, populated type (arity = .toMany)⟩,
               dependency := some type }
    | .component reference repeatable user => do
      let type ← componentTarget ctx reference user
      return { property := ⟨name, false, if repeatable then type ++ "[]" else type⟩,
               dependency := some type }
    | .dynamicZone _ => .ok { property := ⟨name, false, anyType⟩ }
    | .media multiple =>
      match Naming.mediaTypeName? ctx.entries with
      | none => .error .noMediaType
      | some type =>
        .ok { property := ⟨name, a.isOptional, populated type multiple⟩, dependency := some type }
    | .enumeration values _ =>
      let enum := enumName entry.name name
      .ok { property := ⟨name, a.isOptional, enum⟩, enum := some ⟨enum, values⟩ }
    | .password => .error .password
    | .text _ => plain "string"
    | .json => plain anyType
    | .number _ _ => plain (nullable "number" a)
    | .date _ _ => plain (nullable "string" a)
    | .boolean _ => plain "boolean"
    | .unknown _ => plain anyType

/-- What is noted on an omission, after the name of the property. -/
def omissionText : Omission → Option String
  | .password => none
  | .noTarget => some "relation without target, dropped"
  | .ignored uid => some ("target " ++ uid ++ " is ignored, dropped")
  | .undeclared uid => some ("target " ++ uid ++ " is not declared, dropped")
  | .noMediaType => some "no media type in the module, dropped"

/-- What is noted on an attribute, after the name of the property. -/
def remark (ctx : Context) (entry : Entry) (name : String) (a : Attribute) : Option String :=
  match ofAttribute ctx entry name a with
  | .error omission => omissionText omission
  | .ok _ =>
    match a.content with
    | .unknown tag =>
      if isMediaFormats entry name then none
      else some ("unknown attribute type '" ++ tag ++ "', emitted as any")
    | _ => none

def notes (ctx : Context) (entry : Entry) (name : String) (a : Attribute) : List Log.Note :=
  match remark ctx entry name a with
  | some text => [⟨.debug, ["codegen", "attributes"], entry.name ++ "." ++ name ++ ": " ++ text⟩]
  | none => []

end Member

end CmsTypings

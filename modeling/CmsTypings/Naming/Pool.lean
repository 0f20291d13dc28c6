import CmsTypings.Text.Words

/-!
The pool of declaration names.

A name is claimed for a schema and then taken for good. A content type gets its plain name. A
component gets the plain name too, or the plain name with a suffix when that is forced or the
plain name is taken. A claim whose name is taken already is refused and changes nothing.
-/

namespace CmsTypings

/-- The registry that a schema comes from. -/
inductive Origin where
  | contentType | component
deriving DecidableEq, Repr

namespace Naming

def componentSuffix : String := "Component"

/-- Names of the declarations that every module holds. -/
def reservedNames : List String :=
  ["MediaFormat", "ContentTypes", "Components", "ContentTypesUID", "ContentType",
   "APIResponseMany", "APIResponseSingle", "APIRequestParams"]

structure Pool where
  taken : List String
  alwaysSuffix : Bool
deriving DecidableEq, Repr

/-- A claimed name, and whether it carries the suffix. -/
structure Claim where
  name : String
  suffixed : Bool
deriving DecidableEq, Repr

/-- A schema that asks for a name. -/
structure Request where
  sourceName : String
  origin : Origin
deriving DecidableEq, Repr

/-- The plain name of a schema. -/
def Request.baseName (r : Request) : String := Text.pascalCase r.sourceName

namespace Pool

def fresh (alwaysSuffix : Bool) : Pool := ⟨reservedNames, alwaysSuffix⟩

def suffixes (pool : Pool) (r : Request) : Bool :=
  r.origin = .component && (pool.alwaysSuffix || pool.taken.contains r.baseName)

/-- The name that the pool chooses, whether it is free or not. -/
def choice (pool : Pool) (r : Request) : Claim :=
  if pool.suffixes r then ⟨r.baseName ++ componentSuffix, true⟩ else ⟨r.baseName, false⟩

def take (pool : Pool) (name : String) : Pool := { pool with taken := name :: pool.taken }

/-- The name granted to a schema, if one is left for it. -/
def claim? (pool : Pool) (r : Request) : Option Claim :=
  if pool.taken.contains (pool.choice r).name then none else some (pool.choice r)

/-- The pool after a claim. -/
def next (pool : Pool) (r : Request) : Pool :=
  match pool.claim? r with
  | some c => pool.take c.name
  | none => pool

/-- The answers to a row of claims. -/
def claimAll (pool : Pool) : List Request → List (Option Claim)
  | [] => []
  | r :: rest => pool.claim? r :: (pool.next r).claimAll rest

theorem next_of_refused {pool : Pool} {r : Request} (h : pool.claim? r = none) :
    pool.next r = pool := by
  simp [next, h]

end Pool

end Naming

end CmsTypings

/-!
Paths: how they are written, and how they are put together.
-/

namespace CmsTypings.Disk

/-- A path as it is written, with `/` between its names. -/
structure Path where
  text : String
deriving DecidableEq, Repr, Inhabited

namespace Path

def isAbsolute (p : Path) : Bool := p.text.toList.head? = some '/'

def endsInSlash (p : Path) : Bool := p.text.toList.getLast? = some '/'

/-- The path of `name` inside the directory `p`. -/
def join (p : Path) (name : String) : Path :=
  if p.text.isEmpty || p.endsInSlash then ⟨p.text ++ name⟩ else ⟨p.text ++ "/" ++ name⟩

/-- The pieces of a text between slashes. -/
def pieces : List Char → List (List Char)
  | [] => [[]]
  | c :: rest =>
    if c = '/' then [] :: pieces rest
    else
      match pieces rest with
      | [] => [[c]]
      | p :: ps => (c :: p) :: ps

/-- The names on a path, from the outermost inwards. -/
def names (p : Path) : List String :=
  ((pieces p.text.toList).filter fun piece => !piece.isEmpty).map String.ofList

/-- What stands behind the last dot of the last name, if anything stands before the dot. -/
def extension (p : Path) : String :=
  match p.names.getLast? with
  | none => ""
  | some name =>
    let behind := name.toList.reverse.takeWhile (· ≠ '.')
    if behind.length + 1 < name.length ∧ name ≠ ".." then String.ofList behind.reverse else ""

/-- The path up to each of its names, the whole path first. -/
def outward (p : Path) : List Path :=
  let start := if p.isAbsolute then "/" else ""
  let names := p.names
  (List.range names.length).reverse.map fun n =>
    ⟨start ++ "/".intercalate (names.take (n + 1))⟩

/-- The path with a further extension at its last name. -/
def withExtension (p : Path) (extension : String) : Path :=
  let name := (p.text.toList.reverse.dropWhile (· = '/')).reverse
  ⟨String.ofList name ++ "." ++ extension⟩

end Path

end CmsTypings.Disk
